import Testbed.Proofs.CapturedLines

/-!
# Sections that are written back

What was captured of a saved configuration can be saved again: the lines of every section, and a
terminator behind those that had one. All that stood between the sections is gone then and every
section has moved, and still the same sections are found.

The reason is the form of what is found. A section begins with a line of its kind, none of its lines
is a terminator, and only the last section can lack one. Sections of this form are told apart
wherever they stand one behind the other.

Results:
1. `sectionsOf_writtenLines`: sections of this form are found again.
2. `regular_sectionsOf`: whatever is found is of this form.
3. `sections_written_back`: the above for all lines and all texts, with the directives that replay
   them.
-/

namespace Testbed.Saved

open Testbed.Text Testbed.Vtysh

/-! ## Definitions -/

/-- A section as lines of a saved configuration. -/
def Section.written (part : Section) : List String :=
  part.lines ++ if part.terminated then ["!"] else []

def writtenLines (parts : List Section) : List String := parts.flatMap Section.written

def writtenText (parts : List Section) : String := joinLines (writtenLines parts)

/-- A section begins with a line of its kind and holds no terminator. -/
structure Section.WellFormed (kinds : List Kind) (part : Section) : Prop where
  opens : Kind.ofLine? kinds part.opening = some part.kind
  unclosed : ∀ line ∈ part.body, isTerminator line = false

/-- Sections as they follow each other in a saved configuration: only the last one can lack a
terminator. -/
inductive Regular (kinds : List Kind) : List Section → Prop
  | nil : Regular kinds []
  | unterminated {part : Section} :
      part.WellFormed kinds → part.terminated = false → Regular kinds [part]
  | terminated {part : Section} {later : List Section} :
      part.WellFormed kinds → part.terminated = true → Regular kinds later →
      Regular kinds (part :: later)

/-! ## Sections that are found again -/

theorem isTerminator_mark : isTerminator "!" = true := by
  decide +kernel

theorem Section.WellFormed.continues {kinds : List Kind} {part : Section}
    (wellFormed : part.WellFormed kinds) : ∀ line ∈ part.body, continues line = true := by
  intro line inBody
  rw [Section.continues, wellFormed.unclosed line inBody]
  rfl

/-- What follows a terminated section starts behind its terminator. -/
theorem sectionsOf_written_append {kinds : List Kind} {part : Section}
    (wellFormed : part.WellFormed kinds) (closed : part.terminated = true) (later : List String) :
    sectionsOf kinds (part.written ++ later) = part :: sectionsOf kinds later := by
  have lines : part.written ++ later = part.opening :: (part.body ++ "!" :: later) := by
    simp [Section.written, Section.lines, closed]
  have ended : Section.continues "!" = false := by
    rw [Section.continues, isTerminator_mark]
    rfl
  have own : (part.body ++ "!" :: later).takeWhile Section.continues = part.body := by
    rw [List.takeWhile_append_of_pos wellFormed.continues,
      List.takeWhile_cons_of_neg (by simp [ended]), List.append_nil]
  have behind : (part.body ++ "!" :: later).dropWhile Section.continues = "!" :: later := by
    rw [List.dropWhile_append_of_pos wellFormed.continues,
      List.dropWhile_cons_of_neg (by simp [ended])]
  rw [lines, sectionsOf_cons_of_some wellFormed.opens, Section.opened, own, behind, List.tail_cons]
  cases part
  cases closed
  rfl

/-- An unterminated section takes all lines that are left. -/
theorem sectionsOf_written_of_open {kinds : List Kind} {part : Section}
    (wellFormed : part.WellFormed kinds) (open_ : part.terminated = false) :
    sectionsOf kinds part.written = [part] := by
  have lines : part.written = part.opening :: part.body := by
    simp [Section.written, Section.lines, open_]
  have behind : part.body.dropWhile Section.continues = [] :=
    List.dropWhile_eq_nil_iff.mpr wellFormed.continues
  rw [lines, sectionsOf_cons_of_some wellFormed.opens, Section.opened, takeWhile_of_open behind,
    behind, List.tail_nil, sectionsOf_nil]
  cases part
  cases open_
  rfl

theorem sectionsOf_writtenLines {kinds : List Kind} {parts : List Section}
    (regular : Regular kinds parts) : sectionsOf kinds (writtenLines parts) = parts := by
  induction regular with
  | nil => exact sectionsOf_nil kinds
  | @unterminated part wellFormed open_ =>
    rw [writtenLines, List.flatMap_singleton]
    exact sectionsOf_written_of_open wellFormed open_
  | @terminated part later wellFormed closed _ ih =>
    have lines : writtenLines (part :: later) = part.written ++ writtenLines later :=
      List.flatMap_cons
    rw [lines, sectionsOf_written_append wellFormed closed, ih]

/-! ## The form of what is found -/

theorem Found.wellFormed {kinds : List Kind} {passed behind : List String} {part : Section}
    (found : Found kinds passed part behind) : part.WellFormed kinds :=
  ⟨found.opens, fun line inBody => found.unclosed line (.tail _ inBody)⟩

theorem drop_extent_of_open {kinds : List Kind} {lines : List String} {skipped : Nat}
    {part : Section} (found : first? kinds lines = some (skipped, part))
    (open_ : part.terminated = false) : lines.drop (skipped + part.extent) = [] := by
  obtain ⟨passed, behind, isLines, isLength, spec⟩ := first?_spec found
  have nothing : behind = [] := by
    have isEmpty := spec.terminated_eq
    rw [open_] at isEmpty
    exact List.isEmpty_iff.mp (by simpa using isEmpty.symm)
  rw [isLines, nothing, ← isLength, List.append_nil, Section.extent, open_]
  exact List.drop_of_length_le (by simp)

theorem regular_sectionsOf (kinds : List Kind) (lines : List String) :
    Regular kinds (sectionsOf kinds lines) := by
  fun_induction sectionsOf kinds lines with
  | case1 lines absent => exact .nil
  | case2 lines skipped part found ih =>
    obtain ⟨passed, behind, -, -, spec⟩ := first?_spec found
    cases closed : part.terminated with
    | true => exact .terminated spec.wellFormed closed ih
    | false =>
      rw [drop_extent_of_open found closed, sectionsOf_nil]
      exact .unterminated spec.wellFormed closed

/-! ## Texts -/

theorem mem_of_mem_sectionsOf {kinds : List Kind} {lines : List String} {part : Section}
    (isPart : part ∈ sectionsOf kinds lines) {line : String} (isOwn : line ∈ part.lines) :
    line ∈ lines := by
  fun_induction sectionsOf kinds lines with
  | case1 lines absent => cases isPart
  | case2 lines skipped first found ih =>
    rcases List.mem_cons.mp isPart with rfl | isLater
    · obtain ⟨passed, behind, isLines, -⟩ := first?_spec found
      rw [isLines]
      exact List.mem_append_right _ (List.mem_append_left _ isOwn)
    · exact List.mem_of_mem_drop (ih isLater)

theorem lines_writtenText {parts : List Section}
    (whole : ∀ part ∈ parts, ∀ line ∈ part.lines, IsWhole line) :
    Text.lines (writtenText parts) = writtenLines parts := by
  refine lines_joinLines fun line isLine => ?_
  obtain ⟨part, isPart, inPart⟩ := List.mem_flatMap.mp isLine
  rcases List.mem_append.mp inPart with isOwn | isMark
  · exact whole part isPart line isOwn
  · split at isMark
    · rw [List.mem_singleton.mp isMark]
      decide
    · cases isMark

/-- Sections of a text hold no line feed, so only a carriage return at the end of a line can be
lost. -/
theorem isWhole_of_mem_sections {kinds : List Kind} {text : String}
    (noReturn : ∀ part ∈ sections kinds text, ∀ line ∈ part.lines,
      line.toList.getLast? ≠ some '\r') :
    ∀ part ∈ sections kinds text, ∀ line ∈ part.lines, IsWhole line := by
  intro part isPart line isOwn
  refine ⟨?_, noReturn part isPart line isOwn⟩
  obtain ⟨chars, isLine, rfl⟩ := List.mem_map.mp (mem_of_mem_sectionsOf isPart isOwn)
  rw [String.toList_ofList]
  exact not_mem_of_mem_splitLines isLine

/-- Sections that were found are written one behind the other, with a terminator behind those that
had one. Whoever asks for the sections of these lines gets the same ones in the same order. This
holds of the text too that is made of these lines, if no line contains a line feed or ends with a
carriage return, so what was extracted from a saved configuration is replayed alike when it is
saved and loaded again. -/
theorem sections_written_back (kinds : List Kind) :
    (∀ lines : List String,
      let parts := sectionsFrom kinds lines 0
      sectionsFrom kinds (writtenLines parts) 0 = parts ∧
      (∀ requests,
        answers kinds lines requests 0 = (List.range requests).map (parts[·]?) ∧
        answers kinds (writtenLines parts) requests 0 = (List.range requests).map (parts[·]?)) ∧
      ((∀ part ∈ parts, ∀ line ∈ part.lines,
          '\n' ∉ line.toList ∧ line.toList.getLast? ≠ some '\r') →
        sections kinds (writtenText parts) = parts ∧
        directives kinds (writtenText parts) = parts.flatMap Section.directives)) ∧
    ∀ text : String,
      (∀ part ∈ sections kinds text, ∀ line ∈ part.lines, line.toList.getLast? ≠ some '\r') →
      sections kinds (writtenText (sections kinds text)) = sections kinds text ∧
      directives kinds (writtenText (sections kinds text)) = directives kinds text := by
  have again (lines : List String) :
      sectionsOf kinds (writtenLines (sectionsOf kinds lines)) = sectionsOf kinds lines :=
    sectionsOf_writtenLines (regular_sectionsOf kinds lines)
  have saved (lines : List String)
      (whole : ∀ part ∈ sectionsOf kinds lines, ∀ line ∈ part.lines, IsWhole line) :
      sections kinds (writtenText (sectionsOf kinds lines)) = sectionsOf kinds lines := by
    rw [sections, lines_writtenText whole, again]
  refine ⟨fun lines => ⟨again lines, fun requests => ?_, fun whole => ?_⟩, fun text noReturn => ?_⟩
  · have found := answers_eq kinds (writtenLines (sectionsOf kinds lines)) requests 0
    rw [sectionsFrom, List.drop_zero, again] at found
    exact ⟨answers_eq kinds lines requests 0, found⟩
  · have same := saved lines whole
    exact ⟨same, congrArg (List.flatMap Section.directives) same⟩
  · have same := saved (Text.lines text) (isWhole_of_mem_sections noReturn)
    exact ⟨same, congrArg (List.flatMap Section.directives) same⟩

/-- A configuration with lines between its sections, a line that opens a section inside another one,
and an interface that the end of the file leaves open. -/
def crowdedText : String :=
  "log file x\r\nrouter ospf\r\n network 4.0.0.0/8 area 0\ninterface seat\n \t! \nline vty\n!\n" ++
    "interface losa\n ip address 4.101.0.2/24"

/-- What is written back has plain terminators and plain line ends, and is replayed alike. The same
lines are found in a list of lines. -/
theorem sections_written_back_crowdedText :
    let kinds : List Kind := [.ospf, .interface]
    let saved := "router ospf\n network 4.0.0.0/8 area 0\ninterface seat\n!\n" ++
      "interface losa\n ip address 4.101.0.2/24\n"
    (∀ part ∈ sections kinds crowdedText, ∀ line ∈ part.lines,
      '\n' ∉ line.toList ∧ line.toList.getLast? ≠ some '\r') ∧
    writtenText (sections kinds crowdedText) = saved ∧
    sections kinds saved = sectionsFrom kinds (Text.lines crowdedText) 0 ∧
    directives kinds saved = directives kinds crowdedText := by
  intro kinds saved
  have whole : ∀ part ∈ sections kinds crowdedText, ∀ line ∈ part.lines,
      '\n' ∉ line.toList ∧ line.toList.getLast? ≠ some '\r' := by
    decide +kernel
  have isSaved : writtenText (sections kinds crowdedText) = saved := by
    decide +kernel
  have fromLines := (sections_written_back kinds).1 (Text.lines crowdedText)
  have fromText := (sections_written_back kinds).2 crowdedText fun part isPart line isOwn =>
    (whole part isPart line isOwn).2
  rw [isSaved] at fromText
  refine ⟨whole, isSaved, ?_, fromText.2⟩
  exact isSaved ▸ (fromLines.2.2 whole).1

/-- A second carriage return in front of a line end belongs to the line, and is lost when the line
is written. -/
example :
    let parts := sections [.ospf] "router ospf\r\r\n!\n"
    parts = [⟨.ospf, "router ospf\r", [], true⟩] ∧
      sections [.ospf] (writtenText parts) = [⟨.ospf, "router ospf", [], true⟩] := by
  decide +kernel

end Testbed.Saved
