import Testbed.Proofs.Blocks

/-!
# Saved configurations one behind the other

What is replayed of two texts that are written one behind the other. If the first text ends where a
line ends, the lines of both are those of each, so only a section can reach from one text into the
other. One that the first text leaves open takes the lines of the second up to the first terminator,
and what stands behind this is read as a text of its own. If the first text leaves no section open,
each is read as a text of its own.

Results:
1. `splitLines_append`, `lines_dropLines`: lines of texts that are put together, and of what is left
   behind some lines.
2. `sectionsOf_append`: the sections on both sides of the seam.
3. `directives_append`: the directives that replay both.
-/

namespace Testbed.Text

/-! ## Lines and line ends -/

def behindLine (text : List Char) : List Char := (text.dropWhile (· != '\n')).tail

def behindLines : Nat → List Char → List Char
  | 0, text => text
  | count + 1, text => behindLines count (behindLine text)

def dropLines (count : Nat) (text : String) : String :=
  String.ofList (behindLines count text.toList)

theorem splitLines_ne_nil {text : List Char} (nonempty : text ≠ []) : splitLines text ≠ [] := by
  fun_cases splitLines text with
  | case1 => exact absurd rfl nonempty
  | case2 | case3 | case4 | case5 => exact List.cons_ne_nil _ _

theorem splitLines_append {front : List Char} (ended : ∀ c, front.getLast? = some c → c = '\n')
    (back : List Char) : splitLines (front ++ back) = splitLines front ++ splitLines back := by
  have endedBehind : ∀ {c rest}, (∀ d, (c :: rest).getLast? = some d → d = '\n') →
      ∀ d, rest.getLast? = some d → d = '\n' := by
    intro c rest ended d isLast
    exact ended d (by rw [List.getLast?_cons, isLast, Option.getD_some])
  have nonemptyBehind : ∀ {c rest}, (∀ d, (c :: rest).getLast? = some d → d = '\n') →
      c ≠ '\n' → rest ≠ [] := by
    rintro c rest ended noLineFeed rfl
    exact noLineFeed (ended c rfl)
  fun_induction splitLines front with
  | case1 => rfl
  | case2 rest ih =>
    rw [List.cons_append, splitLines_line_feed, ih (endedBehind ended)]
    rfl
  | case3 rest ih =>
    rw [List.cons_append, List.cons_append, splitLines_return_line_feed,
      ih (endedBehind (endedBehind ended))]
    rfl
  | case4 c rest noLineFeed noLineEnd isLast ih =>
    exact absurd isLast (splitLines_ne_nil (nonemptyBehind ended noLineFeed))
  | case5 c rest noLineFeed noLineEnd first later cut ih =>
    obtain ⟨d, tail, rfl⟩ := List.exists_cons_of_ne_nil (nonemptyBehind ended noLineFeed)
    have noReturn : c = '\r' → (d :: tail ++ back).head? ≠ some '\n' := by
      rintro rfl isLineFeed
      exact noLineEnd tail rfl (by simpa using isLineFeed)
    rw [List.cons_append, splitLines_cons noLineFeed noReturn, ih (endedBehind ended), cut]
    rfl

theorem splitLines_behindLine (text : List Char) :
    splitLines (behindLine text) = (splitLines text).tail := by
  fun_induction splitLines text with
  | case1 => rfl
  | case2 rest ih => rfl
  | case3 rest ih => rfl
  | case4 c rest noLineFeed noLineEnd isLast ih =>
    have skip : behindLine (c :: rest) = behindLine rest := by
      rw [behindLine, List.dropWhile_cons_of_pos (by simpa using noLineFeed), behindLine]
    rw [skip, ih, isLast]
    rfl
  | case5 c rest noLineFeed noLineEnd first later cut ih =>
    have skip : behindLine (c :: rest) = behindLine rest := by
      rw [behindLine, List.dropWhile_cons_of_pos (by simpa using noLineFeed), behindLine]
    rw [skip, ih, cut]
    rfl

theorem lines_append {front : String} (ended : ∀ c, front.toList.getLast? = some c → c = '\n')
    (back : String) : lines (front ++ back) = lines front ++ lines back := by
  rw [lines, String.toList_append, splitLines_append ended, List.map_append]
  rfl

theorem lines_dropLines (count : Nat) (text : String) :
    lines (dropLines count text) = (lines text).drop count := by
  have behind : ∀ text, splitLines (behindLines count text) = (splitLines text).drop count := by
    induction count with
    | zero => exact fun text => rfl
    | succ count ih =>
      intro text
      rw [behindLines, ih, splitLines_behindLine, List.drop_tail]
  rw [lines, dropLines, String.toList_ofList, behind, List.map_drop]
  rfl

end Testbed.Text

namespace Testbed.Saved

open Testbed.Vtysh

/-! ## Sections at a seam -/

/-- A section that goes on in the lines that follow. -/
def Section.extended (part : Section) (following : List String) : Section :=
  { part with
    body := part.body ++ following.takeWhile continues
    terminated := !(following.dropWhile continues).isEmpty }

/-- A section that its own lines do not close goes on in the lines behind them. -/
theorem Section.opened_append_of_open (kind : Kind) (opening : String) {own : List String}
    (open_ : own.dropWhile continues = []) (following : List String) :
    opened kind opening (own ++ following) = (opened kind opening own).extended following := by
  simp [opened, extended, List.takeWhile_append, List.dropWhile_append, open_,
    takeWhile_of_open open_]

/-- A section that its own lines close is not touched by those behind them. -/
theorem Section.opened_append_of_closed (kind : Kind) (opening : String)
    {own later : List String} {terminator : String}
    (closed : own.dropWhile continues = terminator :: later) (following : List String) :
    opened kind opening (own ++ following) = opened kind opening own := by
  have shorter : (own.takeWhile continues).length ≠ own.length := by
    have both := congrArg List.length (own.takeWhile_append_dropWhile (p := continues))
    rw [closed, List.length_append, List.length_cons] at both
    omega
  simp [opened, List.takeWhile_append, List.dropWhile_append, closed, shorter]

/-- At the end of lines either no section is open, and the lines that follow are read on their own,
or the last section is, and it goes on up to the first terminator. -/
theorem sectionsOf_append (kinds : List Kind) (front back : List String) :
    (∀ part ∈ (sectionsOf kinds front).getLast?, part.terminated = true) ∧
      sectionsOf kinds (front ++ back) = sectionsOf kinds front ++ sectionsOf kinds back ∨
    ∃ earlier part, sectionsOf kinds front = earlier ++ [part] ∧ part.terminated = false ∧
      sectionsOf kinds (front ++ back) =
        earlier ++ part.extended back ::
          sectionsOf kinds (back.dropWhile Section.continues).tail := by
  cases front with
  | nil => exact .inl ⟨by simp, by simp⟩
  | cons line rest =>
    cases found : Kind.ofLine? kinds line with
    | none =>
      rw [List.cons_append, sectionsOf_cons_of_none found, sectionsOf_cons_of_none found]
      exact sectionsOf_append kinds rest back
    | some kind =>
      rw [List.cons_append, sectionsOf_cons_of_some found, sectionsOf_cons_of_some found]
      cases behind : rest.dropWhile Section.continues with
      | nil =>
        refine .inr ⟨[], .opened kind line rest, ?_, ?_, ?_⟩
        · rw [List.tail_nil, sectionsOf_nil, List.nil_append]
        · simp [Section.opened, behind]
        · rw [Section.opened_append_of_open kind line behind, List.dropWhile_append, behind]
          rfl
      | cons terminator later =>
        have shorter := length_lt_of_closed behind
        have moved : ((rest ++ back).dropWhile Section.continues).tail = later ++ back := by
          rw [List.dropWhile_append, behind]
          rfl
        rw [Section.opened_append_of_closed kind line behind, moved, List.tail_cons]
        rcases sectionsOf_append kinds later back with
          ⟨closed, same⟩ | ⟨earlier, part, isFront, open_, same⟩
        · refine .inl ⟨?_, ?_⟩
          · intro last isLast
            rw [List.getLast?_cons, Option.mem_some_iff] at isLast
            cases ending : (sectionsOf kinds later).getLast? with
            | none =>
              rw [ending, Option.getD_none] at isLast
              rw [← isLast]
              simp [Section.opened, behind]
            | some other =>
              rw [ending, Option.getD_some] at isLast
              exact closed last (by rw [ending, isLast]; rfl)
          · rw [same, List.cons_append]
        · refine .inr ⟨.opened kind line rest :: earlier, part, ?_, open_, ?_⟩
          · rw [isFront, List.cons_append]
          · rw [same, List.cons_append]
termination_by front.length

/-! ## Directives at a seam -/

theorem Section.isEmpty_dropWhile_continues (following : List String) :
    (following.dropWhile continues).isEmpty = !following.any isTerminator := by
  rw [Bool.eq_iff_iff, List.isEmpty_iff, List.dropWhile_eq_nil_iff]
  simp [continues]

/-- What an open section adds when it goes on: the lines up to the first terminator, and the return
to the enclosing level if there is one. -/
theorem Section.directives_extended {part : Section} (open_ : part.terminated = false)
    (following : List String) :
    (part.extended following).directives =
      part.directives ++ ((following.takeWhile continues).map Directive.line ++
        if following.any isTerminator = true ∧ part.kind ≠ .staticRoute then [Directive.exit]
        else []) := by
  have ownLines : part.directives = part.lines.map Directive.line := by
    rw [directives_eq, open_, if_neg (by simp), List.append_nil]
  have allLines : (part.extended following).lines =
      part.lines ++ following.takeWhile continues := rfl
  have closes : (part.extended following).terminated = following.any isTerminator := by
    rw [extended, isEmpty_dropWhile_continues, Bool.not_not]
  rw [directives_eq, allLines, closes, List.map_append, ownLines, List.append_assoc]
  rfl

/-- Two texts are written one behind the other, and the first one ends where a line ends. If its
last section is closed, both are replayed on their own. Otherwise this section takes the lines of
the second text up to its first terminator, the return to the enclosing level follows if there is
one and the section is no static route, and the rest of the second text is replayed on its own. -/
theorem directives_append (kinds : List Kind) {front : String}
    (ended : ∀ c, front.toList.getLast? = some c → c = '\n') (back : String) :
    ((∀ part, (sections kinds front).getLast? = some part → part.terminated = true) →
      directives kinds (front ++ back) = directives kinds front ++ directives kinds back) ∧
    ∀ part, (sections kinds front).getLast? = some part → part.terminated = false →
      let inside := (Text.lines back).takeWhile fun line => !isTerminator line
      directives kinds (front ++ back) =
        directives kinds front ++ inside.map Directive.line ++
          (if (Text.lines back).any isTerminator = true ∧ part.kind ≠ .staticRoute then
            [Directive.exit] else []) ++
          directives kinds (Text.dropLines (inside.length + 1) back) := by
  have seam := sectionsOf_append kinds (Text.lines front) (Text.lines back)
  rw [← Text.lines_append ended] at seam
  refine ⟨fun closed => ?_, fun part isLast open_ => ?_⟩
  · rcases seam with ⟨-, same⟩ | ⟨earlier, last, isFront, open_, -⟩
    · simp only [directives, sections, same, List.flatMap_append]
    · have isLast : (sections kinds front).getLast? = some last := by
        rw [sections, isFront, List.getLast?_concat]
      rw [closed last isLast] at open_
      cases open_
  · intro inside
    rcases seam with ⟨closed, -⟩ | ⟨earlier, last, isFront, -, same⟩
    · rw [closed part isLast] at open_
      cases open_
    · have isPart : last = part := by
        rw [sections, isFront, List.getLast?_concat] at isLast
        exact Option.some.inj isLast
      subst isPart
      have rest : ((Text.lines back).dropWhile Section.continues).tail =
          Text.lines (Text.dropLines (inside.length + 1) back) := by
        rw [Text.lines_dropLines, ← List.tail_drop]
        exact congrArg List.tail (drop_length_takeWhile Section.continues _).symm
      simp only [directives, sections, same, isFront, rest, List.flatMap_append, List.flatMap_cons,
        List.flatMap_nil, List.append_nil, Section.directives_extended open_, List.append_assoc]
      rfl

/-- A text that leaves a section open, in front of one that closes it in its second line. Behind a
text that leaves none open the same lines are passed over. -/
theorem directives_append_sampleNetwork :
    let back := " network 4.0.0.0/8 area 0\r\n!\ninterface seat\n"
    directives [.interface, .ospf] ("log file x\nrouter ospf\n" ++ back) =
      [.line "router ospf", .line " network 4.0.0.0/8 area 0", .exit, .line "interface seat"] ∧
    directives [.interface, .ospf] ("router ospf\n!\n" ++ back) =
      [.line "router ospf", .exit, .line "interface seat"] := by
  intro back
  have ended {front : String} (ends : front.toList.getLast? = some '\n') :
      ∀ c, front.toList.getLast? = some c → c = '\n' :=
    fun c isLast => Option.some.inj (isLast.symm.trans ends)
  have openEnds : "log file x\nrouter ospf\n".toList.getLast? = some '\n' := by decide
  have closedEnds : "router ospf\n!\n".toList.getLast? = some '\n' := by decide
  have open_ := (directives_append [.interface, .ospf] (ended openEnds) back).2
    ⟨.ospf, "router ospf", [], false⟩ (by decide +kernel) rfl
  have closed := (directives_append [.interface, .ospf] (ended closedEnds) back).1
    (by decide +kernel)
  refine ⟨open_.trans ?_, closed.trans ?_⟩
  · decide +kernel
  · decide +kernel

end Testbed.Saved
