import Mathlib.Data.List.TakeWhile
import Testbed.Saved.Section

/-!
# Sections and blocks

A second reading of a saved configuration, without a position that moves. The terminators cut the
lines into blocks, and a block yields at most one section: the lines from the first one that opens a
section to the end of the block. Only the last block has no terminator behind it.

Results:
1. `sectionsOf_eq_blockSections`: both readings find the same sections.
2. `answers_eq`: what repeated requests for the next section return.
3. `sections_by_blocks`: the above for a text, with the directives that replay it.
-/

namespace Testbed.Saved

open Testbed.Vtysh

/-! ## Definitions -/

def isOpening (kinds : List Kind) (line : String) : Bool := (Kind.ofLine? kinds line).isSome

/-- The section of a block, if a line of the block opens one. -/
def blockSection? (kinds : List Kind) (terminated : Bool) (block : List String) : Option Section :=
  match block.dropWhile fun line => !isOpening kinds line with
  | [] => none
  | opening :: body =>
    (Kind.ofLine? kinds opening).map fun kind => ⟨kind, opening, body, terminated⟩

/-- The sections of the blocks, in order. All blocks but the last are terminated. -/
def blockSections (kinds : List Kind) (blocks : List (List String)) : List Section :=
  blocks.dropLast.filterMap (blockSection? kinds true) ++
    blocks.getLast?.toList.filterMap (blockSection? kinds false)

/-- What a number of requests for the next section return, each made where the one before it ended.
-/
def answers (kinds : List Kind) (lines : List String) : Nat → Nat → List (Option Section)
  | 0, _ => []
  | requests + 1, position =>
    (next kinds lines position).1 :: answers kinds lines requests (next kinds lines position).2

theorem closesWithExit_iff {kind : Kind} : kind.closesWithExit = true ↔ kind ≠ .staticRoute := by
  cases kind <;> decide

theorem Section.directives_eq (part : Section) :
    part.directives = part.lines.map Directive.line ++
      if part.terminated = true ∧ part.kind ≠ .staticRoute then [Directive.exit] else [] := by
  simp only [directives, Bool.and_eq_true, closesWithExit_iff]

/-! ## One line at a time -/

theorem isOpening_of_ofLine? {kinds : List Kind} {line : String} {kind : Kind}
    (found : Kind.ofLine? kinds line = some kind) : isOpening kinds line = true := by
  rw [isOpening, found]
  rfl

theorem not_isOpening_of_ofLine? {kinds : List Kind} {line : String}
    (outside : Kind.ofLine? kinds line = none) : isOpening kinds line = false := by
  rw [isOpening, outside]
  rfl

theorem ofLine?_of_isTerminator {kinds : List Kind} {line : String}
    (terminates : isTerminator line = true) : Kind.ofLine? kinds line = none := by
  cases found : Kind.ofLine? kinds line with
  | none => rfl
  | some kind =>
    have opened := (Kind.ofLine?_eq_some_iff.mp found).2
    rw [not_isTerminator_of_opens opened] at terminates
    exact absurd terminates (by decide)

theorem takeWhile_of_open {lines : List String}
    (open_ : lines.dropWhile Section.continues = []) :
    lines.takeWhile Section.continues = lines :=
  List.takeWhile_eq_self_iff.mpr (List.dropWhile_eq_nil_iff.mp open_)

theorem length_lt_of_closed {lines : List String} {terminator : String} {later : List String}
    (closed : lines.dropWhile Section.continues = terminator :: later) :
    later.length < lines.length := by
  have isSuffix := (List.dropWhile_suffix (l := lines) Section.continues).length_le
  rw [closed, List.length_cons] at isSuffix
  exact isSuffix

theorem drop_length_takeWhile (test : String → Bool) (lines : List String) :
    lines.drop (lines.takeWhile test).length = lines.dropWhile test := by
  have cut : (lines.takeWhile test ++ lines.dropWhile test).drop (lines.takeWhile test).length =
      lines.dropWhile test := List.drop_left
  rw [List.takeWhile_append_dropWhile] at cut
  exact cut

/-- Behind a section the lines continue after its terminator. -/
theorem drop_extent_opened (kind : Kind) (opening : String) (following : List String) :
    (opening :: following).drop (Section.opened kind opening following).extent =
      (following.dropWhile Section.continues).tail := by
  have cut := drop_length_takeWhile Section.continues following
  cases behind : following.dropWhile Section.continues with
  | nil =>
    rw [behind] at cut
    simpa [Section.extent, Section.lines, Section.opened, behind] using cut
  | cons terminator later =>
    rw [behind] at cut
    have step := congrArg List.tail cut
    rw [List.tail_drop] at step
    simpa [Section.extent, Section.lines, Section.opened, behind] using step

theorem sectionsOf_of_none {kinds : List Kind} {lines : List String}
    (absent : first? kinds lines = none) : sectionsOf kinds lines = [] := by
  rw [sectionsOf]
  split
  · rfl
  · rename_i found
    rw [absent] at found
    cases found

theorem sectionsOf_of_some {kinds : List Kind} {lines : List String} {skipped : Nat}
    {part : Section} (found : first? kinds lines = some (skipped, part)) :
    sectionsOf kinds lines = part :: sectionsOf kinds (lines.drop (skipped + part.extent)) := by
  rw [sectionsOf]
  split
  · rename_i absent
    rw [found] at absent
    cases absent
  · rename_i isSame
    rw [found] at isSame
    cases isSame
    rfl

@[simp] theorem sectionsOf_nil (kinds : List Kind) : sectionsOf kinds [] = [] :=
  sectionsOf_of_none rfl

/-- A line that opens a section takes everything up to the next terminator with it. -/
theorem sectionsOf_cons_of_some {kinds : List Kind} {line : String} {kind : Kind}
    (opens : Kind.ofLine? kinds line = some kind) (following : List String) :
    sectionsOf kinds (line :: following) =
      .opened kind line following ::
        sectionsOf kinds (following.dropWhile Section.continues).tail := by
  have found : first? kinds (line :: following) = some (0, .opened kind line following) := by
    simp only [first?, opens]
  rw [sectionsOf_of_some found, Nat.zero_add, drop_extent_opened]

theorem sectionsOf_cons_of_none {kinds : List Kind} {line : String}
    (outside : Kind.ofLine? kinds line = none) (following : List String) :
    sectionsOf kinds (line :: following) = sectionsOf kinds following := by
  have step : first? kinds (line :: following) =
      (first? kinds following).map fun found => (found.1 + 1, found.2) := by
    simp only [first?, outside]
  cases found : first? kinds following with
  | none =>
    rw [found] at step
    rw [sectionsOf_of_none step, sectionsOf_of_none found]
  | some first =>
    obtain ⟨skipped, part⟩ := first
    rw [found] at step
    rw [sectionsOf_of_some step, sectionsOf_of_some found, Nat.add_right_comm,
      List.drop_succ_cons]

theorem sectionsOf_eq_nil_iff {kinds : List Kind} {lines : List String} :
    sectionsOf kinds lines = [] ↔ lines.any (isOpening kinds) = false := by
  induction lines with
  | nil => simp
  | cons line rest ih =>
    cases found : Kind.ofLine? kinds line with
    | none =>
      rw [sectionsOf_cons_of_none found, ih]
      simp [not_isOpening_of_ofLine? found]
    | some kind =>
      rw [sectionsOf_cons_of_some found]
      simp [isOpening_of_ofLine? found]

/-! ## One block at a time -/

theorem blockSection?_cons_of_some {kinds : List Kind} {line : String} {kind : Kind}
    (opens : Kind.ofLine? kinds line = some kind) (terminated : Bool) (rest : List String) :
    blockSection? kinds terminated (line :: rest) = some ⟨kind, line, rest, terminated⟩ := by
  rw [blockSection?, List.dropWhile_cons_of_neg (by simp [isOpening_of_ofLine? opens])]
  simp only [opens, Option.map_some]

theorem blockSection?_cons_of_none {kinds : List Kind} {line : String}
    (outside : Kind.ofLine? kinds line = none) (terminated : Bool) (rest : List String) :
    blockSection? kinds terminated (line :: rest) = blockSection? kinds terminated rest := by
  rw [blockSection?, blockSection?,
    List.dropWhile_cons_of_pos (by simp [not_isOpening_of_ofLine? outside])]

theorem sectionsOf_of_open {kinds : List Kind} {lines : List String}
    (open_ : lines.dropWhile Section.continues = []) :
    sectionsOf kinds lines = (blockSection? kinds false lines).toList := by
  induction lines with
  | nil => rw [sectionsOf_nil]; rfl
  | cons line rest ih =>
    cases goesOn : Section.continues line with
    | false =>
      rw [List.dropWhile_cons_of_neg (by simp [goesOn])] at open_
      cases open_
    | true =>
      rw [List.dropWhile_cons_of_pos goesOn] at open_
      cases found : Kind.ofLine? kinds line with
      | none =>
        rw [sectionsOf_cons_of_none found, blockSection?_cons_of_none found]
        exact ih open_
      | some kind =>
        rw [sectionsOf_cons_of_some found, blockSection?_cons_of_some found, open_, List.tail_nil,
          sectionsOf_nil, Section.opened, takeWhile_of_open open_, open_]
        rfl

/-- The first terminator closes the first block, and the sections behind it do not depend on it. -/
theorem sectionsOf_of_closed {kinds : List Kind} {lines : List String} {terminator : String}
    {later : List String} (closed : lines.dropWhile Section.continues = terminator :: later) :
    sectionsOf kinds lines =
      (blockSection? kinds true (lines.takeWhile Section.continues)).toList ++
        sectionsOf kinds later := by
  induction lines with
  | nil => cases closed
  | cons line rest ih =>
    cases goesOn : Section.continues line with
    | false =>
      -- The block is empty: `line` is its terminator.
      rw [List.dropWhile_cons_of_neg (by simp [goesOn])] at closed
      rw [List.takeWhile_cons_of_neg (by simp [goesOn])]
      obtain ⟨rfl, rfl⟩ := List.cons.inj closed
      have terminates : isTerminator line = true := by
        simpa [Section.continues] using goesOn
      exact sectionsOf_cons_of_none (ofLine?_of_isTerminator terminates) rest
    | true =>
      rw [List.dropWhile_cons_of_pos goesOn] at closed
      rw [List.takeWhile_cons_of_pos goesOn]
      cases found : Kind.ofLine? kinds line with
      | none =>
        rw [sectionsOf_cons_of_none found, blockSection?_cons_of_none found]
        exact ih closed
      | some kind =>
        rw [sectionsOf_cons_of_some found, blockSection?_cons_of_some found, closed,
          Section.opened, closed]
        rfl

/-! ## All blocks -/

theorem blockSections_singleton (kinds : List Kind) (block : List String) :
    blockSections kinds [block] = (blockSection? kinds false block).toList := by
  cases found : blockSection? kinds false block with
  | none => simp [blockSections, found]
  | some part => simp [blockSections, found]

theorem blockSections_cons (kinds : List Kind) (block : List String) {later : List (List String)}
    (more : later ≠ []) :
    blockSections kinds (block :: later) =
      (blockSection? kinds true block).toList ++ blockSections kinds later := by
  obtain ⟨second, others, rfl⟩ := List.exists_cons_of_ne_nil more
  rw [blockSections, blockSections, List.dropLast_cons_cons, List.getLast?_cons_cons,
    List.filterMap_cons]
  cases blockSection? kinds true block with
  | none => rfl
  | some part => rfl

theorem splitOnP_of_open {lines : List String} (open_ : lines.dropWhile Section.continues = []) :
    lines.splitOnP isTerminator = [lines] := by
  refine List.splitOnP_eq_singleton fun line isLine => ?_
  simpa [Section.continues] using List.dropWhile_eq_nil_iff.mp open_ line isLine

theorem splitOnP_of_closed {lines : List String} {terminator : String} {later : List String}
    (closed : lines.dropWhile Section.continues = terminator :: later) :
    lines.splitOnP isTerminator =
      lines.takeWhile Section.continues :: later.splitOnP isTerminator := by
  have terminates : isTerminator terminator = true := by
    have isHead := List.head?_dropWhile_not Section.continues lines
    rw [closed] at isHead
    simpa [Section.continues] using isHead
  have inside : ∀ line ∈ lines.takeWhile Section.continues, isTerminator line = false := by
    intro line isLine
    simpa [Section.continues] using List.all_eq_true.mp List.all_takeWhile line isLine
  have whole := lines.takeWhile_append_dropWhile (p := Section.continues)
  rw [closed] at whole
  rw [← List.splitOnP_append_cons_of_forall_mem inside terminator terminates later, whole]

/-- Moving from section to section and cutting at the terminators find the same. -/
theorem sectionsOf_eq_blockSections (kinds : List Kind) (lines : List String) :
    sectionsOf kinds lines = blockSections kinds (lines.splitOnP isTerminator) := by
  -- One block at a time: what stands behind its terminator is shorter.
  cases behind : lines.dropWhile Section.continues with
  | nil => rw [sectionsOf_of_open behind, splitOnP_of_open behind, blockSections_singleton]
  | cons terminator later =>
    have shorter := length_lt_of_closed behind
    rw [sectionsOf_of_closed behind, splitOnP_of_closed behind,
      blockSections_cons kinds _ (List.splitOnP_ne_nil _ _),
      sectionsOf_eq_blockSections kinds later]
termination_by lines.length

theorem of_blockSection? {kinds : List Kind} {terminated : Bool} {block : List String}
    {part : Section} (found : blockSection? kinds terminated block = some part) :
    Kind.ofLine? kinds part.opening = some part.kind ∧ part.terminated = terminated := by
  unfold blockSection? at found
  split at found
  · cases found
  · obtain ⟨kind, isKind, rfl⟩ := Option.map_eq_some_iff.mp found
    exact ⟨isKind, rfl⟩

/-- Only the last section can lack a terminator. -/
theorem terminated_of_mem_dropLast {kinds : List Kind} {blocks : List (List String)}
    {part : Section} (isEarlier : part ∈ (blockSections kinds blocks).dropLast) :
    part.terminated = true := by
  -- The last block gives at most one section, and this one is then left out.
  have closed : part ∈ blocks.dropLast.filterMap (blockSection? kinds true) := by
    unfold blockSections at isEarlier
    cases last : blocks.getLast?.toList.filterMap (blockSection? kinds false) with
    | nil =>
      rw [last, List.append_nil] at isEarlier
      exact List.dropLast_subset _ isEarlier
    | cons first others =>
      have single : others = [] := by
        have atMost := List.length_filterMap_le (blockSection? kinds false) blocks.getLast?.toList
        have one : blocks.getLast?.toList.length ≤ 1 := by
          cases blocks.getLast? <;> simp
        rw [last, List.length_cons] at atMost
        exact List.length_eq_zero_iff.mp (by omega)
      rw [last, single, List.dropLast_concat] at isEarlier
      exact isEarlier
  obtain ⟨block, -, found⟩ := List.mem_filterMap.mp closed
  exact (of_blockSection? found).2

/-- An empty block gives nothing, and a line that opens a section inside another one stays in it. -/
example :
    blockSections [.interface, .ospf]
        [["interface a", "router ospf"], [], ["log file", "router ospf", " area 0"]] =
      [⟨.interface, "interface a", ["router ospf"], true⟩,
       ⟨.ospf, "router ospf", [" area 0"], false⟩] := by
  decide +kernel

/-! ## The iterator -/

theorem sectionsFrom_length (kinds : List Kind) (lines : List String) :
    sectionsFrom kinds lines lines.length = [] := by
  rw [sectionsFrom, List.drop_length, sectionsOf_nil]

theorem sectionsFrom_of_none {kinds : List Kind} {lines : List String} {position : Nat}
    (absent : (next kinds lines position).1 = none) :
    sectionsFrom kinds lines position = [] := by
  rw [sectionsFrom_eq]
  split
  · rfl
  · rename_i found
    rw [found] at absent
    cases absent

theorem sectionsFrom_of_some {kinds : List Kind} {lines : List String} {position : Nat}
    {part : Section} (found : (next kinds lines position).1 = some part) :
    sectionsFrom kinds lines position =
      part :: sectionsFrom kinds lines (next kinds lines position).2 := by
  rw [sectionsFrom_eq]
  split
  · rename_i absent
    rw [absent] at found
    cases found
  · rename_i isSame
    rw [isSame] at found ⊢
    cases found
    rfl

theorem next_position_of_none {kinds : List Kind} {lines : List String} {position : Nat}
    (absent : (next kinds lines position).1 = none) :
    (next kinds lines position).2 = lines.length := by
  unfold next at absent ⊢
  split
  · rfl
  · rename_i found
    rw [found] at absent
    cases absent

/-- The sections are returned one by one, and every request behind the last returns nothing. -/
theorem answers_eq (kinds : List Kind) (lines : List String) (requests position : Nat) :
    answers kinds lines requests position =
      (List.range requests).map fun index => (sectionsFrom kinds lines position)[index]? := by
  induction requests generalizing position with
  | zero => rfl
  | succ requests ih =>
    rw [answers, ih, List.range_succ_eq_map, List.map_cons, List.map_map]
    cases found : (next kinds lines position).1 with
    | none =>
      rw [next_position_of_none found, sectionsFrom_length, sectionsFrom_of_none found]
      rfl
    | some part =>
      rw [sectionsFrom_of_some found]
      rfl

/-- A saved configuration is read block by block: every block with a line that opens a section gives
one section, from the first such line to the end of the block, and no other block gives one. The
iterator returns these sections in order and then nothing, they are replayed line by line, and
`exit` follows exactly where a terminator ends a section that is not a static route. -/
theorem sections_by_blocks (kinds : List Kind) (text : String) :
    let blocks := (Text.lines text).splitOnP isTerminator
    sections kinds text = blockSections kinds blocks ∧
    (∀ requests, answers kinds (Text.lines text) requests 0 =
      (List.range requests).map fun index => (blockSections kinds blocks)[index]?) ∧
    directives kinds text = (blockSections kinds blocks).flatMap (fun part =>
      part.lines.map Directive.line ++
        if part.terminated = true ∧ part.kind ≠ .staticRoute then [Directive.exit] else []) ∧
    ∀ part ∈ (sections kinds text).dropLast, part.terminated = true := by
  have same : sections kinds text =
      blockSections kinds ((Text.lines text).splitOnP isTerminator) :=
    sectionsOf_eq_blockSections kinds (Text.lines text)
  refine ⟨same, fun requests => ?_, ?_, fun part isEarlier => ?_⟩
  · rw [answers_eq, ← same]
    rfl
  · rw [← same, directives]
    exact congrArg (sections kinds text).flatMap (funext Section.directives_eq)
  · rw [same] at isEarlier
    exact terminated_of_mem_dropLast isEarlier

end Testbed.Saved
