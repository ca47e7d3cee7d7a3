import Testbed.Proofs.Scopes

/-!
# Markers and sets of kinds

A section is opened by a line that matches a pattern: the start of the line, a keyword phrase and a
word boundary. Here patterns are read as they are written and have a meaning of their own, which is
that they match somewhere in a text. The markers match exactly the lines that open a section, so two
markers never match one line, and the order in which they are tried does not matter. What is asked
for is a set of kinds: neither the order nor the repetitions of a list of kinds can be seen in a
result.

Results:
1. `matchesAt_chars`, `matches_phrase_iff`: patterns for a phrase at the start of a text.
2. `matches_marker_iff`, `matches_marker_iff_opens`: which lines the markers match.
3. `ofLine?_congr`, `next_congr`: lists of kinds that hold the same kinds.
4. `markers_and_kinds`: the above together, for the sections and the directives too.
-/

namespace Testbed.Text

/-! ## Patterns -/

inductive Atom where
  | start
  | char (c : Char)
  | wordBoundary
deriving DecidableEq, Repr

/-- The parts of a pattern as it is written. All characters but `^` and those of `\b` stand for
themselves. -/
def atoms : List Char → List Atom
  | [] => []
  | '^' :: rest => .start :: atoms rest
  | '\\' :: 'b' :: rest => .wordBoundary :: atoms rest
  | c :: rest => .char c :: atoms rest

/-- A pattern matches from a place of a text on. At a word boundary a word character stands on
exactly one side. -/
def MatchesAt : List Atom → List Char → List Char → Prop
  | [], _, _ => True
  | .start :: later, before, after => before = [] ∧ MatchesAt later before after
  | .char c :: later, before, after =>
    ∃ rest, after = c :: rest ∧ MatchesAt later (before ++ [c]) rest
  | .wordBoundary :: later, before, after =>
    before.getLast?.any isWordChar ≠ after.head?.any isWordChar ∧ MatchesAt later before after

def Matches (pattern text : String) : Prop :=
  ∃ before after, text.toList = before ++ after ∧ MatchesAt (atoms pattern.toList) before after

theorem matchesAt_chars {phrase : List Char} {later : List Atom} {before after : List Char} :
    MatchesAt (phrase.map Atom.char ++ later) before after ↔
      ∃ rest, after = phrase ++ rest ∧ MatchesAt later (before ++ phrase) rest := by
  induction phrase generalizing before after with
  | nil => simp
  | cons c phrase ih =>
    rw [List.map_cons, List.cons_append, MatchesAt]
    constructor
    · rintro ⟨rest, rfl, matched⟩
      obtain ⟨behind, rfl, matchedLater⟩ := ih.mp matched
      refine ⟨behind, rfl, ?_⟩
      rwa [List.append_assoc] at matchedLater
    · rintro ⟨rest, rfl, matched⟩
      refine ⟨phrase ++ rest, rfl, ih.mpr ⟨rest, rfl, ?_⟩⟩
      rwa [List.append_assoc]

/-- A phrase at the start of a text, with a word boundary behind it. The phrase ends with a word
character, so none follows. -/
theorem matches_phrase_iff {pattern text : String} {phrase : List Char} {last : Char}
    (isPattern : atoms pattern.toList = .start :: (phrase.map Atom.char ++ [.wordBoundary]))
    (isLast : phrase.getLast? = some last) (isWord : isWordChar last = true) :
    Matches pattern text ↔
      ∃ rest, text.toList = phrase ++ rest ∧ ∀ c, rest.head? = some c → isWordChar c = false := by
  have boundary (rest : List Char) :
      MatchesAt [.wordBoundary] ([] ++ phrase) rest ↔
        ∀ c, rest.head? = some c → isWordChar c = false := by
    have atEnd : phrase.getLast?.any isWordChar = true := by
      rw [isLast]
      exact isWord
    simp only [MatchesAt, List.nil_append, atEnd, and_true, ne_eq, Bool.true_eq,
      Bool.not_eq_true, Option.any_eq_false]
  rw [Matches, isPattern]
  constructor
  · rintro ⟨before, after, isText, rfl, matched⟩
    obtain ⟨rest, rfl, matchedEnd⟩ := matchesAt_chars.mp matched
    exact ⟨rest, isText, (boundary rest).mp matchedEnd⟩
  · rintro ⟨rest, isText, ends⟩
    refine ⟨[], phrase ++ rest, isText, rfl, ?_⟩
    exact matchesAt_chars.mpr ⟨rest, rfl, (boundary rest).mpr ends⟩

end Testbed.Text

namespace Testbed.Saved

open Testbed.Text Testbed.Vtysh

/-! ## Markers -/

/-- The pattern of the lines that open a section. -/
def Kind.marker : Kind → String
  | interface => "^interface\\b"
  | staticRoute => "^ip route\\b"
  | ospf => "^router ospf\\b"
  | bgp => "^router bgp\\b"

theorem Kind.atoms_marker (kind : Kind) :
    atoms kind.marker.toList =
      .start :: (kind.keyword.toList.map Atom.char ++ [.wordBoundary]) := by
  cases kind <;> decide +kernel

/-- Every keyword ends with a word character. -/
theorem Kind.exists_last_keyword (kind : Kind) :
    ∃ last, kind.keyword.toList.getLast? = some last ∧ isWordChar last = true := by
  cases kind with
  | interface => exact ⟨'e', by decide +kernel, by decide +kernel⟩
  | staticRoute => exact ⟨'e', by decide +kernel, by decide +kernel⟩
  | ospf => exact ⟨'f', by decide +kernel, by decide +kernel⟩
  | bgp => exact ⟨'p', by decide +kernel, by decide +kernel⟩

theorem matches_marker_iff {kind : Kind} {line : String} :
    Matches kind.marker line ↔
      ∃ rest, line.toList = kind.keyword.toList ++ rest ∧
        ∀ c, rest.head? = some c → isWordChar c = false := by
  obtain ⟨last, isLast, isWord⟩ := kind.exists_last_keyword
  exact matches_phrase_iff kind.atoms_marker isLast isWord

theorem matches_marker_iff_opens {kind : Kind} {line : String} :
    Matches kind.marker line ↔ kind.opens line = true :=
  matches_marker_iff.trans Kind.opens_iff.symm

/-! ## Lists of kinds -/

theorem ofLine?_congr {kinds others : List Kind} (same : ∀ kind, kind ∈ kinds ↔ kind ∈ others)
    (line : String) : Kind.ofLine? kinds line = Kind.ofLine? others line := by
  refine Option.ext fun kind => ?_
  rw [Kind.ofLine?_eq_some_iff, Kind.ofLine?_eq_some_iff, same]

theorem next_congr {kinds others : List Kind}
    (same : ∀ line, Kind.ofLine? kinds line = Kind.ofLine? others line) (lines : List String)
    (position : Nat) : next kinds lines position = next others lines position := by
  unfold next
  rw [first?_congr fun line _ => same line]

/-- A marker matches a line exactly if the line begins with the keyword and no word character
follows. At most one marker matches a line, and no line that a marker matches closes a section. A
line gets the kind whose marker matches it, if this kind is asked for, whatever the order in which
the markers are tried. So lists that hold the same kinds give the same sections from every position,
the same directives and the same reports. -/
theorem markers_and_kinds :
    (∀ line : String,
      (∀ kind : Kind, Matches kind.marker line ↔
        ∃ rest, line.toList = kind.keyword.toList ++ rest ∧
          ∀ c, rest.head? = some c → isWordChar c = false) ∧
      (∀ left right : Kind,
        Matches left.marker line → Matches right.marker line → left = right) ∧
      (∀ kind : Kind, Matches kind.marker line → isTerminator line = false) ∧
      ∀ kinds : List Kind,
        (∀ kind, Kind.ofLine? kinds line = some kind ↔
          kind ∈ kinds ∧ Matches kind.marker line) ∧
        ∀ order : List Kind, (∀ kind, kind ∈ order) →
          order.find? (fun kind => kinds.contains kind && kind.opens line) =
            Kind.ofLine? kinds line) ∧
    ∀ kinds others : List Kind, (∀ kind, kind ∈ kinds ↔ kind ∈ others) →
      (∀ line, Kind.ofLine? kinds line = Kind.ofLine? others line) ∧
      (∀ lines position, next kinds lines position = next others lines position) ∧
      ∀ text, sections kinds text = sections others text ∧
        directives kinds text = directives others text ∧
        ∀ node, report node kinds text = report node others text := by
  refine ⟨fun line => ⟨fun kind => matches_marker_iff, fun left right matchLeft matchRight => ?_,
    fun kind isMatch => ?_, fun kinds => ⟨fun kind => ?_, fun order complete => ?_⟩⟩,
    fun kinds others same => ?_⟩
  · exact Kind.eq_of_opens (matches_marker_iff_opens.mp matchLeft)
      (matches_marker_iff_opens.mp matchRight)
  · exact not_isTerminator_of_opens (matches_marker_iff_opens.mp isMatch)
  · rw [matches_marker_iff_opens, Kind.ofLine?_eq_some_iff]
  · refine Option.ext fun kind => ?_
    rw [Kind.find?_eq_some_iff complete, Kind.ofLine?_eq_some_iff]
  · have sameKind := ofLine?_congr same
    have sameSections (text : String) : sections kinds text = sections others text :=
      sectionsOf_congr fun line _ => sameKind line
    refine ⟨sameKind, next_congr sameKind, fun text => ⟨sameSections text, ?_, fun node => ?_⟩⟩
    · exact congrArg (List.flatMap Section.directives) (sameSections text)
    · exact congrArg (List.flatMap (Section.report node)) (sameSections text)

/-- The kinds of one list in another order and with a repetition. A keyword opens a section in front
of a hyphen, and neither in front of a digit nor in front of a combining mark. -/
theorem markers_and_kinds_sampleRoutes :
    let text := "ip route\u0301 5.0.0.0/8\n!\nrouter bgp4\n!\n" ++
      "ip route-map x\n!\nrouter bgp 11537\n!\n"
    let kinds : List Kind := [.bgp, .staticRoute, .bgp]
    let others : List Kind := [.staticRoute, .bgp]
    (∀ kind, kind ∈ kinds ↔ kind ∈ others) ∧
    sections kinds text = sections others text ∧
    directives kinds text = [.line "ip route-map x", .line "router bgp 11537", .exit] ∧
    [.bgp, .ospf, .staticRoute, .interface].find?
        (fun kind => kinds.contains kind && kind.opens "ip route-map x") =
      some Kind.staticRoute := by
  intro text kinds others
  have same : ∀ kind, kind ∈ kinds ↔ kind ∈ others := by
    intro kind
    cases kind <;> decide
  obtain ⟨-, -, alike⟩ := markers_and_kinds.2 kinds others same
  obtain ⟨-, -, -, ordered⟩ := markers_and_kinds.1 "ip route-map x"
  refine ⟨same, (alike text).1, (alike text).2.1.trans (by decide +kernel), ?_⟩
  exact ((ordered kinds).2 _ fun kind => by cases kind <;> decide).trans (by decide +kernel)

end Testbed.Saved
