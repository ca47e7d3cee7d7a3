import Testbed.Text.Blank
import Testbed.Text.Word

/-!
# Kinds of sections in a saved configuration

A saved configuration consists of sections. A section is opened by a line that begins with a keyword
phrase as whole words, and it is closed by a line that holds only an exclamation mark.

Results: `Kind.opens_iff` (when a line opens a section), `Kind.eq_of_opens` (a line opens sections
of at most one kind), `not_isTerminator_of_opens` (an opening line closes nothing).
-/

namespace Testbed.Saved

open Testbed.Text

inductive Kind where
  | interface
  | staticRoute
  | ospf
  | bgp
deriving DecidableEq, Repr

namespace Kind

/-- All kinds, in the order in which a line is tested for them. -/
def all : List Kind := [interface, staticRoute, ospf, bgp]

def label : Kind → String
  | interface => "Interface"
  | staticRoute => "StaticRoute"
  | ospf => "Ospf"
  | bgp => "Bgp"

def keyword : Kind → String
  | interface => "interface"
  | staticRoute => "ip route"
  | ospf => "router ospf"
  | bgp => "router bgp"

/-- Whether the end of a section returns to the enclosing level. A static route is a command of
the top level, so nothing is to be left. -/
def closesWithExit : Kind → Bool
  | staticRoute => false
  | _ => true

/-- Whether a line begins with a phrase that ends a word there. -/
def beginsWith (phrase line : List Char) : Bool :=
  phrase.isPrefixOf line && !(line.drop phrase.length).head?.any isWordChar

def opens (kind : Kind) (line : String) : Bool :=
  beginsWith kind.keyword.toList line.toList

/-- The kind of the section that a line opens, among the kinds asked for. -/
def ofLine? (kinds : List Kind) (line : String) : Option Kind :=
  all.find? fun kind => kinds.contains kind && kind.opens line

theorem mem_all (kind : Kind) : kind ∈ all := by
  cases kind <;> decide

theorem beginsWith_iff {phrase line : List Char} :
    beginsWith phrase line = true ↔
      ∃ rest, line = phrase ++ rest ∧ ∀ c, rest.head? = some c → isWordChar c = false := by
  simp only [beginsWith, Bool.and_eq_true, List.isPrefixOf_iff_prefix, Bool.not_eq_true',
    Option.any_eq_false]
  constructor
  · rintro ⟨⟨rest, rfl⟩, ends⟩
    refine ⟨rest, rfl, fun c isNext => ?_⟩
    simpa using ends c (by simpa using isNext)
  · rintro ⟨rest, rfl, ends⟩
    refine ⟨⟨rest, rfl⟩, fun c isNext => ?_⟩
    simpa using ends c (by simpa using isNext)

/-- A line opens a section exactly if it begins with the keyword and no word character follows. -/
theorem opens_iff {kind : Kind} {line : String} :
    kind.opens line = true ↔
      ∃ rest, line.toList = kind.keyword.toList ++ rest ∧
        ∀ c, rest.head? = some c → isWordChar c = false :=
  beginsWith_iff

theorem eq_of_opens {left right : Kind} {line : String} (opensLeft : left.opens line = true)
    (opensRight : right.opens line = true) : left = right := by
  obtain ⟨_, isLeft, -⟩ := opens_iff.mp opensLeft
  obtain ⟨_, isRight, -⟩ := opens_iff.mp opensRight
  rw [isLeft] at isRight
  cases left <;> cases right <;> first | rfl | simp [keyword] at isRight

/-- The first kind that fits a line, in an order in which all kinds stand, is the only one. -/
theorem find?_eq_some_iff {order : List Kind} (complete : ∀ kind, kind ∈ order)
    {kinds : List Kind} {line : String} {kind : Kind} :
    order.find? (fun kind => kinds.contains kind && kind.opens line) = some kind ↔
      kind ∈ kinds ∧ kind.opens line = true := by
  constructor
  · intro found
    simpa using List.find?_some found
  · rintro ⟨enabled, opened⟩
    cases found : order.find? fun kind => kinds.contains kind && kind.opens line with
    | none =>
      have := List.find?_eq_none.mp found kind (complete kind)
      simp [enabled, opened] at this
    | some other =>
      have isOther := List.find?_some found
      simp only [Bool.and_eq_true] at isOther
      rw [eq_of_opens isOther.2 opened]

theorem ofLine?_eq_some_iff {kinds : List Kind} {line : String} {kind : Kind} :
    ofLine? kinds line = some kind ↔ kind ∈ kinds ∧ kind.opens line = true :=
  find?_eq_some_iff mem_all

end Kind

/-- Whether a line closes a section: an exclamation mark with nothing but white space around it. -/
def isTerminator (line : String) : Bool :=
  trim line.toList == ['!']

theorem not_isTerminator_of_opens {kind : Kind} {line : String} (opened : kind.opens line = true) :
    isTerminator line = false := by
  obtain ⟨rest, isLine, -⟩ := Kind.opens_iff.mp opened
  rw [isTerminator, isLine, beq_eq_false_iff_ne]
  intro isMark
  have first : ∃ c tail, isBlank c = false ∧ c ≠ '!' ∧ kind.keyword.toList ++ rest = c :: tail := by
    cases kind
    · exact ⟨'i', "nterface".toList ++ rest, by decide, by decide, rfl⟩
    · exact ⟨'i', "p route".toList ++ rest, by decide, by decide, rfl⟩
    · exact ⟨'r', "outer ospf".toList ++ rest, by decide, by decide, rfl⟩
    · exact ⟨'r', "outer bgp".toList ++ rest, by decide, by decide, rfl⟩
  obtain ⟨c, tail, notBlank, notMark, isCons⟩ := first
  rw [isCons, trim, List.dropWhile_cons_of_neg (by simp [notBlank])] at isMark
  have remains := congrArg List.reverse isMark
  simp only [List.reverse_reverse, List.reverse_cons, List.reverse_nil, List.nil_append] at remains
  have isSuffix : ['!'] <:+ tail.reverse ++ [c] := remains ▸ List.dropWhile_suffix isBlank
  have isLast := List.IsSuffix.getLast isSuffix (by simp)
  simp at isLast
  exact notMark isLast.symm

end Testbed.Saved
