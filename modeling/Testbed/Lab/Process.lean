import Testbed.Lab.Settings
import Testbed.Text.Blank
import Testbed.Text.Lines
import Testbed.Text.Pieces

/-!
# Finding the process of a node

A node of a lab is a process. Its line in the process table holds the node's mark and the name of
the shell, and it holds none of the texts that mark other processes. The same condition has a second
form, a chain of `grep` commands for a shell.

Results: `occursIn_iff` (what it means that a text occurs in a line), `Filter.accepts_iff` (which
lines are accepted), `lt_of_pid?` (every process number fits in 32 bits), `pid?_toString` (every
number that fits is read back from its decimal form).
-/

namespace Testbed.Lab

open Testbed.Text

/-- Whether a text occurs in another as consecutive characters. -/
def occursIn (part : List Char) : List Char → Bool
  | [] => part.isEmpty
  | c :: rest => part.isPrefixOf (c :: rest) || occursIn part rest

theorem occursIn_iff {part text : List Char} : occursIn part text = true ↔ part <:+: text := by
  induction text with
  | nil => simp [occursIn]
  | cons c rest ih =>
    simp only [occursIn, Bool.or_eq_true, List.isPrefixOf_iff_prefix, ih]
    exact List.infix_cons_iff.symm

/-- The condition that recognises the process of a node. -/
structure Filter where
  name : String
  /-- The node's mark, which a line has to hold. -/
  mark : String
  /-- The shell, which a line has to hold too. -/
  shell : String
  /-- What no line of the node holds. -/
  excluded : List String
deriving DecidableEq, Repr

namespace Filter

/-- The condition for a node. Lines of the tool that enters namespaces name the node too, so they
are excluded. -/
def ofNode (settings : Settings) (name : String) : Filter :=
  ⟨name, settings.processPrefix ++ name, settings.shell, [settings.execTool]⟩

def excluding (filter : Filter) (text : String) : Filter :=
  { filter with excluded := filter.excluded ++ [text] }

def accepts (filter : Filter) (line : String) : Bool :=
  occursIn filter.mark.toList line.toList && occursIn filter.shell.toList line.toList &&
    !filter.excluded.any fun text => occursIn text.toList line.toList

/-- The condition as an assignment in a shell: the variable `pid` receives the first columns of the
accepted lines. -/
def shellText (filter : Filter) : String :=
  "pid=`eval ps ax | grep \"" ++ filter.mark ++ "\" | grep " ++ filter.shell ++
    String.join (filter.excluded.map fun text => " | grep -v " ++ text) ++
    " | awk '\x7bprint $1\x7d;'`"

theorem accepts_iff {filter : Filter} {line : String} :
    filter.accepts line = true ↔
      filter.mark.toList <:+: line.toList ∧ filter.shell.toList <:+: line.toList ∧
        ∀ text ∈ filter.excluded, ¬ text.toList <:+: line.toList := by
  simp only [accepts, Bool.and_eq_true, occursIn_iff, Bool.not_eq_true', List.any_eq_false,
    and_assoc]

end Filter

/-- The first number that does not fit in 32 bits. -/
def pidLimit : Nat := 4294967296

/-- The process number that a text stands for: decimal digits, with a plus sign allowed in front,
and a value of at most 32 bits. -/
def pid? (text : List Char) : Option Nat := do
  let digits := match text with
    | '+' :: digits => digits
    | digits => digits
  let value ← decimal? digits
  if value < pidLimit then some value else none

theorem lt_of_pid? {text : List Char} {pid : Nat} (isPid : pid? text = some pid) :
    pid < pidLimit := by
  simp only [pid?, bind, Option.bind_eq_some_iff] at isPid
  obtain ⟨value, -, isValue⟩ := isPid
  split at isValue
  · simp only [Option.some.injEq] at isValue
    omega
  · simp at isValue

theorem pid?_toString {pid : Nat} (fits : pid < pidLimit) :
    pid? (toString pid).toList = some pid := by
  have isRead := decimal?_toString pid
  have allDigits : ∀ c ∈ (toString pid).toList, c.isDigit = true := fun c =>
    isDigit_of_mem_toString
  generalize (toString pid).toList = digits at isRead allDigits ⊢
  unfold pid?
  split
  · exact absurd (allDigits '+' (.head _)) (by decide)
  · dsimp only
    rw [isRead]
    exact if_pos fits

/-- The process numbers of the lines that belong to the node, in the order of the table. A line
whose first column is no number is passed over. -/
def pids (filter : Filter) (table : String) : List Nat :=
  ((lines table).filter filter.accepts).filterMap fun line =>
    (firstWord? line.toList).bind pid?

end Testbed.Lab
