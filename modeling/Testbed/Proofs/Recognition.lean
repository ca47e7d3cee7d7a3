import Mathlib.Data.List.Nodup
import Testbed.Proofs.TableRows
import Testbed.Proofs.Visits

/-!
# Which process a node is taken for

A node's process is found by texts that occur in its line of the process table, and they may occur in
the lines of other nodes too. With the settings that a lab has by default, a line is accepted for a
node if the name of the line's node begins with the name that is searched for, and if it does not
hold a text that is passed over. So a node is found for certain if its own line is accepted and no
other line is.

Results:
1. `infix_append_cons_iff`, `append_cons_infix_iff`: occurrences around a separator.
2. `accepts_line_iff`: which lines are accepted for a node.
3. `pids_tableOf`: what is found in a table of nodes.
4. `found_iff`: when a node is found in every order of the table, and what happens else.
-/

/-! ## Occurrences around a separator -/

namespace Testbed.Text

variable {c : Char} {part post front back : List Char}

theorem prefix_append_cons_iff (absent : c ∉ part) :
    part <+: front ++ c :: back ↔ part <+: front := by
  induction front generalizing part with
  | nil =>
    cases part with
    | nil => simp
    | cons d part =>
      simp only [List.mem_cons, not_or] at absent
      simp [Ne.symm absent.1]
  | cons d front ih =>
    cases part with
    | nil => simp
    | cons e part =>
      simp only [List.mem_cons, not_or] at absent
      simp [List.cons_prefix_cons, ih absent.2]

/-- A text without the separator occurs on one of its sides. -/
theorem infix_append_cons_iff (absent : c ∉ part) :
    part <:+: front ++ c :: back ↔ part <:+: front ∨ part <:+: back := by
  induction front with
  | nil =>
    rw [List.nil_append, List.infix_cons_iff, ← List.nil_append (c :: back),
      prefix_append_cons_iff absent, List.prefix_nil, List.infix_nil]
  | cons d front ih =>
    rw [List.cons_append, List.infix_cons_iff, ← List.cons_append, prefix_append_cons_iff absent,
      ih, List.infix_cons_iff, or_assoc]

theorem append_cons_prefix_iff (absent : c ∉ part) (free : c ∉ front) :
    part ++ c :: post <+: front ++ c :: back ↔ part = front ∧ post <+: back := by
  induction front generalizing part with
  | nil =>
    cases part with
    | nil => simp [List.cons_prefix_cons]
    | cons d part =>
      simp only [List.mem_cons, not_or] at absent
      simp [List.cons_prefix_cons, Ne.symm absent.1]
  | cons e front ih =>
    simp only [List.mem_cons, not_or] at free
    cases part with
    | nil => simp [List.cons_prefix_cons, free.1]
    | cons d part =>
      simp only [List.mem_cons, not_or] at absent
      simp [List.cons_prefix_cons, ih absent.2 free.2, and_assoc]

/-- A text with the separator occurs around the first one, or behind it. -/
theorem append_cons_infix_iff (absent : c ∉ part) (free : c ∉ front) :
    part ++ c :: post <:+: front ++ c :: back ↔
      (part <:+ front ∧ post <+: back) ∨ part ++ c :: post <:+: back := by
  induction front with
  | nil =>
    rw [List.nil_append, List.infix_cons_iff, ← List.nil_append (c :: back),
      append_cons_prefix_iff absent free, List.suffix_nil]
  | cons d front ih =>
    rw [List.cons_append, List.infix_cons_iff, ← List.cons_append,
      append_cons_prefix_iff absent free, ih fun inFront => free (.tail _ inFront),
      List.suffix_cons_iff, or_and_right, or_assoc]

end Testbed.Text

namespace Testbed.Replay

open Testbed.Lab Testbed.Text

/-! ## Tables of nodes -/

structure NodeProcess where
  node : Node
  pid : Nat
deriving DecidableEq, Repr

def NodeProcess.line (process : NodeProcess) : String :=
  toString process.pid ++ " pts/0 Ss+ 0:00 bash --norc --noediting -is mininet:" ++
    process.node.name

def tableOf (order : List NodeProcess) : String :=
  String.join (order.map fun process => process.line ++ "\n")

/-- The characters of which the names of nodes are made. -/
def isNameChar (c : Char) : Bool := c.isAlphanum || c == '_' || c == '-'

/-- Processes with different numbers, of nodes with ordinary names. -/
structure Listable (processes : List NodeProcess) : Prop where
  names : ∀ process ∈ processes, process.node.name.toList.all isNameChar = true
  pids_distinct : (processes.map NodeProcess.pid).Nodup
  pids_fit : ∀ process ∈ processes, process.pid < pidLimit

/-- Whether the lines of nodes with this name are passed over when a node is looked for. -/
def Node.passesOver (node : Node) (name : String) : Prop :=
  "mxexec".toList <:+: name.toList ∨ node.kind = .router ∧ "host".toList <:+: name.toList

instance (node : Node) (name : String) : Decidable (node.passesOver name) :=
  decidable_of_iff
    (occursIn "mxexec".toList name.toList = true ∨
      node.kind = .router ∧ occursIn "host".toList name.toList = true)
    (by rw [occursIn_iff, occursIn_iff, Node.passesOver])

theorem not_mem_of_names {name : List Char} (chars : name.all isNameChar = true) {c : Char}
    (other : isNameChar c = false) : c ∉ name := by
  intro isMember
  rw [List.all_eq_true.mp chars c isMember] at other
  cases other

/-! ## Which lines are accepted -/

/-- The line of a process up to the second colon, with the first one left out. -/
theorem line_eq (process : NodeProcess) :
    process.line.toList =
      ((toString process.pid).toList ++ " pts/0 Ss+ 0".toList) ++
        ':' :: ("00 bash --norc --noediting -is mininet".toList ++ ':' :: process.node.name.toList) := by
  simp [NodeProcess.line]

/-- A text without a colon and a blank, with a character that is no digit and not in the fixed part
of a line, occurs in a line only as part of the name. -/
theorem infix_line_iff {part : List Char} {process : NodeProcess} (noColon : ':' ∉ part)
    (noBlank : ' ' ∉ part) (letter : part.all Char.isDigit = false)
    (unfixed : occursIn part "pts/0 Ss+ 0".toList = false)
    (unfixed' : occursIn part "00 bash --norc --noediting -is mininet".toList = false) :
    part <:+: process.line.toList ↔ part <:+: process.node.name.toList := by
  have noNumber : ¬ part <:+: (toString process.pid).toList := by
    intro inNumber
    obtain ⟨c, isMember, noDigit⟩ := List.all_eq_false.mp letter
    exact noDigit (isDigit_of_mem_toString (inNumber.subset isMember))
  have split : " pts/0 Ss+ 0".toList = ' ' :: "pts/0 Ss+ 0".toList := by simp
  rw [line_eq, infix_append_cons_iff noColon, infix_append_cons_iff noColon, split,
    infix_append_cons_iff noBlank]
  simp only [← occursIn_iff] at noNumber ⊢
  simp only [noNumber, unfixed, unfixed', Bool.false_eq_true, false_or]

theorem mark_infix_line_iff {name : List Char} {process : NodeProcess}
    (chars : process.node.name.toList.all isNameChar = true) :
    "mininet".toList ++ ':' :: name <:+: process.line.toList ↔
      name <+: process.node.name.toList := by
  have noColon : ':' ∉ "mininet".toList := by decide
  have number : ':' ∉ (toString process.pid).toList ++ " pts/0 Ss+ 0".toList := by
    intro isMember
    rcases List.mem_append.mp isMember with inNumber | inFixed
    · exact absurd (isDigit_of_mem_toString inNumber) (by decide)
    · exact absurd inFixed (by decide)
  -- Behind the first colon stand seconds, and the name holds no colon.
  have notFirst : ¬ "mininet".toList <:+
      (toString process.pid).toList ++ " pts/0 Ss+ 0".toList := by
    rintro ⟨front, equal⟩
    have last := congrArg List.getLast? equal
    simp at last
  have notInName : ¬ "mininet".toList ++ ':' :: name <:+: process.node.name.toList := by
    intro inName
    refine not_mem_of_names chars (c := ':') (by decide) (inName.subset ?_)
    exact List.mem_append_right _ (.head _)
  have atMark : "mininet".toList <:+ "00 bash --norc --noediting -is mininet".toList := by
    decide
  rw [line_eq, append_cons_infix_iff noColon number, append_cons_infix_iff noColon (by decide)]
  simp only [notFirst, notInName, atMark, false_and, true_and, false_or, or_false]

theorem excluded_filter (node : Node) :
    (node.filter {}).excluded =
      "mxexec" :: if node.kind = .router then ["host"] else [] := by
  cases node with
  | mk kind name => cases kind <;> rfl

/-- A line is accepted for a node if its name begins with the node's and is not passed over. -/
theorem accepts_line_iff {node : Node} {process : NodeProcess}
    (chars : process.node.name.toList.all isNameChar = true) :
    (node.filter {}).accepts process.line = true ↔
      node.name.toList <+: process.node.name.toList ∧
        ¬ node.passesOver process.node.name := by
  have mark : (node.filter {}).mark.toList = "mininet".toList ++ ':' :: node.name.toList := by
    cases node with
    | mk kind name => cases kind <;> simp [Node.filter, Filter.ofNode, Filter.excluding]
  have shell : (node.filter {}).shell = "bash" := by
    cases node with
    | mk kind name => cases kind <;> rfl
  have inLine : "bash".toList <:+: process.line.toList :=
    ⟨(toString process.pid ++ " pts/0 Ss+ 0:00 ").toList,
      (" --norc --noediting -is mininet:" ++ process.node.name).toList,
      by simp [NodeProcess.line]⟩
  have tool : "mxexec".toList <:+: process.line.toList ↔ "mxexec".toList <:+: _ :=
    infix_line_iff (by decide) (by decide) (by decide) (by decide) (by decide)
  have host : "host".toList <:+: process.line.toList ↔ "host".toList <:+: _ :=
    infix_line_iff (by decide) (by decide) (by decide) (by decide) (by decide)
  rw [Filter.accepts_iff, mark, mark_infix_line_iff chars, excluded_filter, shell,
    Node.passesOver]
  by_cases isRouter : node.kind = .router
  · simp only [isRouter, if_true, List.forall_mem_cons, List.not_mem_nil, false_imp_iff,
      implies_true, tool, host, inLine, true_and, and_true, not_or]
  · simp only [isRouter, if_false, List.forall_mem_cons, List.not_mem_nil, false_imp_iff,
      implies_true, tool, inLine, true_and, and_true, false_and, or_false]

/-! ## What is found in a table -/

/-- What the fixed part of a line does not hold, and neither numbers nor names do, no line holds. -/
theorem not_mem_line {process : NodeProcess}
    (chars : process.node.name.toList.all isNameChar = true) {c : Char}
    (noDigit : c.isDigit = false) (noNameChar : isNameChar c = false)
    (unfixed : c ∉ " pts/0 Ss+ 0:00 bash --norc --noediting -is mininet:".toList) :
    c ∉ process.line.toList := by
  rw [NodeProcess.line, String.toList_append, String.toList_append]
  simp only [List.mem_append, not_or]
  refine ⟨⟨fun inNumber => ?_, unfixed⟩, not_mem_of_names chars noNameChar⟩
  rw [isDigit_of_mem_toString inNumber] at noDigit
  cases noDigit

theorem lines_tableOf {order : List NodeProcess}
    (names : ∀ process ∈ order, process.node.name.toList.all isNameChar = true) :
    lines (tableOf order) = order.map NodeProcess.line := by
  have isJoined : tableOf order = joinLines (order.map NodeProcess.line) := by
    rw [tableOf, joinLines, List.map_map]
    rfl
  rw [isJoined, lines_joinLines fun line isLine => ?_]
  obtain ⟨process, isProcess, rfl⟩ := List.mem_map.mp isLine
  have absent {c : Char} := not_mem_line (names process isProcess) (c := c)
  refine ⟨absent (by decide) (by decide) (by decide), fun isLast => ?_⟩
  exact absent (by decide) (by decide) (by decide) (List.mem_of_getLast? isLast)

theorem readPid?_line {process : NodeProcess} (fits : process.pid < pidLimit) :
    readPid? process.line = some process.pid := by
  have isRow : process.line = (TableLine.row "" process.pid ' '
      ("pts/0 Ss+ 0:00 bash --norc --noediting -is mininet:" ++ process.node.name)).text := by
    rw [← String.toList_inj]
    simp [NodeProcess.line, TableLine.text]
  rw [isRow]
  exact readPid?_row ⟨rfl, fits, by decide⟩

theorem pids_tableOf (filter : Filter) {order : List NodeProcess} (listable : Listable order) :
    pids filter (tableOf order) =
      (order.filter fun process => filter.accepts process.line).map NodeProcess.pid := by
  rw [pids, lines_tableOf listable.names, List.filter_map, List.filterMap_map,
    ← List.filterMap_eq_map]
  refine List.filterMap_congr fun process isAccepted => ?_
  exact readPid?_line (listable.pids_fit process (List.mem_of_mem_filter isAccepted))

theorem Listable.perm {processes order : List NodeProcess} (listable : Listable processes)
    (perm : order.Perm processes) : Listable order where
  names process isMember := listable.names process (perm.subset isMember)
  pids_distinct := (perm.map _).nodup_iff.mpr listable.pids_distinct
  pids_fit process isMember := listable.pids_fit process (perm.subset isMember)

/-! ## When a node is found -/

theorem passesOver_of_begins {node : Node} {name longer : String}
    (begins : name.toList <+: longer.toList) (passed : node.passesOver name) :
    node.passesOver longer := by
  rcases passed with tool | ⟨isRouter, host⟩
  · exact .inl (tool.trans begins.isInfix)
  · exact .inr ⟨isRouter, host.trans begins.isInfix⟩

theorem mem_accepted_iff {order : List NodeProcess} (listable : Listable order) {node : Node}
    {process : NodeProcess} :
    process ∈ order.filter (fun process => (node.filter {}).accepts process.line) ↔
      process ∈ order ∧ node.name.toList <+: process.node.name.toList ∧
        ¬ node.passesOver process.node.name := by
  rw [List.mem_filter]
  exact and_congr_right fun isMember => accepts_line_iff (listable.names process isMember)

/-- Nothing is found for a node whose own line is passed over: every longer name is passed over
too. -/
theorem pids_eq_nil_of_passedOver {order : List NodeProcess} (listable : Listable order)
    {node : Node} (passed : node.passesOver node.name) :
    pids (node.filter {}) (tableOf order) = [] := by
  rw [pids_tableOf _ listable, List.map_eq_nil_iff, List.eq_nil_iff_forall_not_mem]
  intro process isAccepted
  obtain ⟨-, begins, visible⟩ := (mem_accepted_iff listable).mp isAccepted
  exact visible (passesOver_of_begins begins passed)

theorem pids_cons_of_accepted {process : NodeProcess} {later : List NodeProcess}
    (listable : Listable (process :: later)) {node : Node}
    (begins : node.name.toList <+: process.node.name.toList)
    (visible : ¬ node.passesOver process.node.name) :
    (pids (node.filter {}) (tableOf (process :: later))).head? = some process.pid := by
  have accepted := (accepts_line_iff (listable.names process (.head _))).mpr ⟨begins, visible⟩
  rw [pids_tableOf _ listable, List.filter_cons, if_pos accepted]
  rfl

/-- If the line of another node is accepted, this node can stand first. -/
theorem exists_order_of_other {processes : List NodeProcess} (listable : Listable processes)
    {process other : NodeProcess} (isProcess : process ∈ processes) (isOther : other ∈ processes)
    (different : other ≠ process)
    (begins : process.node.name.toList <+: other.node.name.toList)
    (visible : ¬ process.node.passesOver other.node.name) :
    ∃ order, order.Perm processes ∧ other.pid ≠ process.pid ∧
      (pids (process.node.filter {}) (tableOf order)).head? = some other.pid := by
  have perm : (other :: processes.erase other).Perm processes :=
    (List.perm_cons_erase isOther).symm
  refine ⟨_, perm, fun same => different ?_,
    pids_cons_of_accepted (listable.perm perm) begins visible⟩
  exact List.inj_on_of_nodup_map listable.pids_distinct isOther isProcess same

/-- The only process whose line is accepted is found wherever it stands. -/
theorem pids_of_alone {order : List NodeProcess} (listable : Listable order)
    {process : NodeProcess} (isMember : process ∈ order)
    (visible : ¬ process.node.passesOver process.node.name)
    (alone : ∀ other ∈ order, other ≠ process →
      process.node.name.toList <+: other.node.name.toList →
        process.node.passesOver other.node.name) :
    (pids (process.node.filter {}) (tableOf order)).head? = some process.pid := by
  have accepted := (mem_accepted_iff listable).mpr ⟨isMember, List.prefix_refl _, visible⟩
  have only : ∀ other ∈ order.filter fun other =>
      (process.node.filter {}).accepts other.line, other = process := by
    intro other isAccepted
    obtain ⟨isOther, begins, otherVisible⟩ := (mem_accepted_iff listable).mp isAccepted
    by_contra different
    exact otherVisible (alone other isOther different begins)
  rw [pids_tableOf _ listable]
  cases found : order.filter fun other => (process.node.filter {}).accepts other.line with
  | nil =>
    rw [found] at accepted
    cases accepted
  | cons first later =>
    rw [only first (by rw [found]; exact .head _)]
    rfl

theorem live_run_of_missing {settings : Settings} (proper : settings.entryProgram ≠ "ps")
    {machine : Machine} (listed : machine.obstacle? listingWords = none) {table : String}
    (decoded : Utf8.decode machine.listing.output = .ok table) (call : Call)
    (missing : pids call.filter table = []) :
    ((live settings).run call.filter call.command machine).answer = .ok .missing := by
  have ended : machine.visit settings call = .missing := by
    simp only [Machine.visit, listed, decoded, missing, List.head?_nil]
  rw [(live_run proper call machine).1, ended]
  rfl

theorem live_run_of_found {settings : Settings} (proper : settings.entryProgram ≠ "ps")
    {machine : Machine} (listed : machine.obstacle? listingWords = none) {table : String}
    (decoded : Utf8.decode machine.listing.output = .ok table) (call : Call) {pid : Nat}
    (found : (pids call.filter table).head? = some pid)
    (startable : machine.obstacle? (call.entryWords settings pid) = none) :
    ((live settings).run call.filter call.command machine).state.started =
      machine.started ++ [listingWords, call.entryWords settings pid] := by
  have ended := visit_eq_entered_iff.mpr ⟨listed, ⟨table, decoded, found⟩, startable⟩
  rw [(live_run proper call machine).2, ended]
  rfl

/-- The process of a node is the one that is found in every order of the table exactly if the node's
own line is not passed over, and the line of every other node whose name begins with the node's is.
If its own line is passed over, the node is reported missing. If the line of another such node is
accepted, some order lets the commands for the node run in the namespaces of the other. -/
theorem found_iff {processes : List NodeProcess} (listable : Listable processes)
    {process : NodeProcess} (isProcess : process ∈ processes) :
    let node := process.node
    let visible := ¬ node.passesOver node.name
    let alone := ∀ other ∈ processes, other ≠ process →
      node.name.toList <+: other.node.name.toList → node.passesOver other.node.name
    let lists machine order :=
      machine.obstacle? ["ps", "ax"] = none ∧
        Utf8.decode machine.listing.output = .ok (tableOf order)
    ((∀ order, order.Perm processes →
        (pids (node.filter {}) (tableOf order)).head? = some process.pid) ↔ visible ∧ alone) ∧
    (¬ visible → ∀ order, order.Perm processes →
      pids (node.filter {}) (tableOf order) = [] ∧
      ∀ (machine : Machine) (command : List String), lists machine order →
        ((live {}).run (node.filter {}) command machine).answer = .ok .missing) ∧
    (visible → ¬ alone → ∃ order, order.Perm processes ∧ ∃ other ∈ processes,
      other.pid ≠ process.pid ∧
      (pids (node.filter {}) (tableOf order)).head? = some other.pid ∧
      ∀ (machine : Machine) (command : List String), lists machine order →
        let words := (Namespace.ofProcess {} node.name other.pid).entry ++ command
        machine.obstacle? words = none →
          ((live {}).run (node.filter {}) command machine).state.started =
            machine.started ++ [["ps", "ax"], words]) := by
  intro node visible alone lists
  have proper : Settings.entryProgram {} ≠ "ps" := by decide
  refine ⟨⟨fun found => ⟨fun passed => ?_, fun other isOther different begins => ?_⟩,
    fun ⟨isVisible, isAlone⟩ order perm => ?_⟩, fun notVisible order perm => ?_,
    fun isVisible notAlone => ?_⟩
  · have nothing := pids_eq_nil_of_passedOver listable passed
    have inOrder := found processes (.refl _)
    rw [nothing] at inOrder
    cases inOrder
  · by_contra otherVisible
    obtain ⟨order, perm, otherPid, first⟩ :=
      exists_order_of_other listable isProcess isOther different begins otherVisible
    rw [found order perm] at first
    exact otherPid (Option.some.inj first).symm
  · exact pids_of_alone (listable.perm perm) (perm.symm.subset isProcess) isVisible
      fun other isOther => isAlone other (perm.subset isOther)
  · have nothing := pids_eq_nil_of_passedOver (listable.perm perm) (not_not.mp notVisible)
    refine ⟨nothing, fun machine command listed => ?_⟩
    exact live_run_of_missing proper listed.1 listed.2 ⟨node.filter {}, command⟩ nothing
  · simp only [alone, not_forall] at notAlone
    obtain ⟨other, isOther, different, begins, otherVisible⟩ := notAlone
    obtain ⟨order, perm, otherPid, first⟩ :=
      exists_order_of_other listable isProcess isOther different begins otherVisible
    refine ⟨order, perm, other, isOther, otherPid, first, fun machine command listed => ?_⟩
    intro words startable
    have named : (node.filter {}).name = node.name := name_filter {} node
    have ran := live_run_of_found proper listed.1 listed.2 ⟨node.filter {}, command⟩ first
    rw [Call.entryWords, named] at ran
    exact ran startable

/-- A router with its host, two routers of which one is named like the beginning of the other, and a
router whose name holds the mark of hosts. -/
def sampleProcesses : List NodeProcess :=
  [⟨⟨.router, "SEAT"⟩, 4242⟩, ⟨⟨.host, "SEAT-host"⟩, 4243⟩, ⟨⟨.router, "R1"⟩, 51⟩,
   ⟨⟨.router, "R10"⟩, 52⟩, ⟨⟨.router, "ghost"⟩, 60⟩]

/-- The router with a host is always found, the one whose name begins another name is mistaken for
it, and the one whose name holds the mark of hosts is missing. -/
theorem found_iff_sampleProcesses :
    Listable sampleProcesses ∧
    (∀ order, order.Perm sampleProcesses →
      (pids (Node.filter {} ⟨.router, "SEAT"⟩) (tableOf order)).head? = some 4242) ∧
    (∃ order, order.Perm sampleProcesses ∧
      ∃ pid, pid ≠ 51 ∧
        (pids (Node.filter {} ⟨.router, "R1"⟩) (tableOf order)).head? = some pid) ∧
    ∀ order, order.Perm sampleProcesses →
      pids (Node.filter {} ⟨.router, "ghost"⟩) (tableOf order) = [] := by
  have listable : Listable sampleProcesses := ⟨by decide, by decide, by decide⟩
  have isSeat : (⟨⟨.router, "SEAT"⟩, 4242⟩ : NodeProcess) ∈ sampleProcesses := by decide
  have isFirst : (⟨⟨.router, "R1"⟩, 51⟩ : NodeProcess) ∈ sampleProcesses := by decide
  have isGhost : (⟨⟨.router, "ghost"⟩, 60⟩ : NodeProcess) ∈ sampleProcesses := by decide
  have certain := found_iff listable isSeat
  have ambiguous := found_iff listable isFirst
  have hidden := found_iff listable isGhost
  refine ⟨listable, certain.1.mpr ⟨by decide, by decide⟩, ?_, fun order perm =>
    (hidden.2.1 (by decide) order perm).1⟩
  obtain ⟨order, perm, other, -, different, first, -⟩ :=
    ambiguous.2.2 (by decide) (by decide)
  exact ⟨order, perm, other.pid, different, first⟩

end Testbed.Replay
