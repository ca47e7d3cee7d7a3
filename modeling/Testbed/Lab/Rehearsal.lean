import Testbed.Lab.Executor

/-!
# Rehearsals

A rehearsal answers from a script and starts nothing. The script holds answers that are used up one
by one. After them a command is answered by the name of its node, and a node without an answer has
no process.
-/

namespace Testbed.Lab

structure Script where
  inOrder : List Answer := []
  byNode : List (String × Answer) := []

def rehearsal : Executor Script where
  run filter _ script :=
    match script.inOrder with
    | answer :: later => ⟨answer, [], { script with inOrder := later }⟩
    | [] => ⟨(script.byNode.lookup filter.name).getD (.ok .missing), [], script⟩

end Testbed.Lab
