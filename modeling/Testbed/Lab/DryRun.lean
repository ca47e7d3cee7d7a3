import Testbed.Lab.Executor
import Testbed.Shell.Quote

/-!
# The dry run

A dry run starts nothing. For every command it prints one line that a shell can run instead: the
line looks up the process of the node and, if that succeeds, runs the command in its namespaces.
-/

namespace Testbed.Lab

/-- The command as a line for a shell. The process number is the variable that the lookup sets. -/
def pipeline (settings : Settings) (filter : Filter) (command : List String) : String :=
  filter.shellText ++ " && " ++ (if settings.superuser then "sudo " else "") ++ settings.execTool ++
    " -a $pid -b $pid -k $pid " ++ Shell.quoteAll command

/-- The executor that only prints. Its state is the text printed so far. -/
def dryRun (settings : Settings) : Executor String where
  run filter command printed :=
    ⟨.ok .printed, [], printed ++ pipeline settings filter command ++ "\n"⟩

end Testbed.Lab
