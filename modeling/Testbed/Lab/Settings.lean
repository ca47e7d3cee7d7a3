/-!
# Settings of a lab

The names by which a lab's processes are recognised and entered. Every setting has a default, so a
topology states only what differs.
-/

namespace Testbed.Lab

/-- How the processes of a lab are found and entered. -/
structure Settings where
  /-- Whether a namespace is entered as the superuser. -/
  superuser : Bool := true
  /-- The tool that runs a command in the namespaces of a process. -/
  execTool : String := "mxexec"
  /-- What stands in front of a node's name on the command line of the node's process. -/
  processPrefix : String := "mininet:"
  /-- The shell that every node runs. -/
  shell : String := "bash"
  /-- The router shell. -/
  vtysh : String := "vtysh"
deriving DecidableEq, Repr

end Testbed.Lab
