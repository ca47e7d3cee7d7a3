import Testbed.Lab.Settings

/-!
# Entering the namespaces of a process

A command runs on a node by running it in the namespaces of the node's process. The tool that does
so takes the process number three times, for the three groups of namespaces, and the command behind
it.
-/

namespace Testbed.Lab

structure Namespace where
  name : String
  pid : Nat
  superuser : Bool
  execTool : String
deriving DecidableEq, Repr

namespace Namespace

def ofProcess (settings : Settings) (name : String) (pid : Nat) : Namespace :=
  ⟨name, pid, settings.superuser, settings.execTool⟩

/-- The options that name the process. -/
def options (space : Namespace) : List String :=
  ["-a", "-b", "-k"].flatMap fun option => [option, toString space.pid]

/-- The words in front of a command that enter the namespaces. -/
def entry (space : Namespace) : List String :=
  (if space.superuser then ["sudo"] else []) ++ space.execTool :: space.options

/-- The program that runs a command in the namespaces, and its arguments. -/
def wrap (space : Namespace) (command : List String) : String × List String :=
  if space.superuser then ("sudo", space.execTool :: space.options ++ command)
  else (space.execTool, space.options ++ command)

theorem wrap_eq (space : Namespace) (command : List String) :
    (space.wrap command).1 :: (space.wrap command).2 = space.entry ++ command := by
  unfold wrap entry
  split <;> rfl

end Namespace

end Testbed.Lab
