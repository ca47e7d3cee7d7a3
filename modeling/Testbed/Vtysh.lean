/-!
# Directives and the command that replays them

A router shell is configured by one command: the name of the shell, the option that enters
configuration mode, and one option for every directive. The command exists in two forms. `arguments`
is the argument vector that is executed, `shellText` the same command as one line of text. A command
without directives would only enter configuration mode and leave it, so `Command.configure?` builds
none.
-/

namespace Testbed.Vtysh

/-- One step of a configuration: a line of text, or the return to the enclosing level. -/
inductive Directive where
  | line (text : String)
  | exit
deriving DecidableEq, Repr

def Directive.text : Directive → String
  | .line text => text
  | .exit => "exit"

/-- The directive as an option on a command line, in single quotes and with a blank after it. -/
def Directive.fragment (directive : Directive) : String :=
  "-c '" ++ directive.text ++ "' "

/-- The first directive of every command: it enters configuration mode. -/
def enterConfiguration : String := "conf ter"

structure Command where
  program : String
  directives : List Directive
deriving DecidableEq, Repr

/-- The command that replays the directives, if there are any. -/
def Command.configure? (program : String) : List Directive → Option Command
  | [] => none
  | first :: rest => some ⟨program, first :: rest⟩

/-- The argument vector, the program first. -/
def Command.arguments (command : Command) : List String :=
  [command.program, "-c", enterConfiguration] ++
    command.directives.flatMap fun directive => ["-c", directive.text]

/-- The command as one line of text. -/
def Command.shellText (command : Command) : String :=
  command.program ++ " -c '" ++ enterConfiguration ++ "' " ++
    String.join (command.directives.map Directive.fragment)

theorem configure?_of_ne_nil {program : String} {directives : List Directive}
    (nonempty : directives ≠ []) :
    Command.configure? program directives = some ⟨program, directives⟩ := by
  cases directives with
  | nil => exact absurd rfl nonempty
  | cons first rest => rfl

end Testbed.Vtysh
