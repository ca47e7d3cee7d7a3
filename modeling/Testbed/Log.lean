/-!
# Log entries

A run reports what it does as a list of entries, in the order in which they arise. The entries are
values like any other result: a function that reports returns its entries beside its answer.
-/

namespace Testbed

inductive Level where
  | error
  | warn
  | info
  | debug
  | trace
deriving DecidableEq, Repr

def Level.label : Level → String
  | .error => "ERROR"
  | .warn => "WARN"
  | .info => "INFO"
  | .debug => "DEBUG"
  | .trace => "TRACE"

structure LogEntry where
  level : Level
  message : String
deriving DecidableEq, Repr

def LogEntry.render (entry : LogEntry) : String :=
  entry.level.label ++ " " ++ entry.message

/-- The entries of a run, oldest first. -/
abbrev Log := List LogEntry

/-- An entry about a node, whose name stands in brackets before the message. -/
def LogEntry.about (node : String) (level : Level) (message : String) : LogEntry :=
  ⟨level, "[" ++ node ++ "] " ++ message⟩

end Testbed
