import Testbed.Number.Binary64

/-!
# Values of a TOML document

A value is a scalar, an array or a table. The members of a table stand in the order in which they
are read, and a key may occur twice: what that means is for the reader of the table to say.

A table that headers spread over a document can be defective: a header repeats another, or makes an
array of what was a table. The defect is met after the members in front of it, so it is kept at the
end of the table, and whoever reads the members in order meets it at its place.
-/

namespace Testbed.Toml

inductive Defect where
  | repeated
  | becomesArray
deriving DecidableEq, Repr

/-- How a table is written. Only a table of dotted keys can be extended by further keys. -/
inductive TableForm where
  | inline
  | dotted
  | headed (defect : Option Defect)
deriving DecidableEq, Repr

/-- The defect that ends a table. -/
def TableForm.defect? : TableForm → Option Defect
  | .headed defect => defect
  | _ => none

/-- A value. Of a date only that it is one is kept. -/
inductive Value where
  | string (text : String)
  | integer (value : Int)
  | float (value : Number.Binary64)
  | boolean (value : Bool)
  | date
  | array (items : List Value)
  | table (form : TableForm) (members : List (String × Value))
deriving Repr

mutual

/-- The first defect of a value, in reading order. -/
def Value.defect? : Value → Option Defect
  | .array items => firstDefect? items
  | .table form members => (memberDefect? members).or form.defect?
  | _ => none

def firstDefect? : List Value → Option Defect
  | [] => none
  | value :: later => value.defect?.or (firstDefect? later)

def memberDefect? : List (String × Value) → Option Defect
  | [] => none
  | member :: later => member.2.defect?.or (memberDefect? later)

end

/-- The members of a table with the value at the end of a path of keys added. Tables along the path
are made where they are missing, and only tables of dotted keys can be extended. -/
def insert (value : Value) : List String → List (String × Value) → Option (List (String × Value))
  | [], _ => none
  | [key], members => some (members ++ [(key, value)])
  | key :: next :: path, members =>
    match members.span fun member => member.1 != key with
    | (before, []) => do
      let inner ← insert value (next :: path) []
      return before ++ [(key, .table .dotted inner)]
    | (before, (_, .table .dotted inner) :: after) => do
      let inner ← insert value (next :: path) inner
      return before ++ (key, .table .dotted inner) :: after
    | (_, _ :: _) => none

end Testbed.Toml
