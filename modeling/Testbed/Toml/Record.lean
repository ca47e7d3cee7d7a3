import Testbed.Number.Shortest
import Testbed.Text.Escape
import Testbed.Toml.Value

/-!
# Records in TOML values

A record is written as a table with a member for every field, or as an array with the values of the
fields in their order. The members of a table may stand in any order, and members that are no field
are passed over. What is read first is also complained about first.

A field adds what it reads to a draft of the record. So a record may leave out fields, and only the
finished draft shows which ones are missing.

Results: `record_keeps` (what every field keeps of a draft, the record keeps).
-/

namespace Testbed.Toml

open Testbed.Text

/-- Why a value is not what it should be. A field may refuse a value for a reason of its own. -/
inductive Mismatch (Reason : Type) where
  | defective (defect : Defect)
  | repeatedField (name : String)
  | missingField (name : String)
  | wrongType (found : Value) (expected : String)
  | outOfRange (found : Int) (expected : String)
  | wrongLength (length : Nat) (expected : String)
  | refused (reason : Reason)
deriving Repr

/-- A value as messages show it. Dates are read like tables and called so too. -/
def Value.describe : Value → String
  | .string text => "string " ++ quoted text
  | .integer value => "integer `" ++ toString value ++ "`"
  | .float value => "floating point `" ++ value.render ++ "`"
  | .boolean value => "boolean `" ++ toString value ++ "`"
  | .array _ => "sequence"
  | .date | .table _ _ => "map"

/-- What is reported about a value that does not fit. A defective table and a repeated field spoil
the document itself, about which nothing more is said. -/
def Mismatch.message? {Reason : Type} (explain : Reason → String) :
    Mismatch Reason → Option String
  | .defective _ | .repeatedField _ => none
  | .missingField name => some ("missing field `" ++ name ++ "`")
  | .wrongType found expected =>
    some ("invalid type: " ++ found.describe ++ ", expected " ++ expected)
  | .outOfRange found expected =>
    some ("invalid value: " ++ (Value.integer found).describe ++ ", expected " ++ expected)
  | .wrongLength length expected =>
    some ("invalid length " ++ toString length ++ ", expected " ++ expected)
  | .refused reason => some (explain reason)

/-- What a value is read as, or why it does not fit. -/
abbrev Reading (Reason Part : Type) := Value → Except (Mismatch Reason) Part

/-- A field of a record: its name, and how its value is added to a draft. -/
structure Field (Reason Draft : Type) where
  name : String
  add : Draft → Reading Reason Draft

/-- A field with a reading of its own, and where a draft keeps what was read. -/
def Field.of {Reason Draft Part : Type} (name : String) (read : Reading Reason Part)
    (keep : Draft → Part → Draft) : Field Reason Draft :=
  ⟨name, fun draft value => (read value).map (keep draft)⟩

theorem Field.exists_of_add {Reason Draft Part : Type} {name : String} {read : Reading Reason Part}
    {keep : Draft → Part → Draft} {draft next : Draft} {value : Value}
    (added : (Field.of name read keep).add draft value = .ok next) :
    ∃ part, read value = .ok part ∧ keep draft part = next := by
  cases isRead : read value with
  | error mismatch => simp [Field.of, isRead, Except.map] at added
  | ok part => exact ⟨part, rfl, by simpa [Field.of, isRead, Except.map] using added⟩

section Reading

variable {Reason Draft : Type}

/-- Adds the members of a table to a draft that already has the fields seen. -/
def readMembers (fields : List (Field Reason Draft)) :
    List (String × Value) → List String → Draft → Except (Mismatch Reason) Draft
  | [], _, draft => .ok draft
  | (key, value) :: later, seen, draft =>
    match fields.find? fun field => field.name = key with
    | none =>
      match value.defect? with
      | some defect => .error (.defective defect)
      | none => readMembers fields later seen draft
    | some field =>
      if key ∈ seen then .error (.repeatedField key)
      else do readMembers fields later (key :: seen) (← field.add draft value)

/-- Adds the values of an array to a draft, field by field. The array may end early. -/
def readItems : List (Field Reason Draft) → List Value → Draft → Except (Mismatch Reason) Draft
  | field :: fields, item :: items, draft => do readItems fields items (← field.add draft item)
  | _, _, draft => .ok draft

def record (fields : List (Field Reason Draft)) (expected : String) (blank : Draft) :
    Reading Reason Draft
  | .table form members => do
    let draft ← readMembers fields members [] blank
    match form.defect? with
    | some defect => .error (.defective defect)
    | none => .ok draft
  | .date => .ok blank
  | .array items => do
    let draft ← readItems fields items blank
    if fields.length < items.length then
      .error (.wrongLength items.length (toString fields.length ++ " elements in sequence"))
    else .ok draft
  | value => .error (.wrongType value expected)

theorem readMembers_keeps (holds : Draft → Prop) {fields : List (Field Reason Draft)}
    (keeps : ∀ field ∈ fields, ∀ draft value next, holds draft →
      field.add draft value = .ok next → holds next)
    {members : List (String × Value)} {seen : List String} {draft next : Draft}
    (before : holds draft) (read : readMembers fields members seen draft = .ok next) :
    holds next := by
  fun_induction readMembers fields members seen draft with
  | case1 => exact Except.ok.inj read ▸ before
  | case2 => simp at read
  | case3 _ _ _ _ _ _ _ ih => exact ih before read
  | case4 => simp at read
  | case5 _ _ _ _ _ _ found _ ih =>
    simp only [bind, Except.bind] at read
    split at read
    · simp at read
    · rename_i added isAdded
      exact ih added (keeps _ (List.mem_of_find?_eq_some found) _ _ _ before isAdded) read

/-- What every other field keeps of a draft stays once a field has been read. -/
theorem readMembers_keeps_of_seen (holds : Draft → Prop) {fields : List (Field Reason Draft)}
    {name : String}
    (keeps : ∀ field ∈ fields, field.name ≠ name → ∀ draft value next, holds draft →
      field.add draft value = .ok next → holds next)
    {members : List (String × Value)} {seen : List String} {draft next : Draft}
    (isSeen : name ∈ seen) (before : holds draft)
    (read : readMembers fields members seen draft = .ok next) : holds next := by
  fun_induction readMembers fields members seen draft with
  | case1 => exact Except.ok.inj read ▸ before
  | case2 => simp at read
  | case3 _ _ _ _ _ _ _ ih => exact ih isSeen before read
  | case4 => simp at read
  | case5 key _ _ _ _ field found unseen ih =>
    simp only [bind, Except.bind] at read
    split at read
    · simp at read
    · rename_i added isAdded
      have isKey : field.name = key := by simpa using List.find?_some found
      have other : field.name ≠ name := fun isName => unseen (isKey ▸ isName ▸ isSeen)
      exact ih added (.tail _ isSeen)
        (keeps _ (List.mem_of_find?_eq_some found) other _ _ _ before isAdded) read

theorem readItems_keeps (holds : Draft → Prop) {fields : List (Field Reason Draft)}
    (keeps : ∀ field ∈ fields, ∀ draft value next, holds draft →
      field.add draft value = .ok next → holds next)
    {items : List Value} {draft next : Draft}
    (before : holds draft) (read : readItems fields items draft = .ok next) : holds next := by
  fun_induction readItems fields items draft with
  | case1 field fields item items draft ih =>
    simp only [bind, Except.bind] at read
    split at read
    · simp at read
    · rename_i added isAdded
      exact ih added (fun field isField => keeps field (.tail _ isField))
        (keeps field (.head _) _ _ _ before isAdded) read
  | case2 => exact Except.ok.inj read ▸ before

theorem record_keeps (holds : Draft → Prop) {fields : List (Field Reason Draft)}
    (keeps : ∀ field ∈ fields, ∀ draft value next, holds draft →
      field.add draft value = .ok next → holds next)
    {expected : String} {blank next : Draft} {value : Value} (before : holds blank)
    (read : record fields expected blank value = .ok next) : holds next := by
  unfold record at read
  split at read
  · simp only [bind, Except.bind] at read
    split at read
    · simp at read
    · rename_i isRead
      split at read
      · simp at read
      · exact Except.ok.inj read ▸ readMembers_keeps holds keeps before isRead
  · exact Except.ok.inj read ▸ before
  · simp only [bind, Except.bind] at read
    split at read
    · simp at read
    · rename_i isRead
      split at read
      · simp at read
      · exact Except.ok.inj read ▸ readItems_keeps holds keeps before isRead
  · simp at read

def sequence {Part : Type} (read : Reading Reason Part) : Reading Reason (List Part)
  | .array items => items.mapM read
  | value => .error (.wrongType value "a sequence")

def text : Reading Reason String
  | .string text => .ok text
  | value => .error (.wrongType value "a string")

def boolean : Reading Reason Bool
  | .boolean value => .ok value
  | value => .error (.wrongType value "a boolean")

def octet : Reading Reason UInt8
  | .integer value =>
    if 0 ≤ value ∧ value < 256 then .ok (UInt8.ofNat value.toNat)
    else .error (.outOfRange value "u8")
  | value => .error (.wrongType value "u8")

end Reading

end Testbed.Toml
