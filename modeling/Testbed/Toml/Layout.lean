import Testbed.Toml.Document

/-!
# The table that the blocks of a document lay out

The path of a header names the table to which the members of its block belong. The headers of one
table may stand far apart, so the blocks are grouped by the first key of their paths, and each group
lays out one member: an array if its first header is that of an array, and a table otherwise.

The headers of a table are checked while it is read. A header may not repeat the one that opened
the table, nor turn the table into an array. The table ends where it is defective, and the defect
is kept there.

Results: `weight_sublist` and `weight_behind` (following a path makes blocks lighter, so laying out
ends).
-/

namespace Testbed.Toml

/-- The members of a table as far as they can be read, and what is wrong behind them. -/
structure Entries where
  members : List (String × Value)
  defect : Option Defect

def Entries.after (entries : Entries) (members : List (String × Value)) : Entries :=
  ⟨members ++ entries.members, entries.defect⟩

def Entries.table (entries : Entries) : Value := .table (.headed entries.defect) entries.members

/-- The block as it stands in the member of a key, if its path starts with the key. -/
def Block.behind? (key : String) (block : Block) : Option Block :=
  match block.path with
  | [] => none
  | first :: path => if first = key then some { block with path } else none

/-- The blocks that lay out the member of a key. -/
def behind (key : String) (blocks : List Block) : List Block :=
  blocks.filterMap (Block.behind? key)

/-- The blocks that lay out the other members. -/
def beside (key : String) (blocks : List Block) : List Block :=
  blocks.filter fun block => (block.behind? key).isNone

/-- Whether a header opens a new element of the array whose blocks are grouped. -/
def Block.opensElement (block : Block) : Bool := block.isArray && block.path.isEmpty

/-- The number of keys in the paths of blocks, and one for each block. -/
def weight : List Block → Nat
  | [] => 0
  | block :: blocks => block.path.length + 1 + weight blocks

@[simp] theorem weight_cons (block : Block) (blocks : List Block) :
    weight (block :: blocks) = block.path.length + 1 + weight blocks :=
  rfl

theorem weight_sublist {some all : List Block} (isPart : some.Sublist all) :
    weight some ≤ weight all := by
  induction isPart with
  | slnil => exact Nat.le_refl _
  | cons block _ ih => rw [weight_cons]; omega
  | cons_cons block _ ih => rw [weight_cons, weight_cons]; omega

theorem weight_behind (key : String) (blocks : List Block) :
    weight (behind key blocks) ≤ weight blocks := by
  unfold behind
  induction blocks with
  | nil => exact Nat.le_refl _
  | cons block blocks ih =>
    rw [List.filterMap_cons, weight_cons]
    split
    · omega
    · rename_i inner isBehind
      unfold Block.behind? at isBehind
      split at isBehind
      · simp at isBehind
      · rename_i isPath
        split at isBehind
        · obtain rfl := Option.some.inj isBehind
          rw [weight_cons, isPath, List.length_cons]
          dsimp only
          omega
        · simp at isBehind

theorem weight_beside (key : String) (blocks : List Block) :
    weight (beside key blocks) ≤ weight blocks :=
  weight_sublist List.filter_sublist

/-- The header against which the following ones are compared: the shortest one so far. -/
def nearer (opening : Option (List String)) (path : List String) : List String :=
  match opening with
  | none => path
  | some opening => if path.length < opening.length then path else opening

mutual

/-- The entries that blocks lay out in the table that the given header opened. -/
def entries (opening : Option (List String)) (blocks : List Block) : Entries :=
  match blocks with
  | [] => ⟨[], none⟩
  | block :: later =>
    if opening = some block.path then ⟨[], some .repeated⟩
    else
      match _isPath : block.path with
      | [] =>
        if block.isArray then ⟨[], some .becomesArray⟩
        else (entries (some (nearer opening [])) later).after block.members
      | key :: path =>
        let group := { block with path } :: behind key later
        let member := if block.isArray && path.isEmpty then .array (elements group)
          else (entries none group).table
        (entries (some (nearer opening (key :: path))) (beside key later)).after [(key, member)]
termination_by weight blocks
decreasing_by
  · rw [weight_cons]
    omega
  · have := weight_behind key later
    rw [weight_cons, weight_cons, _isPath, List.length_cons]
    dsimp only
    omega
  · have := weight_behind key later
    rw [weight_cons, weight_cons, _isPath, List.length_cons]
    dsimp only
    omega
  · have := weight_beside key later
    rw [weight_cons]
    omega

/-- The elements that the blocks of an array lay out. Each opens with a header of the array. -/
def elements (blocks : List Block) : List Value :=
  match blocks with
  | [] => []
  | first :: later =>
    let inside := later.takeWhile fun block => !block.opensElement
    let element := ((entries (some []) inside).after first.members).table
    element :: elements (later.dropWhile fun block => !block.opensElement)
termination_by weight blocks
decreasing_by
  · have := weight_sublist (List.takeWhile_sublist (fun block => !block.opensElement) (l := later))
    rw [weight_cons]
    omega
  · have := weight_sublist (List.dropWhile_sublist (fun block => !block.opensElement) (l := later))
    rw [weight_cons]
    omega

end

/-- The table that a document stands for, or nothing if it is malformed. -/
def parse? (document : String) : Option Value :=
  (blocksOf? document).map fun blocks => (entries none blocks).table

end Testbed.Toml
