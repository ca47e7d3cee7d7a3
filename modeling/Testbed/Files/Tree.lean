import Testbed.Text.Pieces
import Testbed.Text.Utf8

/-!
# Files and paths

A tree of files, and what reading a path gives. A path that starts with a slash is followed from the
root, and any other from the working folder. It is resolved component by component from the left, so
a missing folder is found missing even if a later component leaves it again.
-/

namespace Testbed.Files

open Testbed.Text

/-- Why a file could not be read. -/
inductive ReadError where
  | notFound
  | isFolder
  | notFolder
  | nameTooLong
  | nulByte
  | notText
  | other (text : String)
deriving DecidableEq, Repr

def ReadError.message : ReadError → String
  | .notFound => "No such file or directory (os error 2)"
  | .isFolder => "Is a directory (os error 21)"
  | .notFolder => "Not a directory (os error 20)"
  | .nameTooLong => "File name too long (os error 36)"
  | .nulByte => "file name contained an unexpected NUL byte"
  | .notText => "stream did not contain valid UTF-8"
  | .other text => text

/-- How files are read: the text behind a path, or why there is none. -/
abbrev Reader := String → Except ReadError String

def isAbsolute (path : String) : Bool := path.toList.head? == some '/'

/-- A path below a folder. An absolute path stands for itself. Between the two parts stands exactly
one slash if the folder has a name that does not end in one. -/
def join (folder path : String) : String :=
  if isAbsolute path then path
  else if folder.isEmpty || folder.toList.getLast? == some '/' then folder ++ path
  else folder ++ "/" ++ path

inductive Content where
  | file (bytes : List UInt8)
  | folder
deriving DecidableEq, Repr

/-- Files and empty folders by the components of their paths from the root. The folders in between
are implied. -/
structure Tree where
  entries : List (List String × Content)
deriving DecidableEq, Repr

/-- How far a path has been followed. -/
inductive Place where
  | file (bytes : List UInt8)
  | folder (components : List String)
deriving DecidableEq, Repr

def maxNameLength : Nat := 255

/-- The length from which a path is refused, in bytes. -/
def pathLengthLimit : Nat := 4096

/-- The components of a path: its nonempty pieces, without the dots that stay in a folder. -/
def components (path : String) : List String :=
  ((pieces '/' path.toList).map String.ofList).filter fun name => name != "" && name != "."

/-- The working folder of a run to which its files are given by relative paths. -/
def home : List String := ["tmp", "testbed"]

namespace Tree

/-- The tree with one more entry below `home`. -/
def add (tree : Tree) (path : String) (content : Content) : Tree :=
  ⟨tree.entries ++ [(home ++ components path, content)]⟩

def lookup (tree : Tree) (path : List String) : Except ReadError Place :=
  match tree.entries.lookup path with
  | some (.file bytes) => .ok (.file bytes)
  | some .folder => .ok (.folder path)
  | none =>
    if tree.entries.any fun entry => path.isPrefixOf entry.1 then .ok (.folder path)
    else .error .notFound

/-- Follows one component of a path. The root stands above itself. -/
def follow (tree : Tree) (place : Place) (name : String) : Except ReadError Place :=
  match place with
  | .file _ => .error .notFolder
  | .folder path =>
    if name = "" ∨ name = "." then .ok place
    else if name = ".." then .ok (.folder path.dropLast)
    else if maxNameLength < name.utf8ByteSize then .error .nameTooLong
    else tree.lookup (path ++ [name])

/-- Where a path leads from the working folder. -/
def resolve (tree : Tree) (working : List String) (path : String) : Except ReadError Place :=
  ((pieces '/' path.toList).map String.ofList).foldlM tree.follow
    (.folder (if isAbsolute path then [] else working))

/-- Reads the file behind a path as text. -/
def readIn (tree : Tree) (working : List String) : Reader := fun path => do
  if path.toList.contains '\x00' then throw .nulByte
  if path.isEmpty then throw .notFound
  if pathLengthLimit ≤ path.utf8ByteSize then throw .nameTooLong
  match ← tree.resolve working path with
  | .file bytes => (Utf8.decode bytes).mapError fun _ => .notText
  | .folder _ => throw .isFolder

/-- Reads files in the working folder `home`. -/
def read (tree : Tree) : Reader := tree.readIn home

end Tree

end Testbed.Files
