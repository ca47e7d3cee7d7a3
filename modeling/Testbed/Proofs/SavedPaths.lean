import Testbed.Replay.Routers

/-!
# Paths of saved configurations

A saved configuration stands in a file below a folder that is named like its router. Putting a path
together treats an empty folder, a slash at its end and a path from the root in ways of their own.
With a name that a folder can hold none of this matters: a file below the folder is reached through
the folder, and different names lead to different paths.

Results:
1. `resolve_join`: how what stands below a folder is reached through the folder.
2. `savedPath_injective`: a path determines the router and the daemon.
3. `daemon_of_savedPath`: for one router the path determines the daemon, whatever the router is
   called.
-/

namespace Testbed.Files

open Testbed.Text

/-- What a folder can hold under its own name. -/
structure IsName (name : String) : Prop where
  nonempty : name ≠ ""
  not_dot : name ≠ "."
  not_dots : name ≠ ".."
  no_slash : '/' ∉ name.toList
  no_nul : '\x00' ∉ name.toList

instance (name : String) : Decidable (IsName name) :=
  decidable_of_iff
    (name ≠ "" ∧ name ≠ "." ∧ name ≠ ".." ∧ '/' ∉ name.toList ∧ '\x00' ∉ name.toList)
    ⟨fun ⟨nonempty, dot, dots, slash, nul⟩ => ⟨nonempty, dot, dots, slash, nul⟩,
      fun ⟨nonempty, dot, dots, slash, nul⟩ => ⟨nonempty, dot, dots, slash, nul⟩⟩

namespace IsName

variable {name : String}

theorem relative (isName : IsName name) : isAbsolute name = false := by
  rw [isAbsolute, beq_eq_false_iff_ne]
  exact fun isFirst => isName.no_slash (List.mem_of_head? isFirst)

theorem pieces_eq (isName : IsName name) : pieces '/' name.toList = [name.toList] :=
  pieces_of_not_mem isName.no_slash

theorem getLast?_ne (isName : IsName name) : name.toList.getLast? ≠ some '/' :=
  fun isLast => isName.no_slash (List.mem_of_getLast? isLast)

end IsName

/-! ## Putting paths together -/

/-- What stands in front of a path that is put below the folder. -/
def stem (folder : String) : String :=
  if folder.isEmpty || folder.toList.getLast? == some '/' then folder else folder ++ "/"

theorem join_eq_stem {path : String} (relative : isAbsolute path = false) (folder : String) :
    join folder path = stem folder ++ path := by
  rw [join, if_neg (by simp [relative]), stem]
  split <;> rfl

theorem join_injective {folder left right : String} (isLeft : isAbsolute left = false)
    (isRight : isAbsolute right = false) (same : join folder left = join folder right) :
    left = right := by
  rw [join_eq_stem isLeft, join_eq_stem isRight] at same
  exact String.append_right_inj _ |>.mp same

theorem stem_of_name {name : String} (isName : IsName name) (front : String) :
    stem (front ++ name) = front ++ name ++ "/" := by
  have named : (front ++ name).isEmpty = false := by
    simp [isName.nonempty]
  have isOpen : ((front ++ name).toList.getLast? == some '/') = false := by
    rw [beq_eq_false_iff_ne, String.toList_append, List.getLast?_append,
      Option.or_of_isSome (by simp [isName.nonempty])]
    exact isName.getLast?_ne
  rw [stem, named, isOpen]
  rfl

/-- A path below a named folder stands below the folder of that folder. -/
theorem join_join {name path : String} (isName : IsName name)
    (relative : isAbsolute path = false) (folder : String) :
    join (join folder name) path = stem folder ++ (name ++ "/" ++ path) := by
  rw [join_eq_stem relative, join_eq_stem isName.relative, stem_of_name isName]
  simp only [String.append_assoc]

/-- The two forms of a folder: nothing, or a part with a slash behind it, which may be left out. -/
theorem stem_cases (folder : String) :
    folder = "" ∧ stem folder = "" ∨
      ∃ front, (stem folder).toList = front ++ ['/'] ∧
        (folder.toList = front ∧ front ≠ [] ∨ folder.toList = front ++ ['/']) := by
  by_cases named : folder = ""
  · exact .inl ⟨named, by rw [named]; rfl⟩
  · by_cases ended : folder.toList.getLast? = some '/'
    · obtain ⟨front, isFront⟩ := List.getLast?_eq_some_iff.mp ended
      refine .inr ⟨front, ?_, .inr isFront⟩
      rw [stem, if_pos (by simp [ended]), isFront]
    · refine .inr ⟨folder.toList, ?_, .inl ⟨rfl, by simpa using named⟩⟩
      rw [stem, if_neg (by simp [named, ended]), String.toList_append]
      rfl

/-! ## Following paths -/

/-- The pieces of a path, which are followed one after the other. -/
def names (path : List Char) : List String := (pieces '/' path).map String.ofList

theorem names_of_name {name : String} (isName : IsName name) : names name.toList = [name] := by
  rw [names, isName.pieces_eq, List.map_singleton, String.ofList_toList]

theorem names_slash (earlier later : List Char) :
    names (earlier ++ '/' :: later) = names earlier ++ names later := by
  rw [names, pieces_separator, List.map_append, names, names]

/-- The folder from which a path is followed. -/
def origin (working : List String) (path : List Char) : List String :=
  if path.head? == some '/' then [] else working

theorem origin_slash {folder : String} {front : List Char}
    (isFolder : folder.toList = front ∧ front ≠ [] ∨ folder.toList = front ++ ['/'])
    (working : List String) (rest : List Char) :
    origin working (front ++ '/' :: rest) = origin working folder.toList := by
  rcases isFolder with ⟨isFolder, nonempty⟩ | isFolder
  · obtain ⟨first, others, isFront⟩ := List.exists_cons_of_ne_nil nonempty
    rw [isFolder, isFront]
    rfl
  · rw [isFolder]
    cases front <;> rfl

namespace Tree

theorem resolve_eq (tree : Tree) (working : List String) (path : String) :
    tree.resolve working path =
      (names path.toList).foldlM tree.follow (.folder (origin working path.toList)) :=
  rfl

/-- A slash at the end of a folder's path makes no difference to what stands below. -/
theorem follow_empty (tree : Tree) (place : Place) (name : String) :
    (tree.follow place "" >>= fun place => tree.follow place name) = tree.follow place name := by
  cases place <;> rfl

/-- What stands below a folder is found by following its name from there. -/
theorem resolve_join (tree : Tree) {name : String} (isName : IsName name) (working : List String)
    (folder : String) :
    tree.resolve working (join folder name) =
      tree.resolve working folder >>= fun place => tree.follow place name := by
  rw [join_eq_stem isName.relative, resolve_eq, resolve_eq, String.toList_append]
  rcases stem_cases folder with ⟨rfl, isStem⟩ | ⟨front, isStem, isFolder⟩
  · have isOrigin : origin working name.toList = working := by
      rw [origin, ← isAbsolute, isName.relative]
      rfl
    rw [isStem, String.toList_empty, List.nil_append, names_of_name isName, isOrigin]
    exact bind_pure _
  · rw [isStem, List.append_assoc, List.singleton_append, names_slash, names_of_name isName,
      List.foldlM_append, origin_slash isFolder]
    rcases isFolder with ⟨isFolder, -⟩ | isFolder
    · rw [isFolder]
      simp
    · have isNames : names folder.toList = names front ++ [""] := by
        rw [isFolder, names_slash]
        rfl
      rw [isNames, List.foldlM_append]
      simp [follow_empty]

end Tree

end Testbed.Files

namespace Testbed.Replay

open Testbed.Files

/-! ## Saved configurations -/

theorem isName_fileName (daemon : Daemon) : IsName daemon.fileName := by
  cases daemon <;> decide

theorem fileName_injective {left right : Daemon} (same : left.fileName = right.fileName) :
    left = right := by
  cases left <;> cases right <;> first | rfl | exact absurd same (by decide)

/-- The files of a router are different files, whatever the router is called. -/
theorem daemon_of_savedPath {folder router : String} {daemon other : Daemon}
    (same : savedPath folder router daemon = savedPath folder router other) : daemon = other :=
  fileName_injective
    (join_injective (isName_fileName daemon).relative (isName_fileName other).relative same)

/-- A path determines the router and the daemon. -/
theorem savedPath_injective {folder router other : String} {daemon otherDaemon : Daemon}
    (isName : IsName router) (isOther : IsName other)
    (same : savedPath folder router daemon = savedPath folder other otherDaemon) :
    router = other ∧ daemon = otherDaemon := by
  have isFile := isName_fileName daemon
  have isOtherFile := isName_fileName otherDaemon
  rw [savedPath, savedPath, join_join isName isFile.relative, join_join isOther isOtherFile.relative,
    String.append_right_inj] at same
  have sameNames := congrArg (fun path => names path.toList) same
  simp only [String.append_assoc, String.toList_append] at sameNames
  have isSlash : "/".toList = ['/'] := rfl
  rw [isSlash, List.singleton_append, List.singleton_append, names_slash, names_slash,
    names_of_name isName, names_of_name isOther, names_of_name isFile,
    names_of_name isOtherFile] at sameNames
  injection sameNames with sameRouter sameFile
  exact ⟨sameRouter, fileName_injective (List.cons.inj sameFile).1⟩

end Testbed.Replay
