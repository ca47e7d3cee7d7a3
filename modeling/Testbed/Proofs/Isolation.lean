import Mathlib.Data.List.Forall2
import Testbed.Proofs.Abort
import Testbed.Proofs.Journal
import Testbed.Proofs.SavedPaths

/-!
# Routers and the files of others

A router is replayed from the files in its own folder. If files change in the folder of one router,
the other routers are replayed as before, and the changed router does not see the files of the
others.

A path is followed by what the folders hold, so a change could send it elsewhere. It cannot as long
as the files are found: a path that leads through folders only leads to the same folder in every
tree (`folder_eq_of_resolve`). The folder of the lab may be given from the root or from the working
folder, and its path may leave folders and enter them again.

Results:
1. `read_eq_of_agreeOutside`: a file outside the folder that changes is read as before.
2. `agreeOutside_of_alike`: trees with the same paths agree where their contents do.
3. `calls_filter_congr`: the calls for some of the routers follow from the texts of these routers.
4. `routers_isolated`: the above for two replays.
-/

namespace Testbed.Files

open Testbed.Text

/-- The trees hold the same at every place but the given one and those below it. -/
def Tree.AgreeOutside (place : List String) (tree other : Tree) : Prop :=
  ∀ path, ¬ place <+: path → tree.lookup path = other.lookup path

/-- Where a name leads from a place in a tree that has a folder of this name. -/
def Place.lexical (place : Place) (name : String) : Place :=
  match place with
  | .folder path =>
    if name = "" ∨ name = "." then place
    else if name = ".." then .folder path.dropLast
    else .folder (path ++ [name])
  | .file _ => place

theorem bind_eq_ok {ε α β : Type} {first : Except ε α} {next : α → Except ε β} {b : β}
    (succeeds : (first >>= next) = .ok b) : ∃ a, first = .ok a ∧ next a = .ok b := by
  cases first with
  | error cause => cases succeeds
  | ok a => exact ⟨a, rfl, succeeds⟩

namespace Tree

variable {tree other : Tree}

/-! ## Places -/

theorem lookup_eq_ok {path : List String} {place : Place} (found : tree.lookup path = .ok place) :
    (∃ bytes, place = .file bytes) ∨ place = .folder path := by
  unfold lookup at found
  split at found
  · exact .inl ⟨_, (Except.ok.inj found).symm⟩
  · exact .inr (Except.ok.inj found).symm
  · split at found
    · exact .inr (Except.ok.inj found).symm
    · cases found

/-- A step leads to a file, or to where it leads in every tree. -/
theorem follow_eq_ok {place landed : Place} {name : String}
    (found : tree.follow place name = .ok landed) :
    (∃ bytes, landed = .file bytes) ∨ landed = place.lexical name := by
  cases place with
  | file bytes => cases found
  | folder path =>
    simp only [follow] at found
    simp only [Place.lexical]
    split at found
    · rename_i stays
      exact .inr ((Except.ok.inj found).symm.trans (if_pos stays).symm)
    · rename_i moves
      rw [if_neg moves]
      split at found
      · rename_i isUp
        exact .inr ((Except.ok.inj found).symm.trans (if_pos isUp).symm)
      · rename_i isDown
        rw [if_neg isDown]
        split at found
        · cases found
        · exact lookup_eq_ok found

theorem foldlM_follow_file (tree : Tree) {bytes : List UInt8} {path : List String} {landed : Place}
    (found : path.foldlM tree.follow (.file bytes) = .ok landed) : landed = .file bytes := by
  cases path with
  | nil => exact (Except.ok.inj found).symm
  | cons name rest => cases found

theorem foldlM_follow_eq_ok {place landed : Place} {path : List String}
    (found : path.foldlM tree.follow place = .ok landed) :
    (∃ bytes, landed = .file bytes) ∨ landed = path.foldl Place.lexical place := by
  induction path generalizing place with
  | nil => exact .inr (Except.ok.inj found).symm
  | cons name rest ih =>
    rw [List.foldlM_cons] at found
    obtain ⟨next, isNext, isRest⟩ := bind_eq_ok found
    rcases follow_eq_ok isNext with ⟨bytes, rfl⟩ | rfl
    · exact .inl ⟨bytes, foldlM_follow_file tree isRest⟩
    · exact ih isRest

/-- A path to a folder leads to the same folder in every tree in which it leads to one. -/
theorem folder_eq_of_resolve {working : List String} {path : String}
    {components others : List String}
    (found : tree.resolve working path = .ok (.folder components))
    (foundToo : other.resolve working path = .ok (.folder others)) : components = others := by
  rw [resolve_eq] at found foundToo
  rcases foldlM_follow_eq_ok found with ⟨bytes, isFile⟩ | isPlace
  · cases isFile
  · rcases foldlM_follow_eq_ok foundToo with ⟨bytes, isFile⟩ | isOther
    · cases isFile
    · exact Place.folder.inj (isPlace.trans isOther.symm)

/-! ## Trees that differ in one folder -/

/-- An entry that may hold something else at the same path if the path leads into the folder. -/
def AlikeOutside (place : List String) (entry other : List String × Content) : Prop :=
  entry.1 = other.1 ∧ (place <+: entry.1 ∨ entry.2 = other.2)

theorem paths_of_alike {place : List String} {entries others : List (List String × Content)}
    (alike : List.Forall₂ (AlikeOutside place) entries others) :
    entries.map Prod.fst = others.map Prod.fst := by
  induction alike with
  | nil => rfl
  | cons first _ ih => rw [List.map_cons, List.map_cons, first.1, ih]

theorem lookup_of_alike {place path : List String} {entries others : List (List String × Content)}
    (outside : ¬ place <+: path) (alike : List.Forall₂ (AlikeOutside place) entries others) :
    entries.lookup path = others.lookup path := by
  induction alike with
  | nil => rfl
  | @cons entry other rest later first _ ih =>
    obtain ⟨at_, content⟩ := entry
    obtain ⟨atToo, contentToo⟩ := other
    obtain ⟨rfl, isBelow | rfl⟩ := first
    · have isOther : (path == at_) = false := by
        rw [beq_eq_false_iff_ne]
        rintro rfl
        exact outside isBelow
      rw [List.lookup_cons, List.lookup_cons, isOther]
      exact ih
    · rw [List.lookup_cons, List.lookup_cons, ih]

/-- Trees with the same paths, whose contents differ at most below one place, agree outside it. -/
theorem agreeOutside_of_alike {place : List String}
    (alike : List.Forall₂ (AlikeOutside place) tree.entries other.entries) :
    tree.AgreeOutside place other := by
  intro path outside
  have samePaths : (tree.entries.any fun entry => path.isPrefixOf entry.1) =
      other.entries.any fun entry => path.isPrefixOf entry.1 := by
    have mapped : ∀ entries : List (List String × Content),
        (entries.any fun entry => path.isPrefixOf entry.1) =
          (entries.map Prod.fst).any fun known => path.isPrefixOf known :=
      fun entries => List.any_map.symm
    rw [mapped, mapped, paths_of_alike alike]
  rw [lookup, lookup, lookup_of_alike outside alike, samePaths]

/-! ## Files below a folder -/

/-- A name is found only in a folder, and there under its own name. -/
theorem exists_folder_of_follow {place landed : Place} {name : String} (isName : IsName name)
    (found : tree.follow place name = .ok landed) :
    ∃ components, place = .folder components ∧
      tree.lookup (components ++ [name]) = .ok landed := by
  have moves : ¬ (name = "" ∨ name = ".") := not_or.mpr ⟨isName.nonempty, isName.not_dot⟩
  have isDown : ¬ name = ".." := isName.not_dots
  cases place with
  | file bytes => cases found
  | folder components =>
    refine ⟨components, rfl, ?_⟩
    simp only [follow, moves, isDown, if_false] at found
    split at found
    · cases found
    · exact found

/-- What stands below a folder under a name is held by the folder. -/
theorem exists_folder_of_resolve_join {working : List String} {folder name : String}
    {landed : Place} (isName : IsName name)
    (found : tree.resolve working (join folder name) = .ok landed) :
    ∃ components, tree.resolve working folder = .ok (.folder components) ∧
      tree.lookup (components ++ [name]) = .ok landed := by
  rw [resolve_join tree isName] at found
  obtain ⟨place, isPlace, isLanded⟩ := bind_eq_ok found
  obtain ⟨components, rfl, isHeld⟩ := exists_folder_of_follow isName isLanded
  exact ⟨components, isPlace, isHeld⟩

theorem parent_of_resolve_join {working : List String} {folder name : String}
    {place : List String} (isName : IsName name)
    (found : tree.resolve working (join folder name) = .ok (.folder place)) :
    ∃ components, tree.resolve working folder = .ok (.folder components) ∧
      place = components ++ [name] := by
  obtain ⟨components, isFolder, isHeld⟩ := exists_folder_of_resolve_join isName found
  refine ⟨components, isFolder, ?_⟩
  rcases lookup_eq_ok isHeld with ⟨bytes, isFile⟩ | isPlace
  · cases isFile
  · exact Place.folder.inj isPlace

theorem exists_file_of_read {working : List String} {path text : String}
    (found : tree.readIn working path = .ok text) :
    ∃ bytes, tree.resolve working path = .ok (.file bytes) ∧
      (Utf8.decode bytes).mapError (fun _ => ReadError.notText) = .ok text := by
  simp only [readIn] at found
  -- The path itself is not refused, so it is resolved.
  split at found
  · cases found
  split at found
  · cases found
  split at found
  · cases found
  obtain ⟨place, isPlace, found⟩ := bind_eq_ok found
  cases place with
  | file bytes => exact ⟨bytes, isPlace, found⟩
  | folder components => cases found

end Tree

end Testbed.Files

namespace Testbed.Replay

open Testbed.Files Testbed.Lab Testbed.Saved Testbed.Text

/-! ## Files of the routers -/

/-- A saved configuration that can be read stands in a folder of the router, below the folder of
the lab. -/
theorem exists_file_of_read_savedPath {tree : Tree} {working : List String}
    {folder router text : String} {daemon : Daemon} (isName : IsName router)
    (found : tree.readIn working (savedPath folder router daemon) = .ok text) :
    ∃ components bytes, tree.resolve working folder = .ok (.folder components) ∧
      tree.lookup (components ++ [router] ++ [daemon.fileName]) = .ok (.file bytes) ∧
      (Utf8.decode bytes).mapError (fun _ => ReadError.notText) = .ok text := by
  obtain ⟨bytes, resolved, isText⟩ := Tree.exists_file_of_read found
  obtain ⟨own, isOwn, isFile⟩ :=
    Tree.exists_folder_of_resolve_join (isName_fileName daemon) resolved
  obtain ⟨components, isFolder, rfl⟩ := Tree.parent_of_resolve_join isName isOwn
  exact ⟨components, bytes, isFolder, isFile, isText⟩

/-- If files change in the folder of one router, the files of another are read as before. -/
theorem read_eq_of_agreeOutside {tree other : Tree} {working : List String}
    {folder router name : String} {daemon : Daemon} {place : List String} {text changed : String}
    (isRouter : IsName router) (isName : IsName name) (apart : name ≠ router)
    (isPlace : tree.resolve working (join folder router) = .ok (.folder place))
    (agree : tree.AgreeOutside place other)
    (found : tree.readIn working (savedPath folder name daemon) = .ok text)
    (foundToo : other.readIn working (savedPath folder name daemon) = .ok changed) :
    text = changed := by
  obtain ⟨components, bytes, isFolder, isFile, isText⟩ := exists_file_of_read_savedPath isName found
  obtain ⟨others, otherBytes, isFolderToo, isFileToo, isChanged⟩ :=
    exists_file_of_read_savedPath isName foundToo
  obtain rfl := Tree.folder_eq_of_resolve isFolder isFolderToo
  -- The folder that changes stands beside the one with this file.
  obtain ⟨parent, isParent, rfl⟩ := Tree.parent_of_resolve_join isRouter isPlace
  rw [isFolder] at isParent
  obtain rfl := Place.folder.inj (Except.ok.inj isParent)
  have outside : ¬ components ++ [router] <+: components ++ [name] ++ [daemon.fileName] := by
    rw [List.append_assoc, List.prefix_append_right_inj, List.singleton_append]
    intro isBelow
    exact apart (List.cons_prefix_cons.mp isBelow).1.symm
  rw [← agree _ outside, isFile] at isFileToo
  cases isFileToo
  exact Except.ok.inj (isText.symm.trans isChanged)

/-! ## Calls of the routers -/

theorem Contents.isReplayed_congr {contents other : Contents} {scope : Scope} {router : String}
    (same : ∀ source ∈ scope.sources, contents router source.1 = other router source.1) :
    contents.isReplayed scope router = other.isReplayed scope router := by
  rw [Bool.eq_iff_iff, isReplayed, isReplayed, List.any_eq_true, List.any_eq_true]
  refine exists_congr fun source => and_congr_right fun isSource => ?_
  rw [same source isSource]

theorem Contents.call_congr {contents other : Contents} {scope : Scope} {router : String}
    (same : ∀ source ∈ scope.sources, contents router source.1 = other router source.1)
    (settings : Settings) :
    contents.call settings scope router = other.call settings scope router := by
  have texts : contents.texts scope router = other.texts scope router :=
    List.flatMap_congr fun source isSource => by rw [same source isSource]
  rw [call, call, texts]

theorem Contents.calls_filter (contents : Contents) (settings : Settings) (scope : Scope)
    (routers : List String) (test : String → Bool) :
    ((routers.filter (contents.isReplayed scope)).map (contents.call settings scope)).filter
        (fun call => test call.filter.name) =
      ((routers.filter test).filter (contents.isReplayed scope)).map
        (contents.call settings scope) := by
  have named : (fun call : Call => test call.filter.name) ∘ contents.call settings scope = test :=
    funext fun router => congrArg test (name_filter settings ⟨.router, router⟩)
  rw [List.filter_map, named, List.filter_comm]

theorem calls_filter_congr (test : String → Bool) {contents other : Contents} {scope : Scope}
    {routers : List String}
    (same : ∀ router ∈ routers, test router = true → ∀ source ∈ scope.sources,
      contents router source.1 = other router source.1) (settings : Settings) :
    ((routers.filter (contents.isReplayed scope)).map (contents.call settings scope)).filter
        (fun call => test call.filter.name) =
      ((routers.filter (other.isReplayed scope)).map (other.call settings scope)).filter
        (fun call => test call.filter.name) := by
  have chosen : ∀ router ∈ routers.filter test, ∀ source ∈ scope.sources,
      contents router source.1 = other router source.1 := by
    intro router isChosen
    obtain ⟨isRouter, passes⟩ := List.mem_filter.mp isChosen
    exact same router isRouter passes
  rw [Contents.calls_filter, Contents.calls_filter,
    List.filter_congr fun router isChosen => Contents.isReplayed_congr (chosen router isChosen)]
  exact List.map_congr_left fun router isReplayed =>
    Contents.call_congr (chosen router (List.mem_of_mem_filter isReplayed)) settings

variable {State Other : Type}

def AllReadable (read : Files.Reader) (folder : String) (scope : Scope) (routers : List String) :
    Prop :=
  ∀ router ∈ routers, ∀ source ∈ scope.sources,
    ∃ text, read (savedPath folder router source.1) = .ok text

theorem isOk_iff {ε α : Type} {result : Except ε α} :
    result.isOk = true ↔ ∃ value, result = .ok value := by
  cases result <;> simp [Except.isOk, Except.toBool]

instance (read : Files.Reader) (folder : String) (scope : Scope) (routers : List String) :
    Decidable (AllReadable read folder scope routers) :=
  decidable_of_iff (∀ router ∈ routers, ∀ source ∈ scope.sources,
    (read (savedPath folder router source.1)).isOk = true) (by simp only [isOk_iff, AllReadable])

/-- A replay whose files can be read succeeds, and its calls are those for the texts. -/
theorem replayRouters_of_readable (executor : Executor State) (topology : Topology)
    {read : Files.Reader} {folder : String} {scope : Scope}
    (readable : AllReadable read folder scope topology.routers) (lab : State) (summary : Summary) :
    let turn := replayRouters executor.recording topology read folder scope ⟨(lab, []), summary⟩
    turn.answer = .ok () ∧
      turn.state.lab.2 =
        (topology.routers.filter ((stored read folder).isReplayed scope)).map
          ((stored read folder).call topology.settings scope) := by
  have recorded := replayRouters_recording executor topology read folder scope lab [] summary
  have planned := routersPlan_of_readable topology.settings fun router isRouter source isSource =>
    read_eq_stored (readable router isRouter source isSource)
  dsimp only at recorded ⊢
  rw [recorded.1, recorded.2, planned.1, planned.2]
  exact ⟨rfl, rfl⟩

/-- Two replays make the same calls to the routers for which they read the same. -/
theorem replayRouters_filter (executor : Executor State) (other : Executor Other)
    (topology : Topology) {read reread : Files.Reader} {folder : String} {scope : Scope}
    (readable : AllReadable read folder scope topology.routers)
    (rereadable : AllReadable reread folder scope topology.routers) (test : String → Bool)
    (same : ∀ router ∈ topology.routers, test router = true → ∀ source ∈ scope.sources,
      ∀ text changed, read (savedPath folder router source.1) = .ok text →
        reread (savedPath folder router source.1) = .ok changed → text = changed)
    (lab : State) (otherLab : Other) (summary otherSummary : Summary) :
    let one := replayRouters executor.recording topology read folder scope ⟨(lab, []), summary⟩
    let two := replayRouters other.recording topology reread folder scope
      ⟨(otherLab, []), otherSummary⟩
    one.answer = .ok () ∧ two.answer = .ok () ∧
      one.state.lab.2.filter (fun call => test call.filter.name) =
        two.state.lab.2.filter (fun call => test call.filter.name) := by
  have one := replayRouters_of_readable executor topology readable lab summary
  have two := replayRouters_of_readable other topology rereadable otherLab otherSummary
  refine ⟨one.1, two.1, ?_⟩
  dsimp only at one two ⊢
  rw [one.2, two.2]
  refine calls_filter_congr test (fun router isRouter passes source isSource => ?_) _
  exact same router isRouter passes source isSource _ _
    (read_eq_stored (readable router isRouter source isSource))
    (read_eq_stored (rereadable router isRouter source isSource))

/-- Routers do not see the files of others. If two trees agree outside the folder of one router and
all files can be read in both, from the same working folder, every other router receives the same
calls in the same order, or none in both. What this router receives follows from the texts of its
own files. No two of the files that are read have the same path. -/
theorem routers_isolated (executor : Executor State) (other : Executor Other) (topology : Topology)
    (named : ∀ name ∈ topology.routers, IsName name) (folder : String) (scope : Scope)
    (router : String) (isRouter : IsName router) (lab : State) (otherLab : Other)
    (summary otherSummary : Summary) :
    (∀ (tree changed : Files.Tree) (working place : List String),
      AllReadable (tree.readIn working) folder scope topology.routers →
      AllReadable (changed.readIn working) folder scope topology.routers →
      tree.resolve working (join folder router) = .ok (.folder place) →
      tree.AgreeOutside place changed →
      let one := replayRouters executor.recording topology (tree.readIn working) folder scope
        ⟨(lab, []), summary⟩
      let two := replayRouters other.recording topology (changed.readIn working) folder scope
        ⟨(otherLab, []), otherSummary⟩
      one.answer = .ok () ∧ two.answer = .ok () ∧
        one.state.lab.2.filter (fun call => call.filter.name != router) =
          two.state.lab.2.filter (fun call => call.filter.name != router)) ∧
    (∀ read reread : Files.Reader,
      AllReadable read folder scope topology.routers →
      AllReadable reread folder scope topology.routers →
      (∀ source ∈ scope.sources,
        read (savedPath folder router source.1) = reread (savedPath folder router source.1)) →
      let one := replayRouters executor.recording topology read folder scope
        ⟨(lab, []), summary⟩
      let two := replayRouters other.recording topology reread folder scope
        ⟨(otherLab, []), otherSummary⟩
      one.answer = .ok () ∧ two.answer = .ok () ∧
        one.state.lab.2.filter (fun call => call.filter.name == router) =
          two.state.lab.2.filter (fun call => call.filter.name == router)) ∧
    ∀ name ∈ topology.routers, ∀ name' ∈ topology.routers, ∀ daemon daemon' : Daemon,
      savedPath folder name daemon = savedPath folder name' daemon' →
        name = name' ∧ daemon = daemon' := by
  refine ⟨fun tree changed working place readable rereadable isPlace agree => ?_,
    fun read reread readable rereadable same => ?_,
    fun name isName name' isName' daemon daemon' samePath =>
      savedPath_injective (named name isName) (named name' isName') samePath⟩
  · refine replayRouters_filter executor other topology readable rereadable (· != router) ?_
      lab otherLab summary otherSummary
    intro name isName apart source _ text changed found foundToo
    exact read_eq_of_agreeOutside isRouter (named name isName) (by simpa using apart) isPlace agree
      found foundToo
  · refine replayRouters_filter executor other topology readable rereadable (· == router) ?_
      lab otherLab summary otherSummary
    intro name isName own source isSource text changed found foundToo
    obtain rfl := eq_of_beq own
    rw [same source isSource] at found
    exact Except.ok.inj (found.symm.trans foundToo)

/-- The files of `sampleTree`, with an interface in a file of the router that had none. -/
def sampleChanged : Files.Tree :=
  ⟨sampleTree.entries.map fun (path, content) =>
    (path, if path = Files.home ++ ["saved", "LOSA", "zebra.conf.sav"]
      then .file (Text.Utf8.encode "interface losa\n!\n") else content)⟩

/-- The folder of these files from the working folder, from the root, and over the folder above. -/
def sampleFolders : List String := ["saved", "/tmp/testbed/saved", "../testbed/saved/"]

/-- The router that had nothing to replay is called now, and the other one is called as before. -/
theorem routers_isolated_sampleChanged :
    IsName "LOSA" ∧ ∀ folder ∈ sampleFolders,
      let one := replayRouters rehearsal.recording sampleLab sampleTree.read folder .singleSystem
        ⟨({}, []), {}⟩
      let two := replayRouters rehearsal.recording sampleLab sampleChanged.read folder
        .singleSystem ⟨({}, []), {}⟩
      one.answer = .ok () ∧ two.answer = .ok () ∧
      one.state.lab.2.filter (fun call => call.filter.name != "LOSA") =
        two.state.lab.2.filter (fun call => call.filter.name != "LOSA") ∧
      one.state.lab.2.map (fun call => call.filter.name) = ["SEAT", "SEAT"] ∧
      two.state.lab.2.map (fun call => call.filter.name) = ["SEAT", "LOSA", "SEAT"] := by
  have isLosa : IsName "LOSA" := by decide
  have named : ∀ name ∈ sampleLab.routers, IsName name := by
    decide
  have readable : ∀ folder ∈ sampleFolders,
      AllReadable sampleTree.read folder .singleSystem sampleLab.routers ∧
        AllReadable sampleChanged.read folder .singleSystem sampleLab.routers := by
    decide +kernel
  have isPlace : ∀ folder ∈ sampleFolders,
      sampleTree.resolve Files.home (join folder "LOSA") =
        .ok (.folder (Files.home ++ ["saved", "LOSA"])) := by
    decide +kernel
  have alike : List.Forall₂ (Tree.AlikeOutside (Files.home ++ ["saved", "LOSA"]))
      sampleTree.entries sampleChanged.entries := by
    refine List.forall₂_map_right_iff.mpr (List.forall₂_same.mpr fun entry _ => ⟨rfl, ?_⟩)
    by_cases isChanged : entry.1 = Files.home ++ ["saved", "LOSA", "zebra.conf.sav"]
    · exact .inl (isChanged ▸ by decide)
    · exact .inr (if_neg isChanged).symm
  have called : ∀ folder ∈ sampleFolders,
      (replayRouters rehearsal.recording sampleLab sampleTree.read folder .singleSystem
        ⟨({}, []), {}⟩).state.lab.2.map (fun call => call.filter.name) = ["SEAT", "SEAT"] ∧
      (replayRouters rehearsal.recording sampleLab sampleChanged.read folder .singleSystem
        ⟨({}, []), {}⟩).state.lab.2.map (fun call => call.filter.name) =
          ["SEAT", "LOSA", "SEAT"] := by
    decide +kernel
  refine ⟨isLosa, fun folder isFolder => ?_⟩
  have isolated := (routers_isolated rehearsal rehearsal sampleLab named folder .singleSystem
    "LOSA" isLosa {} {} {} {}).1 sampleTree sampleChanged Files.home _
    (readable folder isFolder).1 (readable folder isFolder).2 (isPlace folder isFolder)
    (Tree.agreeOutside_of_alike alike)
  exact ⟨isolated.1, isolated.2.1, isolated.2.2, called folder isFolder⟩

end Testbed.Replay
