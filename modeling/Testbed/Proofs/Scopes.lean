import Mathlib.Data.List.Flatten
import Mathlib.Logic.Function.Basic
import Testbed.Proofs.Content
import Testbed.Proofs.SavedPaths

/-!
# One system and several

The two scopes take sections of different kinds from the same files. A kind more can move the start
of a section: its own line comes first then, and the section of the other kind becomes a part of it.
No line is lost by this, since both sections end with their block.

Results:
1. `captured_suffix`, `capturedLines_sublist`: what more kinds capture, in a block and in a text.
2. `sections_eq_of_not_opens`: kinds that no line opens make no difference.
3. `readRouter_single_within_several`: the two scopes for one router.
-/

namespace Testbed.Vtysh

/-- The text of a line, and nothing for the return to the enclosing level. -/
def Directive.line? : Directive → Option String
  | .line text => some text
  | .exit => none

def capturedLines (directives : List Directive) : List String :=
  directives.filterMap Directive.line?

theorem capturedLines_append (earlier later : List Directive) :
    capturedLines (earlier ++ later) = capturedLines earlier ++ capturedLines later :=
  List.filterMap_append

end Testbed.Vtysh

namespace Testbed.Saved

open Testbed.Vtysh

/-! ## Lines of a block -/

/-- The lines of a block from the first that opens a section. -/
def captured (kinds : List Kind) (block : List String) : List String :=
  block.dropWhile fun line => !isOpening kinds line

theorem captured_cons_of_opens {kinds : List Kind} {line : String}
    (opens : isOpening kinds line = true) (rest : List String) :
    captured kinds (line :: rest) = line :: rest := by
  rw [captured, List.dropWhile_cons_of_neg (by simp [opens])]

theorem captured_cons_of_passed {kinds : List Kind} {line : String}
    (passed : isOpening kinds line = false) (rest : List String) :
    captured kinds (line :: rest) = captured kinds rest := by
  rw [captured, captured, List.dropWhile_cons_of_pos (by simp [passed])]

theorem Section.capturedLines_directives (part : Section) :
    capturedLines part.directives = part.lines := by
  have noExit : capturedLines
      (if part.terminated && part.kind.closesWithExit then [Directive.exit] else []) = [] := by
    split <;> rfl
  have isLine : Directive.line? ∘ Directive.line = some := rfl
  rw [directives, capturedLines_append, noExit, List.append_nil, capturedLines,
    List.filterMap_map, isLine, List.filterMap_some]

theorem lines_blockSection? (kinds : List Kind) (terminated : Bool) (block : List String) :
    (blockSection? kinds terminated block).toList.flatMap Section.lines = captured kinds block := by
  induction block with
  | nil => rfl
  | cons line rest ih =>
    cases found : Kind.ofLine? kinds line with
    | none =>
      rw [blockSection?_cons_of_none found, ih,
        captured_cons_of_passed (not_isOpening_of_ofLine? found)]
    | some kind =>
      rw [blockSection?_cons_of_some found, captured_cons_of_opens (isOpening_of_ofLine? found)]
      exact List.append_nil _

theorem lines_blockSections (kinds : List Kind) (blocks : List (List String)) :
    (blockSections kinds blocks).flatMap Section.lines = blocks.flatMap (captured kinds) := by
  induction blocks with
  | nil => rfl
  | cons block later ih =>
    rw [List.flatMap_cons, ← ih]
    cases later with
    | nil =>
      rw [blockSections_singleton, lines_blockSection?]
      exact (List.append_nil _).symm
    | cons second others =>
      rw [blockSections_cons kinds block (List.cons_ne_nil _ _), List.flatMap_append,
        lines_blockSection?]

/-- The captured lines of a text, block by block. -/
theorem capturedLines_directives (kinds : List Kind) (text : String) :
    capturedLines (directives kinds text) =
      ((Text.lines text).splitOnP isTerminator).flatMap (captured kinds) := by
  rw [← lines_blockSections, ← sectionsOf_eq_blockSections, directives, capturedLines,
    List.filterMap_flatMap, sections]
  exact congrArg (sectionsOf kinds (Text.lines text)).flatMap
    (funext Section.capturedLines_directives)

/-! ## More kinds -/

theorem isOpening_of_subset {kinds wider : List Kind} (included : kinds ⊆ wider) {line : String}
    (opens : isOpening kinds line = true) : isOpening wider line = true := by
  obtain ⟨kind, found⟩ := Option.isSome_iff_exists.mp opens
  obtain ⟨isKind, opened⟩ := Kind.ofLine?_eq_some_iff.mp found
  exact isOpening_of_ofLine? (Kind.ofLine?_eq_some_iff.mpr ⟨included isKind, opened⟩)

/-- With more kinds a block is captured from an earlier line, or from the same one. -/
theorem captured_suffix {kinds wider : List Kind} (included : kinds ⊆ wider)
    (block : List String) : captured kinds block <:+ captured wider block := by
  induction block with
  | nil => exact List.suffix_refl _
  | cons line rest ih =>
    cases opens : isOpening wider line with
    | true =>
      rw [captured_cons_of_opens opens]
      exact List.dropWhile_suffix _
    | false =>
      have passed : isOpening kinds line = false := by
        cases narrow : isOpening kinds line with
        | false => rfl
        | true =>
          rw [isOpening_of_subset included narrow] at opens
          cases opens
      rw [captured_cons_of_passed opens, captured_cons_of_passed passed]
      exact ih

/-- With more kinds no line of a text is lost, and all stay in their order. -/
theorem capturedLines_sublist {kinds wider : List Kind} (included : kinds ⊆ wider)
    (text : String) :
    (capturedLines (directives kinds text)).Sublist (capturedLines (directives wider text)) := by
  rw [capturedLines_directives, capturedLines_directives]
  exact List.Sublist.flatMap_right _ fun block _ => (captured_suffix included block).sublist

/-! ## Kinds that no line opens -/

theorem ofLine?_eq_of_not_opens {kinds wider : List Kind} (included : kinds ⊆ wider)
    {line : String} (others : ∀ kind ∈ wider, kind ∉ kinds → kind.opens line = false) :
    Kind.ofLine? kinds line = Kind.ofLine? wider line := by
  refine Option.ext fun kind => ?_
  rw [Kind.ofLine?_eq_some_iff, Kind.ofLine?_eq_some_iff]
  refine ⟨fun ⟨isKind, opened⟩ => ⟨included isKind, opened⟩, fun ⟨isKind, opened⟩ => ⟨?_, opened⟩⟩
  refine Decidable.byContradiction fun isOther => ?_
  rw [others kind isKind isOther] at opened
  cases opened

theorem first?_congr {kinds wider : List Kind} {lines : List String}
    (same : ∀ line ∈ lines, Kind.ofLine? kinds line = Kind.ofLine? wider line) :
    first? kinds lines = first? wider lines := by
  induction lines with
  | nil => rfl
  | cons line rest ih =>
    have behind := ih fun line isLater => same line (.tail _ isLater)
    simp only [first?, same line (.head _), behind]

theorem sectionsOf_congr {kinds wider : List Kind} {lines : List String}
    (same : ∀ line ∈ lines, Kind.ofLine? kinds line = Kind.ofLine? wider line) :
    sectionsOf kinds lines = sectionsOf wider lines := by
  fun_induction sectionsOf kinds lines with
  | case1 lines absent =>
    rw [first?_congr same] at absent
    rw [sectionsOf_of_none absent]
  | case2 lines skipped part found ih =>
    have behind := ih fun line isLater => same line (List.mem_of_mem_drop isLater)
    rw [first?_congr same] at found
    rw [sectionsOf_of_some found, behind]

theorem sections_eq_of_not_opens {kinds wider : List Kind} (included : kinds ⊆ wider)
    {text : String}
    (others : ∀ line ∈ Text.lines text, ∀ kind ∈ wider, kind ∉ kinds → kind.opens line = false) :
    sections kinds text = sections wider text :=
  sectionsOf_congr fun line isLine => ofLine?_eq_of_not_opens included (others line isLine)

theorem sections_of_no_kinds (text : String) : sections [] text = [] :=
  sectionsOf_eq_nil_iff.mpr (List.any_eq_false.mpr fun line _ => by
    simp [isOpening, Kind.ofLine?])

end Testbed.Saved

namespace Testbed.Replay

open Testbed.Lab Testbed.Saved Testbed.Vtysh

/-! ## The scopes -/

theorem directives_singleSystem (contents : Contents) (router : String) :
    contents.directives .singleSystem router =
      Saved.directives [.interface] (contents router .zebra) ++
        Saved.directives [.interface, .ospf] (contents router .ospfd) := by
  simp [Contents.directives, Scope.sources]

theorem directives_severalSystems (contents : Contents) (router : String) :
    contents.directives .severalSystems router =
      Saved.directives [.interface, .staticRoute] (contents router .zebra) ++
        (Saved.directives [.interface, .ospf] (contents router .ospfd) ++
          Saved.directives [.bgp] (contents router .bgpd)) := by
  simp [Contents.directives, Scope.sources]

/-- What is captured for a single system is captured for several systems too. -/
theorem capturedLines_scopes_sublist (contents : Contents) (router : String) :
    (capturedLines (contents.directives .singleSystem router)).Sublist
      (capturedLines (contents.directives .severalSystems router)) := by
  rw [directives_singleSystem, directives_severalSystems, capturedLines_append,
    capturedLines_append, capturedLines_append]
  have zebra : (capturedLines (Saved.directives [.interface] (contents router .zebra))).Sublist
      (capturedLines (Saved.directives [.interface, .staticRoute] (contents router .zebra))) :=
    capturedLines_sublist (by simp) _
  exact zebra.append (List.sublist_append_left _ _)

/-- The scopes agree on a router without static routes and without neighbours. -/
theorem directives_scopes_eq (contents : Contents) (router : String)
    (noRoute : ∀ line ∈ Text.lines (contents router .zebra), Kind.staticRoute.opens line = false)
    (noNeighbour : ∀ line ∈ Text.lines (contents router .bgpd), Kind.bgp.opens line = false) :
    contents.directives .singleSystem router = contents.directives .severalSystems router := by
  have zebra : sections [.interface] (contents router .zebra) =
      sections [.interface, .staticRoute] (contents router .zebra) := by
    refine sections_eq_of_not_opens (by simp) fun line isLine kind isKind isOther => ?_
    have isRoute : kind = .staticRoute := by simp_all
    rw [isRoute]
    exact noRoute line isLine
  have bgpd : sections [] (contents router .bgpd) = sections [.bgp] (contents router .bgpd) := by
    refine sections_eq_of_not_opens (by simp) fun line isLine kind isKind _ => ?_
    rw [List.mem_singleton.mp isKind]
    exact noNeighbour line isLine
  rw [directives_singleSystem, directives_severalSystems]
  simp only [Saved.directives, zebra, ← bgpd, sections_of_no_kinds, List.flatMap_nil,
    List.append_nil]

theorem bgpd_not_mem_singleSystem : Daemon.bgpd ∉ Scope.singleSystem.sources.map Prod.fst := by
  decide

theorem readRouter_of_readable {read : Files.Reader} {folder router : String} {scope : Scope}
    {contents : Contents}
    (readable : ∀ source ∈ scope.sources,
      read (savedPath folder router source.1) = .ok (contents router source.1)) :
    (readRouter read folder scope router).1 = .ok (contents.directives scope router) :=
  readSources_of_readable readable

/-- What the scopes share. If the three files of a router can be read, the lines that are captured
for a single system appear in their order among those that are captured for several, and if no line
of the first file opens a static route and none of the third opens a neighbouring system, both read
the same directives, with every return to the enclosing level. A single system is read from the
first two files alone, so whatever stands in place of the third makes no difference. -/
theorem readRouter_single_within_several (read : Files.Reader) (folder router : String) :
    (∀ contents : Daemon → String,
      (∀ daemon, read (savedPath folder router daemon) = .ok (contents daemon)) →
      ∃ single several,
        (readRouter read folder .singleSystem router).1 = .ok single ∧
        (readRouter read folder .severalSystems router).1 = .ok several ∧
        (capturedLines single).Sublist (capturedLines several) ∧
        ((∀ line ∈ Text.lines (contents .zebra), Kind.staticRoute.opens line = false) →
          (∀ line ∈ Text.lines (contents .bgpd), Kind.bgp.opens line = false) →
          single = several)) ∧
    (∀ other : Files.Reader,
      (∀ daemon, daemon ≠ .bgpd →
        other (savedPath folder router daemon) = read (savedPath folder router daemon)) →
      readRouter other folder .singleSystem router =
        readRouter read folder .singleSystem router) ∧
    ∀ found : Except Files.ReadError String,
      readRouter (Function.update read (savedPath folder router .bgpd) found) folder
          .singleSystem router =
        readRouter read folder .singleSystem router := by
  have alone : ∀ other : Files.Reader,
      (∀ daemon, daemon ≠ .bgpd →
        other (savedPath folder router daemon) = read (savedPath folder router daemon)) →
      readRouter other folder .singleSystem router =
        readRouter read folder .singleSystem router := by
    intro other same
    refine readSources_congr fun source isSource => same source.1 fun isThird => ?_
    exact absurd (isThird ▸ List.mem_map_of_mem isSource) bgpd_not_mem_singleSystem
  refine ⟨fun contents readable => ?_, alone, fun found => alone _ fun daemon isOther => ?_⟩
  · have isRead : ∀ scope, (readRouter read folder scope router).1 =
        .ok (Contents.directives (fun _ => contents) scope router) :=
      fun scope => readRouter_of_readable fun source _ => readable source.1
    exact ⟨_, _, isRead .singleSystem, isRead .severalSystems,
      capturedLines_scopes_sublist _ router, directives_scopes_eq (fun _ => contents) router⟩
  · exact Function.update_of_ne (fun same => isOther (daemon_of_savedPath same)) found read

def sampleRouter (contents : Daemon → String) : Files.Tree :=
  [.zebra, .ospfd, .bgpd].foldl
    (fun tree daemon => tree.add (savedPath "saved" "SEAT" daemon)
      (.file (Text.Utf8.encode (contents daemon)))) ⟨[]⟩

/-- Configurations with a static route in front of an interface. -/
def sampleCrossed : Daemon → String
  | .zebra => "ip route 5.0.0.0/8 4.109.0.1\ninterface seat\n ip address 4.109.0.2/24\n!\n"
  | .ospfd => "router ospf\n!\n"
  | .bgpd => "router bgp 11537\n!\n"

/-- The section of an interface is a part of the section of a static route, and only the former ends
with a return. Without routes and neighbours both scopes read the same, and a single system also
without the third file. -/
theorem readRouter_single_within_several_sampleRouter :
    (∃ single several,
      (readRouter (sampleRouter sampleCrossed).read "saved" .singleSystem "SEAT").1 = .ok single ∧
      (readRouter (sampleRouter sampleCrossed).read "saved" .severalSystems "SEAT").1 =
        .ok several ∧
      (capturedLines single).Sublist (capturedLines several) ∧
      single = [.line "interface seat", .line " ip address 4.109.0.2/24", .exit,
        .line "router ospf", .exit]) ∧
    (∃ same,
      (readRouter (sampleRouter (sampleContents "SEAT")).read "saved" .singleSystem "SEAT").1 =
        .ok same ∧
      (readRouter (sampleRouter (sampleContents "SEAT")).read "saved" .severalSystems "SEAT").1 =
        .ok same) ∧
    readRouter sampleTree.read "saved" .singleSystem "SEAT" =
      readRouter (sampleRouter (sampleContents "SEAT")).read "saved" .singleSystem "SEAT" := by
  have crossed : ∀ daemon, (sampleRouter sampleCrossed).read (savedPath "saved" "SEAT" daemon) =
      .ok (sampleCrossed daemon) := by
    intro daemon
    cases daemon <;> decide +kernel
  have plain : ∀ daemon,
      (sampleRouter (sampleContents "SEAT")).read (savedPath "saved" "SEAT" daemon) =
        .ok (sampleContents "SEAT" daemon) := by
    intro daemon
    cases daemon <;> decide +kernel
  obtain ⟨single, several, isSingle, isSeveral, within, -⟩ :=
    (readRouter_single_within_several (sampleRouter sampleCrossed).read "saved" "SEAT").1
      sampleCrossed crossed
  obtain ⟨same, other, isSame, isOther, -, equal⟩ :=
    (readRouter_single_within_several (sampleRouter (sampleContents "SEAT")).read "saved" "SEAT").1
      (sampleContents "SEAT") plain
  have noRoute : ∀ line ∈ Text.lines (sampleContents "SEAT" .zebra),
      Kind.staticRoute.opens line = false := by
    decide +kernel
  have noNeighbour : ∀ line ∈ Text.lines (sampleContents "SEAT" .bgpd),
      Kind.bgp.opens line = false := by
    decide +kernel
  rw [← equal noRoute noNeighbour] at isOther
  have isRead : (readRouter (sampleRouter sampleCrossed).read "saved" .singleSystem "SEAT").1 =
      .ok [.line "interface seat", .line " ip address 4.109.0.2/24", .exit, .line "router ospf",
        .exit] := by
    decide +kernel
  refine ⟨⟨single, several, isSingle, isSeveral, within, ?_⟩, ⟨same, isSame, isOther⟩, ?_⟩
  · exact Except.ok.inj (isSingle.symm.trans isRead)
  · refine (readRouter_single_within_several _ "saved" "SEAT").2.1 _ fun daemon isOwn => ?_
    cases daemon with
    | bgpd => exact absurd rfl isOwn
    | zebra | ospfd => decide +kernel

end Testbed.Replay
