import Testbed.Files.Tree
import Testbed.Replay.Dispatch
import Testbed.Saved.Section
import Testbed.Topology.Basic

/-!
# Replaying router configurations

A router's configuration is saved in one file for every routing daemon. The sections of interest are
taken from each file, and one command replays all of them. A router without such sections is passed
over. A file that cannot be read ends the run before its router is touched.

Results: `readSources_congr`, `replayAll_congr` (only the files of the routers matter).
-/

namespace Testbed.Replay

open Testbed.Lab Testbed.Saved Testbed.Vtysh

inductive Daemon where
  | zebra
  | ospfd
  | bgpd
deriving DecidableEq, Repr

def Daemon.fileName : Daemon → String
  | .zebra => "zebra.conf.sav"
  | .ospfd => "ospfd.conf.sav"
  | .bgpd => "bgpd.conf.sav"

/-- Which configurations a lab replays. -/
inductive Scope where
  | singleSystem
  | severalSystems
deriving DecidableEq, Repr

/-- The daemons whose files are read, in order, each with the kinds of sections taken from it. -/
def Scope.sources : Scope → List (Daemon × List Kind)
  | .singleSystem => [(.zebra, [.interface]), (.ospfd, [.interface, .ospf])]
  | .severalSystems =>
    [(.zebra, [.interface, .staticRoute]), (.ospfd, [.interface, .ospf]), (.bgpd, [.bgp])]

def savedPath (folder router : String) (daemon : Daemon) : String :=
  Files.join (Files.join folder router) daemon.fileName

structure LoadError where
  path : String
  cause : Files.ReadError
deriving DecidableEq, Repr

def LoadError.message (error : LoadError) : String :=
  "Cannot read " ++ error.path ++ ": " ++ error.cause.message

/-- The directives from the files of a router, in order, and what is reported about them. -/
def readSources (read : Files.Reader) (folder router : String) :
    List (Daemon × List Kind) → Except LoadError (List Directive) × Log
  | [] => (.ok [], [])
  | (daemon, kinds) :: later =>
    let path := savedPath folder router daemon
    let announced := LogEntry.about router .trace ("Read " ++ path)
    match read path with
    | .error cause => (.error ⟨path, cause⟩, [announced])
    | .ok text =>
      let found := directives kinds text
      let counted := LogEntry.about router .trace
        (toString found.length ++ " directives from " ++ daemon.fileName)
      let (rest, log) := readSources read folder router later
      (rest.map (found ++ ·), announced :: (report router kinds text ++ counted :: log))

/-- The directives of a router, and what is reported about them. -/
def readRouter (read : Files.Reader) (folder : String) (scope : Scope) (router : String) :
    Except LoadError (List Directive) × Log :=
  readSources read folder router scope.sources

variable {State : Type}

/-- Dispatches the command that replays the directives of a router, if there are any. -/
def replayRouter (executor : Executor State) (settings : Settings) (router : String)
    (directives : List Directive) (progress : Progress State) : Turn (Progress State) Unit :=
  let counted := LogEntry.about router .debug (toString directives.length ++ " directives")
  match Command.configure? settings.vtysh directives with
  | none =>
    ⟨(), [counted, .about router .info "No configuration found. Skipping."], progress⟩
  | some command =>
    .after [counted, .about router .trace command.shellText]
      ((dispatch executor settings ⟨.router, router⟩ command.arguments progress).andThen
        fun _ progress => ⟨(), [], progress⟩)

/-- Replays the configurations of the routers one after the other, up to the first that cannot be
read. -/
def replayAll (executor : Executor State) (settings : Settings) (read : Files.Reader)
    (folder : String) (scope : Scope) :
    List String → Progress State → Turn (Progress State) (Except LoadError Unit)
  | [], progress => ⟨.ok (), [], progress⟩
  | router :: later, progress =>
    match readRouter read folder scope router with
    | (.error error, log) => ⟨.error error, log, progress⟩
    | (.ok directives, log) =>
      .after log
        ((replayRouter executor settings router directives progress).andThen fun _ progress =>
          replayAll executor settings read folder scope later progress)

def replayRouters (executor : Executor State) (topology : Topology) (read : Files.Reader)
    (folder : String) (scope : Scope) (progress : Progress State) :
    Turn (Progress State) (Except LoadError Unit) :=
  replayAll executor topology.settings read folder scope topology.routers progress

theorem readSources_congr {read other : Files.Reader} {folder router : String}
    {sources : List (Daemon × List Saved.Kind)}
    (same : ∀ source ∈ sources,
      read (savedPath folder router source.1) = other (savedPath folder router source.1)) :
    readSources read folder router sources = readSources other folder router sources := by
  induction sources with
  | nil => rfl
  | cons source later ih =>
    obtain ⟨daemon, kinds⟩ := source
    have behind := ih fun source isLater => same source (.tail _ isLater)
    simp only [readSources, same _ (.head _), behind]

theorem replayAll_congr (executor : Executor State) (settings : Settings)
    {read other : Files.Reader} {folder : String} {scope : Scope} {routers : List String}
    (same : ∀ router ∈ routers, ∀ source ∈ scope.sources,
      read (savedPath folder router source.1) = other (savedPath folder router source.1))
    (progress : Progress State) :
    replayAll executor settings read folder scope routers progress =
      replayAll executor settings other folder scope routers progress := by
  induction routers generalizing progress with
  | nil => rfl
  | cons router later ih =>
    have atRouter : readRouter read folder scope router = readRouter other folder scope router :=
      readSources_congr (same router (.head _))
    have behind := fun progress => ih (fun router isLater => same router (.tail _ isLater)) progress
    simp only [replayAll, atRouter, behind]

end Testbed.Replay
