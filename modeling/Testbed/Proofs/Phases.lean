import Testbed.Proofs.Acceptance
import Testbed.Proofs.Independence
import Testbed.Proofs.Scopes

/-!
# Hosts first, then routers

The tool for the lab with neighbours configures the hosts and then replays the routers. Its first
phase is the run of the tool for hosts: both find the same machine, so they receive the same
answers. The second phase adds to what was started or printed and takes nothing back, also if it
fails.

Results:
1. `carryOut_live_started`: a machine never forgets what it has started.
2. `handed_eq_plan`: the calls of a tool, and `calls_hosts`, those that configure hosts.
3. `routersPlan_congr`: what the plan of the second phase depends on.
4. `paired_of_plain`: the usual command lines of the two tools.
5. `hosts_before_routers`: the above for two runs.
-/

namespace Testbed.Lab

/-! ## What a machine has started -/

theorem Machine.started_findProcess (filter : Filter) (machine : Machine) :
    machine.started <+: (machine.findProcess filter).state.started := by
  have listed : machine.started <+: machine.processTable.2.started :=
    machine.started_start "ps" ["ax"]
  unfold findProcess
  split
  · rename_i found
    rwa [found] at listed
  · rename_i found
    rwa [found] at listed

theorem Machine.started_runInside (space : Namespace) (command : List String) (machine : Machine) :
    machine.started <+: (machine.runInside space command).state.started := by
  have entered := machine.started_start (space.wrap command).1 (space.wrap command).2
  unfold runInside
  dsimp only
  split
  · rename_i found
    rwa [found] at entered
  · rename_i found
    rwa [found] at entered

theorem started_live (settings : Settings) (filter : Filter) (command : List String)
    (machine : Machine) :
    machine.started <+: ((live settings).run filter command machine).state.started := by
  have looked := machine.started_findProcess filter
  simp only [live, Turn.andThen, Machine.findNamespace]
  split
  · exact looked
  · exact looked
  · exact looked.trans (Machine.started_runInside _ _ _)

end Testbed.Lab

namespace Testbed.Replay

open Testbed.Lab

theorem carryOut_live_started (settings : Settings) (orders : List Order)
    (progress : Progress Machine) :
    progress.lab.started <+: (carryOut (live settings) settings orders progress).lab.started := by
  induction orders generalizing progress with
  | nil => exact List.prefix_refl _
  | cons order later ih =>
    have rest := ih (dispatch (live settings) settings order.node order.command progress).state
    exact (started_live settings _ _ progress.lab).trans rest

/-! ## The two phases -/

/-- The calls that configure a host: its address, and its route over the gateway. -/
def hostCalls (topology : Topology) (host : Host) : List Call :=
  let own := Node.filter topology.settings ⟨.host, host.name⟩
  let gateway := host.address.address.withLastOctet topology.gatewayOctet
  [⟨own, ["ifconfig", host.interface, host.address.render, "up"]⟩,
    ⟨own, ["route", "add", "default", "gw", gateway.render, host.interface]⟩]

def hostOrders (topology : Topology) : List Order :=
  (assignments topology).flatMap Assignment.orders

theorem calls_hosts (topology : Topology) :
    (hostOrders topology).map (Order.call topology.settings) =
      topology.hosts.flatMap (hostCalls topology) := by
  rw [hostOrders, List.map_flatMap, assignments, List.flatMap_map]
  rfl

theorem orders_sequence_singleton (plan : Plan) : (Plan.sequence [plan]).orders = plan.orders := by
  cases result : plan.result with
  | error _ => simp only [Plan.sequence, result]
  | ok _ => simp only [Plan.sequence, result, List.append_nil]

theorem stepsPlan_hosts (topology : Topology) (read : Files.Reader) :
    (stepsPlan topology read [.hosts]).orders = hostOrders topology :=
  orders_sequence_singleton _

/-- The second phase follows the first, whatever becomes of it. -/
theorem stepsPlan_hosts_routers (topology : Topology) (read : Files.Reader) (folder : String)
    (scope : Scope) :
    (stepsPlan topology read [.hosts, .routers folder scope]).orders =
      hostOrders topology ++
        (routersPlan topology.settings read folder scope topology.routers).orders :=
  congrArg (hostOrders topology ++ ·) (orders_sequence_singleton _)

/-- What is planned for routers follows from the settings and their files. -/
theorem routersPlan_congr (settings : Settings) {read reread : Files.Reader} {folder : String}
    {scope : Scope} {routers : List String}
    (same : ∀ router ∈ routers, ∀ source ∈ scope.sources,
      read (savedPath folder router source.1) = reread (savedPath folder router source.1)) :
    routersPlan settings read folder scope routers =
      routersPlan settings reread folder scope routers := by
  have plans : routers.map (routerPlan settings read folder scope) =
      routers.map (routerPlan settings reread folder scope) := by
    refine List.map_congr_left fun router isRouter => ?_
    rw [routerPlan, routerPlan, readRouter, readRouter, readSources_congr (same router isRouter)]
  rw [routersPlan, routersPlan, plans]

end Testbed.Replay

namespace Testbed.Program

open Testbed.Lab Testbed.Replay

/-- The calls that a tool makes on its executor, which prints in a dry run and is live otherwise. -/
def handed (tool : Tool) (arguments : Arguments) (topology : Topology) (read : Files.Reader)
    (machine : Machine) : List Call :=
  if arguments.dryRun then
    (performAll (dryRun topology.settings).recording topology read (arguments.steps tool)
      ⟨("", []), {}⟩).state.lab.2
  else
    (performAll (live topology.settings).recording topology read (arguments.steps tool)
      ⟨(machine, []), {}⟩).state.lab.2

theorem handed_eq_plan (tool : Tool) (arguments : Arguments) (topology : Topology)
    (read : Files.Reader) (machine : Machine) :
    handed tool arguments topology read machine =
      (stepsPlan topology read (arguments.steps tool)).orders.map
        (Order.call topology.settings) := by
  unfold handed
  split
  · rw [(performAll_recording (dryRun topology.settings) topology read _ ⟨"", {}⟩ []).2]
    rfl
  · rw [(performAll_recording (live topology.settings) topology read _ ⟨machine, {}⟩ []).2]
    rfl

def printedLine (settings : Settings) (call : Call) : String :=
  pipeline settings call.filter call.command ++ "\n"

/-- Two command lines name the same topology and the same way to run, one for the hosts and one for
the whole lab with a folder. -/
structure Paired (hostWords labWords : List String) (file folder : String) (dry : Bool) : Prop where
  hosts : Tool.configHosts.parse? hostWords = some ⟨none, some file, dry⟩
  lab : Tool.loadConfigsMultiAs.parse? labWords = some ⟨some folder, some file, dry⟩

/-- A word that stands for itself on a command line. -/
def IsPlain (word : String) : Prop := word ≠ "" ∧ word.toList.head? ≠ some '-'

instance (word : String) : Decidable (IsPlain word) := inferInstanceAs (Decidable (_ ∧ _))

theorem next_topology {word : String} (isPlain : IsPlain word) {arguments : Arguments}
    (isFirst : arguments.topology = none) :
    Reading.next ⟨arguments, .topology⟩ word =
      some ⟨{ arguments with topology := some word }, .anything⟩ := by
  obtain ⟨nonempty, noHyphen⟩ := isPlain
  simp only [Reading.next]
  split
  all_goals simp_all [Arguments.withTopology?]

theorem next_folder {word : String} (isPlain : IsPlain word) {arguments : Arguments}
    (isFirst : arguments.folder = none) :
    Reading.next ⟨arguments, .anything⟩ word =
      some ⟨{ arguments with folder := some word }, .anything⟩ := by
  obtain ⟨nonempty, noHyphen⟩ := isPlain
  simp only [Reading.next]
  split
  all_goals simp_all [Arguments.withFolder?]

/-- The usual command lines. -/
theorem paired_of_plain {file folder : String} (isFile : IsPlain file) (isFolder : IsPlain folder)
    (dry : Bool) :
    Paired ((if dry then ["-n"] else []) ++ ["-t", file])
      ((if dry then ["-n"] else []) ++ ["-t", file, folder]) file folder dry := by
  have flag : Reading.next {} "-n" = some ⟨{ dryRun := true }, .anything⟩ := by
    decide
  have option : ∀ arguments, Reading.next ⟨arguments, .anything⟩ "-t" =
      some ⟨arguments, .topology⟩ :=
    fun _ => rfl
  cases dry with
  | false =>
    refine ⟨?_, ?_⟩
    · simp [Tool.parse?, option, next_topology isFile, Tool.takesFolder]
    · simp [Tool.parse?, option, next_topology isFile, next_folder isFolder, Tool.takesFolder]
  | true =>
    refine ⟨?_, ?_⟩
    · simp [Tool.parse?, flag, option, next_topology isFile, Tool.takesFolder]
    · simp [Tool.parse?, flag, option, next_topology isFile, next_folder isFolder,
        Tool.takesFolder]

/-! ## Two runs -/

def routersText (settings : Settings) (read : Files.Reader) (folder : String)
    (routers : List String) : String :=
  String.join (((routersPlan settings read folder .severalSystems routers).orders.map
    (Order.call settings)).map (printedLine settings))

section

variable (file folder : String) (topology : Topology) (read : Files.Reader) (machine : Machine)

theorem printed_hosts :
    (perform .configHosts ⟨none, some file, true⟩ topology read machine).printed =
      String.join ((topology.hosts.flatMap (hostCalls topology)).map
        (printedLine topology.settings)) := by
  have printed := perform_dry .configHosts ⟨none, some file, true⟩ rfl topology read machine
  rw [Arguments.steps, Tool.steps, stepsPlan_hosts, calls_hosts] at printed
  exact printed

theorem printed_lab :
    (perform .loadConfigsMultiAs ⟨some folder, some file, true⟩ topology read machine).printed =
      (perform .configHosts ⟨none, some file, true⟩ topology read machine).printed ++
        routersText topology.settings read folder topology.routers := by
  have printed := perform_dry .loadConfigsMultiAs ⟨some folder, some file, true⟩ rfl topology read
    machine
  rw [Arguments.steps, Tool.steps, stepsPlan_hosts_routers, List.map_append, List.map_append,
    String.join_append, calls_hosts] at printed
  rw [printed_hosts]
  exact printed

theorem started_lab :
    (perform .configHosts ⟨none, some file, false⟩ topology read machine).machine.started <+:
      (perform .loadConfigsMultiAs ⟨some folder, some file, false⟩ topology read
        machine).machine.started := by
  have hosts := (performAll_eq_plan (live topology.settings) topology read [.hosts]
    ⟨machine, {}⟩).2
  have lab := (performAll_eq_plan (live topology.settings) topology read
    [.hosts, .routers folder .severalSystems] ⟨machine, {}⟩).2
  rw [stepsPlan_hosts] at hosts
  rw [stepsPlan_hosts_routers, carryOut_append, ← hosts] at lab
  have grown := carryOut_live_started topology.settings
    (routersPlan topology.settings read folder .severalSystems topology.routers).orders
    (performAll (live topology.settings) topology read [.hosts] ⟨machine, {}⟩).state
  rw [← lab] at grown
  exact grown

end

/-- The tool for the whole lab does what the tool for hosts does, and more. On the same machine and
with the same files it starts, or prints in a dry run, all that the other tool does, and then
something else, whether the routers can be read or not. Without a usable topology both do nothing.
Otherwise the calls of the tool for hosts are two for each host, in the order of the topology and for
the process of this host: the address, and the route over the gateway. They are the first calls of
the other tool too. What that tool prints behind them follows from the settings, the routers and
their files alone: it is the same for other hosts, another octet, and on another machine. -/
theorem hosts_before_routers {hostWords labWords : List String} {file folder : String} {dry : Bool}
    (paired : Paired hostWords labWords file folder dry) (read : Files.Reader)
    (machine : Machine) :
    let alone := run .configHosts hostWords read machine
    let both := run .loadConfigsMultiAs labWords read machine
    alone.machine.started <+: both.machine.started ∧
    (∃ rest, both.printed = alone.printed ++ rest) ∧
    match Topology.load read file with
    | .error _ => both.machine = machine ∧ both.printed = ""
    | .ok topology =>
      let calls := topology.hosts.flatMap (hostCalls topology)
      handed .configHosts ⟨none, some file, dry⟩ topology read machine = calls ∧
      (∃ rest, handed .loadConfigsMultiAs ⟨some folder, some file, dry⟩ topology read machine =
        calls ++ rest) ∧
      (dry = true →
        alone.printed = String.join (calls.map (printedLine topology.settings)) ∧
        ∀ (otherHostWords otherLabWords : List String) (otherFile : String)
          (reread : Files.Reader) (otherMachine : Machine) (changed : Topology),
          Paired otherHostWords otherLabWords otherFile folder true →
          Topology.load reread otherFile = .ok changed →
          changed.settings = topology.settings → changed.routers = topology.routers →
          (∀ router ∈ topology.routers, ∀ source ∈ Scope.severalSystems.sources,
            reread (savedPath folder router source.1) =
              read (savedPath folder router source.1)) →
          ∃ rest, both.printed = alone.printed ++ rest ∧
            (run .loadConfigsMultiAs otherLabWords reread otherMachine).printed =
              (run .configHosts otherHostWords reread otherMachine).printed ++ rest) := by
  intro alone both
  cases loaded : Topology.load read file with
  | error cause =>
    have isAlone : alone = _ := run_of_no_topology paired.hosts loaded machine
    have isBoth : both = _ := run_of_no_topology paired.lab loaded machine
    rw [isAlone, isBoth]
    exact ⟨List.prefix_refl _, ⟨"", rfl⟩, rfl, rfl⟩
  | ok topology =>
    have isAlone : alone = _ := run_of_topology paired.hosts loaded machine
    have isBoth : both = _ := run_of_topology paired.lab loaded machine
    rw [isAlone, isBoth]
    refine ⟨?started, ?printed, ?hosts, ?lab, ?dry⟩
    case started =>
      cases dry with
      | false => exact started_lab file folder topology read machine
      | true => exact List.prefix_refl _
    case printed =>
      cases dry with
      | false => exact ⟨"", rfl⟩
      | true => exact ⟨_, printed_lab file folder topology read machine⟩
    case hosts =>
      rw [handed_eq_plan, ← calls_hosts]
      exact congrArg _ (stepsPlan_hosts topology read)
    case lab =>
      rw [handed_eq_plan, ← calls_hosts, Arguments.steps, Tool.steps, stepsPlan_hosts_routers,
        List.map_append]
      exact ⟨_, rfl⟩
    case dry =>
      rintro rfl
      refine ⟨printed_hosts file topology read machine, ?_⟩
      intro otherHostWords otherLabWords otherFile reread otherMachine changed otherPaired
        otherLoaded sameSettings sameRouters sameFiles
      refine ⟨_, printed_lab file folder topology read machine, ?_⟩
      rw [run_of_topology otherPaired.lab otherLoaded, run_of_topology otherPaired.hosts otherLoaded,
        printed_lab, sameSettings, sameRouters, routersText, routersPlan_congr _ sameFiles]
      rfl

/-- A topology with one host and two routers. -/
def sampleLabFile (octet host : String) : String :=
  "gateway_octet = " ++ octet ++ "\nrouters = [\"SEAT\", \"KANS\"]" ++
    "\n[[hosts]]\nname = \"" ++ host ++ "\"\niface = \"eth0\"\naddr = \"10.0.0.2/24\"\n"

/-- The files of one of the routers, and two topologies. -/
def sampleFiles : Files.Tree :=
  ((sampleRouter sampleCrossed).add "one.toml"
    (.file (Text.Utf8.encode (sampleLabFile "1" "client")))).add "two.toml"
      (.file (Text.Utf8.encode (sampleLabFile "254" "server")))

def sampleLabOf (octet : UInt8) (host : String) : Topology where
  gatewayOctet := octet
  routers := ["SEAT", "KANS"]
  hosts := [Topology.hostOf host "eth0" 10 0 0 2]

/-- The second router has no files, so both runs fail behind the first one. They print the same for
it, although their hosts differ. -/
theorem hosts_before_routers_sampleFiles :
    (run .configHosts ["-t", "one.toml"] sampleFiles.read {}).machine.started <+:
      (run .loadConfigsMultiAs ["-t", "one.toml", "saved"] sampleFiles.read {}).machine.started ∧
    handed .configHosts ⟨none, some "one.toml", false⟩ (sampleLabOf 1 "client") sampleFiles.read
        {} =
      [⟨⟨"client", "mininet:client", "bash", ["mxexec"]⟩,
        ["ifconfig", "eth0", "10.0.0.2/24", "up"]⟩,
       ⟨⟨"client", "mininet:client", "bash", ["mxexec"]⟩,
        ["route", "add", "default", "gw", "10.0.0.1", "eth0"]⟩] ∧
    ∃ rest,
      (run .loadConfigsMultiAs ["-n", "-t", "one.toml", "saved"] sampleFiles.read {}).printed =
        (run .configHosts ["-n", "-t", "one.toml"] sampleFiles.read {}).printed ++ rest ∧
      (run .loadConfigsMultiAs ["-n", "-t", "two.toml", "saved"] sampleFiles.read {}).printed =
        (run .configHosts ["-n", "-t", "two.toml"] sampleFiles.read {}).printed ++ rest := by
  have isOne : Topology.load sampleFiles.read "one.toml" = .ok (sampleLabOf 1 "client") :=
    Topology.ok_of_toOption (by decide +kernel)
  have isTwo : Topology.load sampleFiles.read "two.toml" = .ok (sampleLabOf 254 "server") :=
    Topology.ok_of_toOption (by decide +kernel)
  have real : Paired ["-t", "one.toml"] ["-t", "one.toml", "saved"] "one.toml" "saved" false :=
    paired_of_plain (by decide) (by decide) false
  have one : Paired ["-n", "-t", "one.toml"] ["-n", "-t", "one.toml", "saved"] "one.toml" "saved"
      true :=
    paired_of_plain (by decide) (by decide) true
  have two : Paired ["-n", "-t", "two.toml"] ["-n", "-t", "two.toml", "saved"] "two.toml" "saved"
      true :=
    paired_of_plain (by decide) (by decide) true
  have realRuns := hosts_before_routers real sampleFiles.read {}
  have dryRuns := hosts_before_routers one sampleFiles.read {}
  rw [isOne] at realRuns dryRuns
  refine ⟨realRuns.1, realRuns.2.2.1.trans (by decide +kernel), ?_⟩
  exact (dryRuns.2.2.2.2 rfl).2 _ _ _ sampleFiles.read {} _ two isTwo rfl rfl fun _ _ _ _ => rfl

end Testbed.Program
