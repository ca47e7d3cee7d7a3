import Testbed.Replay.Steps

/-!
# The tools

Three tools share one command line. One configures the hosts of the Abilene lab, one replays the
saved configurations of its routers, and one does both for the lab with neighbouring systems. Each
tool has a topology of its own that is used unless another one is given.
-/

namespace Testbed.Program

open Testbed.Replay

inductive Tool where
  | configHosts
  | loadConfigs
  | loadConfigsMultiAs
deriving DecidableEq, Repr

namespace Tool

def all : List Tool := [configHosts, loadConfigs, loadConfigsMultiAs]

def name : Tool → String
  | configHosts => "config-hosts"
  | loadConfigs => "load-configs"
  | loadConfigsMultiAs => "load-configs-multi-as"

def ofName? (name : String) : Option Tool := all.find? fun tool => tool.name == name

def takesFolder : Tool → Bool
  | configHosts => false
  | loadConfigs | loadConfigsMultiAs => true

/-- The topology of a tool if no other one is given. -/
def topology : Tool → Topology
  | configHosts | loadConfigs => .abilene
  | loadConfigsMultiAs => .neighbours

def steps (folder : String) : Tool → List Step
  | configHosts => [.hosts]
  | loadConfigs => [.routers folder .singleSystem]
  | loadConfigsMultiAs => [.hosts, .routers folder .severalSystems]

end Tool

end Testbed.Program
