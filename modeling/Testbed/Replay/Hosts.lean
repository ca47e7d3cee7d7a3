import Testbed.Replay.Dispatch
import Testbed.Topology.Basic

/-!
# Configuring hosts

Every host receives its address and its default route by two commands, the address first. The two
commands follow from the host and from the last octet of the gateways.
-/

namespace Testbed.Replay

open Testbed.Lab Testbed.Net

/-- The address and the gateway of a host's interface. -/
structure Assignment where
  host : String
  interface : String
  address : NetworkAddress
  gateway : Address
deriving DecidableEq, Repr

namespace Assignment

/-- The assignment of a host whose gateway's address ends in the octet. -/
def ofHost (octet : UInt8) (host : Host) : Assignment :=
  ⟨host.name, host.interface, host.address, host.address.address.withLastOctet octet⟩

def addressCommand (assignment : Assignment) : List String :=
  ["ifconfig", assignment.interface, assignment.address.render, "up"]

def routeCommand (assignment : Assignment) : List String :=
  ["route", "add", "default", "gw", assignment.gateway.render, assignment.interface]

def commands (assignment : Assignment) : List (List String) :=
  [assignment.addressCommand, assignment.routeCommand]

def report (assignment : Assignment) : LogEntry :=
  .about assignment.host .debug
    (assignment.address.render ++ " via " ++ assignment.gateway.render ++ " on " ++
      assignment.interface)

end Assignment

def assignments (topology : Topology) : List Assignment :=
  topology.hosts.map (Assignment.ofHost topology.gatewayOctet)

variable {State : Type}

/-- Dispatches the two commands of every assignment. -/
def assignAll (executor : Executor State) (settings : Settings) :
    List Assignment → Progress State → Turn (Progress State) Unit
  | [], progress => ⟨(), [], progress⟩
  | assignment :: later, progress =>
    let node : Node := ⟨.host, assignment.host⟩
    .after [assignment.report]
      ((dispatch executor settings node assignment.addressCommand progress).andThen
        fun _ progress =>
          (dispatch executor settings node assignment.routeCommand progress).andThen
            fun _ progress => assignAll executor settings later progress)

def configureHosts (executor : Executor State) (topology : Topology)
    (progress : Progress State) : Turn (Progress State) Unit :=
  assignAll executor topology.settings (assignments topology) progress

end Testbed.Replay
