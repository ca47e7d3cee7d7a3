import Testbed.Lab.Settings
import Testbed.Net.Ipv4

/-!
# Topologies

A topology names the routers and the hosts of a lab. Every host has an address on one interface and
is attached to a router, its gateway. The gateway's address is the host's with the last octet
replaced, and the octet is the same for the whole lab.

Results: `check_eq_ok_iff` (when no host has the address of its gateway).
-/

namespace Testbed

open Testbed.Lab Testbed.Net

structure Host where
  name : String
  interface : String
  address : NetworkAddress
deriving DecidableEq, Repr

structure Topology where
  settings : Settings := {}
  gatewayOctet : UInt8
  routers : List String := []
  hosts : List Host := []
deriving DecidableEq, Repr

namespace Topology

/-- A host that has the address of its own gateway. -/
structure Collision where
  name : String
  address : Address
deriving DecidableEq, Repr

def Collision.message (collision : Collision) : String :=
  "Host " ++ collision.name ++ " has address " ++ collision.address.render ++
    ", which collides with its gateway"

def collides (octet : UInt8) (host : Host) : Bool :=
  host.address.address.fourth == octet

/-- The topology, unless a host has the address of its gateway. The first such host is named. -/
def check (topology : Topology) : Except Collision Topology :=
  match topology.hosts.find? (collides topology.gatewayOctet) with
  | some host => .error ⟨host.name, host.address.address⟩
  | none => .ok topology

theorem check_eq_ok_iff {topology checked : Topology} :
    topology.check = .ok checked ↔
      checked = topology ∧
        ∀ host ∈ topology.hosts, host.address.address.fourth ≠ topology.gatewayOctet := by
  unfold check
  split
  · rename_i host found
    have isCollision := List.find?_some found
    simp only [collides, beq_iff_eq] at isCollision
    simp only [reduceCtorEq, ne_eq, false_iff, not_and, Classical.not_forall, Classical.not_not]
    exact fun _ => ⟨host, List.mem_of_find?_eq_some found, isCollision⟩
  · rename_i none_
    simp only [Except.ok.injEq]
    refine ⟨fun same => ⟨same.symm, fun host isHost => ?_⟩, fun both => both.1.symm⟩
    simpa [collides] using List.find?_eq_none.mp none_ host isHost

def abileneRouters : List String :=
  ["SEAT", "LOSA", "SALT", "HOUS", "KANS", "ATLA", "WASH", "CHIC", "NEWY"]

/-- A host with the given octets in its address, in a network with a prefix of 24 bits. -/
def hostOf (name interface : String) (first second third fourth : UInt8) : Host :=
  ⟨name, interface, ⟨⟨first, second, third, fourth⟩, 24⟩⟩

/-- The Abilene backbone with one host at every router. -/
def abilene : Topology where
  gatewayOctet := 2
  routers := abileneRouters
  hosts :=
    [hostOf "SEAT-host" "seat" 4 109 0 1, hostOf "LOSA-host" "losa" 4 108 0 1,
     hostOf "SALT-host" "salt" 4 107 0 1, hostOf "HOUS-host" "hous" 4 106 0 1,
     hostOf "KANS-host" "kans" 4 105 0 1, hostOf "ATLA-host" "atla" 4 104 0 1,
     hostOf "WASH-host" "wash" 4 103 0 1, hostOf "CHIC-host" "chic" 4 102 0 1,
     hostOf "NEWY-host" "newy" 4 101 0 1]

/-- The Abilene backbone between two neighbouring systems. A client is attached to the western one,
two servers to the eastern one. -/
def neighbours : Topology where
  gatewayOctet := 1
  routers := abileneRouters ++ ["east", "west"]
  hosts :=
    [hostOf "client" "client-eth0" 5 1 1 2, hostOf "server1" "east" 6 0 2 2,
     hostOf "server2" "east" 6 0 3 2]

example : abilene.check = .ok abilene := check_eq_ok_iff.mpr ⟨rfl, by decide⟩

example : neighbours.check = .ok neighbours := check_eq_ok_iff.mpr ⟨rfl, by decide⟩

end Topology

end Testbed
