import Testbed.Proofs.Acceptance

/-!
# Gateways and subnets

A host can only use a gateway in the subnet of its own address: the two have the same first bits, as
many as the prefix is long. The gateway of a host keeps the first three octets, so it is in the
subnet of every prefix that ends within them. A longer prefix reaches into the last octet, which is
the gateway's own, and a document is not refused if this octet leaves the subnet.

Results:
1. `bit_of_last`, `bit_of_front`: which octets the bits of an address belong to.
2. `contains_withLastOctet_iff`: when an address with another last octet stays in the subnet.
3. `gateway_in_subnet_iff`: when the gateway of an accepted topology is in the subnet of its host.
-/

namespace Testbed.Net

/-! ## Bits of an address -/

def Address.front (address : Address) : Nat :=
  256 * (256 * address.first.toNat + address.second.toNat) + address.third.toNat

def Address.toNat (address : Address) : Nat := 256 * address.front + address.fourth.toNat

/-- A bit of an address. The first one is the most significant. -/
def Address.bit (address : Address) (index : Nat) : Bool := address.toNat.testBit (31 - index)

/-- A bit of an octet. The first one is the most significant. -/
def octetBit (octet : UInt8) (index : Nat) : Bool := octet.toNat.testBit (7 - index)

/-- The address is in the subnet: it begins with the same bits as the network address, as many as
the prefix is long. -/
def NetworkAddress.Contains (network : NetworkAddress) (address : Address) : Prop :=
  ∀ index < network.length.val, address.bit index = network.address.bit index

instance (network : NetworkAddress) (address : Address) : Decidable (network.Contains address) :=
  inferInstanceAs
    (Decidable (∀ index < network.length.val, address.bit index = network.address.bit index))

theorem Address.testBit_toNat (address : Address) (position : Nat) :
    address.toNat.testBit position =
      if position < 8 then address.fourth.toNat.testBit position
      else address.front.testBit (position - 8) := by
  show (2 ^ 8 * address.front + address.fourth.toNat).testBit position = _
  exact Nat.testBit_two_pow_mul_add address.front address.fourth.toNat_lt position

/-- Behind the first 24 bits the bits are those of the last octet. -/
theorem Address.bit_of_last (address : Address) {index : Nat} (isLast : index < 8) :
    address.bit (24 + index) = octetBit address.fourth index := by
  have position : 31 - (24 + index) = 7 - index := by omega
  rw [bit, octetBit, position, testBit_toNat, if_pos (by omega)]

/-- The first 24 bits are those of the first three octets. -/
theorem Address.bit_of_front (address : Address) {index : Nat} (inFront : index < 24) :
    address.bit index = address.front.testBit (23 - index) := by
  rw [bit, testBit_toNat, if_neg (by omega), show 31 - index - 8 = 23 - index by omega]

theorem octet_ext {left right : UInt8}
    (same : ∀ index < 8, octetBit left index = octetBit right index) : left = right := by
  refine UInt8.toNat_inj.mp (Nat.eq_of_testBit_eq fun position => ?_)
  by_cases inside : position < 8
  · have here := same (7 - position) (by omega)
    rwa [octetBit, octetBit, show 7 - (7 - position) = position by omega] at here
  · have large : 2 ^ 8 ≤ 2 ^ position := Nat.pow_le_pow_right (by decide) (by omega)
    rw [Nat.testBit_lt_two_pow (Nat.lt_of_lt_of_le left.toNat_lt large),
      Nat.testBit_lt_two_pow (Nat.lt_of_lt_of_le right.toNat_lt large)]

/-- With another last octet an address stays in its subnet exactly if the part of the prefix that
reaches into the octet stays. -/
theorem NetworkAddress.contains_withLastOctet_iff (network : NetworkAddress) (octet : UInt8) :
    network.Contains (network.address.withLastOctet octet) ↔
      ∀ index < network.length.val - 24,
        octetBit octet index = octetBit network.address.fourth index := by
  have bound := network.length.isLt
  constructor
  · intro contained index inPrefix
    have here := contained (24 + index) (by omega)
    have isLast : index < 8 := by omega
    rwa [Address.bit_of_last _ isLast, Address.bit_of_last _ isLast] at here
  · intro same index inPrefix
    by_cases inFront : index < 24
    · rw [Address.bit_of_front _ inFront, Address.bit_of_front _ inFront]
      rfl
    · obtain ⟨rest, rfl⟩ := Nat.exists_eq_add_of_le (Nat.le_of_not_lt inFront)
      have isLast : rest < 8 := by omega
      rw [Address.bit_of_last _ isLast, Address.bit_of_last _ isLast]
      exact same rest (by omega)

/-- A prefix that ends within the first three octets admits every last octet. -/
theorem NetworkAddress.contains_of_short {network : NetworkAddress}
    (short : network.length.val ≤ 24) (octet : UInt8) :
    network.Contains (network.address.withLastOctet octet) := by
  rw [contains_withLastOctet_iff]
  intro index inPrefix
  omega

/-- A prefix of the whole address admits no other address. -/
theorem NetworkAddress.fourth_eq_of_contains {network : NetworkAddress} {octet : UInt8}
    (whole : network.length.val = 32)
    (contained : network.Contains (network.address.withLastOctet octet)) :
    network.address.fourth = octet := by
  rw [contains_withLastOctet_iff] at contained
  exact octet_ext fun index inside => (contained index (by omega)).symm

end Testbed.Net

namespace Testbed.Replay

open Testbed.Net Testbed.Topology

/-! ## Gateways of accepted topologies -/

/-- The gateway of a host is in the subnet of the host's address exactly if the bits of its last
octet agree with those of the host as far as the prefix reaches. So it always is behind a prefix of
at most 24 bits, and never behind one of 32. -/
theorem gateway_in_subnet_iff {document : String} {topology : Topology}
    (accepted : Topology.parse document = .ok topology) {assignment : Assignment}
    (isGiven : assignment ∈ assignments topology) :
    (assignment.address.Contains assignment.gateway ↔
      ∀ index < assignment.address.length.val - 24,
        octetBit topology.gatewayOctet index =
          octetBit assignment.address.address.fourth index) ∧
    (assignment.address.length.val ≤ 24 → assignment.address.Contains assignment.gateway) ∧
    (assignment.address.length.val = 32 → ¬ assignment.address.Contains assignment.gateway) := by
  obtain ⟨host, isHost, isAddress, isGateway⟩ := assignment_of_mem isGiven
  rw [isGateway, isAddress]
  refine ⟨host.address.contains_withLastOctet_iff topology.gatewayOctet,
    fun short => NetworkAddress.contains_of_short short _, fun whole contained => ?_⟩
  exact (gateway_of_parse accepted).2 host isHost
    (NetworkAddress.fourth_eq_of_contains whole contained)

/-- The hosts of the built-in topologies reach their gateways. -/
example : ∀ topology ∈ [Topology.abilene, Topology.neighbours],
    ∀ assignment ∈ assignments topology, assignment.address.Contains assignment.gateway := by
  decide

/-- A document with one host in the upper half of a network that is cut in two, and with an octet
for its gateway. -/
def halfDocument (octet : String) : String :=
  "gateway_octet = " ++ octet ++
    "\nhosts = [\x7b name = \"h\", iface = \"eth0\", addr = \"10.0.0.130/25\" \x7d]\n"

def halfTopology (octet : UInt8) : Topology where
  gatewayOctet := octet
  hosts := [⟨"h", "eth0", ⟨⟨10, 0, 0, 130⟩, ⟨25, by decide⟩⟩⟩]

/-- A gateway in the upper half is in the host's subnet. -/
theorem gateway_in_subnet_iff_upper :
    Topology.parse (halfDocument "129") = .ok (halfTopology 129) ∧
    ∃ assignment ∈ assignments (halfTopology 129),
      assignment.gateway = ⟨10, 0, 0, 129⟩ ∧ assignment.address.Contains assignment.gateway := by
  have accepted : Topology.parse (halfDocument "129") = .ok (halfTopology 129) :=
    ok_of_toOption (by decide +kernel)
  refine ⟨accepted, _, .head _, rfl, ?_⟩
  exact (gateway_in_subnet_iff accepted (.head _)).1.mpr (by decide)

/-- A gateway in the lower half is accepted too, and it is not in the host's subnet. -/
theorem gateway_outside_subnet_lower :
    Topology.parse (halfDocument "1") = .ok (halfTopology 1) ∧
    ∃ assignment ∈ assignments (halfTopology 1),
      assignment.gateway = ⟨10, 0, 0, 1⟩ ∧ ¬ assignment.address.Contains assignment.gateway :=
  ⟨ok_of_toOption (by decide +kernel), _, .head _, rfl, by decide⟩

end Testbed.Replay
