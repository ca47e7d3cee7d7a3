import Testbed.Replay.Hosts

/-!
# What the commands of a host say

The two commands of a host hold an assignment as text: an interface, an address with its prefix
length, and a gateway. Addresses are written with points between their octets, and every number in
its decimal form, which is short enough to be read again and has no zero in front. So nothing is
lost on the way: the texts are read as the values that were written, by the rule for plain addresses
and by the one for network addresses, and the bits of a host are kept whatever the prefix is.

Results:
1. `octet?_toString`: an octet is read back, whether zeros may stand in front or not.
2. `Address.parse_render`, `NetworkAddress.parse_render`: addresses are read back.
3. `commands_hold_assignment`: what the commands say, and which assignments have the same commands.
-/

namespace Testbed.Net

open Testbed.Text

/-! ## Numbers -/

/-- The decimal form of a number obeys both rules for zeros in front. -/
theorem admits_toString (rule : ZeroRule) (n : Nat) : rule.admits (toString n).toList = true := by
  unfold ZeroRule.admits
  split
  · rfl
  · rename_i second rest isNumeral
    -- Zero itself is a single digit, so a number stands here that is positive.
    have positive : 0 < n := by
      refine Nat.pos_of_ne_zero ?_
      rintro rfl
      simp at isNumeral
    exact absurd (by rw [isNumeral]; rfl) (head?_toString_ne positive)
  · rfl

theorem boundedNumeral?_toString {maxDigits bound : Nat} (nonempty : 0 < maxDigits)
    (short : bound ≤ Nat.pow 10 maxDigits) (value : Fin bound) :
    boundedNumeral? maxDigits bound (toString value.val).toList = some value := by
  have fits : (toString value.val).toList.length ≤ maxDigits :=
    length_toString_le nonempty (Nat.lt_of_lt_of_le value.isLt short)
  simp only [boundedNumeral?, decimal?_toString, bind, Option.bind_some]
  exact dif_pos ⟨fits, value.isLt⟩

theorem octet?_toString (rule : ZeroRule) (octet : UInt8) :
    octet? rule (toString octet.toNat).toList = some octet := by
  have isRead : boundedNumeral? 3 256 (toString octet.toNat).toList =
      some ⟨octet.toNat, octet.toNat_lt⟩ :=
    boundedNumeral?_toString (by decide) (by decide) ⟨octet.toNat, octet.toNat_lt⟩
  simp only [octet?, isRead, bind, Option.bind_some, admits_toString, if_true, UInt8.ofNat_toNat]

/-! ## Addresses -/

namespace Address

theorem toList_render (address : Address) :
    address.render.toList =
      (toString address.first.toNat).toList ++ '.' :: ((toString address.second.toNat).toList ++
        '.' :: ((toString address.third.toNat).toList ++
          '.' :: (toString address.fourth.toNat).toList)) := by
  simp [render]

theorem pieces_render (address : Address) :
    pieces '.' address.render.toList =
      [(toString address.first.toNat).toList, (toString address.second.toNat).toList,
       (toString address.third.toNat).toList, (toString address.fourth.toNat).toList] := by
  have absent : ∀ n : Nat, '.' ∉ (toString n).toList := not_mem_toString rfl
  rw [toList_render, pieces_append (absent _), pieces_append (absent _), pieces_append (absent _),
    pieces_of_not_mem (absent _)]

theorem address?_render (rule : ZeroRule) (address : Address) :
    address? rule address.render.toList = some address := by
  simp only [address?, pieces_render, octet?_toString, bind, Option.bind_some]

theorem not_mem_render (address : Address) : '/' ∉ address.render.toList := by
  have absent : ∀ n : Nat, '/' ∉ (toString n).toList := not_mem_toString rfl
  simp only [toList_render, List.mem_append, List.mem_cons, absent, Char.reduceEq, or_self,
    not_false_eq_true]

theorem parse_render (address : Address) : parse address.render = .ok address := by
  rw [parse, address?_render]

theorem render_injective : Function.Injective render := by
  intro left right same
  simpa only [parse_render, Except.ok.injEq] using congrArg parse same

end Address

namespace NetworkAddress

theorem pieces_render (network : NetworkAddress) :
    pieces '/' network.render.toList =
      [network.address.render.toList, (toString network.length.val).toList] := by
  have parts : network.render.toList =
      network.address.render.toList ++ '/' :: (toString network.length.val).toList := by
    simp [render]
  rw [parts, pieces_append network.address.not_mem_render,
    pieces_of_not_mem (not_mem_toString rfl _)]

theorem parse_render (network : NetworkAddress) : parse network.render = .ok network := by
  have isLength : boundedNumeral? 2 33 (toString network.length.val).toList =
      some network.length :=
    boundedNumeral?_toString (by decide) (by decide) network.length
  simp only [parse, pieces_render, Address.address?_render, isLength]

theorem render_injective : Function.Injective render := by
  intro left right same
  simpa only [parse_render, Except.ok.injEq] using congrArg parse same

end NetworkAddress

end Testbed.Net

namespace Testbed.Replay

open Testbed.Net

/-! ## Commands -/

/-- The third word of a host's first command is read as the host's address with its prefix length,
the fifth word of the second command as the address of the gateway, and each command names the
interface. So two assignments have the same commands exactly if they agree in the interface, the
address, the prefix length and the gateway. -/
theorem commands_hold_assignment :
    (∀ (host : Host) (octet : UInt8),
      let assignment := Assignment.ofHost octet host
      (assignment.addressCommand[2]?.map NetworkAddress.parse = some (.ok host.address) ∧
        assignment.addressCommand[1]? = some host.interface) ∧
      assignment.routeCommand[4]?.map Address.parse =
          some (.ok (host.address.address.withLastOctet octet)) ∧
        assignment.routeCommand[5]? = some host.interface) ∧
    ∀ left right : Assignment, left.commands = right.commands ↔
      left.interface = right.interface ∧ left.address.address = right.address.address ∧
        left.address.length = right.address.length ∧ left.gateway = right.gateway := by
  refine ⟨fun host octet => ⟨⟨?_, rfl⟩, ?_, rfl⟩, fun left right => ⟨fun same => ?_, ?_⟩⟩
  · exact congrArg some (NetworkAddress.parse_render host.address)
  · exact congrArg some (Address.parse_render (host.address.address.withLastOctet octet))
  · simp only [Assignment.commands, Assignment.addressCommand, Assignment.routeCommand,
      List.cons.injEq, and_true, true_and] at same
    obtain ⟨⟨sameInterface, sameAddress⟩, sameGateway, -⟩ := same
    have isAddress := NetworkAddress.render_injective sameAddress
    exact ⟨sameInterface, congrArg NetworkAddress.address isAddress,
      congrArg NetworkAddress.length isAddress, Address.render_injective sameGateway⟩
  · obtain ⟨_, _, ⟨_, _⟩, _⟩ := left
    obtain ⟨_, _, ⟨_, _⟩, _⟩ := right
    rintro ⟨rfl, rfl, rfl, rfl⟩
    rfl

/-- The address keeps the bits behind its prefix. -/
example :
    (Assignment.ofHost 1 ⟨"client", "client-eth0", ⟨⟨10, 0, 7, 200⟩, 9⟩⟩).commands =
      [["ifconfig", "client-eth0", "10.0.7.200/9", "up"],
       ["route", "add", "default", "gw", "10.0.7.1", "client-eth0"]] := by
  decide

end Testbed.Replay
