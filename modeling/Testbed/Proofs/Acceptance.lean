import Testbed.Replay.Hosts
import Testbed.Topology.Decode

/-!
# Accepted topologies

A document is decoded field by field, and the octet of the gateways is tested when its field is
read. The test could as well stand behind the decoding: it neither hides another complaint nor lets
one pass. What is accepted is therefore a topology that decodes, with an octet that is admitted and
without a host at the address of its gateway. Since all gateways end in the same octet, no gateway is
then the address of any host, its own or another.

Results:
1. `decode_tested`, `decode_eq_ok_iff`: testing the octet while decoding, and behind it.
2. `check_eq_error_iff`: the host that is named is the first at the address of its gateway.
3. `parse_eq_ok_iff`: what is accepted.
4. `parse_separates_gateways`: the above for a document, and the gateways of its hosts.
-/

namespace Testbed.Topology

open Testbed.Net Testbed.Toml

/-! ## The test of the octet -/

def anyOctet : UInt8 → Bool := fun _ => true

/-- A draft whose octet is tested now. -/
def Draft.guarded (admits : UInt8 → Bool) (draft : Draft) : Except (Mismatch Refusal) Draft :=
  match draft.gatewayOctet with
  | none => .ok draft
  | some octet => if admits octet then .ok draft else .error (.refused (.gatewayOctet octet))

/-- The octet that a draft has so far is admitted. -/
def Draft.Passes (admits : UInt8 → Bool) (draft : Draft) : Prop :=
  ∀ octet, draft.gatewayOctet = some octet → admits octet = true

/-- How reading with a test of the octet relates to reading without: where the one complains the
other complains too, and a draft of the one is tested by the other. -/
def Tested (admits : UInt8 → Bool) (free guarded : Except (Mismatch Refusal) Draft) : Prop :=
  match free with
  | .error _ => ∃ mismatch, guarded = .error mismatch
  | .ok draft => guarded = draft.guarded admits

theorem guarded_of_passes {admits : UInt8 → Bool} {draft : Draft}
    (passes : draft.Passes admits) : draft.guarded admits = .ok draft := by
  unfold Draft.guarded
  split
  · rfl
  · rename_i octet isOctet
    rw [if_pos (passes octet isOctet)]

theorem guarded_of_refused {admits : UInt8 → Bool} {draft : Draft} {octet : UInt8}
    (isOctet : draft.gatewayOctet = some octet) (refused : admits octet = false) :
    draft.guarded admits = .error (.refused (.gatewayOctet octet)) := by
  simp [Draft.guarded, isOctet, refused]

theorem tested_of_refused {admits : UInt8 → Bool} {octet : UInt8}
    {free : Except (Mismatch Refusal) Draft}
    (stays : ∀ draft, free = .ok draft → draft.gatewayOctet = some octet)
    (refused : admits octet = false) :
    Tested admits free (.error (.refused (.gatewayOctet octet))) := by
  cases free with
  | error mismatch => exact ⟨_, rfl⟩
  | ok draft => exact (guarded_of_refused (stays draft rfl) refused).symm

/-! ## Reading the members of a document -/

def octetField (admits : UInt8 → Bool) : Field Refusal Draft :=
  .of "gateway_octet" (admitted admits) fun draft octet => { draft with gatewayOctet := octet }

theorem find?_octet (admits : UInt8 → Bool) :
    ((fields admits).find? fun field => field.name = "gateway_octet") = some (octetField admits) :=
  rfl

/-- Only the field with the octet depends on the condition. -/
theorem find?_fields (admits other : UInt8 → Bool) {key : String} (apart : key ≠ "gateway_octet") :
    ((fields admits).find? fun field => field.name = key) =
      (fields other).find? fun field => field.name = key := by
  have passed : decide ("gateway_octet" = key) = false := decide_eq_false (Ne.symm apart)
  simp only [fields, List.find?_cons, Field.of, passed]

theorem gatewayOctet_of_add {admits : UInt8 → Bool} {field : Field Refusal Draft}
    (isField : field ∈ fields admits) (apart : field.name ≠ "gateway_octet") {draft next : Draft}
    {value : Value} (added : field.add draft value = .ok next) :
    next.gatewayOctet = draft.gatewayOctet := by
  simp only [fields, List.mem_cons, List.not_mem_nil, or_false] at isField
  rcases isField with rfl | rfl | rfl | rfl
  case inr.inl => exact absurd rfl apart
  all_goals
    obtain ⟨part, -, rfl⟩ := Field.exists_of_add added
    rfl

theorem add_octet (admits : UInt8 → Bool) (draft : Draft) (value : Value) :
    (∃ mismatch, ∀ admits, (octetField admits).add draft value = .error mismatch) ∨
    ∃ octet : UInt8,
      (octetField anyOctet).add draft value = .ok { draft with gatewayOctet := some octet } ∧
      (octetField admits).add draft value =
        if admits octet then .ok { draft with gatewayOctet := some octet }
        else .error (.refused (.gatewayOctet octet)) := by
  cases read : (octet value : Except (Mismatch Refusal) UInt8) with
  | error mismatch =>
    refine .inl ⟨mismatch, fun admits => ?_⟩
    simp [octetField, Field.of, admitted, read, bind, Except.bind, Except.map]
  | ok byte =>
    refine .inr ⟨byte, ?_, ?_⟩
    · simp [octetField, Field.of, admitted, read, bind, Except.bind, Except.map, anyOctet]
    · cases isAdmitted : admits byte <;>
        simp [octetField, Field.of, admitted, read, bind, Except.bind, Except.map, isAdmitted]

theorem readMembers_tested (admits : UInt8 → Bool) (members : List (String × Value))
    (seen : List String) {draft : Draft} (passes : draft.Passes admits) :
    Tested admits (readMembers (fields anyOctet) members seen draft)
      (readMembers (fields admits) members seen draft) := by
  induction members generalizing seen draft with
  | nil => exact (guarded_of_passes passes).symm
  | cons member later ih =>
    obtain ⟨key, value⟩ := member
    rw [readMembers, readMembers]
    by_cases isOctet : key = "gateway_octet"
    · subst isOctet
      rw [find?_octet, find?_octet]
      dsimp only
      split
      · exact ⟨_, rfl⟩
      · rcases add_octet admits draft value with ⟨_, fails⟩ | ⟨octet, free, guarded⟩
        · rw [fails, fails]
          exact ⟨_, rfl⟩
        · rw [free, guarded]
          cases isAdmitted : admits octet with
          | true => exact ih _ fun other isOther => Option.some.inj isOther ▸ isAdmitted
          | false =>
            -- The key is not read again, so the octet is that of the finished draft.
            refine tested_of_refused (fun final read => ?_) isAdmitted
            exact readMembers_keeps_of_seen (fun draft => draft.gatewayOctet = some octet)
              (fun field isField apart draft value next before added =>
                (gatewayOctet_of_add isField apart added).trans before) (.head _) rfl read
    · rw [find?_fields admits anyOctet isOctet]
      cases found : (fields anyOctet).find? fun field => field.name = key with
      | none =>
        dsimp only
        split
        · exact ⟨_, rfl⟩
        · exact ih _ passes
      | some field =>
        have isKey : field.name = key := by simpa using List.find?_some found
        dsimp only
        split
        · exact ⟨_, rfl⟩
        · cases added : field.add draft value with
          | error mismatch => exact ⟨_, rfl⟩
          | ok next =>
            have same := gatewayOctet_of_add (List.mem_of_find?_eq_some found)
              (isKey ▸ isOctet) added
            refine ih _ fun octet isNext => passes octet ?_
            rw [← same, isNext]

/-! ## Decoding a document -/

theorem finish_of_none {draft : Draft} (isOctet : draft.gatewayOctet = none) :
    draft.finish = .error (.missingField "gateway_octet") := by
  simp only [Draft.finish, isOctet]

theorem finish_of_some {draft : Draft} {octet : UInt8}
    (isOctet : draft.gatewayOctet = some octet) :
    draft.finish = .ok ⟨draft.settings, octet, draft.routers, draft.hosts⟩ := by
  simp only [Draft.finish, isOctet]

theorem decode_table (admits : UInt8 → Bool) (form : TableForm)
    (members : List (String × Value)) :
    decode admits (.table form members) =
      match readMembers (fields admits) members [] {} with
      | .error mismatch => .error mismatch
      | .ok draft =>
        match form.defect? with
        | some defect => .error (.defective defect)
        | none => draft.finish := by
  rw [decode, record]
  cases readMembers (fields admits) members [] {} with
  | error mismatch => rfl
  | ok draft => cases form.defect? <;> rfl

/-- Decoding with a test of the octet is decoding without one, and then the test. -/
theorem decode_tested (admits : UInt8 → Bool) (form : TableForm)
    (members : List (String × Value)) :
    (∃ mismatch other, decode anyOctet (.table form members) = .error mismatch ∧
      decode admits (.table form members) = .error other) ∨
    ∃ topology, decode anyOctet (.table form members) = .ok topology ∧
      decode admits (.table form members) =
        if admits topology.gatewayOctet then .ok topology
        else .error (.refused (.gatewayOctet topology.gatewayOctet)) := by
  have passes : Draft.Passes admits {} := by
    simp [Draft.Passes]
  have tested := readMembers_tested admits members [] passes
  rw [decode_table, decode_table]
  cases free : readMembers (fields anyOctet) members [] {} with
  | error mismatch =>
    rw [free] at tested
    obtain ⟨other, fails⟩ := tested
    exact .inl ⟨mismatch, other, rfl, by rw [fails]⟩
  | ok draft =>
    rw [free] at tested
    rw [show readMembers (fields admits) members [] {} = draft.guarded admits from tested]
    cases isOctet : draft.gatewayOctet with
    | none =>
      -- Without an octet there is nothing to test, and the draft cannot be finished.
      have kept : draft.guarded admits = .ok draft :=
        guarded_of_passes fun octet isOther => by rw [isOctet] at isOther; cases isOther
      simp only [kept, finish_of_none isOctet]
      cases form.defect? <;> exact .inl ⟨_, _, rfl, rfl⟩
    | some octet =>
      cases isAdmitted : admits octet with
      | true =>
        have kept : draft.guarded admits = .ok draft :=
          guarded_of_passes fun other isOther =>
            Option.some.inj (isOctet.symm.trans isOther) ▸ isAdmitted
        simp only [kept, finish_of_some isOctet]
        cases form.defect? with
        | some defect => exact .inl ⟨_, _, rfl, rfl⟩
        | none => exact .inr ⟨_, rfl, by rw [if_pos isAdmitted]⟩
      | false =>
        simp only [guarded_of_refused isOctet isAdmitted, finish_of_some isOctet]
        cases form.defect? with
        | some defect => exact .inl ⟨_, _, rfl, rfl⟩
        | none => exact .inr ⟨_, rfl, by rw [if_neg (by simp [isAdmitted])]⟩

theorem decode_eq_ok_iff {admits : UInt8 → Bool} {form : TableForm}
    {members : List (String × Value)} {topology : Topology} :
    decode admits (.table form members) = .ok topology ↔
      decode anyOctet (.table form members) = .ok topology ∧
        admits topology.gatewayOctet = true := by
  rcases decode_tested admits form members with ⟨_, _, free, tested⟩ | ⟨decoded, free, tested⟩
  · rw [free, tested]
    simp
  · rw [free, tested]
    cases isAdmitted : admits decoded.gatewayOctet with
    | true =>
      rw [if_pos rfl]
      exact ⟨fun same => ⟨same, Except.ok.inj same ▸ isAdmitted⟩, And.left⟩
    | false =>
      rw [if_neg Bool.false_ne_true]
      constructor
      · intro isOk
        cases isOk
      · rintro ⟨same, others⟩
        rw [← Except.ok.inj same, isAdmitted] at others
        cases others

/-- A topology is only refused for its octet if nothing else is wrong with the document. -/
theorem decode_of_refused {admits : UInt8 → Bool} {form : TableForm}
    {members : List (String × Value)} {topology : Topology}
    (decoded : decode anyOctet (.table form members) = .ok topology)
    (refused : admits topology.gatewayOctet = false) :
    decode admits (.table form members) =
      .error (.refused (.gatewayOctet topology.gatewayOctet)) := by
  rcases decode_tested admits form members with ⟨_, _, free, _⟩ | ⟨other, free, tested⟩
  · rw [decoded] at free
    cases free
  · rw [decoded] at free
    cases free
    rw [tested, refused, if_neg Bool.false_ne_true]

/-! ## Hosts at the addresses of their gateways -/

/-- The host that is named is the first at the address of its gateway. -/
theorem check_eq_error_iff {topology : Topology} {collision : Collision} :
    topology.check = .error collision ↔
      ∃ earlier host later, topology.hosts = earlier ++ host :: later ∧
        host.address.address.fourth = topology.gatewayOctet ∧
        (∀ other ∈ earlier, other.address.address.fourth ≠ topology.gatewayOctet) ∧
        collision = ⟨host.name, host.address.address⟩ := by
  unfold check
  constructor
  · intro isError
    split at isError
    · rename_i host found
      obtain ⟨isCollision, earlier, later, isSplit, pass⟩ :=
        List.find?_eq_some_iff_append.mp found
      obtain rfl := Except.error.inj isError
      refine ⟨earlier, host, later, isSplit, by simpa [collides] using isCollision, ?_, rfl⟩
      intro other isEarlier
      simpa [collides] using pass other isEarlier
    · cases isError
  · rintro ⟨earlier, host, later, isSplit, isCollision, pass, rfl⟩
    have found : topology.hosts.find? (collides topology.gatewayOctet) = some host := by
      refine List.find?_eq_some_iff_append.mpr
        ⟨by simpa [collides] using isCollision, earlier, later, isSplit, ?_⟩
      intro other isEarlier
      simpa [collides] using pass other isEarlier
    rw [found]

/-! ## Documents -/

theorem ok_of_toOption {ε α : Type} {result : Except ε α} {value : α}
    (found : result.toOption = some value) : result = .ok value := by
  cases result with
  | error cause => cases found
  | ok _ => exact congrArg Except.ok (Option.some.inj found)

theorem exists_table_of_parse? {document : String} {value : Value}
    (parsed : Toml.parse? document = some value) :
    ∃ form members, value = .table form members := by
  obtain ⟨blocks, -, rfl⟩ := Option.map_eq_some_iff.mp parsed
  exact ⟨_, _, rfl⟩

theorem isGatewayOctet_iff {octet : UInt8} :
    isGatewayOctet octet = true ↔ 1 ≤ octet.toNat ∧ octet.toNat ≤ 254 := by
  simp only [isGatewayOctet, Bool.and_eq_true, decide_eq_true_eq]

theorem parse_of_value {document : String} {value : Value}
    (parsed : Toml.parse? document = some value) :
    parse document =
      match decode isGatewayOctet value with
      | .error cause => .error (.mismatch cause)
      | .ok topology => topology.check.mapError .collision := by
  cases decoded : decode isGatewayOctet value <;> simp only [parse, parsed, decoded]

/-- A document that decodes is refused for the octet first, and then for its hosts. -/
theorem parse_of_decoded {document : String} {value : Value} {topology : Topology}
    (parsed : Toml.parse? document = some value) (decoded : decode anyOctet value = .ok topology) :
    parse document =
      if isGatewayOctet topology.gatewayOctet then topology.check.mapError .collision
      else .error (.mismatch (.refused (.gatewayOctet topology.gatewayOctet))) := by
  obtain ⟨form, members, rfl⟩ := exists_table_of_parse? parsed
  rw [parse_of_value parsed]
  cases possible : isGatewayOctet topology.gatewayOctet with
  | true => simp only [decode_eq_ok_iff.mpr ⟨decoded, possible⟩, if_true]
  | false => simp only [decode_of_refused decoded possible, Bool.false_eq_true, if_false]

theorem decoded_of_parse {document : String} {topology : Topology}
    (accepted : parse document = .ok topology) :
    ∃ value, Toml.parse? document = some value ∧ decode anyOctet value = .ok topology := by
  cases parsed : Toml.parse? document with
  | none => simp only [parse, parsed, reduceCtorEq] at accepted
  | some value =>
    refine ⟨value, rfl, ?_⟩
    obtain ⟨form, members, rfl⟩ := exists_table_of_parse? parsed
    rw [parse_of_value parsed] at accepted
    cases decoded : decode isGatewayOctet (.table form members) with
    | error cause => simp only [decoded, reduceCtorEq] at accepted
    | ok found =>
      simp only [decoded] at accepted
      cases checked : found.check with
      | error collision => rw [checked] at accepted; cases accepted
      | ok kept =>
        -- The check of the hosts changes nothing.
        obtain ⟨rfl, -⟩ := check_eq_ok_iff.mp checked
        rw [checked] at accepted
        obtain rfl := Except.ok.inj accepted
        exact (decode_eq_ok_iff.mp decoded).1

/-- What is accepted: a document that decodes to a topology with a possible octet, if no host is at
the address of its gateway. -/
theorem parse_eq_ok_iff {document : String} {topology : Topology} :
    parse document = .ok topology ↔
      (∃ value, Toml.parse? document = some value ∧ decode anyOctet value = .ok topology) ∧
        isGatewayOctet topology.gatewayOctet = true ∧
        ∀ host ∈ topology.hosts, host.address.address.fourth ≠ topology.gatewayOctet := by
  constructor
  · intro accepted
    exact ⟨decoded_of_parse accepted, gateway_of_parse accepted⟩
  · rintro ⟨⟨value, parsed, decoded⟩, possible, apart⟩
    rw [parse_of_decoded parsed decoded, if_pos possible, check_eq_ok_iff.mpr ⟨rfl, apart⟩]
    rfl

end Testbed.Topology

namespace Testbed.Replay

open Testbed.Net Testbed.Topology

/-- What a host is given: its own name, interface and address, and a gateway in the same place of
the network. -/
theorem assignment_of_mem {topology : Topology} {assignment : Assignment}
    (isGiven : assignment ∈ assignments topology) :
    ∃ host ∈ topology.hosts, assignment.address = host.address ∧
      assignment.gateway = host.address.address.withLastOctet topology.gatewayOctet := by
  obtain ⟨host, isHost, rfl⟩ := List.mem_map.mp isGiven
  exact ⟨host, isHost, rfl, rfl⟩

/-- A document is accepted exactly if it decodes to a topology whose octet is possible and whose
hosts are not at the addresses of their gateways. Otherwise the octet is reported, or the first host
at the address of its gateway. Every host of an accepted topology is given its own address and a
gateway that differs from it in the last octet, and no gateway is the address of any host. -/
theorem parse_separates_gateways (document : String) :
    (∀ topology, parse document = .ok topology ↔
      (∃ value, Toml.parse? document = some value ∧ decode anyOctet value = .ok topology) ∧
        (1 ≤ topology.gatewayOctet.toNat ∧ topology.gatewayOctet.toNat ≤ 254) ∧
        ∀ host ∈ topology.hosts, host.address.address.fourth ≠ topology.gatewayOctet) ∧
    (∀ value topology, Toml.parse? document = some value →
      decode anyOctet value = .ok topology →
      if 1 ≤ topology.gatewayOctet.toNat ∧ topology.gatewayOctet.toNat ≤ 254 then
        (∃ host ∈ topology.hosts, host.address.address.fourth = topology.gatewayOctet) →
        ∃ earlier host later, topology.hosts = earlier ++ host :: later ∧
          host.address.address.fourth = topology.gatewayOctet ∧
          (∀ other ∈ earlier, other.address.address.fourth ≠ topology.gatewayOctet) ∧
          parse document = .error (.collision ⟨host.name, host.address.address⟩)
      else parse document = .error (.mismatch (.refused (.gatewayOctet topology.gatewayOctet)))) ∧
    ∀ topology, parse document = .ok topology →
      let given := assignments topology
      given.map (fun assignment =>
          (assignment.host, assignment.interface, assignment.address)) =
        topology.hosts.map (fun host => (host.name, host.interface, host.address)) ∧
      (∀ assignment ∈ given,
        assignment.gateway.first = assignment.address.address.first ∧
        assignment.gateway.second = assignment.address.address.second ∧
        assignment.gateway.third = assignment.address.address.third ∧
        assignment.gateway.fourth = topology.gatewayOctet) ∧
      ∀ one ∈ given, ∀ other ∈ given, one.gateway ≠ other.address.address := by
  refine ⟨fun topology => ?_, fun value topology parsed decoded => ?_,
    fun topology accepted => ?_⟩
  · rw [parse_eq_ok_iff, isGatewayOctet_iff]
  · have refused := parse_of_decoded parsed decoded
    split
    · rename_i possible
      rintro ⟨host, isHost, isCollision⟩
      rw [if_pos (isGatewayOctet_iff.mpr possible)] at refused
      cases checked : topology.check with
      | ok kept => exact absurd isCollision ((check_eq_ok_iff.mp checked).2 host isHost)
      | error collision =>
        obtain ⟨earlier, first, later, isSplit, isFirst, pass, rfl⟩ :=
          check_eq_error_iff.mp checked
        rw [checked] at refused
        exact ⟨earlier, first, later, isSplit, isFirst, pass, refused⟩
    · rename_i impossible
      rwa [if_neg fun possible => impossible (isGatewayOctet_iff.mp possible)] at refused
  · have apart := (gateway_of_parse accepted).2
    refine ⟨List.map_map, fun assignment isGiven => ?_, fun one isOne other isOther same => ?_⟩
    · obtain ⟨host, -, isAddress, isGateway⟩ := assignment_of_mem isGiven
      rw [isAddress, isGateway]
      exact Address.withLastOctet_octets _ _
    · obtain ⟨_, -, -, isGateway⟩ := assignment_of_mem isOne
      obtain ⟨host, isHost, isAddress, -⟩ := assignment_of_mem isOther
      rw [isGateway, isAddress] at same
      exact apart host isHost (congrArg Address.fourth same).symm

def sampleHosts : List Host :=
  [Topology.hostOf "a" "eth0" 10 0 0 2, Topology.hostOf "b" "eth0" 10 0 1 1,
   Topology.hostOf "c" "eth0" 10 0 2 1]

/-- A document with these hosts and an octet for their gateways. -/
def sampleDocument (octet : String) : String :=
  "gateway_octet = " ++ octet ++
    "\n[[hosts]]\nname = \"a\"\niface = \"eth0\"\naddr = \"10.0.0.2/24\"" ++
    "\n[[hosts]]\nname = \"b\"\niface = \"eth0\"\naddr = \"10.0.1.1/24\"" ++
    "\n[[hosts]]\nname = \"c\"\niface = \"eth0\"\naddr = \"10.0.2.1/24\"\n"

/-- Of the two hosts at the address of their gateway the first is named. With an octet that no host
has the document is accepted. -/
theorem parse_separates_gateways_sampleDocument :
    (∃ value, Toml.parse? (sampleDocument "1") = some value ∧
      decode anyOctet value = .ok { gatewayOctet := 1, hosts := sampleHosts }) ∧
    parse (sampleDocument "1") = .error (.collision ⟨"b", ⟨10, 0, 1, 1⟩⟩) ∧
    ∃ topology, parse (sampleDocument "254") = .ok topology ∧
      topology.hosts = sampleHosts ∧
      ∀ one ∈ assignments topology, ∀ other ∈ assignments topology,
        one.gateway ≠ other.address.address := by
  have colliding : ((Toml.parse? (sampleDocument "1")).bind fun value =>
      (decode anyOctet value).toOption) = some { gatewayOctet := 1, hosts := sampleHosts } := by
    decide +kernel
  have accepted : (parse (sampleDocument "254")).toOption =
      some { gatewayOctet := 254, hosts := sampleHosts } := by
    decide +kernel
  obtain ⟨value, parsed, isOption⟩ := Option.bind_eq_some_iff.mp colliding
  have decoded := ok_of_toOption isOption
  have isAccepted := ok_of_toOption accepted
  obtain ⟨earlier, host, later, isSplit, isCollision, pass, refused⟩ :=
    (parse_separates_gateways (sampleDocument "1")).2.1 value _ parsed decoded
      ⟨Topology.hostOf "b" "eth0" 10 0 1 1, by decide, rfl⟩
  refine ⟨⟨value, parsed, decoded⟩, ?_, _, isAccepted, rfl,
    ((parse_separates_gateways (sampleDocument "254")).2.2 _ isAccepted).2.2⟩
  rcases earlier with _ | ⟨first, _ | ⟨second, passed⟩⟩
  · obtain ⟨rfl, -⟩ := List.cons.inj isSplit
    exact absurd isCollision (by decide)
  · obtain ⟨-, isRest⟩ := List.cons.inj isSplit
    obtain ⟨rfl, -⟩ := List.cons.inj isRest
    exact refused
  · obtain ⟨-, isRest⟩ := List.cons.inj isSplit
    obtain ⟨rfl, -⟩ := List.cons.inj isRest
    exact absurd rfl (pass _ (.tail _ (.head _)))

end Testbed.Replay
