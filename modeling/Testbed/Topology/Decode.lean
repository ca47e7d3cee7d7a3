import Testbed.Files.Tree
import Testbed.Toml.Layout
import Testbed.Toml.Record
import Testbed.Topology.Basic

/-!
# Topologies in TOML

A topology is written as a TOML document: a table with the settings of the lab, the last octet of
the gateways, the names of the routers and the hosts. Only the octet has to be given. The first and
the last octet of a network belong to no gateway.

A document that is malformed is reported before anything else. Then the fields are read in the order
of the document, and the first that does not fit is reported. Last, the hosts are compared with
their gateways.

Results: `admits_of_decode` (the octet of a topology is admitted) and `gateway_of_parse` (no address
of an accepted topology is that of its gateway).
-/

namespace Testbed.Topology

open Testbed.Lab Testbed.Net Testbed.Toml

/-- Why a value of the right type is refused. -/
inductive Refusal where
  | gatewayOctet (octet : UInt8)
  | address (error : AddressError)
deriving DecidableEq, Repr

def Refusal.message : Refusal → String
  | .gatewayOctet octet =>
    "Gateway octet must be between 1 and 254, but was " ++ toString octet.toNat
  | .address error => error.message

/-- The settings of a lab. Settings that are left out have their default. -/
def labSettings : Reading Refusal Settings :=
  record
    [.of "sudo" boolean fun settings superuser => { settings with superuser },
     .of "exec_tool" text fun settings execTool => { settings with execTool },
     .of "process_prefix" text fun settings processPrefix => { settings with processPrefix },
     .of "shell" text fun settings shell => { settings with shell },
     .of "vtysh" text fun settings vtysh => { settings with vtysh }]
    "struct LabConfig" {}

def networkAddress : Reading Refusal NetworkAddress
  | .string text => (NetworkAddress.parse text).mapError fun error => .refused (.address error)
  | value => .error (.wrongType value "IPv4 network address")

structure HostDraft where
  name : Option String := none
  interface : Option String := none
  address : Option NetworkAddress := none

def HostDraft.finish (absent : String → Mismatch Refusal) (draft : HostDraft) :
    Except (Mismatch Refusal) Host :=
  match draft.name, draft.interface, draft.address with
  | none, _, _ => .error (absent "name")
  | _, none, _ => .error (absent "iface")
  | _, _, none => .error (absent "addr")
  | some name, some interface, some address => .ok ⟨name, interface, address⟩

/-- A host. All its fields have to be given. -/
def host : Reading Refusal Host := fun value => do
  let draft ← record
    [.of "name" text fun draft name => { draft with name },
     .of "iface" text fun draft interface => { draft with interface },
     .of "addr" networkAddress fun draft address => { draft with address }]
    "struct HostProperties" ({} : HostDraft) value
  draft.finish fun name =>
    match value with
    | .array items => .wrongLength items.length "struct HostProperties with 3 elements"
    | _ => .missingField name

def isGatewayOctet (octet : UInt8) : Bool := 1 ≤ octet.toNat && octet.toNat ≤ 254

def admitted (admits : UInt8 → Bool) : Reading Refusal UInt8 := fun value => do
  let byte ← octet value
  if admits byte then .ok byte else .error (.refused (.gatewayOctet byte))

structure Draft where
  settings : Settings := {}
  gatewayOctet : Option UInt8 := none
  routers : List String := []
  hosts : List Host := []

def Draft.finish (draft : Draft) : Except (Mismatch Refusal) Topology :=
  match draft.gatewayOctet with
  | none => .error (.missingField "gateway_octet")
  | some gatewayOctet => .ok { draft with gatewayOctet }

def fields (admits : UInt8 → Bool) : List (Field Refusal Draft) :=
  [.of "lab" labSettings fun draft settings => { draft with settings },
   .of "gateway_octet" (admitted admits) fun draft octet => { draft with gatewayOctet := octet },
   .of "routers" (sequence text) fun draft routers => { draft with routers },
   .of "hosts" (sequence host) fun draft hosts => { draft with hosts }]

/-- A topology with an octet that is admitted. -/
def decode (admits : UInt8 → Bool) : Reading Refusal Topology := fun value => do
  (← record (fields admits) "struct Topology" {} value).finish

theorem admits_of_admitted {admits : UInt8 → Bool} {value : Value} {byte : UInt8}
    (read : admitted admits value = .ok byte) : admits byte = true := by
  simp only [admitted, bind, Except.bind] at read
  split at read
  · simp at read
  · split at read
    · rename_i isAdmitted
      exact Except.ok.inj read ▸ isAdmitted
    · simp at read

theorem admits_of_decode {admits : UInt8 → Bool} {value : Value} {topology : Topology}
    (decoded : decode admits value = .ok topology) : admits topology.gatewayOctet = true := by
  simp only [decode, bind, Except.bind] at decoded
  split at decoded
  · simp at decoded
  · rename_i draft read
    have known := record_keeps (fun draft => ∀ octet, draft.gatewayOctet = some octet →
      admits octet = true) (fun field isField draft value next before added => by
        simp only [fields, List.mem_cons, List.not_mem_nil, or_false] at isField
        rcases isField with rfl | rfl | rfl | rfl <;>
          obtain ⟨part, read, rfl⟩ := Field.exists_of_add added
        · exact before
        · intro octet isOctet
          exact Option.some.inj isOctet ▸ admits_of_admitted read
        · exact before
        · exact before) (by simp) read
    unfold Draft.finish at decoded
    split at decoded
    · simp at decoded
    · rename_i octet isOctet
      obtain rfl := Except.ok.inj decoded
      exact known octet isOctet

inductive ParseError where
  | malformed
  | mismatch (cause : Mismatch Refusal)
  | collision (collision : Collision)

def parse (document : String) : Except ParseError Topology :=
  match Toml.parse? document with
  | none => .error .malformed
  | some value =>
    match decode isGatewayOctet value with
    | .error cause => .error (.mismatch cause)
    | .ok topology => topology.check.mapError .collision

/-- No address of an accepted topology is that of its gateway. -/
theorem gateway_of_parse {document : String} {topology : Topology}
    (accepted : parse document = .ok topology) :
    isGatewayOctet topology.gatewayOctet = true ∧
      ∀ host ∈ topology.hosts, host.address.address.fourth ≠ topology.gatewayOctet := by
  unfold parse at accepted
  split at accepted
  · simp at accepted
  · split at accepted
    · simp at accepted
    · rename_i decoded isDecoded
      cases isChecked : decoded.check with
      | error collision =>
        rw [isChecked] at accepted
        exact nomatch accepted
      | ok checked =>
        rw [isChecked] at accepted
        obtain rfl : checked = topology := Except.ok.inj accepted
        obtain ⟨rfl, apart⟩ := check_eq_ok_iff.mp isChecked
        exact ⟨admits_of_decode isDecoded, apart⟩

inductive LoadError where
  | unreadable (path : String) (cause : Files.ReadError)
  | unusable (cause : ParseError)

/-- What is reported for a topology that could not be loaded. A malformed document is not
explained. -/
def LoadError.message? : LoadError → Option String
  | .unreadable path cause => some ("Cannot read '" ++ path ++ "': " ++ cause.message)
  | .unusable .malformed => none
  | .unusable (.mismatch cause) => cause.message? Refusal.message
  | .unusable (.collision collision) => some collision.message

def load (read : Files.Reader) (path : String) : Except LoadError Topology :=
  match read path with
  | .error cause => .error (.unreadable path cause)
  | .ok document => (parse document).mapError .unusable

end Testbed.Topology
