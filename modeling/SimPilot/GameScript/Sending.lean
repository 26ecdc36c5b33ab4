import SimPilot.GameScript.Rename
import SimPilot.AdminNetwork.Protocol
import SimPilot.Domain.Text
import SimPilot.Runtime.Errors
import SimPilot.Data.JsonText
import SimPilot.Data.Except
/-!
# What a company name takes on its way to the script

The name is bounded in characters by the action, in bytes of JSON by the message, in bytes of a
packet by the protocol and in bytes of UTF-8 by the script.

| here | there |
|---|---|
| `fromAction` | `SetCompanyNameOpenTTDAction.from_action` (adapters/openttd/adapter.py:75) |
| `toJson` | `BridgeMessage.to_json` (openttd/gamescript/messages.py:387) |
| `encodeGamescript` | openttd/protocol.py:202 |
| `nameAccepted` | the check of the name in `HandleCommand` (main.nut:473) |
-/

namespace SimPilot.GameScript

open AdminNetwork JsonText

/-! ## The action -/

structure SetCompanyNameOpenTTDAction where
  name : String
  sized : 1 ≤ name.length ∧ name.length ≤ 128

/-- `s.strip()` -/
def stripOf (isSpace : Char → Bool) (s : String) : String :=
  String.ofList ((s.toList.dropWhile isSpace).reverse.dropWhile isSpace).reverse

def fromAction (isSpace : Char → Bool) (action : SimPilot.Action) : Except PyError SetCompanyNameOpenTTDAction :=
  if action.type.val ≠ "set_company_name" then
    .error (.valueError ("unsupported OpenTTD GameScript action: " ++ action.type.val))
  else if ¬ (Assoc.contains action.parameters "name" ∧ action.parameters.keys.all (· = "name")) then
    .error (.valueError "set_company_name requires exactly the 'name' parameter")
  else match action.parameters.get "name" with
    | some (.str name) =>
      if hsized : 1 ≤ name.length ∧ name.length ≤ 128 then
        if name ≠ stripOf isSpace name then
          .error (.valueError "company name must not have leading or trailing whitespace")
        else if name.toList.any (·.toNat < 32) then .error (.valueError "company name contains a control character")
        else .ok ⟨name, hsized⟩
      else .error (.other "ValidationError" "name")
    | _ => .error (.valueError "set_company_name name must be a string")

/-! ## The message -/

mutual
/-- `json.dumps(value, sort_keys=True, separators=(",", ":"))` -/
def dumps : Squirrel → List Char
  | .null => "null".toList
  | .bool b => (if b then "true" else "false").toList
  | .integer i => (toString i).toList
  | .float q => (floatRepr q).toList
  | .string s => quoted s
  | .array xs => '[' :: dumpsElements xs
  | .table slots => object (dumpsSlots slots)
termination_by structural v => v
def dumpsElements : List Squirrel → List Char
  | [] => [']']
  | [x] => dumps x ++ [']']
  | x :: xs => dumps x ++ ',' :: dumpsElements xs
termination_by structural v => v
def dumpsSlots : List (String × Squirrel) → List (String × List Char)
  | [] => []
  | slot :: slots => dumpsSlot slot :: dumpsSlots slots
termination_by structural v => v
def dumpsSlot : String × Squirrel → String × List Char
  | (key, value) => (key, dumps value)
termination_by structural v => v
end

def ADMIN_TO_GAMESCRIPT_MAX_BYTES : Nat := 8999

def toJson (maximumBytes : Nat) (message : Squirrel) : Except OpenTTDError String :=
  let value := String.ofList (dumps message)
  if maximumBytes < value.utf8ByteSize then
    .error (.value ("bridge message exceeds " ++ toString maximumBytes ++ " bytes"))
  else .ok value

def ADMIN_GAMESCRIPT : Nat := 6

def encodeGamescript (value : String) : Except OpenTTDError Bytes :=
  if '\x00' ∈ value.toList then .error (.value "protocol strings cannot contain NUL")
  else encodePacket ADMIN_GAMESCRIPT (value.toUTF8.data.toList ++ [0])

def nameAccepted (name : String) : Bool := ¬ (name.utf8ByteSize = 0 ∨ 128 < name.utf8ByteSize)

/-- The message `_send` makes of a command (client.py:325). -/
def commandMessage (sequence : Nat) (scriptInstanceId : Option String) (companyId : Int) (priorSnapshotId : String)
    (q : RenameRequest) : Squirrel :=
  envelope sequence q.requestId scriptInstanceId "command_request" (some companyId)
    (q.payload companyId priorSnapshotId).slots

/-- The command passes every limit between the action and the script. -/
def Sendable (sequence : Nat) (scriptInstanceId : Option String) (companyId : Int) (priorSnapshotId : String)
    (q : RenameRequest) : Prop :=
  ∃ value packet,
    toJson ADMIN_TO_GAMESCRIPT_MAX_BYTES (commandMessage sequence scriptInstanceId companyId priorSnapshotId q) =
      .ok value ∧ encodeGamescript value = .ok packet ∧ nameAccepted q.name = true

/-! ## The length of the message -/

/-- The bytes of a command message: 378 beside the numbers and the texts that vary. -/
def commandBytes (sequence : Nat) (scriptInstanceId : Option String) (companyId : Int) (priorSnapshotId : String)
    (q : RenameRequest) : Nat :=
  378 + (toString sequence).length + 2 * (toString companyId).length + escapedLength q.name +
    escapedLength (scriptInstanceId.getD "unknown") + escapedLength priorSnapshotId + escapedLength q.requestUuid +
    escapedLength q.commandId + escapedLength q.actionFingerprint + escapedLength q.expectedCapabilityFingerprint +
    escapedLength q.requestTimestamp

section
variable {sequence : Nat} {scriptInstanceId : Option String} {companyId : Int} {priorSnapshotId : String}
  {q : RenameRequest}

theorem toString_nat_printable (n : Nat) : ∀ c ∈ (toString n).toList, Printable c := by
  intro c hc
  have hdigits : (toString n).toList = Nat.toDigits 10 n := by simp
  rw [hdigits] at hc
  have hdigit := Nat.isDigit_of_mem_toDigits (by decide) (by decide) hc
  simp only [Char.isDigit, Bool.and_eq_true, decide_eq_true_eq] at hdigit
  have hlow : 48 ≤ c.val.toNat := hdigit.1
  have hhigh : c.val.toNat ≤ 57 := hdigit.2
  have hval : c.toNat = c.val.toNat := rfl
  exact ⟨by omega, by omega⟩

theorem toString_int_printable (i : Int) : ∀ c ∈ (toString i).toList, Printable c := by
  cases i with
  | ofNat n => exact toString_nat_printable n
  | negSucc n =>
    intro c hc
    have hneg : toString (Int.negSucc n) = "-" ++ toString (n + 1) := rfl
    rw [hneg, String.toList_append, List.mem_append] at hc
    rcases hc with hc | hc
    · rw [List.mem_singleton.mp hc]
      decide
    · exact toString_nat_printable (n + 1) c hc

theorem commandMessage_printable :
    ∀ c ∈ dumps (commandMessage sequence scriptInstanceId companyId priorSnapshotId q), Printable c := by
  have hnull : ∀ c ∈ "null".toList, Printable c := by
    have hall : "null".toList.all (fun c => decide (Printable c)) = true := by decide
    exact fun c hc => of_decide_eq_true (List.all_eq_true.mp hall c hc)
  refine object_printable ?_
  simp only [CommandRequestPayload.slots, RenameRequest.payload, Option.map_some, Option.getD_some, dumpsSlots,
    dumpsSlot,
    dumps, List.forall_mem_cons]
  have hparameters : ∀ c ∈ object [("name", quoted q.name)], Printable c := by
    refine object_printable ?_
    simp only [List.forall_mem_cons]
    exact ⟨quoted_printable _, List.forall_mem_nil _⟩
  refine ⟨toString_int_printable _, toString_int_printable _, quoted_printable _, hnull, quoted_printable _,
    quoted_printable _, toString_int_printable _, toString_int_printable _, object_printable ?_, List.forall_mem_nil _⟩
  simp only [List.forall_mem_cons]
  exact ⟨quoted_printable _, quoted_printable _, hparameters, quoted_printable _, quoted_printable _,
    toString_int_printable _, quoted_printable _, quoted_printable _, List.forall_mem_nil _⟩

theorem keyLengths :
    ["protocol_version", "sequence", "message_id", "sim-pilot:", "correlation_id", "script_instance_id", "message_type",
      "command_request", "game_date", "company_id", "payload", "command_id", "action", "set_company_name", "parameters",
      "name", "action_fingerprint", "expected_capability_fingerprint", "expected_company_id", "prior_snapshot_id",
      "request_timestamp"].map escapedLength =
      [16, 8, 10, 10, 14, 18, 12, 15, 9, 10, 7, 10, 6, 16, 10, 4, 18, 31, 19, 17, 17] := by decide +kernel

theorem length_commandMessage :
    (dumps (commandMessage sequence scriptInstanceId companyId priorSnapshotId q)).length =
      commandBytes sequence scriptInstanceId companyId priorSnapshotId q := by
  have hkeys := keyLengths
  simp only [List.map_cons, List.map_nil, List.cons.injEq, and_true] at hkeys
  have hsequence : (toString (sequence : Int)).length = (toString sequence).length := rfl
  have hnumbers : (toString (2 : Int)).length = 1 ∧ (toString (0 : Int)).length = 1 := ⟨rfl, rfl⟩
  have hnull : "null".length = 4 := rfl
  simp only [commandMessage, envelope, RenameRequest.payload, CommandRequestPayload.slots, dumps, dumpsSlots, dumpsSlot,
    Option.map_some, Option.getD_some]
  rw [length_object (List.cons_ne_nil _ _)]
  simp only [List.map_cons, List.map_nil, List.sum_cons, List.sum_nil, memberLength]
  rw [length_object (List.cons_ne_nil _ _)]
  simp only [List.map_cons, List.map_nil, List.sum_cons, List.sum_nil, memberLength]
  rw [length_object (List.cons_ne_nil _ _)]
  simp only [List.map_cons, List.map_nil, List.sum_cons, List.sum_nil, memberLength, length_quoted,
    RenameRequest.requestId,
    messageIdOf, escapedLength_append, commandBytes, String.length_toList]
  omega

/-! ## What can be sent -/

theorem SetCompanyNameOpenTTDAction.nonempty (a : SetCompanyNameOpenTTDAction) : a.name.utf8ByteSize ≠ 0 := by
  intro hzero
  have hempty := String.utf8ByteSize_eq_zero_iff.mp hzero
  have hsized := a.sized.1
  rw [hempty] at hsized
  exact absurd hsized (by decide)

theorem encodeGamescript_ok_iff {cs : List Char} (h : ∀ c ∈ cs, Printable c) :
    (∃ packet, encodeGamescript (String.ofList cs) = .ok packet) ↔ cs.length ≤ 1456 := by
  have hnul : '\x00' ∉ (String.ofList cs).toList := by
    rw [String.toList_ofList]
    exact nul_not_mem h
  have hlength : ((String.ofList cs).toUTF8.data.toList ++ [0]).length = cs.length + 1 := by
    rw [List.length_append, ← bytes_of_printable h, ← utf8ByteSize_ofList, ← String.size_toByteArray]
    rfl
  unfold encodeGamescript
  rw [if_neg hnul]
  unfold encodePacket
  simp only [List.length_cons, hlength, MAX_PACKET_SIZE]
  constructor
  · rintro ⟨packet, hpacket⟩
    split_ifs at hpacket
    omega
  · intro hle
    exact ⟨_, if_neg (by omega)⟩

theorem toJson_ok_iff {message : Squirrel} {maximumBytes : Nat} {value : String}
    (h : ∀ c ∈ dumps message, Printable c) :
    toJson maximumBytes message = .ok value ↔
      (dumps message).length ≤ maximumBytes ∧ String.ofList (dumps message) = value := by
  unfold toJson
  dsimp only
  rw [utf8ByteSize_ofList, bytes_of_printable h]
  by_cases hlong : maximumBytes < (dumps message).length
  · rw [if_pos hlong]
    constructor
    · intro hno
      cases hno
    · rintro ⟨hle, -⟩
      omega
  · rw [if_neg hlong]
    constructor
    · intro hvalue
      exact ⟨by omega, Except.ok.inj hvalue⟩
    · rintro ⟨-, hvalue⟩
      rw [hvalue]

/-- A name an action accepts can be sent exactly where it has at most 128 bytes, and the texts
and numbers of the message leave it room in the packet. -/
theorem sendable_iff {isSpace : Char → Bool} {action : SimPilot.Action} {a : SetCompanyNameOpenTTDAction}
    (_ : fromAction isSpace action = .ok a) (sequence : Nat) (scriptInstanceId : Option String) (companyId : Int)
    (priorSnapshotId : String) {q : RenameRequest} (hname : q.name = a.name) :
    Sendable sequence scriptInstanceId companyId priorSnapshotId q ↔
      a.name.utf8ByteSize ≤ 128 ∧ commandBytes sequence scriptInstanceId companyId priorSnapshotId q ≤ 1456 := by
  have hprintable := @commandMessage_printable sequence scriptInstanceId companyId priorSnapshotId q
  have hencode := encodeGamescript_ok_iff hprintable
  have haccepted : nameAccepted q.name = true ↔ a.name.utf8ByteSize ≤ 128 := by
    have hnonempty := a.nonempty
    rw [hname]
    simp only [nameAccepted, decide_eq_true_eq]
    omega
  rw [length_commandMessage] at hencode
  unfold Sendable
  simp only [toJson_ok_iff hprintable, haccepted, length_commandMessage, ADMIN_TO_GAMESCRIPT_MAX_BYTES]
  constructor
  · rintro ⟨value, packet, ⟨-, rfl⟩, hpacket, hbytes⟩
    exact ⟨hbytes, hencode.mp ⟨packet, hpacket⟩⟩
  · rintro ⟨hbytes, hfits⟩
    obtain ⟨packet, hpacket⟩ := hencode.mpr hfits
    exact ⟨_, packet, ⟨by omega, rfl⟩, hpacket, hbytes⟩

end

section Example

/-- Sixty-five letters of two bytes each. -/
def accents : String := String.ofList (List.replicate 65 'é')

def renameToAccents : SimPilot.Action where
  type := ⟨"set_company_name", by decide, by decide⟩
  parameters := [("name", .str accents)]
  expectedEffect := ⟨"company renamed", by decide, by decide⟩

def isBlank (c : Char) : Bool := c = ' '

theorem accents_accepted : (fromAction isBlank renameToAccents).toOption.map (·.name) = some accents := by
  decide +kernel

def accentsRequest : RenameRequest where
  name := accents
  commandId := "7a41bd7e-4f52-4f8d-9a0c-2f6bb9a1c001"
  requestUuid := "7a41bd7e-4f52-4f8d-9a0c-2f6bb9a1c002"
  refreshUuid := "7a41bd7e-4f52-4f8d-9a0c-2f6bb9a1c003"
  actionFingerprint := "f"
  expectedCapabilityFingerprint := "c"
  requestTimestamp := "2026-01-01T12:00:00+00:00"

theorem sendable_iff_accents : ∃ a, fromAction isBlank renameToAccents = .ok a ∧
    (Sendable 1 (some "spb-1-2") 0 "spb-1-2:snapshot:3" accentsRequest ↔
      a.name.utf8ByteSize ≤ 128 ∧ commandBytes 1 (some "spb-1-2") 0 "spb-1-2:snapshot:3" accentsRequest ≤ 1456) := by
  cases ha : fromAction isBlank renameToAccents with
  | error e =>
    have hnone := accents_accepted
    rw [ha] at hnone
    cases hnone
  | ok a => exact ⟨a, rfl, sendable_iff ha 1 (some "spb-1-2") 0 "spb-1-2:snapshot:3"
      (Except.apply_of_map ha accents_accepted).symm⟩

/-- The action accepts the name, the script does not. -/
theorem not_sendable_accents : (fromAction isBlank renameToAccents).toOption.map (·.name) = some accents ∧
    ¬ Sendable 1 (some "spb-1-2") 0 "spb-1-2:snapshot:3" accentsRequest := by
  refine ⟨accents_accepted, ?_⟩
  rintro ⟨value, packet, -, -, haccepted⟩
  have hrefused : nameAccepted accents = false := by decide +kernel
  have hname : nameAccepted accentsRequest.name = nameAccepted accents := rfl
  rw [hname, hrefused] at haccepted
  cases haccepted

end Example

end SimPilot.GameScript
