import Mathlib.Algebra.Group.Nat.Defs
import Mathlib.Algebra.Group.Int.Defs
import Mathlib.Data.List.Basic
/-!
# The Admin Network codec (openttd/protocol.py)

Packets of the OpenTTD Admin Network: a little-endian size, a type and a payload. Only what
the client sends after the handshake is encoded here.

| here | there |
|---|---|
| `PacketReader` | `PacketReader` (protocol.py:123) |
| `decodePacket` | `decode_packet` (protocol.py:223) |
| `encodePacket`, `Request.encode` | `encode_packet`, `encode_poll`, `encode_rcon` |
-/

namespace SimPilot.AdminNetwork

abbrev Bytes : Type := List UInt8

inductive OpenTTDError where
  | disconnected (text : String)
  | timeout (text : String)
  | invalidResponse (text : String)
  | stateUnavailable (text : String)
  | connectionRefused (text : String)
  /-- `ValueError`, also of a model that is not valid. -/
  | value (text : String)
  deriving DecidableEq, Repr

def MAX_PACKET_SIZE : Nat := 1460

def ALL_COMPANIES : Nat := 0xFFFFFFFF

/-! ## Packet types -/

def SERVER_FULL : Nat := 100
def SERVER_BANNED : Nat := 101
def SERVER_ERROR : Nat := 102
def SERVER_PROTOCOL : Nat := 103
def SERVER_WELCOME : Nat := 104
def SERVER_SHUTDOWN : Nat := 106
def SERVER_DATE : Nat := 107
def SERVER_COMPANY_INFO : Nat := 114
def SERVER_COMPANY_ECONOMY : Nat := 117
def SERVER_COMPANY_STATS : Nat := 118
def SERVER_RCON : Nat := 120
def SERVER_GAMESCRIPT : Nat := 124
def SERVER_RCON_END : Nat := 125

def ADMIN_POLL : Nat := 3
def ADMIN_RCON : Nat := 5

/-- `AdminUpdateType`, as far as it is polled. -/
inductive AdminUpdateType where
  | date | companyInfo | companyEconomy | companyStats
  deriving DecidableEq, Repr

def AdminUpdateType.value : AdminUpdateType → Nat
  | date => 0
  | companyInfo => 2
  | companyEconomy => 3
  | companyStats => 4

/-! ## Payloads -/

structure ProtocolDescription where
  version : Nat
  updateFrequencies : List (Nat × Nat)
  deriving DecidableEq, Repr

structure Welcome where
  serverName : String
  openttdVersion : String
  dedicated : Bool
  mapName : String
  generationSeed : Nat
  landscape : Nat
  calendarStartDateRaw : Nat
  mapWidth : Nat
  mapHeight : Nat
  deriving DecidableEq, Repr

structure CompanyInfo where
  companyId : Nat
  name : String
  managerName : String
  colour : Nat
  isProtected : Bool
  inauguratedYear : Nat
  isAi : Bool
  quartersOfBankruptcy : Nat
  deriving DecidableEq, Repr

structure CompanyEconomy where
  companyId : Nat
  cash : Int
  loan : Nat
  netIncomeCurrentYear : Int
  deliveredCargoCurrentQuarter : Nat
  companyValueLastQuarter : Int
  performanceLastQuarter : Nat
  deliveredCargoLastQuarter : Nat
  companyValuePreviousQuarter : Int
  performancePreviousQuarter : Nat
  deliveredCargoPreviousQuarter : Nat
  deriving DecidableEq, Repr

/-- The five counts of one tuple. -/
structure FiveCounts where
  rail : Nat
  road : Nat
  bus : Nat
  air : Nat
  water : Nat
  deriving DecidableEq, Repr

structure CompanyStats where
  companyId : Nat
  vehicleCounts : FiveCounts
  stationCounts : FiveCounts
  deriving DecidableEq, Repr

structure RconResponse where
  colour : Nat
  message : String
  deriving DecidableEq, Repr

inductive Payload where
  | protocol (description : ProtocolDescription)
  | welcome (welcome : Welcome)
  | integer (value : Nat)
  | info (info : CompanyInfo)
  | economy (economy : CompanyEconomy)
  | stats (stats : CompanyStats)
  | rcon (response : RconResponse)
  | text (value : String)
  | raw (data : Bytes)
  deriving DecidableEq, Repr

structure DecodedPacket where
  type : Nat
  payload : Payload
  deriving DecidableEq, Repr

/-! ## Reading -/

/-- The data of a packet from the offset on. -/
abbrev PacketReader : Type → Type := StateT Bytes (Except OpenTTDError)

def invalid {α : Type} (text : String) : PacketReader α := fun _ => .error (.invalidResponse text)

/-- `struct.unpack` of an unsigned little-endian integer. -/
def littleEndian : Bytes → Nat
  | [] => 0
  | b :: bs => b.toNat + 256 * littleEndian bs

namespace PacketReader

def take (size : Nat) : PacketReader Bytes := fun data =>
  if data.length < size then .error (.invalidResponse "truncated OpenTTD Admin Network packet")
  else .ok (data.take size, data.drop size)

def u8 : PacketReader Nat := do return littleEndian (← take 1)

def u16 : PacketReader Nat := do return littleEndian (← take 2)

def u32 : PacketReader Nat := do return littleEndian (← take 4)

def u64 : PacketReader Nat := do return littleEndian (← take 8)

/-- The bit pattern of a `Money` as a signed integer. -/
def i64FromU64 : PacketReader Int := do
  let n ← u64
  return if n < 2 ^ 63 then (n : Int) else (n : Int) - 2 ^ 64

def boolean : PacketReader Bool := do
  let value ← u8
  if value = 0 then return false
  else if value = 1 then return true
  else invalid "invalid protocol boolean"

def string : PacketReader String := fun data =>
  match data.idxOf? 0 with
  | none => .error (.invalidResponse "unterminated protocol string")
  | some i => match String.fromUTF8? ⟨(data.take i).toArray⟩ with
    | some s => .ok (s, data.drop (i + 1))
    | none => .error (.invalidResponse "invalid UTF-8 protocol string")

def fiveCounts : PacketReader FiveCounts := do
  return ⟨← u16, ← u16, ← u16, ← u16, ← u16⟩

/-- The entries of a protocol description; an entry takes five bytes, so the data bounds their number. -/
def frequencies : Nat → PacketReader (List (Nat × Nat))
  | 0 => invalid "truncated OpenTTD Admin Network packet"
  | n + 1 => do
    if ← boolean then
      let entry := (← u16, ← u16)
      return entry :: (← frequencies n)
    else return []

end PacketReader

open PacketReader

def readWelcome : PacketReader Welcome := do
  return {
    serverName := ← string
    openttdVersion := ← string
    dedicated := ← boolean
    mapName := ← string
    generationSeed := ← u32
    landscape := ← u8
    calendarStartDateRaw := ← u32
    mapWidth := ← u16
    mapHeight := ← u16 }

def readCompanyInfo : PacketReader CompanyInfo := do
  return {
    companyId := ← u8
    name := ← string
    managerName := ← string
    colour := ← u8
    isProtected := ← boolean
    inauguratedYear := ← u32
    isAi := ← boolean
    quartersOfBankruptcy := ← u8 }

def readCompanyEconomy : PacketReader CompanyEconomy := do
  return {
    companyId := ← u8
    cash := ← i64FromU64
    loan := ← u64
    netIncomeCurrentYear := ← i64FromU64
    deliveredCargoCurrentQuarter := ← u16
    companyValueLastQuarter := ← i64FromU64
    performanceLastQuarter := ← u16
    deliveredCargoLastQuarter := ← u16
    companyValuePreviousQuarter := ← i64FromU64
    performancePreviousQuarter := ← u16
    deliveredCargoPreviousQuarter := ← u16 }

def readCompanyStats : PacketReader CompanyStats := do
  return { companyId := ← u8, vehicleCounts := ← fiveCounts, stationCounts := ← fiveCounts }

def readRconResponse : PacketReader RconResponse := do
  return { colour := ← u16, message := ← string }

def readPayload (packetType : Nat) : PacketReader Payload :=
  if packetType = SERVER_PROTOCOL then do
    let version ← u8
    let data ← get
    return .protocol ⟨version, ← frequencies (data.length + 1)⟩
  else if packetType = SERVER_WELCOME then return .welcome (← readWelcome)
  else if packetType = SERVER_DATE then return .integer (← u32)
  else if packetType = SERVER_COMPANY_INFO then return .info (← readCompanyInfo)
  else if packetType = SERVER_COMPANY_ECONOMY then return .economy (← readCompanyEconomy)
  else if packetType = SERVER_COMPANY_STATS then return .stats (← readCompanyStats)
  else if packetType = SERVER_RCON then return .rcon (← readRconResponse)
  else if packetType = SERVER_RCON_END ∨ packetType = SERVER_GAMESCRIPT then return .text (← string)
  else if packetType = SERVER_ERROR then return .integer (← u8)
  else return .raw (← get)

def decodePacket (packetType : Nat) (data : Bytes) : Except OpenTTDError DecodedPacket :=
  match readPayload packetType data with
  | .ok (payload, _) => .ok ⟨packetType, payload⟩
  | .error e => .error e

/-! ## Requests -/

inductive Request where
  | poll (updateType : AdminUpdateType) (identifier : Nat)
  | rcon (command : String)
  deriving DecidableEq, Repr

/-- `struct.pack` of so many bytes, the least first. -/
def packLittleEndian : Nat → Nat → Bytes
  | 0, _ => []
  | n + 1, value => UInt8.ofNat (value % 256) :: packLittleEndian n (value / 256)

def encodePacket (packetType : Nat) (payload : Bytes) : Except OpenTTDError Bytes :=
  let body := UInt8.ofNat packetType :: payload
  let size := body.length + 2
  if MAX_PACKET_SIZE < size then .error (.value "OpenTTD Admin Network packet is too large")
  else .ok (packLittleEndian 2 size ++ body)

def Request.encode : Request → Except OpenTTDError Bytes
  | poll updateType identifier =>
    encodePacket ADMIN_POLL (packLittleEndian 1 updateType.value ++ packLittleEndian 4 identifier)
  | rcon command =>
    if '\x00' ∈ command.toList then .error (.value "protocol strings cannot contain NUL")
    else encodePacket ADMIN_RCON (command.toUTF8.toList ++ [0])

end SimPilot.AdminNetwork
