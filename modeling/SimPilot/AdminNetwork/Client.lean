import SimPilot.AdminNetwork.Protocol
import SimPilot.Effect.Run
/-!
# The Admin Network client (openttd/client.py)

A connected client polls the state of a company and executes rcon commands over one stream.
An answer carries nothing of its request. A deadline is the number of turns a receive loop
makes before it.

| here | there |
|---|---|
| `readPacket`, `receiveMatching` | `_read_packet`, `_receive_matching` (client.py:286) |
| `executeRcon`, `collectState` | `execute_rcon`, `collect_state` (client.py:145) |
| `companyState` | `_company_state` (client.py:352) |
-/

namespace SimPilot.AdminNetwork

open Effect

/-! ## Calls -/

inductive Call where
  | write (request : Request)
  /-- `start` marks the read of the size of a packet. -/
  | readexactly (size : Nat) (start : Bool)
  | deadline

@[reducible] def Reply : Call → Type
  | .write _ => Except OpenTTDError Unit
  | .readexactly _ _ => Except OpenTTDError Bytes
  | .deadline => Nat

abbrev Op (α : Type) : Type := Py Call Reply OpenTTDError Unit α

/-- `_send`, of a request that is encoded first. -/
def send (request : Request) : Op Unit := do
  let _ ← Py.lift request.encode
  Py.lift (← Py.perform (Call.write request))

def readexactly (size : Nat) (start : Bool) : Op Bytes := do
  Py.lift (← Py.perform (Call.readexactly size start))

/-! ## Receiving -/

/-- What becomes of a packet that was read (client.py:304-310). -/
def acceptPacket (packet : DecodedPacket) : Except OpenTTDError DecodedPacket :=
  if packet.type = SERVER_ERROR then .error (.invalidResponse "OpenTTD admin error code")
  else if packet.type = SERVER_FULL ∨ packet.type = SERVER_BANNED then
    .error (.connectionRefused "OpenTTD rejected the admin connection")
  else if packet.type = SERVER_SHUTDOWN then .error (.disconnected "OpenTTD server is shutting down")
  else .ok packet

def decodeBody : Bytes → Except OpenTTDError DecodedPacket
  | [] => .error (.invalidResponse "invalid protocol packet size: 2")
  | packetType :: data => do acceptPacket (← decodePacket packetType.toNat data)

def readPacket : Op DecodedPacket := do
  let sizeData ← readexactly 2 true
  let size := littleEndian sizeData
  if size < 3 ∨ MAX_PACKET_SIZE < size then
    Py.raise (.invalidResponse ("invalid protocol packet size: " ++ toString size))
  else
  let body ← readexactly (size - 2) false
  Py.lift (decodeBody body)

variable {T : Type}

/-- The loop of `_receive_matching` with the turns that are left; `select` is the check of the
payload's type. -/
def receiveLoop (packetType : Nat) (select : Payload → Option T) (predicate : T → Bool) : Nat → Op T
  | 0 => Py.raise (.timeout "timed out waiting for packet")
  | turns + 1 => do
    let packet ← readPacket
    if packet.type ≠ packetType then receiveLoop packetType select predicate turns
    else match select packet.payload with
      | none => Py.raise (.invalidResponse "packet has an invalid payload")
      | some value => if predicate value then return value else receiveLoop packetType select predicate turns

def receiveMatching (packetType : Nat) (select : Payload → Option T) (predicate : T → Bool) : Op T := do
  receiveLoop packetType select predicate (← Py.perform Call.deadline)

/-! ## Rcon -/

/-- The loop of `execute_rcon` with the turns that are left. -/
def rconLoop (command : String) : Nat → List String → Op (List String)
  | 0, _ => Py.raise (.timeout "timed out waiting for OpenTTD rcon completion")
  | turns + 1, output => do
    let packet ← readPacket
    if packet.type = SERVER_RCON then
      match packet.payload with
      | .rcon response => rconLoop command turns (output ++ [response.message])
      | _ => Py.raise (.invalidResponse "invalid OpenTTD rcon response")
    else if packet.type = SERVER_RCON_END then
      if packet.payload ≠ .text command then
        Py.raise (.invalidResponse "OpenTTD rcon completion command mismatch")
      else return output
    else rconLoop command turns output

def executeRcon (command : String) : Op (List String) := do
  send (.rcon command)
  rconLoop command (← Py.perform Call.deadline) []

/-! ## State -/

structure OpenTTDVehicleCounts where
  trains : Nat
  lorries : Nat
  buses : Nat
  aircraft : Nat
  ships : Nat
  deriving DecidableEq, Repr

structure OpenTTDStationFacilityCounts where
  trainStations : Nat
  lorryStations : Nat
  busStops : Nat
  airports : Nat
  harbours : Nat
  deriving DecidableEq, Repr

structure OpenTTDCompanyState where
  companyId : Nat
  name : String
  managerName : String
  colour : Nat
  inauguratedYear : Nat
  isAi : Bool
  quartersOfBankruptcy : Nat
  cash : Int
  loan : Nat
  netIncomeCurrentYear : Int
  deliveredCargoCurrentQuarter : Nat
  companyValueLastQuarter : Int
  performanceLastQuarter : Nat
  deliveredCargoLastQuarter : Nat
  companyValuePreviousQuarter : Int
  performancePreviousQuarter : Nat
  deliveredCargoPreviousQuarter : Nat
  vehicles : OpenTTDVehicleCounts
  stationFacilities : OpenTTDStationFacilityCounts
  deriving DecidableEq, Repr

/-- The bounds of the model's fields that an answer can break. -/
def OpenTTDCompanyState.valid (c : OpenTTDCompanyState) : Bool :=
  c.companyId ≤ 14 && c.name ≠ "" && c.managerName ≠ "" && c.colour ≤ 255

/-- What of a state is read from the stream; its date text is derived from the number. -/
structure OpenTTDState where
  gameDateRaw : Nat
  company : OpenTTDCompanyState
  deriving DecidableEq, Repr

def companyState (info : CompanyInfo) (economy : CompanyEconomy) (stats : CompanyStats) :
    Except OpenTTDError OpenTTDCompanyState :=
  if info.companyId ≠ economy.companyId ∨ info.companyId ≠ stats.companyId then
    .error (.invalidResponse "company snapshot combines different company IDs")
  else
    let company : OpenTTDCompanyState :=
      { companyId := info.companyId
        name := info.name
        managerName := info.managerName
        colour := info.colour
        inauguratedYear := info.inauguratedYear
        isAi := info.isAi
        quartersOfBankruptcy := info.quartersOfBankruptcy
        cash := economy.cash
        loan := economy.loan
        netIncomeCurrentYear := economy.netIncomeCurrentYear
        deliveredCargoCurrentQuarter := economy.deliveredCargoCurrentQuarter
        companyValueLastQuarter := economy.companyValueLastQuarter
        performanceLastQuarter := economy.performanceLastQuarter
        deliveredCargoLastQuarter := economy.deliveredCargoLastQuarter
        companyValuePreviousQuarter := economy.companyValuePreviousQuarter
        performancePreviousQuarter := economy.performancePreviousQuarter
        deliveredCargoPreviousQuarter := economy.deliveredCargoPreviousQuarter
        vehicles := ⟨stats.vehicleCounts.rail, stats.vehicleCounts.road, stats.vehicleCounts.bus,
          stats.vehicleCounts.air, stats.vehicleCounts.water⟩
        stationFacilities := ⟨stats.stationCounts.rail, stats.stationCounts.road, stats.stationCounts.bus,
          stats.stationCounts.air, stats.stationCounts.water⟩ }
    if company.valid then .ok company else .error (.value "company state is not valid")

namespace Payload

def info? : Payload → Option CompanyInfo
  | info i => some i
  | _ => none

def integer? : Payload → Option Nat
  | integer n => some n
  | _ => none

def economy? : Payload → Option CompanyEconomy
  | economy e => some e
  | _ => none

def stats? : Payload → Option CompanyStats
  | stats s => some s
  | _ => none

end Payload

/-- A timeout of the first answer says that there is no such company. -/
def unavailable (companyId : Nat) : OpenTTDError → OpenTTDError
  | .timeout _ => .stateUnavailable ("company " ++ toString companyId ++ " is not available from the OpenTTD admin port")
  | e => e

def collectState (companyId : Nat) : Op OpenTTDState := do
  send (.poll .companyInfo companyId)
  let info ← Py.tryCatch (receiveMatching SERVER_COMPANY_INFO Payload.info? fun i => i.companyId = companyId)
    fun error => Py.raise (unavailable companyId error)
  send (.poll .date ALL_COMPANIES)
  let gameDateRaw ← receiveMatching SERVER_DATE Payload.integer? fun _ => true
  send (.poll .companyEconomy ALL_COMPANIES)
  let economy ← receiveMatching SERVER_COMPANY_ECONOMY Payload.economy? fun e => e.companyId = companyId
  send (.poll .companyStats ALL_COMPANIES)
  let stats ← receiveMatching SERVER_COMPANY_STATS Payload.stats? fun s => s.companyId = companyId
  let company ← Py.lift (companyState info economy stats)
  return ⟨gameDateRaw, company⟩

end SimPilot.AdminNetwork
