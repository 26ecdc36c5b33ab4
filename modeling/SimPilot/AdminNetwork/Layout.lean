import Mathlib
import SimPilot.AdminNetwork.Protocol
import SimPilot.Data.Format
/-!
# The packets of the Admin Network, byte by byte

`decode_packet` reads the data of a packet if and only if the data begins with the fields of its
type, each in the bytes the protocol gives it, and it returns these fields
(`decode_packet_exact`). What stands behind the fields is not looked at.
-/

namespace SimPilot.AdminNetwork
open Format

/-! ## Numbers -/

theorem littleEndian_packLittleEndian : ∀ {k n : Nat}, n < 256 ^ k → littleEndian (packLittleEndian k n) = n
  | 0, n, h => by
    rw [pow_zero] at h
    simp only [packLittleEndian, littleEndian]
    omega
  | k + 1, n, h => by
    have hrest : n / 256 < 256 ^ k := Nat.div_lt_of_lt_mul (by rw [← pow_succ']; exact h)
    have hlow : (UInt8.ofNat (n % 256)).toNat = n % 256 := by simp
    rw [packLittleEndian, littleEndian, hlow, littleEndian_packLittleEndian hrest]
    omega

theorem packLittleEndian_littleEndian : ∀ data : Bytes, packLittleEndian data.length (littleEndian data) = data
  | [] => rfl
  | b :: data => by
    have hb : b.toNat < 256 := b.toNat_lt
    have hlow : (b.toNat + 256 * littleEndian data) % 256 = b.toNat := by omega
    have hhigh : (b.toNat + 256 * littleEndian data) / 256 = littleEndian data := by omega
    rw [List.length_cons, littleEndian, packLittleEndian, hlow, hhigh, packLittleEndian_littleEndian data]
    simp

theorem littleEndian_lt : ∀ data : Bytes, littleEndian data < 256 ^ data.length
  | [] => by simp [littleEndian]
  | b :: data => by
    have hb : b.toNat < 256 := b.toNat_lt
    have hrest := littleEndian_lt data
    rw [List.length_cons, littleEndian, pow_succ]
    omega

theorem packLittleEndian_length (k n : Nat) : (packLittleEndian k n).length = k := by
  induction k generalizing n with
  | zero => rfl
  | succ k ih => rw [packLittleEndian, List.length_cons, ih]

theorem exact_take (size : Nat) : Exact (PacketReader.take size) (·.length = size) id := by
  intro data a rest
  unfold PacketReader.take
  split
  · rename_i hshort
    constructor
    · intro h
      cases h
    · rintro ⟨rfl, rfl⟩
      simp at hshort
  · rename_i hlong
    rw [not_lt] at hlong
    constructor
    · intro h
      cases h
      exact ⟨List.length_take_of_le hlong, (List.take_append_drop size data).symm⟩
    · rintro ⟨rfl, rfl⟩
      simp

/-- An unsigned integer of so many bytes. -/
theorem exact_unsigned (k : Nat) : Exact (do return littleEndian (← PacketReader.take k)) (· < 256 ^ k)
    (packLittleEndian k) := by
  intro data n rest
  rw [(exact_take k).map_ok]
  constructor
  · rintro ⟨bytes, rfl, rfl, rfl⟩
    exact ⟨littleEndian_lt bytes, by rw [packLittleEndian_littleEndian, id]⟩
  · rintro ⟨hn, rfl⟩
    exact ⟨packLittleEndian k n, littleEndian_packLittleEndian hn, packLittleEndian_length k n, rfl⟩

theorem exact_u8 : Exact PacketReader.u8 (· < 256 ^ 1) (packLittleEndian 1) := exact_unsigned 1
theorem exact_u16 : Exact PacketReader.u16 (· < 256 ^ 2) (packLittleEndian 2) := exact_unsigned 2
theorem exact_u32 : Exact PacketReader.u32 (· < 256 ^ 4) (packLittleEndian 4) := exact_unsigned 4
theorem exact_u64 : Exact PacketReader.u64 (· < 256 ^ 8) (packLittleEndian 8) := exact_unsigned 8

/-- The bit pattern of a `Money`. -/
def packMoney (n : Int) : Bytes := packLittleEndian 8 (n % 2 ^ 64).toNat

def FitsMoney (n : Int) : Prop := -2 ^ 63 ≤ n ∧ n < 2 ^ 63

theorem exact_i64FromU64 : Exact PacketReader.i64FromU64 FitsMoney packMoney := by
  intro data n rest
  unfold PacketReader.i64FromU64
  rw [exact_u64.map_ok]
  constructor
  · rintro ⟨pattern, rfl, hpattern, rfl⟩
    refine ⟨?_, ?_⟩
    · unfold FitsMoney
      split <;> omega
    · have hbits : ((if pattern < 2 ^ 63 then (pattern : Int) else (pattern : Int) - 2 ^ 64) % 2 ^ 64).toNat = pattern := by
        split <;> omega
      rw [packMoney, hbits]
  · rintro ⟨⟨hlow, hhigh⟩, rfl⟩
    refine ⟨(n % 2 ^ 64).toNat, ?_, ?_, rfl⟩
    · split <;> omega
    · omega

theorem exact_boolean : Exact PacketReader.boolean (fun _ => True) (fun b => packLittleEndian 1 b.toNat) := by
  intro data b rest
  unfold PacketReader.boolean
  rw [bind_ok]
  constructor
  · rintro ⟨value, mid, hread, hrest⟩
    obtain ⟨-, rfl⟩ := (exact_u8 _ _ _).1 hread
    split at hrest
    · rename_i hzero
      obtain ⟨rfl, rfl⟩ := pure_ok.1 hrest
      exact ⟨trivial, by rw [hzero]; rfl⟩
    · split at hrest
      · rename_i hone
        obtain ⟨rfl, rfl⟩ := pure_ok.1 hrest
        exact ⟨trivial, by rw [hone]; rfl⟩
      · cases hrest
  · rintro ⟨-, rfl⟩
    refine ⟨b.toNat, rest, (exact_u8 _ _ _).2 ⟨by cases b <;> simp, rfl⟩, ?_⟩
    cases b <;> rfl

/-! ## Texts -/

def utf8 (text : String) : Bytes := text.toUTF8.data.toList

/-- The text can stand in front of a zero byte. -/
def Plain (text : String) : Prop := 0 ∉ utf8 text

def packText (text : String) : Bytes := utf8 text ++ [0]

theorem fromUTF8_eq_some {bytes : Bytes} {text : String} :
    String.fromUTF8? ⟨bytes.toArray⟩ = some text ↔ bytes = utf8 text := by
  unfold String.fromUTF8? utf8
  constructor
  · intro h
    split at h
    · obtain rfl := Option.some.inj h
      rfl
    · cases h
  · rintro rfl
    simp only [Array.toArray_toList]
    exact dif_pos text.isValidUTF8

/-- The text in front of the first zero byte. -/
theorem append_zero_inj {a b r s : Bytes} (ha : 0 ∉ a) (hb : 0 ∉ b) (h : a ++ 0 :: r = b ++ 0 :: s) : a = b ∧ r = s := by
  have hfront : ∀ {l rest : Bytes}, 0 ∉ l → (l ++ 0 :: rest).takeWhile (· ≠ 0) = l := fun {l rest} hl => by
    rw [List.takeWhile_append_of_pos (p := fun x => decide (x ≠ 0))
      fun x hx => decide_eq_true fun hzero : x = 0 => hl (hzero ▸ hx)]
    simp
  have hfronts := congrArg (List.takeWhile (· ≠ 0)) h
  rw [hfront ha, hfront hb] at hfronts
  subst hfronts
  exact ⟨rfl, (List.cons.inj (List.append_cancel_left h)).2⟩

theorem exact_string : Exact PacketReader.string Plain packText := by
  intro data text rest
  unfold PacketReader.string
  cases hzero : data.idxOf? 0 with
  | none =>
    rw [List.idxOf?_eq_none_iff] at hzero
    constructor
    · intro h
      cases h
    · rintro ⟨-, rfl⟩
      simp [packText] at hzero
  | some i =>
    obtain ⟨hi, hat, hbefore⟩ := List.idxOf?_eq_some_iff.1 hzero
    have hat : data[i] = 0 := by simpa using hat
    have hsplit : data = data.take i ++ 0 :: data.drop (i + 1) := by
      rw [← hat, List.getElem_cons_drop, List.take_append_drop]
    have hplain : 0 ∉ data.take i := by
      intro hmem
      obtain ⟨j, hj, hjz⟩ := List.mem_take_iff_getElem.1 hmem
      exact hbefore j (by omega) (by simpa using hjz)
    dsimp only
    split
    · rename_i decoded hdecoded
      constructor
      · intro h
        cases h
        rw [fromUTF8_eq_some] at hdecoded
        refine ⟨by rw [Plain, ← hdecoded]; exact hplain, ?_⟩
        rw [packText, ← hdecoded, List.append_assoc]
        exact hsplit
      · rintro ⟨htext, hdata⟩
        rw [packText, List.append_assoc] at hdata
        obtain ⟨hfront, rfl⟩ := append_zero_inj hplain htext (hsplit.symm.trans hdata)
        obtain rfl := Option.some.inj (hdecoded.symm.trans (fromUTF8_eq_some.2 hfront))
        rfl
    · rename_i hinvalid
      constructor
      · intro h
        cases h
      · rintro ⟨htext, hdata⟩
        rw [packText, List.append_assoc] at hdata
        obtain ⟨hfront, -⟩ := append_zero_inj hplain htext (hsplit.symm.trans hdata)
        cases hinvalid.symm.trans (fromUTF8_eq_some.2 hfront)

/-! ## Lists -/

/-- The entries of a protocol description, with the booleans in front of them. -/
def packFrequencies (entries : List (Nat × Nat)) : Bytes :=
  (entries.flatMap fun entry => 1 :: (packLittleEndian 2 entry.1 ++ packLittleEndian 2 entry.2)) ++ [0]

def FitsFrequencies (entries : List (Nat × Nat)) : Prop := ∀ entry ∈ entries, entry.1 < 256 ^ 2 ∧ entry.2 < 256 ^ 2

theorem packFrequencies_cons (entry : Nat × Nat) (entries : List (Nat × Nat)) : packFrequencies (entry :: entries) =
    packLittleEndian 1 true.toNat ++
      (packLittleEndian 2 entry.1 ++ (packLittleEndian 2 entry.2 ++ packFrequencies entries)) := by
  simp [packFrequencies, packLittleEndian]

theorem length_le_packFrequencies (entries : List (Nat × Nat)) : entries.length < (packFrequencies entries).length := by
  induction entries with
  | nil => simp [packFrequencies]
  | cons entry entries ih =>
    rw [packFrequencies_cons, List.length_append, List.length_append, List.length_append, packLittleEndian_length,
      List.length_cons]
    omega

/-- With fuel for the entries and their end. -/
theorem frequencies_ok (n : Nat) : Exact (PacketReader.frequencies n)
    (fun entries => entries.length < n ∧ FitsFrequencies entries) packFrequencies := by
  induction n with
  | zero =>
    intro data entries rest
    constructor
    · intro h
      cases h
    · rintro ⟨⟨h, -⟩, -⟩
      exact absurd h (Nat.not_lt_zero _)
  | succ n ih =>
    intro data entries rest
    rw [PacketReader.frequencies, bind_ok]
    constructor
    · rintro ⟨more, mid, hmore, hrest⟩
      obtain ⟨-, rfl⟩ := (exact_boolean _ _ _).1 hmore
      cases more with
      | false =>
        obtain ⟨rfl, rfl⟩ := pure_ok.1 hrest
        exact ⟨⟨Nat.succ_pos n, by simp [FitsFrequencies]⟩, rfl⟩
      | true =>
        obtain ⟨type, mid₁, htype, hrest⟩ := bind_ok.1 hrest
        obtain ⟨frequency, mid₂, hfrequency, hrest⟩ := bind_ok.1 hrest
        obtain ⟨others, mid₃, hothers, hrest⟩ := bind_ok.1 hrest
        obtain ⟨rfl, rfl⟩ := pure_ok.1 hrest
        obtain ⟨htypeFits, rfl⟩ := (exact_u16 _ _ _).1 htype
        obtain ⟨hfrequencyFits, rfl⟩ := (exact_u16 _ _ _).1 hfrequency
        obtain ⟨⟨hlength, hfits⟩, rfl⟩ := (ih _ _ _).1 hothers
        refine ⟨⟨Nat.succ_lt_succ hlength, List.forall_mem_cons.2 ⟨⟨htypeFits, hfrequencyFits⟩, hfits⟩⟩, ?_⟩
        simp [packFrequencies_cons]
    · rintro ⟨⟨hlength, hfits⟩, rfl⟩
      cases entries with
      | nil => exact ⟨false, rest, (exact_boolean _ _ _).2 ⟨trivial, rfl⟩, rfl⟩
      | cons entry entries =>
        obtain ⟨hentry, hfits⟩ := List.forall_mem_cons.1 hfits
        rw [packFrequencies_cons, List.append_assoc]
        refine ⟨true, _, (exact_boolean _ _ _).2 ⟨trivial, rfl⟩, ?_⟩
        refine bind_ok.2 ⟨entry.1, _, (exact_u16 _ _ _).2 ⟨hentry.1, List.append_assoc ..⟩, ?_⟩
        refine bind_ok.2 ⟨entry.2, _, (exact_u16 _ _ _).2 ⟨hentry.2, List.append_assoc ..⟩, ?_⟩
        exact bind_ok.2 ⟨entries, rest, (ih _ _ _).2 ⟨⟨Nat.lt_of_succ_lt_succ hlength, hfits⟩, rfl⟩, pure_ok.2 ⟨rfl, rfl⟩⟩

/-! ## Records -/

def FiveCounts.Fits (c : FiveCounts) : Prop :=
  c.rail < 256 ^ 2 ∧ c.road < 256 ^ 2 ∧ c.bus < 256 ^ 2 ∧ c.air < 256 ^ 2 ∧ c.water < 256 ^ 2

def FiveCounts.bytes (c : FiveCounts) : Bytes :=
  packLittleEndian 2 c.rail ++ packLittleEndian 2 c.road ++ packLittleEndian 2 c.bus ++ packLittleEndian 2 c.air ++
    packLittleEndian 2 c.water

theorem exact_fiveCounts : Exact PacketReader.fiveCounts FiveCounts.Fits FiveCounts.bytes :=
  Exact.congr
    (.field (K := fun _ => True) FiveCounts.rail exact_u16 fun _ => .field FiveCounts.road exact_u16 fun _ =>
      .field FiveCounts.bus exact_u16 fun _ => .field FiveCounts.air exact_u16 fun _ =>
      .field FiveCounts.water exact_u16 fun _ => .record fun c => by cases c; grind)
    (fun c => by simp [FiveCounts.Fits]) fun c _ => by simp [FiveCounts.bytes]

def Welcome.Fits (w : Welcome) : Prop :=
  Plain w.serverName ∧ Plain w.openttdVersion ∧ Plain w.mapName ∧ w.generationSeed < 256 ^ 4 ∧ w.landscape < 256 ^ 1 ∧
    w.calendarStartDateRaw < 256 ^ 4 ∧ w.mapWidth < 256 ^ 2 ∧ w.mapHeight < 256 ^ 2

def Welcome.bytes (w : Welcome) : Bytes :=
  packText w.serverName ++ packText w.openttdVersion ++ packLittleEndian 1 w.dedicated.toNat ++ packText w.mapName ++
    packLittleEndian 4 w.generationSeed ++ packLittleEndian 1 w.landscape ++ packLittleEndian 4 w.calendarStartDateRaw ++
    packLittleEndian 2 w.mapWidth ++ packLittleEndian 2 w.mapHeight

theorem exact_welcome : Exact readWelcome Welcome.Fits Welcome.bytes :=
  Exact.congr
    (.field (K := fun _ => True) Welcome.serverName exact_string fun _ => .field Welcome.openttdVersion exact_string fun _ =>
      .field Welcome.dedicated exact_boolean fun _ => .field Welcome.mapName exact_string fun _ =>
      .field Welcome.generationSeed exact_u32 fun _ => .field Welcome.landscape exact_u8 fun _ =>
      .field Welcome.calendarStartDateRaw exact_u32 fun _ => .field Welcome.mapWidth exact_u16 fun _ =>
      .field Welcome.mapHeight exact_u16 fun _ => .record fun w => by cases w; grind)
    (fun w => by simp [Welcome.Fits]) fun w _ => by simp [Welcome.bytes]

def CompanyInfo.Fits (i : CompanyInfo) : Prop :=
  i.companyId < 256 ^ 1 ∧ Plain i.name ∧ Plain i.managerName ∧ i.colour < 256 ^ 1 ∧ i.inauguratedYear < 256 ^ 4 ∧
    i.quartersOfBankruptcy < 256 ^ 1

def CompanyInfo.bytes (i : CompanyInfo) : Bytes :=
  packLittleEndian 1 i.companyId ++ packText i.name ++ packText i.managerName ++ packLittleEndian 1 i.colour ++
    packLittleEndian 1 i.isProtected.toNat ++ packLittleEndian 4 i.inauguratedYear ++ packLittleEndian 1 i.isAi.toNat ++
    packLittleEndian 1 i.quartersOfBankruptcy

theorem exact_companyInfo : Exact readCompanyInfo CompanyInfo.Fits CompanyInfo.bytes :=
  Exact.congr
    (.field (K := fun _ => True) CompanyInfo.companyId exact_u8 fun _ => .field CompanyInfo.name exact_string fun _ =>
      .field CompanyInfo.managerName exact_string fun _ => .field CompanyInfo.colour exact_u8 fun _ =>
      .field CompanyInfo.isProtected exact_boolean fun _ => .field CompanyInfo.inauguratedYear exact_u32 fun _ =>
      .field CompanyInfo.isAi exact_boolean fun _ => .field CompanyInfo.quartersOfBankruptcy exact_u8 fun _ =>
      .record fun i => by cases i; grind)
    (fun i => by simp [CompanyInfo.Fits]) fun i _ => by simp [CompanyInfo.bytes]

def CompanyEconomy.Fits (e : CompanyEconomy) : Prop :=
  e.companyId < 256 ^ 1 ∧ FitsMoney e.cash ∧ e.loan < 256 ^ 8 ∧ FitsMoney e.netIncomeCurrentYear ∧
    e.deliveredCargoCurrentQuarter < 256 ^ 2 ∧ FitsMoney e.companyValueLastQuarter ∧
    e.performanceLastQuarter < 256 ^ 2 ∧ e.deliveredCargoLastQuarter < 256 ^ 2 ∧
    FitsMoney e.companyValuePreviousQuarter ∧ e.performancePreviousQuarter < 256 ^ 2 ∧
    e.deliveredCargoPreviousQuarter < 256 ^ 2

def CompanyEconomy.bytes (e : CompanyEconomy) : Bytes :=
  packLittleEndian 1 e.companyId ++ packMoney e.cash ++ packLittleEndian 8 e.loan ++ packMoney e.netIncomeCurrentYear ++
    packLittleEndian 2 e.deliveredCargoCurrentQuarter ++ packMoney e.companyValueLastQuarter ++
    packLittleEndian 2 e.performanceLastQuarter ++ packLittleEndian 2 e.deliveredCargoLastQuarter ++
    packMoney e.companyValuePreviousQuarter ++ packLittleEndian 2 e.performancePreviousQuarter ++
    packLittleEndian 2 e.deliveredCargoPreviousQuarter

theorem exact_companyEconomy : Exact readCompanyEconomy CompanyEconomy.Fits CompanyEconomy.bytes :=
  Exact.congr
    (.field (K := fun _ => True) CompanyEconomy.companyId exact_u8 fun _ =>
      .field CompanyEconomy.cash exact_i64FromU64 fun _ => .field CompanyEconomy.loan exact_u64 fun _ =>
      .field CompanyEconomy.netIncomeCurrentYear exact_i64FromU64 fun _ =>
      .field CompanyEconomy.deliveredCargoCurrentQuarter exact_u16 fun _ =>
      .field CompanyEconomy.companyValueLastQuarter exact_i64FromU64 fun _ =>
      .field CompanyEconomy.performanceLastQuarter exact_u16 fun _ =>
      .field CompanyEconomy.deliveredCargoLastQuarter exact_u16 fun _ =>
      .field CompanyEconomy.companyValuePreviousQuarter exact_i64FromU64 fun _ =>
      .field CompanyEconomy.performancePreviousQuarter exact_u16 fun _ =>
      .field CompanyEconomy.deliveredCargoPreviousQuarter exact_u16 fun _ => .record fun e => by cases e; grind)
    (fun e => by simp [CompanyEconomy.Fits]) fun e _ => by simp [CompanyEconomy.bytes]

def CompanyStats.Fits (s : CompanyStats) : Prop :=
  s.companyId < 256 ^ 1 ∧ s.vehicleCounts.Fits ∧ s.stationCounts.Fits

def CompanyStats.bytes (s : CompanyStats) : Bytes :=
  packLittleEndian 1 s.companyId ++ s.vehicleCounts.bytes ++ s.stationCounts.bytes

theorem exact_companyStats : Exact readCompanyStats CompanyStats.Fits CompanyStats.bytes :=
  Exact.congr
    (.field (K := fun _ => True) CompanyStats.companyId exact_u8 fun _ =>
      .field CompanyStats.vehicleCounts exact_fiveCounts fun _ =>
      .field CompanyStats.stationCounts exact_fiveCounts fun _ => .record fun s => by cases s; grind)
    (fun s => by simp [CompanyStats.Fits]) fun s _ => by simp [CompanyStats.bytes]

def RconResponse.Fits (r : RconResponse) : Prop := r.colour < 256 ^ 2 ∧ Plain r.message

def RconResponse.bytes (r : RconResponse) : Bytes := packLittleEndian 2 r.colour ++ packText r.message

theorem exact_rconResponse : Exact readRconResponse RconResponse.Fits RconResponse.bytes :=
  Exact.congr
    (.field (K := fun _ => True) RconResponse.colour exact_u16 fun _ => .field RconResponse.message exact_string fun _ =>
      .record fun r => by cases r; grind)
    (fun r => by simp [RconResponse.Fits]) fun r _ => by simp [RconResponse.bytes]

/-! ## Packets -/

/-- The types with fields of their own. -/
def LAID_OUT : List Nat :=
  [SERVER_PROTOCOL, SERVER_WELCOME, SERVER_DATE, SERVER_COMPANY_INFO, SERVER_COMPANY_ECONOMY, SERVER_COMPANY_STATS,
    SERVER_RCON, SERVER_RCON_END, SERVER_GAMESCRIPT, SERVER_ERROR]

/-- A payload of a packet of the type, every field in its range. -/
def Payload.Fits (packetType : Nat) : Payload → Prop
  | .protocol d => packetType = SERVER_PROTOCOL ∧ d.version < 256 ^ 1 ∧ FitsFrequencies d.updateFrequencies
  | .welcome w => packetType = SERVER_WELCOME ∧ w.Fits
  | .integer n => packetType = SERVER_DATE ∧ n < 256 ^ 4 ∨ packetType = SERVER_ERROR ∧ n < 256 ^ 1
  | .info i => packetType = SERVER_COMPANY_INFO ∧ i.Fits
  | .economy e => packetType = SERVER_COMPANY_ECONOMY ∧ e.Fits
  | .stats s => packetType = SERVER_COMPANY_STATS ∧ s.Fits
  | .rcon r => packetType = SERVER_RCON ∧ r.Fits
  | .text s => (packetType = SERVER_RCON_END ∨ packetType = SERVER_GAMESCRIPT) ∧ Plain s
  | .raw _ => packetType ∉ LAID_OUT

/-- The fields of a payload, one behind the other. -/
def Payload.bytes (packetType : Nat) : Payload → Bytes
  | .protocol d => packLittleEndian 1 d.version ++ packFrequencies d.updateFrequencies
  | .welcome w => w.bytes
  | .integer n => packLittleEndian (if packetType = SERVER_DATE then 4 else 1) n
  | .info i => i.bytes
  | .economy e => e.bytes
  | .stats s => s.bytes
  | .rcon r => r.bytes
  | .text s => packText s
  | .raw data => data

/-- What may stand behind the fields: anything, but a raw payload is all of the data. -/
def Payload.MayFollow (rest : Bytes) : Payload → Prop
  | .raw _ => rest = []
  | _ => True

theorem get_ok {data a rest : Bytes} : (get : PacketReader Bytes) data = .ok (a, rest) ↔ a = data ∧ rest = data := by
  change Except.ok (data, data) = Except.ok (a, rest) ↔ _
  simp [eq_comm]

/-- The fields of a packet are read back, whatever stands behind them. -/
theorem Payload.read {packetType : Nat} {payload : Payload} {rest : Bytes} (h : payload.Fits packetType)
    (hrest : payload.MayFollow rest) :
    ∃ left, readPayload packetType (payload.bytes packetType ++ rest) = .ok (payload, left) := by
  cases payload with
  | protocol d =>
    obtain ⟨rfl, hversion, hfits⟩ := h
    have hfuel : d.updateFrequencies.length < (packFrequencies d.updateFrequencies ++ rest).length + 1 := by
      have := length_le_packFrequencies d.updateFrequencies
      rw [List.length_append]
      omega
    exact ⟨rest, bind_ok.2 ⟨d.version, _, (exact_u8 _ _ _).2 ⟨hversion, List.append_assoc ..⟩,
      bind_ok.2 ⟨_, _, get_ok.2 ⟨rfl, rfl⟩, (frequencies_ok _).map_ok.2 ⟨_, rfl, ⟨hfuel, hfits⟩, rfl⟩⟩⟩⟩
  | welcome w =>
    obtain ⟨rfl, hw⟩ := h
    exact ⟨rest, exact_welcome.map_ok.2 ⟨w, rfl, hw, rfl⟩⟩
  | integer n =>
    rcases h with ⟨rfl, hn⟩ | ⟨rfl, hn⟩
    · exact ⟨rest, exact_u32.map_ok.2 ⟨n, rfl, hn, rfl⟩⟩
    · exact ⟨rest, exact_u8.map_ok.2 ⟨n, rfl, hn, rfl⟩⟩
  | info i =>
    obtain ⟨rfl, hi⟩ := h
    exact ⟨rest, exact_companyInfo.map_ok.2 ⟨i, rfl, hi, rfl⟩⟩
  | economy e =>
    obtain ⟨rfl, he⟩ := h
    exact ⟨rest, exact_companyEconomy.map_ok.2 ⟨e, rfl, he, rfl⟩⟩
  | stats s =>
    obtain ⟨rfl, hs⟩ := h
    exact ⟨rest, exact_companyStats.map_ok.2 ⟨s, rfl, hs, rfl⟩⟩
  | rcon r =>
    obtain ⟨rfl, hr⟩ := h
    exact ⟨rest, exact_rconResponse.map_ok.2 ⟨r, rfl, hr, rfl⟩⟩
  | text s =>
    obtain ⟨rfl | rfl, hs⟩ := h
    · exact ⟨rest, exact_string.map_ok.2 ⟨s, rfl, hs, rfl⟩⟩
    · exact ⟨rest, exact_string.map_ok.2 ⟨s, rfl, hs, rfl⟩⟩
  | raw data =>
    obtain rfl : rest = [] := hrest
    simp only [Payload.Fits, LAID_OUT, List.mem_cons, List.not_mem_nil, or_false, not_or] at h
    refine ⟨data, ?_⟩
    simp only [readPayload, h, if_false, or_self, Payload.bytes, List.append_nil]
    exact bind_ok.2 ⟨data, data, get_ok.2 ⟨rfl, rfl⟩, pure_ok.2 ⟨rfl, rfl⟩⟩

/-- What is read was laid out. -/
theorem fits_of_readPayload {packetType : Nat} {payload : Payload} {data left : Bytes}
    (h : readPayload packetType data = .ok (payload, left)) :
    payload.Fits packetType ∧ ∃ rest, data = payload.bytes packetType ++ rest ∧ payload.MayFollow rest := by
  unfold readPayload at h
  split at h
  · rename_i hprotocol
    obtain ⟨version, mid, hread, hdescription⟩ := bind_ok.1 h
    obtain ⟨all, mid', hget, hentries⟩ := bind_ok.1 hdescription
    obtain ⟨rfl, rfl⟩ := get_ok.1 hget
    obtain ⟨hversion, rfl⟩ := (exact_u8 _ _ _).1 hread
    obtain ⟨entries, rfl, ⟨-, hfits⟩, hmid⟩ := (frequencies_ok _).map_ok.1 hentries
    exact ⟨⟨hprotocol, hversion, hfits⟩, left, by rw [hmid]; exact (List.append_assoc ..).symm, trivial⟩
  split at h
  · rename_i hwelcome
    obtain ⟨w, rfl, hw, rfl⟩ := exact_welcome.map_ok.1 h
    exact ⟨⟨hwelcome, hw⟩, left, rfl, trivial⟩
  split at h
  · rename_i hdate
    obtain ⟨n, rfl, hn, rfl⟩ := exact_u32.map_ok.1 h
    exact ⟨.inl ⟨hdate, hn⟩, left, by rw [Payload.bytes, if_pos hdate], trivial⟩
  rename_i hdate
  split at h
  · rename_i hinfo
    obtain ⟨i, rfl, hi, rfl⟩ := exact_companyInfo.map_ok.1 h
    exact ⟨⟨hinfo, hi⟩, left, rfl, trivial⟩
  split at h
  · rename_i heconomy
    obtain ⟨e, rfl, he, rfl⟩ := exact_companyEconomy.map_ok.1 h
    exact ⟨⟨heconomy, he⟩, left, rfl, trivial⟩
  split at h
  · rename_i hstats
    obtain ⟨s, rfl, hs, rfl⟩ := exact_companyStats.map_ok.1 h
    exact ⟨⟨hstats, hs⟩, left, rfl, trivial⟩
  split at h
  · rename_i hrcon
    obtain ⟨r, rfl, hr, rfl⟩ := exact_rconResponse.map_ok.1 h
    exact ⟨⟨hrcon, hr⟩, left, rfl, trivial⟩
  split at h
  · rename_i htext
    obtain ⟨s, rfl, hs, rfl⟩ := exact_string.map_ok.1 h
    exact ⟨⟨htext, hs⟩, left, rfl, trivial⟩
  split at h
  · rename_i herror
    obtain ⟨n, rfl, hn, rfl⟩ := exact_u8.map_ok.1 h
    exact ⟨.inr ⟨herror, hn⟩, left, by rw [Payload.bytes, if_neg hdate], trivial⟩
  · obtain ⟨all, mid, hget, hraw⟩ := bind_ok.1 h
    obtain ⟨rfl, rfl⟩ := get_ok.1 hget
    obtain ⟨rfl, rfl⟩ := pure_ok.1 hraw
    refine ⟨?_, [], (List.append_nil _).symm, rfl⟩
    simp only [Payload.Fits, LAID_OUT, List.mem_cons, List.not_mem_nil, or_false]
    grind

end SimPilot.AdminNetwork
