import Mathlib.Data.List.Infix
import Mathlib.Data.List.DropRight
import SimPilot.SoftwareInc.Staffing
/-!
# What an objective asks for (software_inc/ui/controller.py, staffing.py, office.py)

An objective is read by three parsers in turn. The patterns of the last two are regular expressions,
here matchers that give what they read and what is left, in the order in which a backtracking engine
tries them. The tables of Unicode are a parameter.

| here | there |
|---|---|
| `parseUiAction` | controller.py:34 |
| `createPatterns`, `hirePatterns`, `observePatterns`, `parseStaffingIntent` | staffing.py:38-104, 525 |
| `hoursPattern`, `rolePatterns`, `parseOfficeIntent` | office.py:175-225, 511 |
| `StaffingRequest.fits`, `HoursRequest.fits`, `RoleRequest.fits` | models.py:85-115, office.py:34-63 |
-/

namespace SimPilot.SoftwareInc.Guidance
open GameBridge

/-- What Python takes from the tables of Unicode. -/
structure Tables where
  /-- `str.isspace` of one character, and `\s` -/
  space : Char → Bool
  /-- The value of a `\d` -/
  digit : Char → Option Nat
  /-- Whether the pattern's character matches under `IGNORECASE` -/
  alike : Char → Char → Bool
  /-- `str.casefold` -/
  fold : String → String
  /-- `str.title` -/
  title : String → String

/-! ## Actions -/

inductive SoftwareIncUIAction where
  | pause | resume | openManageTeams | createTeam | observeApplicants | hireEmployee | setTeamWorkingHours
  | assignEmployeeRole | prepareTeamWorkstation | openContracts | acceptContract | reviewContract
  | promoteContract | releaseContract | advanceContract | startEducation | advanceEducation | createProduct
  | advanceProduct | reviewProduct | iterateProduct | promoteProduct | holdProduct | resumeProduct
  deriving DecidableEq, Repr

namespace SoftwareIncUIAction

def value : SoftwareIncUIAction → String
  | pause => "pause"
  | resume => "resume"
  | openManageTeams => "open_manage_teams"
  | createTeam => "create_team"
  | observeApplicants => "observe_applicants"
  | hireEmployee => "hire_employee"
  | setTeamWorkingHours => "set_team_working_hours"
  | assignEmployeeRole => "assign_employee_role"
  | prepareTeamWorkstation => "prepare_team_workstation"
  | openContracts => "open_contracts"
  | acceptContract => "accept_contract"
  | reviewContract => "review_contract"
  | promoteContract => "promote_contract"
  | releaseContract => "release_contract"
  | advanceContract => "advance_contract"
  | startEducation => "start_education"
  | advanceEducation => "advance_education"
  | createProduct => "create_product"
  | advanceProduct => "advance_product"
  | reviewProduct => "review_product"
  | iterateProduct => "iterate_product"
  | promoteProduct => "promote_product"
  | holdProduct => "hold_product"
  | resumeProduct => "resume_product"

def all : List SoftwareIncUIAction :=
  [pause, resume, openManageTeams, createTeam, observeApplicants, hireEmployee, setTeamWorkingHours,
    assignEmployeeRole, prepareTeamWorkstation, openContracts, acceptContract, reviewContract, promoteContract,
    releaseContract, advanceContract, startEducation, advanceEducation, createProduct, advanceProduct,
    reviewProduct, iterateProduct, promoteProduct, holdProduct, resumeProduct]

/-- `SoftwareIncUIAction(text)`, which raises when no action has this value. -/
def named (text : String) : Option SoftwareIncUIAction := all.find? (·.value = text)

theorem mem_all (a : SoftwareIncUIAction) : a ∈ all := by cases a <;> decide

theorem named_value (a : SoftwareIncUIAction) : named a.value = some a := by cases a <;> decide

theorem value_of_named {text : String} {a : SoftwareIncUIAction} (h : named text = some a) : a.value = text := by
  simpa using List.find?_some h

theorem length_value (a : SoftwareIncUIAction) : 1 ≤ a.value.length ∧ a.value.length ≤ 24 := by cases a <;> decide

end SoftwareIncUIAction

/-! ## Matchers -/

/-- What a pattern may read of a text, and what is left of it, in the order it is tried. -/
def Matcher (α : Type) : Type := List Char → List (α × List Char)

instance : Monad Matcher where
  pure a := fun text => [(a, text)]
  bind m f := fun text => (m text).flatMap fun read => f read.1 read.2

/-- `pattern.fullmatch(text)` -/
def fullMatch {α : Type} (m : Matcher α) (text : List Char) : Option α :=
  ((m text).find? fun read => read.2.isEmpty).map (·.1)

/-- The first of the patterns that matches. -/
def firstMatch {α : Type} (ms : List (Matcher α)) (text : List Char) : Option α :=
  ms.firstM fun m => fullMatch m text

/-- The non-empty runs of such characters a text begins with, the shortest first. -/
def runs (p : Char → Bool) : Matcher (List Char)
  | [] => []
  | c :: rest => if p c then ([c], rest) :: (runs p rest).map fun read => (c :: read.1, read.2) else []

/-- `.+?` -/
def lazily : Matcher (List Char) := runs (· ≠ '\n')

/-- `.+` -/
def greedily : Matcher (List Char) := fun text => (lazily text).reverse

/-- `(?:m)?` -/
def optionally (m : Matcher (List Char)) : Matcher (List Char) := fun text => m text ++ [([], text)]

/-- `(?:m|…)` -/
def oneOf {α : Type} (ms : List (Matcher α)) : Matcher α := fun text => ms.flatMap fun m => m text

section
variable (T : Tables)

/-- A text of the pattern, up to case. -/
def literally : List Char → Matcher (List Char)
  | [] => pure []
  | p :: ps => fun
    | [] => []
    | c :: rest => if T.alike p c then (literally ps rest).map fun read => (c :: read.1, read.2) else []

def word (text : String) : Matcher (List Char) := literally T text.toList

/-- `\s+` -/
def blanks : Matcher (List Char) := fun text => (runs T.space text).reverse

/-- Words, each with `\s+` behind it. -/
def phrase : List String → Matcher Unit
  | [] => pure ()
  | w :: ws => do
    let _ ← word T w
    let _ ← blanks T
    phrase ws

/-- `(?:words\s+)?` -/
def maybePhrase (words : List String) : Matcher (List Char) :=
  optionally do
    phrase T words
    return []

/-- `\d{least,most}` -/
def digits (least most : Nat) : Matcher (List Char) := fun text =>
  (runs (fun c => (T.digit c).isSome) text).reverse.filter fun read =>
    least ≤ read.1.length && read.1.length ≤ most

/-- `[\d,]+(?:\.\d{1,2})?` -/
def amountPattern : Matcher (List Char) := do
  let whole ← fun text => (runs (fun c => (T.digit c).isSome || c = ',') text).reverse
  let fraction ← optionally do
    let point ← literally T ['.']
    let cents ← digits T 1 2
    return point ++ cents
  return whole ++ fraction

/-! ## Texts -/

/-- `text.split()` -/
def split (text : List Char) : List (List Char) := (text.splitOnP T.space).filter (· ≠ [])

/-- `" ".join(text.split())` -/
def joined (text : List Char) : List Char := [' '].intercalate (split T text)

/-- `text.strip()` -/
def stripped (text : List Char) : List Char := (text.dropWhile T.space).rdropWhile T.space

/-- The value of digits. -/
def digitsValue (text : List Char) : Nat := (text.filterMap T.digit).foldl (fun n d => n * 10 + d) 0

/-! ## Pause, resume and open -/

def pauseTexts : List String := ["pause", "pause it", "pause the game", "stop time"]

def resumeTexts : List String := ["resume", "resume it", "resume the game", "start time", "unpause"]

def openManageTeamsTexts : List String :=
  ["open manage teams", "open manage teams window", "open team management", "show manage teams", "show me manage teams"]

def parseUiAction (instruction : String) : Except UIError SoftwareIncUIAction :=
  let folded := T.fold (String.ofList (stripped T instruction.toList))
  let normalized := String.ofList (joined T (folded.toList.map fun c => if c = '-' then ' ' else c))
  if normalized ∈ pauseTexts then .ok .pause
  else if normalized ∈ resumeTexts then .ok .resume
  else if normalized ∈ openManageTeamsTexts then .ok .openManageTeams
  else .error (.validation
    "unsupported Software Inc. UI request; choose pause, resume, or open manage teams")

/-! ## Staffing -/

def createPatterns : List (Matcher (List Char)) := [
  do
    phrase T ["create"]
    let _ ← maybePhrase T ["a"]
    phrase T ["team", "named"]
    let name ← lazily
    let _ ← optionally (literally T ['.'])
    return name,
  do
    phrase T ["make"]
    let _ ← maybePhrase T ["a"]
    phrase T ["new", "team", "called"]
    let name ← lazily
    let _ ← optionally (literally T ['.'])
    return name]

/-- `hire one programmer for <team> `, with the team. -/
def hireTeam : Matcher (List Char) := do
  phrase T ["hire"]
  oneOf [phrase T ["one"], phrase T ["a"]]
  phrase T ["programmer"]
  oneOf [phrase T ["for"], phrase T ["into"]]
  let team ← lazily
  let _ ← blanks T
  return team

def hirePatterns : List (Matcher (List Char × List Char)) := [
  do
    let team ← hireTeam T
    phrase T ["for", "no", "more", "than"]
    let _ ← optionally (literally T ['$'])
    let amount ← amountPattern T
    let _ ← blanks T
    phrase T ["per"]
    let _ ← word T "month"
    return (team, amount),
  do
    let team ← hireTeam T
    phrase T ["with"]
    let _ ← maybePhrase T ["a"]
    phrase T ["monthly", "salary", "cap", "of"]
    let _ ← optionally (literally T ['$'])
    let amount ← amountPattern T
    return (team, amount)]

def observePatterns : List (Matcher (List Char × List Char)) := [
  do
    oneOf [phrase T ["list"], phrase T ["observe"], phrase T ["show"]]
    let _ ← maybePhrase T ["the"]
    phrase T ["programmer", "applicants", "for"]
    let team ← lazily
    let _ ← blanks T
    oneOf [phrase T ["under"], phrase T ["at", "or", "below"], phrase T ["for", "no", "more", "than"]]
    let _ ← optionally (literally T ['$'])
    let amount ← amountPattern T
    let _ ← blanks T
    phrase T ["per"]
    let _ ← word T "month"
    return (team, amount)]

/-- What the fields of a `StaffingIntent` are made of. -/
structure StaffingRequest where
  action : Staffing.Action
  teamName : List Char
  /-- The digits of the salary cap. -/
  amount : Option (List Char)
  deriving DecidableEq, Repr

/-- The first pattern of all that matches. -/
def staffingRequest (normalized : List Char) : Option StaffingRequest :=
  match firstMatch (createPatterns T) normalized with
  | some name => some ⟨.createTeam, name, none⟩
  | none => match firstMatch (hirePatterns T) normalized with
    | some (team, amount) => some ⟨.hireEmployee, team, some amount⟩
    | none => (firstMatch (observePatterns T) normalized).map fun read => ⟨.observeApplicants, read.1, some read.2⟩

/-- `Decimal(text.replace(",", ""))` of an amount with a digit. -/
def amountValue (text : List Char) : ℚ :=
  let kept := text.filter (· ≠ ',')
  let fraction := (kept.dropWhile (· ≠ '.')).filter fun c => (T.digit c).isSome
  digitsValue T (kept.takeWhile (· ≠ '.')) + digitsValue T fraction / 10 ^ fraction.length

/-- `_money` -/
def salaryCap (text : List Char) : Except UIError ℚ :=
  if ¬ text.any (fun c => (T.digit c).isSome) then .error (.validation "salary cap must be a valid USD amount")
  else if amountValue T text ≤ 0 then .error (.validation "salary cap must be positive")
  -- more digits than the context of `quantize` has
  else if 10 ^ 28 ≤ amountValue T text * 100 then .error .external
  else .ok (amountValue T text)

/-- The team's name obeys its limits. -/
def StaffingRequest.nameFits (request : StaffingRequest) : Bool :=
  1 ≤ request.teamName.length && request.teamName.length ≤ 64 && !(joined T request.teamName).any fun c => c.toNat < 32

/-- The fields of `StaffingIntent`. -/
def StaffingRequest.fits (request : StaffingRequest) (cap : Option ℚ) : Bool :=
  request.nameFits T && cap.all Staffing.isAmount

def parseStaffingIntent (instruction : String) : Except UIError Staffing.Action :=
  let normalized := joined T (stripped T instruction.toList)
  match staffingRequest T normalized with
  | some request => do
    let cap ← request.amount.mapM (salaryCap T)
    if request.fits T cap then .ok request.action else .error .model
  | none =>
    let folded := (T.fold (String.ofList normalized)).toList
    if "hire".toList <+: folded then .error (.validation ("hiring requires exactly one programmer, one target team, " ++
      "and an explicit USD monthly salary cap"))
    else if "team".toList <:+: folded then .error (.validation
      "team creation requires `create a team named <name>`")
    else .error (.validation "unsupported Software Inc. staffing request")

/-! ## Offices -/

/-- `\d{1,2}(?::\d{2})?` -/
def hourPattern : Matcher (List Char × List Char) := do
  let hour ← digits T 1 2
  let minute ← optionally do
    let _ ← literally T [':']
    digits T 2 2
  return (hour, minute)

structure HoursRequest where
  teamName : List Char
  start : List Char × List Char
  stop : List Char × List Char
  deriving DecidableEq, Repr

def hoursPattern : Matcher HoursRequest := do
  oneOf [phrase T ["set"], phrase T ["configure"]]
  let team ← lazily
  let _ ← blanks T
  let _ ← maybePhrase T ["team"]
  phrase T ["working", "hours"]
  oneOf [phrase T ["to"], phrase T ["from"]]
  let start ← hourPattern T
  let _ ← optionally (blanks T)
  let _ ← oneOf [word T "-", word T "to"]
  let _ ← optionally (blanks T)
  let stop ← hourPattern T
  return ⟨team, start, stop⟩

structure RoleRequest where
  employee : List Char
  role : List Char
  team : Option (List Char)
  deriving DecidableEq, Repr

def rolePattern : Matcher (List Char) :=
  oneOf (["lead", "programmer", "designer", "artist", "service"].map (word T))

def rolePatterns : List (Matcher RoleRequest) := [
  do
    oneOf [phrase T ["assign"], phrase T ["set"]]
    let employee ← lazily
    let _ ← blanks T
    let _ ← maybePhrase T ["the"]
    let _ ← maybePhrase T ["employee"]
    phrase T ["role"]
    let role ← rolePattern T
    return ⟨employee, role, none⟩,
  do
    oneOf [phrase T ["assign"], phrase T ["set"]]
    let employee ← lazily
    let _ ← blanks T
    oneOf [phrase T ["as"], phrase T ["to"]]
    let role ← rolePattern T
    let _ ← blanks T
    oneOf [phrase T ["for"], phrase T ["on"]]
    let team ← greedily
    return ⟨employee, role, some team⟩]

/-- `_hour` -/
def hourOf (text : List Char × List Char) : Except UIError ℚ :=
  if 59 < digitsValue T text.2 then .error (.validation "working-hours minutes must be between 00 and 59")
  else .ok (digitsValue T text.1 + digitsValue T text.2 / 60)

/-- The fields of an `OfficeIntent` about working hours. -/
def HoursRequest.fits (request : HoursRequest) (start stop : ℚ) : Bool :=
  1 ≤ request.teamName.length && request.teamName.length ≤ 64 && 0 ≤ start && start < 24 && 0 < stop && stop ≤ 24 &&
    start.den = 1 && stop.den = 1 && start < stop && stop - start ≤ 12

/-- The fields of an `OfficeIntent` about a role. -/
def RoleRequest.fits (request : RoleRequest) (team : List Char) : Bool :=
  1 ≤ team.length && team.length ≤ 64 && 1 ≤ request.employee.length && request.employee.length ≤ 256

/-- The values of `SupportedEmployeeRole`. -/
def roles : List String := ["Lead", "Programmer", "Designer", "Artist", "Service"]

def parseOfficeIntent (instruction : String) : Except UIError SoftwareIncUIAction :=
  let normalized := joined T (stripped T instruction.toList)
  match fullMatch (hoursPattern T) normalized with
  | some request => do
    let start ← hourOf T request.start
    let stop ← hourOf T request.stop
    if request.fits start stop then .ok .setTeamWorkingHours else .error .model
  | none => match firstMatch (rolePatterns T) normalized with
    | some request => match request.team with
      | none => .error (.validation "role assignment requires an explicit target team")
      | some team =>
        if T.title (String.ofList request.role) ∉ roles then .error .external
        else if request.fits team then .ok .assignEmployeeRole else .error .model
    | none => .error (.validation ("unsupported office request; use `set <team> working hours to <start>-<end>` or " ++
        "`assign <employee> as <role> for <team>`"))

/-! ## What is within the limits -/

/-- Whether the text of a salary cap is no amount above zero. -/
def unpriced (text : List Char) : Bool := !(text.any fun c => (T.digit c).isSome) || amountValue T text ≤ 0

/-- The fields of a staffing request obey the limits of its intent. -/
def StaffingRequest.within (request : StaffingRequest) : Bool :=
  request.nameFits T && request.amount.all fun text => Staffing.isAmount (amountValue T text)

def hourValue (text : List Char × List Char) : ℚ := digitsValue T text.1 + digitsValue T text.2 / 60

/-- The hours or the role that an instruction asks for obey the limits of their intent, if it asks for them at all. -/
def officeWithin (normalized : List Char) : Bool :=
  match fullMatch (hoursPattern T) normalized with
  | some request => 59 < digitsValue T request.start.2 || 59 < digitsValue T request.stop.2 ||
      request.fits (hourValue T request.start) (hourValue T request.stop)
  | none => (firstMatch (rolePatterns T) normalized).all fun request => request.team.all fun team =>
      T.title (String.ofList request.role) ∈ roles && request.fits team

/-- The fields of what an objective asks for obey the limits of its intent. -/
def within (objective : String) : Bool :=
  let normalized := joined T (stripped T objective.toList)
  (parseUiAction T objective).isOk || match staffingRequest T normalized with
    | some request => if request.amount.any (unpriced T) then officeWithin T normalized else request.within T
    | none => officeWithin T normalized

variable {T}

/-- The caller may go on with the next parser. -/
def Refused {α : Type} (x : Except UIError α) : Prop := ∃ message, x = .error (.validation message)

/-- What no caller catches. -/
def Escapes {α : Type} (x : Except UIError α) : Prop := ∃ e, x = .error e ∧ ∀ message, e ≠ .validation message

theorem escapes_model {α : Type} : Escapes (.error .model : Except UIError α) :=
  ⟨.model, rfl, fun _ h => nomatch h⟩

theorem escapes_external {α : Type} : Escapes (.error .external : Except UIError α) :=
  ⟨.external, rfl, fun _ h => nomatch h⟩

theorem salaryCap_unpriced {text : List Char} (h : unpriced T text = true) : Refused (salaryCap T text) := by
  unfold salaryCap
  by_cases hdigits : text.any (fun c => (T.digit c).isSome) = true
  · simp only [unpriced, hdigits, Bool.not_true, Bool.false_or, decide_eq_true_eq] at h
    rw [if_neg (not_not.mpr hdigits), if_pos h]
    exact ⟨_, rfl⟩
  · rw [if_pos hdigits]
    exact ⟨_, rfl⟩

/-- An amount above zero is the salary cap, or has too many digits for one. -/
theorem salaryCap_priced {text : List Char} (h : unpriced T text = false) :
    salaryCap T text = .ok (amountValue T text) ∨
      salaryCap T text = .error .external ∧ Staffing.isAmount (amountValue T text) = false := by
  simp only [unpriced, Bool.or_eq_false_iff, Bool.not_eq_false', decide_eq_false_iff_not] at h
  unfold salaryCap
  rw [if_neg (not_not.mpr h.1), if_neg h.2]
  split_ifs with hlong
  · refine .inr ⟨rfl, Bool.eq_false_iff.mpr fun hamount => ?_⟩
    simp only [Staffing.isAmount, Bool.and_eq_true, decide_eq_true_eq] at hamount
    linarith
  · exact .inl rfl

theorem parseStaffingIntent_none {instruction : String}
    (h : staffingRequest T (joined T (stripped T instruction.toList)) = none) :
    Refused (parseStaffingIntent T instruction) := by
  simp only [parseStaffingIntent, h]
  split_ifs <;> exact ⟨_, rfl⟩

/-- A staffing request is refused for its salary cap, and else built within its limits only. -/
theorem parseStaffingIntent_some {instruction : String} {request : StaffingRequest}
    (h : staffingRequest T (joined T (stripped T instruction.toList)) = some request) :
    (request.amount.any (unpriced T) = true ∧ Refused (parseStaffingIntent T instruction)) ∨
      request.amount.any (unpriced T) = false ∧
        ((request.within T = true ∧ parseStaffingIntent T instruction = .ok request.action) ∨
          request.within T = false ∧ Escapes (parseStaffingIntent T instruction)) := by
  simp only [parseStaffingIntent, h]
  cases hamount : request.amount with
  | none =>
    have hwithin : request.within T = request.fits T none := by
      simp [StaffingRequest.within, StaffingRequest.fits, hamount]
    refine .inr ⟨rfl, ?_⟩
    rw [hwithin]
    cases hfits : request.fits T none with
    | true => exact .inl ⟨rfl, if_pos hfits⟩
    | false =>
      refine .inr ⟨rfl, .model, if_neg ?_, fun _ hm => nomatch hm⟩
      rw [hfits]
      exact Bool.false_ne_true
  | some text =>
    cases hprice : unpriced T text with
    | true =>
      obtain ⟨message, hcap⟩ := salaryCap_unpriced hprice
      refine .inl ⟨hprice, message, ?_⟩
      show ((some <$> salaryCap T text) >>= _) = _
      rw [hcap]
      rfl
    | false =>
      refine .inr ⟨hprice, ?_⟩
      have hwithin : request.within T = request.fits T (some (amountValue T text)) := by
        simp [StaffingRequest.within, StaffingRequest.fits, hamount]
      show _ ∧ ((some <$> salaryCap T text) >>= _) = _ ∨ _ ∧ Escapes ((some <$> salaryCap T text) >>= _)
      rcases salaryCap_priced hprice with hcap | ⟨hcap, hlong⟩
      · rw [hcap, hwithin]
        cases hfits : request.fits T (some (amountValue T text)) with
        | true => exact .inl ⟨rfl, if_pos hfits⟩
        | false =>
          refine .inr ⟨rfl, .model, if_neg ?_, fun _ hm => nomatch hm⟩
          rw [hfits]
          exact Bool.false_ne_true
      · rw [hcap, hwithin, StaffingRequest.fits, Option.all_some, hlong, Bool.and_false]
        exact .inr ⟨rfl, escapes_external⟩

theorem hourOf_late {text : List Char × List Char} (h : 59 < digitsValue T text.2) : Refused (hourOf T text) :=
  ⟨_, if_pos h⟩

theorem hourOf_timely {text : List Char × List Char} (h : ¬ 59 < digitsValue T text.2) :
    hourOf T text = .ok (hourValue T text) :=
  if_neg h

/-- An office intent is built or refused when it is within its limits, and raises otherwise. -/
theorem parseOfficeIntent_cases (instruction : String) :
    (officeWithin T (joined T (stripped T instruction.toList)) = true ∧
        ((∃ a, parseOfficeIntent T instruction = .ok a) ∨ Refused (parseOfficeIntent T instruction))) ∨
      officeWithin T (joined T (stripped T instruction.toList)) = false ∧
        Escapes (parseOfficeIntent T instruction) := by
  simp only [parseOfficeIntent, officeWithin]
  generalize joined T (stripped T instruction.toList) = normalized
  cases fullMatch (hoursPattern T) normalized with
  | some request =>
    by_cases hlate : 59 < digitsValue T request.start.2
    · obtain ⟨message, hstart⟩ := hourOf_late hlate
      refine .inl ⟨by simp [hlate], .inr ⟨message, ?_⟩⟩
      show (hourOf T request.start >>= _) = _
      rw [hstart]
      rfl
    · by_cases hlate' : 59 < digitsValue T request.stop.2
      · obtain ⟨message, hstop⟩ := hourOf_late hlate'
        refine .inl ⟨by simp [hlate'], .inr ⟨message, ?_⟩⟩
        show (hourOf T request.start >>= fun start => hourOf T request.stop >>= _) = _
        rw [hourOf_timely hlate, hstop]
        rfl
      · simp only [hourOf_timely hlate, hourOf_timely hlate', hlate, hlate', decide_false, Bool.false_or]
        cases hfits : request.fits (hourValue T request.start) (hourValue T request.stop) with
        | true => exact .inl ⟨rfl, .inl ⟨_, if_pos hfits⟩⟩
        | false =>
          refine .inr ⟨rfl, .model, if_neg ?_, fun _ hm => nomatch hm⟩
          rw [hfits]
          exact Bool.false_ne_true
  | none =>
    cases firstMatch (rolePatterns T) normalized with
    | none => exact .inl ⟨rfl, .inr ⟨_, rfl⟩⟩
    | some request =>
      cases hteam : request.team with
      | none => exact .inl ⟨by simp [hteam], .inr ⟨"role assignment requires an explicit target team", by simp [hteam]⟩⟩
      | some team =>
        simp only [hteam, Option.all_some]
        by_cases hknown : T.title (String.ofList request.role) ∈ roles
        · simp only [hknown, not_true_eq_false, decide_true, Bool.true_and, ↓reduceIte]
          cases hfits : request.fits team with
          | true => exact .inl ⟨rfl, .inl ⟨_, rfl⟩⟩
          | false => exact .inr ⟨rfl, escapes_model⟩
        · simp only [hknown, not_false_eq_true, decide_false, Bool.false_and, ↓reduceIte]
          exact .inr ⟨trivial, escapes_external⟩

end

end SimPilot.SoftwareInc.Guidance
