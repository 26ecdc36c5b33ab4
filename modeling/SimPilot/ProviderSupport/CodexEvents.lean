import SimPilot.Data.Assoc
import SimPilot.Data.Except
import SimPilot.Data.JsonLines
/-!
# The events of the Codex CLI (provider_support/codex_cli/events.py)

The output of the CLI is decoded as UTF-8 and cut into lines by `str.splitlines`; each line that
is more than blanks is decoded as a JSON object and consumed. `TypeAdapter(dict[str, object])` is a
parameter (`Decoder`).
-/

namespace SimPilot.ProviderSupport.CodexCli
open JsonLines

/-- What a member of an event can be. -/
inductive Value where
  | null
  | boolean (b : Bool)
  | integer (i : Int)
  | number (literal : String)
  | string (s : String)
  | array (vs : List Value)
  | object (kvs : List (String × Value))
  deriving Inhabited

/-- `dict[str, object]` -/
abbrev EventObject : Type := Assoc String Value

def Value.string? : Value → Option String
  | string s => some s
  | _ => none

def Value.object? : Value → Option EventObject
  | object kvs => some kvs
  | _ => none

/-- `isinstance(event.get(key), str)` -/
def stringAt (event : EventObject) (key : String) : Option String := (Assoc.get event key).bind Value.string?

/-- `isinstance(event.get(key), dict)` -/
def objectAt (event : EventObject) (key : String) : Option EventObject := (Assoc.get event key).bind Value.object?

/-! ## Usage -/

structure CodexUsage where
  inputTokens : Nat
  cachedInputTokens : Option Nat
  outputTokens : Nat
  reasoningOutputTokens : Nat
  deriving DecidableEq, Repr

/-- `int` with `ge=0`, strict -/
def count? : Value → Option Nat
  | .integer i => if 0 ≤ i then some i.toNat else none
  | _ => none

/-- `CodexUsage.model_validate(raw, strict=True)` -/
def CodexUsage.validate (raw : EventObject) : Option CodexUsage := do
  let inputTokens ← (Assoc.get raw "input_tokens").bind count?
  let cachedInputTokens ← match Assoc.get raw "cached_input_tokens" with
    | none => some none
    | some .null => some none
    | some v => (count? v).map some
  let outputTokens ← (Assoc.get raw "output_tokens").bind count?
  let reasoningOutputTokens ← match Assoc.get raw "reasoning_output_tokens" with
    | none => some 0
    | some v => count? v
  some { inputTokens, cachedInputTokens, outputTokens, reasoningOutputTokens }

structure ProviderTokenUsage where
  inputTokens : Nat
  cachedInputTokens : Option Nat
  outputTokens : Nat
  totalTokens : Nat
  deriving DecidableEq, Repr

def CodexUsage.mapped (usage : CodexUsage) : ProviderTokenUsage where
  inputTokens := usage.inputTokens
  cachedInputTokens := usage.cachedInputTokens
  outputTokens := usage.outputTokens + usage.reasoningOutputTokens
  totalTokens := usage.inputTokens + usage.outputTokens + usage.reasoningOutputTokens

/-! ## Events -/

inductive CodexError where
  /-- `CodexCLIMalformedJSONLError` -/
  | malformedJSONL (message : String)
  /-- `CodexCLITelemetryError` -/
  | telemetry (message : String)
  /-- `CodexCLIConflictingFinalResponseError` -/
  | conflictingFinalResponse (message : String)
  deriving DecidableEq, Repr

/-- What the loop has gathered. -/
structure Gathered where
  threadId : Option String := none
  completed : Bool := false
  failed : Bool := false
  finalMessages : List String := []
  usage : Option CodexUsage := none
  unknown : List String := []
  errors : List String := []
  deriving DecidableEq, Repr

structure ParsedCodexEvents where
  threadId : Option String
  terminalCompleted : Bool
  terminalFailed : Bool
  finalMessages : List String
  tokenUsage : Option ProviderTokenUsage
  unknownEventTypes : List String
  errorMessages : List String
  deriving DecidableEq, Repr

/-- One turn of the loop, behind the check of the type. -/
def consume (s : Gathered) (type : String) (event : EventObject) : Except CodexError Gathered :=
  if type = "thread.started" then .ok { s with threadId := (stringAt event "thread_id").or s.threadId }
  else if type = "turn.completed" then
    if s.completed || s.failed then .error (.telemetry "Codex JSONL contains multiple terminal turn events")
    else
      match objectAt event "usage" with
      | none => .ok { s with completed := true }
      | some raw =>
        match CodexUsage.validate raw with
        | none => .error (.telemetry "Codex usage telemetry is invalid")
        | some usage => .ok { s with completed := true, usage := some usage }
  else if type = "turn.failed" then
    if s.completed || s.failed then .error (.telemetry "Codex JSONL contains multiple terminal turn events")
    else .ok { s with failed := true, errors := s.errors ++ (stringAt event "error").toList }
  else if type = "error" then .ok { s with errors := s.errors ++ (stringAt event "message").toList }
  else if type = "item.completed" then
    let item := (objectAt event "item").getD []
    if stringAt item "type" = some "agent_message" then
      .ok { s with finalMessages := s.finalMessages ++ (stringAt item "text").toList }
    else .ok s
  else if type ∈ ["turn.started", "item.started", "item.updated"] then .ok s
  else .ok { s with unknown := s.unknown ++ [type] }

/-- What stands behind the loop. -/
def finish (s : Gathered) : Except CodexError ParsedCodexEvents :=
  -- `dict.fromkeys` keeps the first of equal messages
  let distinctMessages := s.finalMessages.eraseDups
  if 1 < distinctMessages.length then
    .error (.conflictingFinalResponse "Codex JSONL contains multiple conflicting agent responses")
  else .ok {
    threadId := s.threadId
    terminalCompleted := s.completed
    terminalFailed := s.failed
    finalMessages := distinctMessages
    tokenUsage := s.usage.map CodexUsage.mapped
    unknownEventTypes := s.unknown
    errorMessages := s.errors }

section
variable (decoder : Decoder EventObject)

def readLine (lineNumber : Nat) (s : Gathered) (rawLine : List Char) : Except CodexError Gathered :=
  if Blank rawLine then .ok s
  else
    match decoder.decode rawLine with
    | none => .error (.malformedJSONL s!"Codex JSONL line {lineNumber} is malformed")
    | some event =>
      match stringAt event "type" with
      | none => .error (.malformedJSONL s!"Codex JSONL line {lineNumber} lacks a string event type")
      | some type => consume s type event

def readLines : Nat → Gathered → List (List Char) → Except CodexError Gathered
  | _, s, [] => .ok s
  | lineNumber, s, rawLine :: lines => do
    let s ← readLine decoder lineNumber s rawLine
    readLines (lineNumber + 1) s lines

theorem readLines_cons (n : Nat) (s : Gathered) (l : List Char) (ls : List (List Char)) :
    readLines decoder n s (l :: ls) = readLine decoder n s l >>= fun s => readLines decoder (n + 1) s ls := rfl

def parseCodexJsonl (stdout : ByteArray) : Except CodexError ParsedCodexEvents :=
  match String.fromUTF8? stdout with
  | none => .error (.malformedJSONL "Codex JSONL is not valid UTF-8")
  | some text => readLines decoder 1 {} (splitlines text.toList) >>= finish

/-! ## Streams of events -/

/-- An event object with a string type, and a text on one line that it is decoded from. -/
structure EventLine where
  type : String
  event : EventObject
  text : List Char
  typed : stringAt event "type" = some type
  decodes : decoder.decode text = some event
  newline : '\n' ∉ text

/-- The bytes of a stream: each text, ended by a newline. -/
def stream (lines : List (EventLine decoder)) : ByteArray :=
  (String.ofList (lines.flatMap fun line => line.text ++ ['\n'])).toUTF8

end

/-- The fold over the events. -/
def foldEvents {decoder : Decoder EventObject} (lines : List (EventLine decoder)) :
    Except CodexError ParsedCodexEvents :=
  lines.foldlM (fun s line => consume s line.type line.event) {} >>= finish

/-- The stream is accepted or rejected, and read, as the fold prescribes. -/
def FollowsEvents {decoder : Decoder EventObject} (lines : List (EventLine decoder)) : Prop :=
  ∀ r, parseCodexJsonl decoder (stream decoder lines) = .ok r ↔ foldEvents lines = .ok r

/-! ## The lines of an event -/

section
variable {decoder : Decoder EventObject} {s : Gathered} {n : Nat}

theorem readLine_blank {l : List Char} (h : Blank l) : readLine decoder n s l = .ok s := if_pos h

theorem readLines_append (a b : List (List Char)) :
    readLines decoder n s (a ++ b) = readLines decoder n s a >>= fun s => readLines decoder (n + a.length) s b := by
  induction a generalizing n s with
  | nil => rfl
  | cons l a ih =>
    rw [List.cons_append, readLines_cons, readLines_cons, List.length_cons]
    cases h : readLine decoder n s l with
    | error e => rfl
    | ok s' =>
      show readLines decoder (n + 1) s' (a ++ b) = readLines decoder (n + 1) s' a >>= _
      rw [ih, Nat.add_assoc n 1, Nat.add_comm 1]

theorem readLines_blanks {a : List (List Char)} (h : ∀ l ∈ a, Blank l) : readLines decoder n s a = .ok s := by
  induction a generalizing n with
  | nil => rfl
  | cons l a ih =>
    rw [List.forall_mem_cons] at h
    rw [readLines_cons, readLine_blank h.1]
    exact ih h.2

/-- Blank lines are counted only. -/
theorem readLines_behind_blanks {a : List (List Char)} (h : ∀ l ∈ a, Blank l) (b : List (List Char)) :
    readLines decoder n s (a ++ b) = readLines decoder (n + a.length) s b := by
  rw [readLines_append, readLines_blanks h]
  rfl

theorem readLine_object {p : List Char} (line : EventLine decoder) (hp : ¬ Blank p)
    (hdecode : decoder.decode p = some line.event) : readLine decoder n s p = consume s line.type line.event := by
  rw [readLine, if_neg hp]
  simp only [hdecode, line.typed]

/-- The lines of a text that is not broken consume its event. -/
theorem readLines_event (line : EventLine decoder) (h : ¬ Broken line.text) (rest : List Char) :
    ∃ k, readLines decoder n s (splitlines (line.text ++ '\n' :: rest)) =
      consume s line.type line.event >>= fun s => readLines decoder (n + k) s (splitlines rest) := by
  obtain ⟨blanks, p, hblanks, hp, ⟨hbroken, -⟩ | ⟨-, hdecode, others, hothers, hlines⟩⟩ :=
    exists_first_line decoder line.decodes line.newline
  · exact absurd hbroken h
  · refine ⟨blanks.length + (1 + others.length), ?_⟩
    rw [hlines, readLines_behind_blanks hblanks, readLines_cons, readLine_object line hp hdecode]
    cases consume s line.type line.event with
    | error e => rfl
    | ok s' =>
      show readLines decoder (n + blanks.length + 1) s' (others ++ splitlines rest) = _
      rw [readLines_behind_blanks hothers]
      show readLines decoder (n + blanks.length + 1 + others.length) s' (splitlines rest) =
        readLines decoder (n + (blanks.length + (1 + others.length))) s' (splitlines rest)
      rw [show n + blanks.length + 1 + others.length = n + (blanks.length + (1 + others.length)) by omega]

/-- A broken text is malformed. -/
theorem readLines_broken (line : EventLine decoder) (h : Broken line.text) (rest : List Char) :
    ∃ e, readLines decoder n s (splitlines (line.text ++ '\n' :: rest)) = .error e := by
  obtain ⟨blanks, p, hblanks, hp, ⟨-, hdecode, hlines⟩ | ⟨hwhole, -⟩⟩ :=
    exists_first_line decoder line.decodes line.newline
  · obtain ⟨others, hothers⟩ := hlines rest
    obtain ⟨e, hline⟩ : ∃ e, readLine decoder (n + blanks.length) s p = .error e := by
      rw [readLine, if_neg hp]
      simp only [hdecode]
      exact ⟨_, rfl⟩
    refine ⟨e, ?_⟩
    rw [hothers, readLines_behind_blanks hblanks, readLines_cons, hline]
    rfl
  · exact absurd h hwhole

/-- The lines of a stream. -/
def streamText (lines : List (EventLine decoder)) : List Char := lines.flatMap fun line => line.text ++ ['\n']

theorem streamText_cons (line : EventLine decoder) (lines : List (EventLine decoder)) :
    streamText (line :: lines) = line.text ++ '\n' :: streamText lines := by simp [streamText]

/-- **Without a broken text** the loop is the fold over the events. -/
theorem readLines_stream {lines : List (EventLine decoder)} (h : ∀ line ∈ lines, ¬ Broken line.text) :
    readLines decoder n s (splitlines (streamText lines)) =
      lines.foldlM (fun s line => consume s line.type line.event) s := by
  induction lines generalizing n s with
  | nil => rfl
  | cons line lines ih =>
    rw [List.forall_mem_cons] at h
    obtain ⟨k, hk⟩ := readLines_event (n := n) (s := s) line h.1 (streamText lines)
    rw [streamText_cons, hk, List.foldlM_cons]
    cases consume s line.type line.event with
    | error e => rfl
    | ok s' => exact ih h.2

/-- With a broken text the loop fails. -/
theorem readLines_stream_broken (n : Nat) (s : Gathered) {lines : List (EventLine decoder)}
    (h : ∃ line ∈ lines, Broken line.text) : ∃ e, readLines decoder n s (splitlines (streamText lines)) = .error e := by
  induction lines generalizing n s with
  | nil => simp at h
  | cons line lines ih =>
    rw [streamText_cons]
    by_cases hline : Broken line.text
    · exact readLines_broken line hline _
    · obtain ⟨k, hk⟩ := readLines_event (n := n) (s := s) line hline (streamText lines)
      rw [hk]
      cases consume s line.type line.event with
      | error e => exact ⟨e, rfl⟩
      | ok s' =>
        obtain ⟨other, hother, hbroken⟩ := h
        rcases List.mem_cons.mp hother with rfl | hother
        · exact absurd hbroken hline
        · exact ih _ _ ⟨other, hother, hbroken⟩

theorem parse_stream (lines : List (EventLine decoder)) :
    parseCodexJsonl decoder (stream decoder lines) =
      readLines decoder 1 {} (splitlines (streamText lines)) >>= finish := by
  have hdecode : String.fromUTF8? (stream decoder lines) = some (String.ofList (streamText lines)) :=
    dif_pos (String.isValidUTF8 _)
  rw [parseCodexJsonl, hdecode]
  simp only [String.toList_ofList]

/-- **The stream is read as the fold prescribes** where no text is broken or the events are rejected
anyway, and only there. -/
theorem parse_codex_jsonl_iff (decoder : Decoder EventObject) (lines : List (EventLine decoder)) :
    FollowsEvents lines ↔ ((∃ r, foldEvents lines = .ok r) → ∀ line ∈ lines, ¬ Broken line.text) := by
  unfold FollowsEvents
  rw [parse_stream]
  by_cases hall : ∀ line ∈ lines, ¬ Broken line.text
  · rw [readLines_stream hall]
    exact ⟨fun _ _ => hall, fun _ _ => Iff.rfl⟩
  · have hbroken : ∃ line ∈ lines, Broken line.text := by simpa using hall
    obtain ⟨e, he⟩ := readLines_stream_broken 1 {} hbroken
    rw [he]
    constructor
    · rintro h ⟨r, hr⟩
      cases (h r).mpr hr
    · intro h r
      constructor
      · intro hr
        cases hr
      · intro hr
        exact absurd (h ⟨r, hr⟩) hall

end

/-! ## A message with a line separator -/

section Example

/-- An error event whose message holds U+2028 as it is. -/
def separatorEvent : EventObject := [("type", .string "error"), ("message", .string "a\u2028b")]

def separatorBody : List Char := "\"type\":\"error\",\"message\":\"a\u2028b\"".toList

def separatorDecoder : Decoder EventObject := Decoder.single separatorBody separatorEvent

def separatorLine : EventLine separatorDecoder where
  type := "error"
  event := separatorEvent
  text := '{' :: (separatorBody ++ ['}'])
  typed := rfl
  decodes := Decoder.decode_single
  newline := by decide

theorem not_follows_separator : ¬ ∀ (decoder : Decoder EventObject) (lines : List (EventLine decoder)),
    FollowsEvents lines := by
  intro h
  have hbroken : Broken separatorLine.text :=
    ⟨'{' :: separatorBody.take 27, '\u2028', separatorBody.drop 28 ++ ['}'], by decide, by decide,
      fun h => absurd (h '{' List.mem_cons_self) (by decide),
      fun h => absurd (h '}' (List.mem_append_right _ (List.mem_singleton_self _))) (by decide)⟩
  obtain ⟨e, he⟩ := readLines_stream_broken 1 {}
    ⟨separatorLine, List.mem_singleton_self _, hbroken⟩
  have hparse := (h separatorDecoder [separatorLine] _).mpr (show foldEvents [separatorLine] = .ok _ from rfl)
  rw [parse_stream, he] at hparse
  cases hparse

end Example

end SimPilot.ProviderSupport.CodexCli
