import SimPilot.GameBridge.StrictJsonComplete
/-!
# What the strict parser accepts

The parser is exact on a text (`ParsesExactly`) when it gives the value of a JSON text and a
`FormatException` for any other. `ushort.TryParse` lets NULs stand for the last digits behind `\u`;
the texts that are JSON but for that (`Padded`) are the ones the parser is wrong about.
-/

namespace SimPilot.GameBridge.StrictJson
open JsonGrammar

section
variable {δ : Type}

/-- The parser accepts a text as the grammar does, and rejects it with a `FormatException`. -/
structure ParsesExactly (double : Text → Option δ) (text : Text) : Prop where
  accepts : ∀ v, parse double text = .ok v ↔ Json (strict double) text v
  rejects : (¬ ∃ v, Json (strict double) text v) → ∃ message, parse double text = .error (.format message)

/-- A text with a NUL that is JSON when NULs may stand for the last digits behind `\u`. -/
def Padded (double : Text → Option δ) (text : Text) : Prop := 0 ∈ text ∧ ∃ v, Json (bridge double) text v

theorem json_bridge_iff {double : Text → Option δ} {text : Text} (htext : 0 ∉ text) {v : Tree Long δ} :
    Json (bridge double) text v ↔ Json (strict double) text v :=
  ⟨fun h => h.transfer (fun _ _ hh hquad => hquad.quad hh) htext,
    fun h => h.transfer (fun _ _ _ hquad => Quad.padded hquad) htext⟩

theorem nul_not_mem_strict {double : Text → Option δ} {text : Text} {v : Tree Long δ}
    (h : Json (strict double) text v) : 0 ∉ text := h.nul_not_mem fun _ _ hquad => Quad.nul_not_mem hquad

/-- A text that is rejected is rejected with a `FormatException`. -/
theorem parse_format {double : Text → Option δ} {text : Text} (h : ¬ ∃ v, parse double text = .ok v) :
    ∃ message, parse double text = .error (.format message) := by
  cases hparse : parse double text with
  | ok v => exact absurd ⟨v, hparse⟩ h
  | error e =>
    obtain ⟨message, rfl⟩ := (parse_meets double text).of_error hparse
    exact ⟨message, rfl⟩

/-- **The parser is exact** on every text but the padded ones. -/
theorem parse_exact_iff (double : Text → Option δ) (text : Text) :
    ParsesExactly double text ↔ ¬ Padded double text := by
  constructor
  · rintro hexact ⟨hnul, v, hjson⟩
    exact nul_not_mem_strict ((hexact.accepts v).mp (parse_ok_iff.mpr hjson)) hnul
  · intro hpadded
    have haccepts : ∀ v, parse double text = .ok v ↔ Json (strict double) text v := by
      intro v
      rw [parse_ok_iff]
      by_cases hnul : 0 ∈ text
      · constructor
        · intro hjson
          exact absurd ⟨hnul, v, hjson⟩ hpadded
        · intro hjson
          exact absurd hnul (nul_not_mem_strict hjson)
      · exact json_bridge_iff hnul
    refine ⟨haccepts, fun hnone => parse_format ?_⟩
    rintro ⟨v, hv⟩
    exact hnone ⟨v, (haccepts v).mp hv⟩

end

/-- Quotes, `\u41` and two NULs. -/
def paddedText : Text := ascii "\"\\u41" ++ [0, 0] ++ ascii "\""

theorem parse_paddedText {δ : Type} (double : Text → Option δ) :
    parse double paddedText = .ok (.string [unit 'A']) := by
  have hquad : PaddedQuad (ascii "41" ++ [0, 0]) (unit 'A') :=
    ⟨ascii "41", 2, rfl, by decide, by decide, List.all_eq_true.mp (by decide), by decide⟩
  exact parse_of_json ⟨[], _, [], by simp [Blank], .string (.escape (.quad hquad) .nil), by simp [Blank], rfl⟩

theorem not_parse_exact_padded : ¬ ∀ (δ : Type) (double : Text → Option δ) text, ParsesExactly double text := by
  intro h
  have hjson := ((h Unit (fun _ => none) paddedText).accepts _).mp (parse_paddedText _)
  exact nul_not_mem_strict hjson (by decide)

end SimPilot.GameBridge.StrictJson
