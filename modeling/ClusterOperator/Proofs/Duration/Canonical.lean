import ClusterOperator.Proofs.Entry.Stored

namespace ClusterOperator.Duration

open Json

theorem exists_parse_iff {d : Duration} : (∃ text, parse text = .ok d) ↔ d.nanos ≤ longest := by
  constructor
  · rintro ⟨text, h⟩
    exact parse_le h
  · intro h
    exact ⟨d.text, parse_text h⟩

theorem text_injective {d e : Duration} (hd : d.nanos ≤ longest) (he : e.nanos ≤ longest)
    (h : d.text = e.text) : d = e := by
  have hread := parse_text hd
  rw [h, parse_text he] at hread
  exact (Except.ok.inj hread).symm

theorem decode_text {d : Duration} (h : d.nanos ≤ longest) :
    Decode.whole decode (symbols d.toJson.chars) = .ok d := by
  have hspells : Json.Spells (symbols d.toJson.chars) (outline d.toJson) :=
    (IsPlain.str d.text).spells
  rw [hspells.whole_eq, decode_toJson h]

/-- Durations that are parsed are those of at most 64 bits with a sign. Each of them is parsed from
its own text and decoded from its stored form, no other has that text, and what was parsed is printed
as a text that stays the same from then on. -/
theorem parse_print :
    (∀ d : Duration, (∃ text, parse text = .ok d) ↔ d.nanos ≤ longest) ∧
    (∀ d : Duration, d.nanos ≤ longest → parse d.text = .ok d) ∧
    (∀ d e : Duration, d.nanos ≤ longest → e.nanos ≤ longest → d.text = e.text → d = e) ∧
    (∀ text d, parse text = .ok d → ∃ e, parse d.text = .ok e ∧ e.text = d.text) ∧
    (∀ d : Duration, d.nanos ≤ longest → decode (outline d.toJson) = .ok d) ∧
    ∀ d : Duration, d.nanos ≤ longest → Decode.whole decode (symbols d.toJson.chars) = .ok d := by
  refine ⟨fun _ => exists_parse_iff, fun _ => parse_text, fun _ _ => text_injective, ?_,
    fun _ => decode_toJson, fun _ => decode_text⟩
  intro text d h
  exact ⟨d, parse_text (parse_le h), rfl⟩

/-- Where the form of the text changes: at the longest duration and at every unit. -/
theorem parse_print_bounds :
    parse (text ⟨longest⟩) = .ok ⟨longest⟩ ∧
      (text ⟨longest⟩ = "2562047h47m16.854775807s") ∧
      ∀ unit : TimeUnit, parse (text ⟨unit.nanos⟩) = .ok ⟨unit.nanos⟩ := by
  refine ⟨parse_print.2.1 _ (Nat.le_refl _), by decide +kernel, ?_⟩
  intro unit
  apply parse_print.2.1
  cases unit <;> decide

end ClusterOperator.Duration
