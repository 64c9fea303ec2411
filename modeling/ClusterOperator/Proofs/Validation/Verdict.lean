import ClusterOperator.Validation.Violation

namespace ClusterOperator

section Steps

variable {ε α β : Type}

@[simp] theorem bind_eq_ok {x : Except ε α} {f : α → Except ε β} {b : β} :
    (x >>= f) = .ok b ↔ ∃ a, x = .ok a ∧ f a = .ok b := by
  cases x with
  | error e =>
      constructor
      · nofun
      · rintro ⟨a, ha, -⟩
        cases ha
  | ok a =>
      constructor
      · intro h
        exact ⟨a, rfl, h⟩
      · rintro ⟨a', ⟨⟩, h⟩
        exact h

theorem map_eq_ok {x : Except ε α} {f : α → β} {b : β} :
    x.map f = .ok b ↔ ∃ a, x = .ok a ∧ f a = b := by
  cases x with
  | error e =>
      constructor
      · nofun
      · rintro ⟨a, ha, -⟩
        cases ha
  | ok a =>
      constructor
      · intro h
        exact ⟨a, rfl, Except.ok.inj h⟩
      · rintro ⟨a', ⟨⟩, h⟩
        exact congrArg Except.ok h

@[simp] theorem discard_eq_ok {x : Except ε α} {u : Unit} :
    discard x = .ok u ↔ ∃ a, x = .ok a := by
  cases x with
  | error e =>
      constructor
      · nofun
      · rintro ⟨a, ha⟩
        cases ha
  | ok a => exact ⟨fun _ => ⟨a, rfl⟩, fun _ => rfl⟩

@[simp] theorem pure_eq_ok {a b : α} : (pure a : Except ε α) = .ok b ↔ a = b :=
  ⟨Except.ok.inj, congrArg Except.ok⟩

@[simp] theorem throw_ne_ok {e : ε} {a : α} : (throw e : Except ε α) ≠ .ok a := nofun

@[simp] theorem exists_unit_eq_ok {x : Except ε Unit} {p : Prop} :
    (∃ u : Unit, x = .ok u ∧ p) ↔ x = .ok () ∧ p := by
  constructor
  · rintro ⟨u, hx, hp⟩
    exact ⟨hx, hp⟩
  · rintro ⟨hx, hp⟩
    exact ⟨(), hx, hp⟩

end Steps

theorem ite_check_eq_ok {c : Prop} [Decidable c] {check rest : Verdict} :
    (if c then check >>= fun _ => rest else rest) = .ok () ↔
      (c → check = .ok ()) ∧ rest = .ok () := by
  by_cases hc : c
  · rw [if_pos hc, bind_eq_ok, exists_unit_eq_ok]
    exact ⟨fun ⟨hcheck, hrest⟩ => ⟨fun _ => hcheck, hrest⟩,
      fun ⟨hcheck, hrest⟩ => ⟨hcheck hc, hrest⟩⟩
  · rw [if_neg hc]
    exact ⟨fun hrest => ⟨fun h => absurd h hc, hrest⟩, And.right⟩

theorem ite_pure_eq_ok {c : Prop} [Decidable c] {check : Verdict} :
    (if c then check else pure ()) = .ok () ↔ (c → check = .ok ()) := by
  by_cases hc : c
  · rw [if_pos hc]
    exact ⟨fun h _ => h, fun h => h hc⟩
  · rw [if_neg hc]
    exact ⟨fun _ h => absurd h hc, fun _ => rfl⟩

end ClusterOperator
