import ClusterOperator.Program

namespace ClusterOperator.Program

variable {I : Interface} {σ α β : Type}

theorem run_bind (handler : Handler I σ) (p : Program I α) (f : α → Program I β) (s : σ) :
    (p.bind f).run handler s =
      let first := p.run handler s
      let second := (f first.result).run handler first.state
      ⟨second.result, second.state, first.metrics ++ second.metrics⟩ := by
  induction p generalizing s with
  | done a => rfl
  | count m next ih =>
      simp only [bind, run]
      rw [ih]
      rfl
  | call c next ih =>
      simp only [bind, run]
      exact ih _ _

theorem run_call (handler : Handler I σ) (c : I.Call) (next : I.Reply c → Program I α) (s : σ) :
    (call c next).run handler s = (next (handler c s).1).run handler (handler c s).2 := rfl

/-- From related states, a program gives the same result over either handler and leaves related
states. -/
def Alike {τ : Type} (first : Handler I σ) (second : Handler I τ) (related : σ → τ → Prop)
    (p : Program I α) : Prop :=
  ∀ ⦃s t⦄, related s t → (p.run first s).result = (p.run second t).result ∧
    related (p.run first s).state (p.run second t).state

namespace Alike

variable {τ : Type} {first : Handler I σ} {second : Handler I τ} {related : σ → τ → Prop}

theorem done (a : α) : Alike first second related (.done a) :=
  fun _ _ h => ⟨rfl, h⟩

theorem count {p : Program I α} (h : Alike first second related p) (m : Metric) :
    Alike first second related (.count m p) :=
  fun _ _ hrelated => h hrelated

theorem bind {p : Program I α} {f : α → Program I β} (h : Alike first second related p)
    (hf : ∀ a, Alike first second related (f a)) : Alike first second related (p.bind f) := by
  intro s t hrelated
  obtain ⟨hresult, hstates⟩ := h hrelated
  simp only [run_bind, ← hresult]
  exact hf _ hstates

theorem andThen {ε : Type} {p : Program I (Except ε α)} {f : α → Program I (Except ε β)}
    (h : Alike first second related p) (hf : ∀ a, Alike first second related (f a)) :
    Alike first second related (p.andThen f) := by
  apply h.bind
  rintro (e | a)
  · exact done _
  · exact hf a

end Alike

end ClusterOperator.Program
