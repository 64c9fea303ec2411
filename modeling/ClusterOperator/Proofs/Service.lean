import ClusterOperator.Program

/-!
Programs over services that leave open what they answer. A service says which answers a call may get
in a state, each with the states that it may leave; a run of a program chooses among them.
-/

namespace ClusterOperator

/-- Which answers the calls of an interface may get, and what becomes of the state. -/
abbrev Service (I : Interface) (σ : Type) : Type :=
  (c : I.Call) → σ → I.Reply c → σ → Prop

namespace Program

variable {I J : Interface} {σ α β ε : Type} {service : Service I σ}

/-- A program may give a result and leave a state. -/
inductive RunsTo (service : Service I σ) : Program I α → σ → α → σ → Prop
  | done {a : α} {s : σ} : RunsTo service (done a) s a s
  | count {m : Metric} {next : Program I α} {s s' : σ} {a : α}
      (h : RunsTo service next s a s') : RunsTo service (count m next) s a s'
  | call {c : I.Call} {next : I.Reply c → Program I α} {s middle s' : σ} {reply : I.Reply c} {a : α}
      (hreply : service c s reply middle) (hrest : RunsTo service (next reply) middle a s') :
      RunsTo service (call c next) s a s'

section Rules

variable {s s' : σ} {a : α}

theorem runsTo_done {result : α} :
    (done a).RunsTo service s result s' ↔ result = a ∧ s' = s := by
  constructor
  · rintro ⟨⟩
    exact ⟨rfl, rfl⟩
  · rintro ⟨rfl, rfl⟩
    exact .done

theorem runsTo_count {m : Metric} {next : Program I α} :
    (count m next).RunsTo service s a s' ↔ next.RunsTo service s a s' := by
  constructor
  · rintro (_ | h)
    exact h
  · exact .count

theorem runsTo_call {c : I.Call} {next : I.Reply c → Program I α} :
    (call c next).RunsTo service s a s' ↔
      ∃ reply middle, service c s reply middle ∧ (next reply).RunsTo service middle a s' := by
  constructor
  · rintro (_ | _ | ⟨hreply, hrest⟩)
    exact ⟨_, _, hreply, hrest⟩
  · rintro ⟨reply, middle, hreply, hrest⟩
    exact .call hreply hrest

theorem runsTo_call_done {c : I.Call} {reply : I.Reply c} :
    (call c done).RunsTo service s reply s' ↔ service c s reply s' := by
  rw [runsTo_call]
  constructor
  · rintro ⟨_, _, hreply, ⟨⟩⟩
    exact hreply
  · intro h
    exact ⟨reply, s', h, .done⟩

theorem runsTo_bind {p : Program I α} {f : α → Program I β} {b : β} :
    (p.bind f).RunsTo service s b s' ↔
      ∃ a middle, p.RunsTo service s a middle ∧ (f a).RunsTo service middle b s' := by
  induction p generalizing s with
  | done a =>
      constructor
      · intro h
        exact ⟨a, s, .done, h⟩
      · rintro ⟨_, _, ⟨⟩, h⟩
        exact h
  | count m next ih => simp only [bind, runsTo_count, ih]
  | call c next ih =>
      rw [bind, runsTo_call]
      constructor
      · rintro ⟨reply, t, hreply, hrest⟩
        obtain ⟨a, middle, hfirst, hsecond⟩ := (ih reply).mp hrest
        exact ⟨a, middle, .call hreply hfirst, hsecond⟩
      · rintro ⟨a, middle, hcall, hsecond⟩
        obtain ⟨reply, t, hreply, hfirst⟩ := runsTo_call.mp hcall
        exact ⟨reply, t, hreply, (ih reply).mpr ⟨a, middle, hfirst, hsecond⟩⟩

theorem runsTo_andThen {p : Program I (Except ε α)} {f : α → Program I (Except ε β)}
    {result : Except ε β} :
    (p.andThen f).RunsTo service s result s' ↔
      (∃ a middle, p.RunsTo service s (.ok a) middle ∧ (f a).RunsTo service middle result s') ∨
        ∃ e, result = .error e ∧ p.RunsTo service s (.error e) s' := by
  rw [andThen, runsTo_bind]
  constructor
  · rintro ⟨e | a, middle, hfirst, hsecond⟩
    · obtain ⟨rfl, rfl⟩ := runsTo_done.mp hsecond
      exact .inr ⟨e, rfl, hfirst⟩
    · exact .inl ⟨a, middle, hfirst, hsecond⟩
  · rintro (⟨a, middle, hfirst, hsecond⟩ | ⟨e, rfl, hfirst⟩)
    · exact ⟨.ok a, middle, hfirst, hsecond⟩
    · exact ⟨.error e, s', hfirst, .done⟩

end Rules

def Runs (service : Service I σ) (p : Program I α) (s : σ) : Prop :=
  ∃ a s', p.RunsTo service s a s'

section Progress

variable {s : σ}

theorem runs_done (a : α) : (done a).Runs service s :=
  ⟨a, s, .done⟩

theorem Runs.bind {p : Program I α} {f : α → Program I β} (h : p.Runs service s)
    (hf : ∀ {a s'}, p.RunsTo service s a s' → (f a).Runs service s') :
    (p.bind f).Runs service s := by
  obtain ⟨a, middle, hfirst⟩ := h
  obtain ⟨b, s', hsecond⟩ := hf hfirst
  exact ⟨b, s', runsTo_bind.mpr ⟨a, middle, hfirst, hsecond⟩⟩

theorem Runs.andThen {p : Program I (Except ε α)} {f : α → Program I (Except ε β)}
    (h : p.Runs service s)
    (hf : ∀ {a s'}, p.RunsTo service s (.ok a) s' → (f a).Runs service s') :
    (p.andThen f).Runs service s := by
  refine h.bind fun {result s'} hresult => ?_
  cases result with
  | error e => exact runs_done _
  | ok a => exact hf hresult

end Progress

end Program

/-- A service of which every call is a program over another one. -/
def Service.through {I J : Interface} {σ : Type} (translate : (c : I.Call) → Program J (I.Reply c))
    (service : Service J σ) : Service I σ :=
  fun c s reply s' => (translate c).RunsTo service s reply s'

theorem Program.runsTo_over {I J : Interface} {σ α : Type} {service : Service J σ}
    {translate : (c : I.Call) → Program J (I.Reply c)} {p : Program I α} {s s' : σ} {a : α} :
    (p.over translate).RunsTo service s a s' ↔ p.RunsTo (service.through translate) s a s' := by
  induction p generalizing s with
  | done a => rw [«over», runsTo_done, runsTo_done]
  | count m next ih => simp only [«over», runsTo_count, ih]
  | call c next ih =>
      rw [«over», runsTo_bind, runsTo_call]
      simp only [ih]
      rfl

end ClusterOperator
