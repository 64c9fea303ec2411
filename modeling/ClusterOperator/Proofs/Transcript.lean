import ClusterOperator.Proofs.Interleaving

namespace ClusterOperator

namespace Program

variable {I : Interface} {σ α β ε : Type}

/-- A program may make these calls, get these answers and end with this result. -/
inductive Transcript : Program I α → List (Exchange I) → α → Prop
  | done {a : α} : Transcript (done a) [] a
  | count {m : Metric} {next : Program I α} {log : List (Exchange I)} {a : α}
      (h : Transcript next log a) : Transcript (count m next) log a
  | call {c : I.Call} {next : I.Reply c → Program I α} {reply : I.Reply c}
      {log : List (Exchange I)} {a : α} (h : Transcript (next reply) log a) :
      Transcript (call c next) (⟨c, reply⟩ :: log) a

variable {log : List (Exchange I)} {a : α}

theorem transcript_done {result : α} :
    (done result).Transcript log a ↔ log = [] ∧ a = result := by
  constructor
  · rintro ⟨⟩
    exact ⟨rfl, rfl⟩
  · rintro ⟨rfl, rfl⟩
    exact .done

theorem transcript_count {m : Metric} {next : Program I α} :
    (count m next).Transcript log a ↔ next.Transcript log a := by
  constructor
  · rintro (_ | h)
    exact h
  · exact .count

theorem transcript_call {c : I.Call} {next : I.Reply c → Program I α} :
    (call c next).Transcript log a ↔
      ∃ reply rest, log = ⟨c, reply⟩ :: rest ∧ (next reply).Transcript rest a := by
  constructor
  · rintro (_ | _ | h)
    exact ⟨_, _, rfl, h⟩
  · rintro ⟨reply, rest, rfl, h⟩
    exact .call h

theorem transcript_call_done {c : I.Call} {reply : I.Reply c} :
    (call c done).Transcript log reply ↔ log = [⟨c, reply⟩] := by
  rw [transcript_call]
  constructor
  · rintro ⟨_, _, rfl, ⟨⟩⟩
    rfl
  · rintro rfl
    exact ⟨reply, [], rfl, .done⟩

theorem transcript_bind {p : Program I α} {f : α → Program I β} {b : β} :
    (p.bind f).Transcript log b ↔
      ∃ a first rest, log = first ++ rest ∧ p.Transcript first a ∧ (f a).Transcript rest b := by
  induction p generalizing log with
  | done a =>
      constructor
      · intro h
        exact ⟨a, [], log, rfl, .done, h⟩
      · rintro ⟨_, _, rest, rfl, ⟨⟩, h⟩
        exact h
  | count m next ih => simp only [bind, transcript_count, ih]
  | call c next ih =>
      rw [bind, transcript_call]
      constructor
      · rintro ⟨reply, _, rfl, h⟩
        obtain ⟨a, first, rest, rfl, hfirst, hrest⟩ := (ih reply).mp h
        exact ⟨a, ⟨c, reply⟩ :: first, rest, rfl, .call hfirst, hrest⟩
      · rintro ⟨a, _, rest, rfl, hcall, hrest⟩
        obtain ⟨reply, first, rfl, hfirst⟩ := transcript_call.mp hcall
        exact ⟨reply, first ++ rest, rfl, (ih reply).mpr ⟨a, first, rest, rfl, hfirst, hrest⟩⟩

theorem transcript_andThen {p : Program I (Except ε α)} {f : α → Program I (Except ε β)}
    {result : Except ε β} :
    (p.andThen f).Transcript log result ↔
      (∃ a first rest, log = first ++ rest ∧ p.Transcript first (.ok a) ∧
        (f a).Transcript rest result) ∨
      ∃ e, result = .error e ∧ p.Transcript log (.error e) := by
  rw [andThen, transcript_bind]
  constructor
  · rintro ⟨e | a, first, rest, rfl, hfirst, hrest⟩
    · obtain ⟨rfl, rfl⟩ := transcript_done.mp hrest
      exact .inr ⟨e, rfl, by rwa [List.append_nil]⟩
    · exact .inl ⟨a, first, rest, rfl, hfirst, hrest⟩
  · rintro (⟨a, first, rest, rfl, hfirst, hrest⟩ | ⟨e, rfl, h⟩)
    · exact ⟨.ok a, first, rest, rfl, hfirst, hrest⟩
    · exact ⟨.error e, log, [], (List.append_nil log).symm, h, .done⟩

theorem transcript_run (handler : Handler I σ) (p : Program I α) (s : σ) :
    p.Transcript (p.exchanges handler s) (p.run handler s).result := by
  induction p generalizing s with
  | done a => exact .done
  | count m next ih => exact .count (ih s)
  | call c next ih => exact .call (ih _ _)

end Program

end ClusterOperator
