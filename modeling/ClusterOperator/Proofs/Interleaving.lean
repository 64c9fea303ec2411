import Mathlib.Logic.Function.Basic
import ClusterOperator.Program

/-!
Programs that take turns with one service. Each turn is one call, so a schedule, which says whose turn
it is, is an interleaving of the calls of all programs.
-/

namespace ClusterOperator

structure Exchange (I : Interface) where
  call : I.Call
  reply : I.Reply call

namespace Program

variable {I : Interface} {σ α β : Type}

/-- The calls of a run and their answers, in order. -/
def exchanges (handler : Handler I σ) : Program I α → σ → List (Exchange I)
  | done _, _ => []
  | count _ next, s => next.exchanges handler s
  | call c next, s =>
      ⟨c, (handler c s).1⟩ :: (next (handler c s).1).exchanges handler (handler c s).2

/-- A program without the events that it counts before its next call. -/
def awaiting : Program I α → Program I α
  | done a => done a
  | count _ next => next.awaiting
  | call c next => call c next

/-- The result of a program that makes no more calls. -/
def result? : Program I α → Option α
  | done a => some a
  | count _ next => next.result?
  | call _ _ => none

theorem run_of_result? {p : Program I α} {a : α} (h : p.result? = some a) (handler : Handler I σ)
    (s : σ) : (p.run handler s).result = a ∧ (p.run handler s).state = s := by
  induction p generalizing s with
  | done result =>
      cases h
      exact ⟨rfl, rfl⟩
  | count metric next ih => exact ih h s
  | call c next ih => cases h

end Program

/-- Programs that take turns with one service. -/
structure Pool (I : Interface) (σ : Type) {ι : Type} (α : ι → Type) where
  state : σ
  /-- What is left of each program. -/
  rest : (i : ι) → Program I (α i)
  /-- All calls so far, each with the program that made it. -/
  log : List (ι × Exchange I)

namespace Pool

variable {I : Interface} {σ ι : Type} {α : ι → Type}

/-- The programs before their first calls. -/
def start (programs : (i : ι) → Program I (α i)) (s : σ) : Pool I σ α :=
  ⟨s, fun i => (programs i).awaiting, []⟩

variable [DecidableEq ι]

/-- The next call of one program; one that is done makes none. -/
def turn (handler : Handler I σ) (p : Pool I σ α) (i : ι) : Pool I σ α :=
  match p.rest i with
  | .call c next =>
      ⟨(handler c p.state).2, Function.update p.rest i (next (handler c p.state).1).awaiting,
        p.log ++ [(i, ⟨c, (handler c p.state).1⟩)]⟩
  | _ => p

theorem turn_of_call {handler : Handler I σ} {p : Pool I σ α} {i : ι} {c : I.Call}
    {next : I.Reply c → Program I (α i)} (hrest : p.rest i = .call c next) :
    p.turn handler i =
      ⟨(handler c p.state).2, Function.update p.rest i (next (handler c p.state).1).awaiting,
        p.log ++ [(i, ⟨c, (handler c p.state).1⟩)]⟩ := by
  simp only [turn, hrest]

theorem turn_of_done {handler : Handler I σ} {p : Pool I σ α} {i : ι} {result : α i}
    (hrest : p.rest i = .done result) : p.turn handler i = p := by
  simp only [turn, hrest]

def run (handler : Handler I σ) (p : Pool I σ α) (schedule : List ι) : Pool I σ α :=
  schedule.foldl (turn handler) p

end Pool

/-- The call of a number in a log is one of a certain sort, made by a certain operation. -/
def CallAt {I : Interface} {ι : Type} (log : List (ι × Exchange I)) (t : Nat) (i : ι)
    (sort : Exchange I → Bool) : Prop :=
  ∃ e, log[t]? = some (i, e) ∧ sort e = true

section Calls

variable {I : Interface} {ι : Type} {log : List (ι × Exchange I)} {i j : ι} {t : Nat} {e : Exchange I}
  {sort : Exchange I → Bool}

theorem CallAt.any (h : CallAt log t i sort) : CallAt log t i fun _ => true := by
  obtain ⟨e, he, -⟩ := h
  exact ⟨e, he, rfl⟩

theorem CallAt.lt_length (h : CallAt log t i sort) : t < log.length := by
  obtain ⟨e, he, -⟩ := h
  exact (List.getElem?_eq_some_iff.mp he).1

theorem callAt_append_iff :
    CallAt (log ++ [(j, e)]) t i sort ↔
      CallAt log t i sort ∨ t = log.length ∧ j = i ∧ sort e = true := by
  rcases Nat.lt_trichotomy t log.length with hlt | heq | hgt
  · simp only [CallAt, List.getElem?_append_left hlt]
    constructor
    · exact Or.inl
    · rintro (h | ⟨heq, -⟩)
      · exact h
      · omega
  · subst heq
    simp only [CallAt, List.getElem?_concat_length, Option.some.injEq, Prod.mk.injEq]
    constructor
    · rintro ⟨e', ⟨rfl, rfl⟩, hsort⟩
      exact .inr ⟨trivial, rfl, hsort⟩
    · rintro (⟨e', he', -⟩ | ⟨-, rfl, hsort⟩)
      · rw [List.getElem?_eq_none (Nat.le_refl _)] at he'
        cases he'
      · exact ⟨e, ⟨rfl, rfl⟩, hsort⟩
  · have hnone : (log ++ [(j, e)])[t]? = none := by
      apply List.getElem?_eq_none
      simp only [List.length_append, List.length_singleton]
      omega
    constructor
    · rintro ⟨e', he', -⟩
      rw [hnone] at he'
      cases he'
    · rintro (h | ⟨heq, -⟩)
      · have := h.lt_length
        omega
      · omega

theorem CallAt.append (h : CallAt log t i sort) : CallAt (log ++ [(j, e)]) t i sort :=
  callAt_append_iff.mpr (.inl h)

theorem not_callAt_append (hj : j ≠ i) (h : ¬CallAt log t i sort) :
    ¬CallAt (log ++ [(j, e)]) t i sort := by
  rw [callAt_append_iff]
  rintro (hold | ⟨-, heq, -⟩)
  · exact h hold
  · exact hj heq

end Calls

end ClusterOperator
