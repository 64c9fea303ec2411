import Mathlib.Data.List.Induction
import ClusterOperator.Proofs.Interleaving
import ClusterOperator.Proofs.Store.Attempts
import ClusterOperator.Proofs.Store.Sequential

namespace ClusterOperator.Store

open Repository

/-- An operation with the settings of the store that carries it out. -/
structure Task where
  settings : StoreSettings
  operation : Operation

namespace Task

abbrev Result (t : Task) : Type :=
  t.operation.Result

def job (t : Task) : Job t.Result :=
  t.operation.job t.settings

def retries (t : Task) : Failure → Bool :=
  t.operation.retries

def plan (t : Task) : Option Configuration → Plan t.Result :=
  t.operation.plan t.settings

end Task

/-- Tasks that take turns on one repository, given the memory that they find. The schedule says which
makes the next call, so it is an interleaving of their calls; tasks that one client carries out one
after another are tasks whose calls do not overlap. -/
def interleave {ι : Type} [DecidableEq ι] (first : Memory) (tasks : ι → Task) (schedule : List ι) :
    Pool interface Memory fun i => Except Failure (tasks i).Result :=
  (Pool.start (fun i => (tasks i).job) first).run Memory.answer schedule

variable {α : Type}

/-- How far a change has got. -/
inductive Phase (α : Type) where
  /-- It fetches next, and may be tried again so often. -/
  | fetching (left : Nat)
  | writing (left : Nat) (seen : Option Configuration) (config : Configuration) (value : α)
  | finished (result : Except Failure α)

def Phase.rest (again : Failure → Bool) (plan : Option Configuration → Plan α) : Phase α → Job α
  | fetching left => change again plan left
  | writing left seen config value =>
      (put seen config).bind (afterWrite again plan left value)
  | finished result => .done result

def Phase.result? : Phase α → Option (Except Failure α)
  | fetching _ => none
  | writing _ _ _ _ => none
  | finished result => some result

theorem Phase.awaiting_rest (again : Failure → Bool) (plan : Option Configuration → Plan α)
    (phase : Phase α) : (phase.rest again plan).awaiting = phase.rest again plan := by
  cases phase with
  | fetching left =>
      simp only [rest, change_eq]
      rfl
  | writing left seen config value => cases seen <;> rfl
  | finished result => rfl

theorem Phase.result?_rest (again : Failure → Bool) (plan : Option Configuration → Plan α)
    (phase : Phase α) : (phase.rest again plan).result? = phase.result? := by
  cases phase with
  | fetching left =>
      simp only [rest, change_eq]
      rfl
  | writing left seen config value => cases seen <;> rfl
  | finished result => rfl

theorem Phase.eq_finished_of_result? {phase : Phase α} {result : Except Failure α}
    (h : phase.result? = some result) : phase = .finished result := by
  cases phase <;> cases h
  rfl

/-- What the next call of a change does. -/
inductive Step (again : Failure → Bool) (plan : Option Configuration → Plan α) (m : Memory) :
    Phase α → Exchange interface → Phase α → Memory → Prop
  | answered {left : Nat} {result : Except Failure α} (hplan : plan m.stored = .answer result) :
      Step again plan m (.fetching left) ⟨.fetch, .ok m.stored⟩ (.finished result) m
  | seen {left : Nat} {config : Configuration} {value : α}
      (hplan : plan m.stored = .write config value) :
      Step again plan m (.fetching left) ⟨.fetch, .ok m.stored⟩
        (.writing left m.stored config value) m
  | accepted {left : Nat} {seen : Option Configuration} {config : Configuration} {value : α}
      (hwrite : write m seen config = m.store config) :
      Step again plan m (.writing left seen config value)
        (writeExchange seen config (m.store config).1) (.finished (.ok value)) (m.store config).2
  | retried {left : Nat} {seen : Option Configuration} {config : Configuration} {value : α}
      {failure : Failure} (hwrite : write m seen config = (.error failure, m))
      (hagain : again failure = true) :
      Step again plan m (.writing (left + 1) seen config value)
        (writeExchange seen config (.error failure)) (.fetching left) m
  | refused {left : Nat} {seen : Option Configuration} {config : Configuration} {value : α}
      {failure : Failure} (hwrite : write m seen config = (.error failure, m))
      (hfinal : again failure = true → left = 0) :
      Step again plan m (.writing left seen config value)
        (writeExchange seen config (.error failure)) (.finished (.error failure)) m

theorem write_cases (m : Memory) (seen : Option Configuration) (config : Configuration) :
    write m seen config = m.store config ∨
      ∃ failure, write m seen config = (.error failure, m) := by
  cases seen with
  | none =>
      simp only [write, Memory.create]
      cases m.stored with
      | none => exact .inl rfl
      | some stored => exact .inr ⟨_, rfl⟩
  | some seen =>
      simp only [write, Memory.replace]
      cases m.stored with
      | none => exact .inr ⟨_, rfl⟩
      | some stored =>
          simp only
          split
          · exact .inr ⟨_, rfl⟩
          · exact .inl rfl

section Steps

variable {again : Failure → Bool} {plan : Option Configuration → Plan α} {m m' : Memory}
  {phase next : Phase α} {e : Exchange interface}

theorem Step.ne_finished (h : Step again plan m phase e next m') (result : Except Failure α) :
    phase ≠ .finished result := by
  rintro rfl
  cases h

theorem Step.memory_cases (h : Step again plan m phase e next m') :
    (m' = m ∧ isAcceptedWrite e = false) ∨
      ∃ config, m' = (m.store config).2 ∧ isAcceptedWrite e = true := by
  cases h with
  | answered hplan => exact .inl ⟨rfl, rfl⟩
  | seen hplan => exact .inl ⟨rfl, rfl⟩
  | accepted hwrite => exact .inr ⟨_, rfl, isAcceptedWrite_writeExchange _ _ _⟩
  | retried hwrite hagain => exact .inl ⟨rfl, isAcceptedWrite_writeExchange _ _ _⟩
  | refused hwrite hfinal => exact .inl ⟨rfl, isAcceptedWrite_writeExchange _ _ _⟩

theorem Step.finished_of_accepted (h : Step again plan m phase e next m')
    (he : isAcceptedWrite e = true) : ∃ value, next = .finished (.ok value) := by
  cases h with
  | answered hplan => cases he
  | seen hplan => cases he
  | accepted hwrite => exact ⟨_, rfl⟩
  | retried hwrite hagain =>
      rw [isAcceptedWrite_writeExchange] at he
      cases he
  | refused hwrite hfinal =>
      rw [isAcceptedWrite_writeExchange] at he
      cases he

end Steps

theorem Task.metadata_of_plan (t : Task) {seen : Option Configuration} {config : Configuration}
    {value : t.Result} (hplan : t.plan seen = .write config value) :
    config.metadata = (seen.getD t.settings.fresh).metadata :=
  (Effect.eq_write_of_plan hplan).2

theorem Task.write_of_plan (t : Task) {m : Memory} {config : Configuration} {value : t.Result}
    (hplan : t.plan m.stored = .write config value) : write m m.stored config = m.store config := by
  apply write_stored
  intro stored hstored
  rw [t.metadata_of_plan hplan, Option.mem_def.mp hstored]
  rfl

section Turns

variable {ι : Type} [DecidableEq ι] {tasks : ι → Task}
  {p : Pool interface Memory fun i => Except Failure (tasks i).Result} {i : ι}

theorem turn_of_put {seen : Option Configuration} {config : Configuration}
    {next : Except Failure Configuration → Job (tasks i).Result}
    (hrest : p.rest i = (put seen config).bind next) :
    p.turn Memory.answer i =
      ⟨(write p.state seen config).2,
        Function.update p.rest i (next (write p.state seen config).1).awaiting,
        p.log ++ [(i, writeExchange seen config (write p.state seen config).1)]⟩ := by
  cases seen with
  | none => exact Pool.turn_of_call hrest
  | some seen => exact Pool.turn_of_call hrest

theorem turn_cases (phase : Phase (tasks i).Result)
    (hrest : p.rest i = phase.rest (tasks i).retries (tasks i).plan) :
    p.turn Memory.answer i = p ∨
      ∃ e next m, Step (tasks i).retries (tasks i).plan p.state phase e next m ∧
        p.turn Memory.answer i =
          ⟨m, Function.update p.rest i (next.rest (tasks i).retries (tasks i).plan),
            p.log ++ [(i, e)]⟩ := by
  cases phase with
  | finished result => exact .inl (Pool.turn_of_done hrest)
  | fetching left =>
      right
      rw [Phase.rest, change_eq] at hrest
      rw [Pool.turn_of_call hrest]
      cases hplan : (tasks i).plan p.state.stored with
      | answer result =>
          refine ⟨_, .finished result, _, .answered hplan, ?_⟩
          simp only [Memory.answer, afterFetch, hplan]
          rfl
      | write config value =>
          refine ⟨_, .writing left p.state.stored config value, _, .seen hplan, ?_⟩
          rw [← Phase.awaiting_rest]
          simp only [Memory.answer, afterFetch, hplan]
          rfl
  | writing left seen config value =>
      right
      rw [turn_of_put hrest]
      rcases write_cases p.state seen config with hwrite | ⟨failure, hwrite⟩
      · refine ⟨_, .finished (.ok value), _, .accepted hwrite, ?_⟩
        rw [hwrite]
        rfl
      · rcases afterWrite_error (tasks i).retries (tasks i).plan left value failure with
          ⟨hagain, fewer, rfl, hnext⟩ | ⟨hfinal, hnext⟩
        · refine ⟨_, .fetching fewer, _, .retried hwrite hagain, ?_⟩
          rw [← Phase.awaiting_rest, hwrite, hnext]
          rfl
        · refine ⟨_, .finished (.error failure), _, .refused hwrite hfinal, ?_⟩
          rw [hwrite, hnext]
          rfl

end Turns

/-- What a schedule of tasks may lead to: the memory, how far each task has got, and the calls. -/
inductive Reaches {ι : Type} [DecidableEq ι] (first : Memory) (tasks : ι → Task) :
    Memory → ((i : ι) → Phase (tasks i).Result) → List (ι × Exchange interface) → Prop
  | start :
      Reaches first tasks first (fun i => .fetching ((tasks i).settings.attempts - 1)) []
  | step {m m' : Memory} {phase : (i : ι) → Phase (tasks i).Result}
      {log : List (ι × Exchange interface)} {i : ι} {e : Exchange interface}
      {next : Phase (tasks i).Result} (hreaches : Reaches first tasks m phase log)
      (hstep : Step (tasks i).retries (tasks i).plan m (phase i) e next m') :
      Reaches first tasks m' (Function.update phase i next) (log ++ [(i, e)])

section Reaching

variable {ι : Type} [DecidableEq ι] {first : Memory} {tasks : ι → Task} {m : Memory}
  {phase : (i : ι) → Phase (tasks i).Result} {log : List (ι × Exchange interface)}

theorem Reaches.finished_of_accepted (h : Reaches first tasks m phase log) {i : ι} {a : Nat}
    (ha : CallAt log a i isAcceptedWrite) : ∃ value, phase i = .finished (.ok value) := by
  induction h with
  | start =>
      obtain ⟨e, he, -⟩ := ha
      cases he
  | @step m m' phase log j e next hreaches hstep ih =>
      rcases callAt_append_iff.mp ha with hold | ⟨-, rfl, he⟩
      · obtain ⟨value, hvalue⟩ := ih hold
        have hij : i ≠ j := by
          rintro rfl
          exact hstep.ne_finished _ hvalue
        exact ⟨value, by rw [Function.update_of_ne hij, hvalue]⟩
      · rw [Function.update_self]
        exact hstep.finished_of_accepted he

/-- What holds of an object when it is fetched, and keeps to hold when others take their turns, holds
until it is written. -/
theorem Reaches.writing_induction
    (holds : Memory → List (ι × Exchange interface) → ι → Option Configuration → Prop)
    (hfetch : ∀ (m : Memory) (phase : (i : ι) → Phase (tasks i).Result)
      (log : List (ι × Exchange interface)) (i : ι), Reaches first tasks m phase log →
        holds m (log ++ [(i, ⟨.fetch, .ok m.stored⟩)]) i m.stored)
    (hother : ∀ (m m' : Memory) (phase : (i : ι) → Phase (tasks i).Result)
      (log : List (ι × Exchange interface)) (i j : ι) (e : Exchange interface)
      (next : Phase (tasks j).Result) (seen : Option Configuration), Reaches first tasks m phase log →
        Step (tasks j).retries (tasks j).plan m (phase j) e next m' → j ≠ i →
          holds m log i seen → holds m' (log ++ [(j, e)]) i seen)
    (h : Reaches first tasks m phase log) {i : ι} {left : Nat} {seen : Option Configuration}
    {config : Configuration} {value : (tasks i).Result}
    (hphase : phase i = .writing left seen config value) : holds m log i seen := by
  induction h with
  | start => cases hphase
  | @step m m' phase log j e next hreaches hstep ih =>
      by_cases hij : i = j
      · subst hij
        rw [Function.update_self] at hphase
        subst hphase
        generalize phase i = current at hstep
        cases hstep with
        | seen hplan => exact hfetch _ _ _ _ hreaches
      · rw [Function.update_of_ne hij] at hphase
        exact hother _ _ _ _ _ _ _ _ _ hreaches hstep (Ne.symm hij) (ih hphase)

theorem Reaches.planned (h : Reaches first tasks m phase log) {i : ι} {left : Nat}
    {seen : Option Configuration} {config : Configuration} {value : (tasks i).Result}
    (hphase : phase i = .writing left seen config value) :
    (tasks i).plan seen = .write config value := by
  induction h with
  | start => cases hphase
  | @step m m' phase log j e next hreaches hstep ih =>
      by_cases hij : i = j
      · subst hij
        rw [Function.update_self] at hphase
        subst hphase
        generalize phase i = current at hstep
        cases hstep with
        | seen hplan => exact hplan
      · rw [Function.update_of_ne hij] at hphase
        exact ih hphase

end Reaching

theorem exists_reaches {ι : Type} [DecidableEq ι] (first : Memory) (tasks : ι → Task)
    (schedule : List ι) :
    ∃ phase : (i : ι) → Phase (tasks i).Result,
      Reaches first tasks (interleave first tasks schedule).state phase
          (interleave first tasks schedule).log ∧
        ∀ i, (interleave first tasks schedule).rest i =
          (phase i).rest (tasks i).retries (tasks i).plan := by
  induction schedule using List.reverseRecOn with
  | nil =>
      refine ⟨_, .start, fun i => ?_⟩
      have hjob := (tasks i).operation.job_eq_change (tasks i).settings
      rw [← Phase.awaiting_rest]
      exact congrArg Program.awaiting hjob
  | append_singleton schedule i ih =>
      obtain ⟨phase, hreaches, hrest⟩ := ih
      have hturn : interleave first tasks (schedule ++ [i]) =
          (interleave first tasks schedule).turn Memory.answer i := by
        simp only [interleave, Pool.run, List.foldl_append, List.foldl_cons, List.foldl_nil]
      rw [hturn]
      rcases turn_cases (phase i) (hrest i) with hsame | ⟨e, next, m, hstep, hnext⟩
      · rw [hsame]
        exact ⟨phase, hreaches, hrest⟩
      · rw [hnext]
        refine ⟨Function.update phase i next, .step hreaches hstep, fun j => ?_⟩
        by_cases hj : j = i
        · subst hj
          simp only [Function.update_self]
        · simp only [Function.update_of_ne hj]
          exact hrest j

end ClusterOperator.Store
