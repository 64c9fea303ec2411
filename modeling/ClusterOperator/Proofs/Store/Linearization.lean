import Mathlib.Data.Fin.VecNotation
import Mathlib.Data.List.Nodup
import ClusterOperator.Proofs.Number.Digits
import ClusterOperator.Proofs.Store.Contention

/-!
Operations that take turns on one repository in memory give what they give one after another.

Each operation takes its place at its last call. What it saw before is then still what is stored: its
write would have been refused had another one come between, since no two writes leave the same version.
-/

namespace ClusterOperator.Store

open Repository

structure Answered where
  operation : Operation
  result : Except Failure operation.Result

/-- Whether an operation does not fail because its writes were overtaken. -/
def Answered.stands (a : Answered) : Bool :=
  match a.result with
  | .ok _ => true
  | .error failure => !isOvertaken failure

/-- Operations one after another on one repository: their results, and the memory that they leave. -/
def replay (s : StoreSettings) : List Operation → Memory → List Answered × Memory
  | [], m => ([], m)
  | o :: rest, m =>
      let outcome := (o.job s).run Memory.answer m
      let later := replay s rest outcome.state
      (⟨o, outcome.result⟩ :: later.1, later.2)

theorem replay_append_singleton (s : StoreSettings) (os : List Operation) (o : Operation)
    (m : Memory) :
    replay s (os ++ [o]) m =
      let earlier := replay s os m
      let outcome := (o.job s).run Memory.answer earlier.2
      (earlier.1 ++ [⟨o, outcome.result⟩], outcome.state) := by
  induction os generalizing m with
  | nil => rfl
  | cons o' rest ih =>
      simp only [List.cons_append, replay]
      rw [ih]

/-- Results that operations give one after another, and the collections that they leave. -/
inductive Consecutive : List Answered → Option Collections → Prop
  | nil : Consecutive [] none
  | append {answers : List Answered} {found : Option Collections} (h : Consecutive answers found)
      (o : Operation) :
      Consecutive (answers ++ [⟨o, (o.perform found).1⟩]) (o.perform found).2

theorem Consecutive.replay_eq {answers : List Answered} {found : Option Collections}
    (h : Consecutive answers found) (s : StoreSettings) :
    (replay s (answers.map Answered.operation) Memory.empty).1 = answers ∧
      (replay s (answers.map Answered.operation) Memory.empty).2.collections? = found := by
  induction h with
  | nil => exact ⟨rfl, rfl⟩
  | @append answers found h o ih =>
      obtain ⟨hanswers, hfound⟩ := ih
      rw [List.map_append, List.map_singleton, replay_append_singleton]
      obtain ⟨hresult, hstate⟩ := run_job_perform s o
        (replay s (answers.map Answered.operation) Memory.empty).2
      rw [hfound] at hresult hstate
      exact ⟨by simp only [hanswers, hresult], hstate⟩

section Versions

variable {ι : Type} {m m' : Memory} {log : List (ι × Exchange interface)}

/-- The memory has counted the accepted writes, and the last one has left its number as the version. -/
structure Versioned (m : Memory) (log : List (ι × Exchange interface)) : Prop where
  writes : m.writes.toNat = log.countP fun c => isAcceptedWrite c.2
  version : ∀ config, m.stored = some config →
    config.metadata.resourceVersion = some (toString m.writes.toNat)

/-- What was seen is missing, or it is what some write has stored, and it is still stored if that write
was the last one. -/
def Known (m : Memory) : Option Configuration → Prop
  | none => True
  | some config => m.stored ≠ none ∧ ∃ number ≤ m.writes.toNat,
      config.metadata.resourceVersion = some (toString number) ∧
        (number = m.writes.toNat → m.stored = some config)

theorem Versioned.known (h : Versioned m log) : Known m m.stored := by
  cases hstored : m.stored with
  | none => trivial
  | some config =>
      exact ⟨by rw [hstored]; nofun, m.writes.toNat, Nat.le_refl _, h.version config hstored,
        fun _ => hstored⟩

theorem toNat_writes_store (config : Configuration) (h : m.writes.toNat + 1 < 2 ^ 64) :
    (m.store config).2.writes.toNat = m.writes.toNat + 1 := by
  rw [Memory.writes_store, UInt64.toNat_add]
  exact Nat.mod_eq_of_lt h

theorem Known.store {seen : Option Configuration} (hknown : Known m seen) (config : Configuration)
    (h : m.writes.toNat + 1 < 2 ^ 64) : Known (m.store config).2 seen := by
  cases seen with
  | none => trivial
  | some found =>
      obtain ⟨-, number, hle, hversion, -⟩ := hknown
      have hwrites := toNat_writes_store config h
      refine ⟨nofun, number, by omega, hversion, fun heq => ?_⟩
      omega

theorem Known.stored_eq {seen : Option Configuration} {config : Configuration}
    (hknown : Known m seen) (hversioned : Versioned m log)
    (hmetadata : ∀ found, seen = some found → config.metadata = found.metadata)
    (hwrite : write m seen config = m.store config) : m.stored = seen := by
  rcases stored_of_write_accepted hwrite with
    ⟨rfl, hstored⟩ | ⟨found, stored, rfl, hstored, hsame⟩
  · exact hstored
  · obtain ⟨-, number, -, hversion, hlast⟩ := hknown
    -- Both versions are texts of numbers of writes, so the last write stored what was seen.
    rw [hversioned.version stored hstored, hmetadata found rfl, hversion] at hsame
    exact hlast (Digits.toString_injective (Option.some.inj hsame)).symm

/-- The write of a known object is refused only because it was overtaken. -/
theorem Known.isOvertaken {seen : Option Configuration} {config : Configuration} {failure : Failure}
    (hknown : Known m seen) (hwrite : write m seen config = (.error failure, m)) :
    isOvertaken failure = true := by
  rcases failure_of_write_refused hwrite with
    ⟨-, kind, name, rfl⟩ | ⟨hstored, -⟩ | ⟨-, kind, name, message, rfl⟩
  · rfl
  · cases seen with
    | none =>
        simp only [write, Memory.create, hstored] at hwrite
        cases hwrite
    | some found => exact absurd hstored hknown.1
  · rfl

end Versions

section Orders

variable {ι : Type}

/-- An order of the operations that have finished, in which each takes its place at one of its own
calls, hence between its first and its last one. -/
structure IsOrder (log : List (ι × Exchange interface)) (finished : ι → Prop)
    (order : List (Nat × ι)) : Prop where
  during : ∀ c ∈ order, CallAt log c.1 c.2 fun _ => true
  increasing : order.Pairwise fun c d => c.1 < d.1
  once : (order.map Prod.snd).Nodup
  complete : ∀ i, i ∈ order.map Prod.snd ↔ finished i

variable {log : List (ι × Exchange interface)} {finished finished' : ι → Prop}
  {order : List (Nat × ι)} {i : ι} {e : Exchange interface}

theorem IsOrder.append (h : IsOrder log finished order) (hsame : ∀ j, finished' j ↔ finished j) :
    IsOrder (log ++ [(i, e)]) finished' order where
  during := fun c hc => (h.during c hc).append
  increasing := h.increasing
  once := h.once
  complete := fun j => (h.complete j).trans (hsame j).symm

theorem IsOrder.append_finished (h : IsOrder log finished order) (hnot : ¬finished i)
    (hmore : ∀ j, finished' j ↔ finished j ∨ j = i) :
    IsOrder (log ++ [(i, e)]) finished' (order ++ [(log.length, i)]) where
  during := by
    intro c hc
    rcases List.mem_append.mp hc with hc | hc
    · exact (h.during c hc).append
    · rw [List.mem_singleton.mp hc]
      exact callAt_append_iff.mpr (.inr ⟨rfl, rfl, rfl⟩)
  increasing := by
    rw [List.pairwise_append]
    refine ⟨h.increasing, List.pairwise_singleton _ _, ?_⟩
    intro c hc d hd
    rw [List.mem_singleton.mp hd]
    exact (h.during c hc).lt_length
  once := by
    rw [List.map_append, List.nodup_append]
    refine ⟨h.once, List.nodup_singleton _, ?_⟩
    intro j hj k hk heq
    rw [List.map_singleton, List.mem_singleton] at hk
    rw [heq, hk] at hj
    exact hnot ((h.complete i).mp hj)
  complete := by
    intro j
    rw [List.map_append, List.mem_append, h.complete j, List.map_singleton, List.mem_singleton,
      hmore j]

/-- What operations have given, in a certain order. -/
def answersIn (tasks : ι → Task) (result? : (i : ι) → Option (Except Failure (tasks i).Result))
    (order : List (Nat × ι)) : List Answered :=
  order.filterMap fun c => (result? c.2).map (Answered.mk (tasks c.2).operation)

/-- The results that stand, in a certain order of the operations. -/
def standing (tasks : ι → Task) (result? : (i : ι) → Option (Except Failure (tasks i).Result))
    (order : List (Nat × ι)) : List Answered :=
  (answersIn tasks result? order).filter Answered.stands

theorem standing_congr {tasks : ι → Task}
    {result? result?' : (i : ι) → Option (Except Failure (tasks i).Result)}
    (h : ∀ c ∈ order, result? c.2 = result?' c.2) :
    standing tasks result? order = standing tasks result?' order := by
  simp only [standing, answersIn]
  congr 1
  apply List.filterMap_congr
  intro c hc
  rw [h c hc]

theorem standing_append_singleton {tasks : ι → Task}
    {result? : (i : ι) → Option (Except Failure (tasks i).Result)} {t : Nat}
    {result : Except Failure (tasks i).Result} (h : result? i = some result) :
    standing tasks result? (order ++ [(t, i)]) =
      standing tasks result? order ++
        [Answered.mk (tasks i).operation result].filter Answered.stands := by
  rw [standing, answersIn, List.filterMap_append, List.filter_append]
  congr 2
  rw [List.filterMap_cons, h]
  rfl

end Orders

section Steps

variable {ι : Type} {m m' : Memory} {log : List (ι × Exchange interface)} {e : Exchange interface}
  {i : ι} {t : Task} {phase next : Phase t.Result}

theorem Versioned.step {α : Type} {again : Failure → Bool} {plan : Option Configuration → Plan α}
    {phase next : Phase α} (h : Versioned m log) (hstep : Step again plan m phase e next m')
    (hwrites : (log ++ [(i, e)]).countP (fun c => isAcceptedWrite c.2) < 2 ^ 64) :
    Versioned m' (log ++ [(i, e)]) := by
  have hcount : (log ++ [(i, e)]).countP (fun c => isAcceptedWrite c.2) =
      m.writes.toNat + if isAcceptedWrite e then 1 else 0 := by
    rw [List.countP_append, List.countP_singleton, h.writes]
  rw [hcount] at hwrites
  rcases hstep.memory_cases with ⟨rfl, he⟩ | ⟨config, rfl, he⟩
  · rw [he] at hcount
    exact ⟨hcount.symm, h.version⟩
  · rw [he, if_pos rfl] at hcount hwrites
    have hnumber := toNat_writes_store config hwrites
    refine ⟨by rw [hnumber, hcount], ?_⟩
    intro stored hstored
    cases hstored
    rfl

/-- What a call adds to the operations that came one after another: a result that stands once its
operation has finished, and else nothing. -/
theorem Consecutive.step {answers : List Answered} (h : Consecutive answers m.collections?)
    (hstep : Step t.retries t.plan m phase e next m') (hversioned : Versioned m log)
    (hknown : ∀ left seen config value, phase = .writing left seen config value →
      t.plan seen = .write config value ∧ Known m seen) :
    match next.result? with
    | none => m'.collections? = m.collections?
    | some result => Consecutive (answers ++ [⟨t.operation, result⟩].filter Answered.stands)
        m'.collections? := by
  cases hstep with
  | @answered left result hplan =>
      have heffect : t.operation.effect m.collections? = .answer result :=
        Effect.eq_answer_of_plan hplan
      have hperform : t.operation.perform m.collections? = (result, m.collections?) := by
        rw [Operation.perform, heffect]
        rfl
      have hnext := h.append t.operation
      rw [hperform] at hnext
      simp only [Phase.result?, List.filter_cons, List.filter_nil]
      split
      · exact hnext
      · rw [List.append_nil]
        exact h
  | seen hplan => rfl
  | @accepted left seen config value hwrite =>
      obtain ⟨hplan, hseen⟩ := hknown _ _ _ _ rfl
      have hmetadata : ∀ found, seen = some found → config.metadata = found.metadata := by
        rintro found rfl
        exact t.metadata_of_plan hplan
      have hstored := hseen.stored_eq hversioned hmetadata hwrite
      have heffect : t.operation.effect m.collections? = .write config.collections value := by
        rw [Memory.collections?, hstored]
        exact (Effect.eq_write_of_plan hplan).1
      have hnext := h.append t.operation
      rw [Operation.perform, heffect] at hnext
      exact hnext
  | retried hwrite hagain => rfl
  | @refused left seen config value failure hwrite hfinal =>
      obtain ⟨-, hseen⟩ := hknown _ _ _ _ rfl
      have hstands : Answered.stands ⟨t.operation, .error failure⟩ = false := by
        simp only [Answered.stands, hseen.isOvertaken hwrite, Bool.not_true]
      simp only [Phase.result?, List.filter_cons, hstands, List.filter_nil]
      rw [if_neg Bool.false_ne_true, List.append_nil]
      exact h

end Steps

section Reaching

variable {ι : Type} [DecidableEq ι] {tasks : ι → Task} {m : Memory}
  {phase : (i : ι) → Phase (tasks i).Result} {log : List (ι × Exchange interface)}

theorem Reaches.versioned (h : Reaches .empty tasks m phase log)
    (hwrites : log.countP (fun c => isAcceptedWrite c.2) < 2 ^ 64) : Versioned m log := by
  induction h with
  | start =>
      refine ⟨rfl, ?_⟩
      intro config hstored
      cases hstored
  | step hreaches hstep ih =>
      refine (ih ?_).step hstep hwrites
      rw [List.countP_append] at hwrites
      omega

theorem Reaches.known (h : Reaches .empty tasks m phase log)
    (hwrites : log.countP (fun c => isAcceptedWrite c.2) < 2 ^ 64) {i : ι} {left : Nat}
    {seen : Option Configuration} {config : Configuration} {value : (tasks i).Result}
    (hphase : phase i = .writing left seen config value) : Known m seen := by
  refine Reaches.writing_induction (fun m log _ seen =>
    log.countP (fun c => isAcceptedWrite c.2) < 2 ^ 64 → Known m seen) ?_ ?_ h hphase hwrites
  · intro m phase log i hreaches hwrites
    rw [List.countP_append] at hwrites
    exact (hreaches.versioned (by omega)).known
  · intro m m' phase log i j e next seen hreaches hstep _ hknown hwrites
    have hversioned := (Reaches.step hreaches hstep).versioned hwrites
    rw [List.countP_append] at hwrites
    have hbefore := hreaches.versioned (by omega)
    rcases hstep.memory_cases with ⟨rfl, -⟩ | ⟨config, rfl, he⟩
    · exact hknown (by omega)
    · refine (hknown (by omega)).store config ?_
      rw [List.countP_singleton, he, if_pos rfl] at hwrites
      rw [hbefore.writes]
      exact hwrites

theorem Reaches.exists_order (h : Reaches .empty tasks m phase log)
    (hwrites : log.countP (fun c => isAcceptedWrite c.2) < 2 ^ 64) :
    ∃ order, IsOrder log (fun i => (phase i).result?.isSome) order ∧
      Consecutive (standing tasks (fun i => (phase i).result?) order) m.collections? := by
  induction h with
  | start =>
      refine ⟨[], ⟨nofun, .nil, .nil, fun i => ?_⟩, .nil⟩
      exact ⟨nofun, nofun⟩
  | @step m m' phase log i e next hreaches hstep ih =>
      have hbefore : log.countP (fun c => isAcceptedWrite c.2) < 2 ^ 64 := by
        rw [List.countP_append] at hwrites
        omega
      obtain ⟨order, horder, hanswers⟩ := ih hbefore
      have hnot : ¬(phase i).result?.isSome := by
        intro hsome
        obtain ⟨result, hresult⟩ := Option.isSome_iff_exists.mp hsome
        exact hstep.ne_finished result (Phase.eq_finished_of_result? hresult)
      -- The order so far consists of operations that have finished, so it does not have this one.
      have hother : ∀ c ∈ order, c.2 ≠ i := by
        rintro c hc rfl
        exact hnot ((horder.complete c.2).mp (List.mem_map_of_mem hc))
      have hsame : standing tasks (fun j => (Function.update phase i next j).result?) order =
          standing tasks (fun j => (phase j).result?) order := by
        apply standing_congr
        intro c hc
        rw [Function.update_of_ne (hother c hc)]
      have hstanding := hanswers.step hstep (hreaches.versioned hbefore) fun left seen config value
        hphase => ⟨hreaches.planned hphase, hreaches.known hbefore hphase⟩
      cases hnext : next.result? with
      | none =>
          rw [hnext] at hstanding
          refine ⟨order, horder.append fun j => ?_, ?_⟩
          · by_cases hj : j = i
            · subst hj
              rw [Function.update_self, hnext]
              exact ⟨nofun, fun hsome => absurd hsome hnot⟩
            · rw [Function.update_of_ne hj]
          · rw [hsame, hstanding]
            exact hanswers
      | some result =>
          rw [hnext] at hstanding
          refine ⟨order ++ [(log.length, i)], horder.append_finished hnot fun j => ?_, ?_⟩
          · by_cases hj : j = i
            · subst hj
              rw [Function.update_self, hnext]
              exact ⟨fun _ => .inr rfl, fun _ => rfl⟩
            · rw [Function.update_of_ne hj]
              exact ⟨.inl, fun hor => hor.resolve_right hj⟩
          · rw [standing_append_singleton (by rw [Function.update_self, hnext]), hsame]
            exact hstanding

end Reaching

/-- The operations that have finished have an order in which each lies between its first and its last
call. In that order one after another, without the ones that ended because their writes were overtaken,
they give the same results and leave the same collections. And only operations that succeed have had a
write accepted. -/
def Linearizable {ι : Type} [DecidableEq ι] (tasks : ι → Task) (schedule : List ι) : Prop :=
  let p := interleave .empty tasks schedule
  (∃ order : List (Nat × ι), IsOrder p.log (fun i => (p.rest i).result?.isSome) order ∧
    ∀ s : StoreSettings,
      let answers := standing tasks (fun i => (p.rest i).result?) order
      let replayed := replay s (answers.map Answered.operation) Memory.empty
      replayed.1 = answers ∧ replayed.2.collections? = p.state.collections?) ∧
  ∀ i t, CallAt p.log t i isAcceptedWrite → ∃ value, (p.rest i).result? = some (.ok value)

/-- Whatever turns operations take, they are linearizable, as long as the numbers of the accepted writes
do not start over. -/
theorem linearizable {ι : Type} [DecidableEq ι] (tasks : ι → Task) (schedule : List ι)
    (hwrites : (interleave .empty tasks schedule).log.countP (fun c => isAcceptedWrite c.2) < 2 ^ 64) :
    Linearizable tasks schedule := by
  obtain ⟨phase, hreaches, hrest⟩ := exists_reaches .empty tasks schedule
  have hresult : ∀ i, ((interleave .empty tasks schedule).rest i).result? = (phase i).result? := by
    intro i
    rw [hrest i, Phase.result?_rest]
  constructor
  · obtain ⟨order, horder, hconsecutive⟩ := hreaches.exists_order hwrites
    refine ⟨order, ?_, ?_⟩
    · simp only [hresult]
      exact horder
    · intro s
      simp only [hresult]
      exact hconsecutive.replay_eq s
  · intro i t ht
    obtain ⟨value, hvalue⟩ := hreaches.finished_of_accepted ht
    refine ⟨value, ?_⟩
    rw [hresult i, hvalue]
    rfl

def creationOf (name : String) : Task :=
  ⟨.default, .change (.create .restore ⟨name, "backup", none, none⟩)⟩

/-- Two creations in a race: the second one is overtaken, and tried again. -/
theorem linearizable_race :
    (interleave .empty ![creationOf "a", creationOf "b"] [0, 1, 0, 1, 1, 1]).log.countP
        (fun c => isAcceptedWrite c.2) = 2 ∧
      Linearizable ![creationOf "a", creationOf "b"] [0, 1, 0, 1, 1, 1] := by
  have hwrites : (interleave .empty ![creationOf "a", creationOf "b"] [0, 1, 0, 1, 1, 1]).log.countP
      (fun c => isAcceptedWrite c.2) = 2 := by
    decide +kernel
  exact ⟨hwrites, linearizable _ _ (by rw [hwrites]; decide)⟩

end ClusterOperator.Store
