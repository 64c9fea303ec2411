import ClusterOperator.Proofs.Store.Operation

namespace ClusterOperator

namespace Repository.Memory

def collections? (m : Memory) : Option Collections :=
  m.stored.map Configuration.collections

@[simp] theorem writes_store (m : Memory) (config : Configuration) :
    (m.store config).2.writes = m.writes + 1 := rfl

end Repository.Memory

namespace Store

open Repository

/-- The answer to a write, and the memory after it. -/
def write (m : Memory) (seen : Option Configuration) (config : Configuration) :
    Except Failure Configuration × Memory :=
  match seen with
  | none => m.create config
  | some _ => m.replace config

theorem write_stored (m : Memory) (config : Configuration)
    (h : ∀ stored ∈ m.stored,
      stored.metadata.resourceVersion = config.metadata.resourceVersion) :
    write m m.stored config = m.store config := by
  cases hstored : m.stored with
  | none => simp only [write, Memory.create, hstored]
  | some stored =>
      have hversion := h stored hstored
      simp [write, Memory.replace, hstored, hversion]

theorem stored_of_write_accepted {m : Memory} {seen : Option Configuration}
    {config : Configuration} (h : write m seen config = m.store config) :
    (seen = none ∧ m.stored = none) ∨ ∃ found stored, seen = some found ∧
      m.stored = some stored ∧
      stored.metadata.resourceVersion = config.metadata.resourceVersion := by
  cases seen with
  | none =>
      simp only [write, Memory.create] at h
      split at h
      · cases h
      · exact .inl ⟨rfl, ‹_›⟩
  | some found =>
      simp only [write, Memory.replace] at h
      split at h
      · cases h
      · rename_i stored hstored
        split at h
        · cases h
        · exact .inr ⟨found, stored, rfl, hstored, Decidable.not_not.mp ‹_›⟩

theorem failure_of_write_refused {m m' : Memory} {seen : Option Configuration}
    {config : Configuration} {failure : Failure} (h : write m seen config = (.error failure, m')) :
    (seen = none ∧ ∃ kind name, failure = .objectExists kind name) ∨
      (m.stored = none ∧ ∃ kind name, failure = .noObject kind name) ∨
      seen ≠ none ∧ ∃ kind name message, failure = .conflict kind name message := by
  cases seen with
  | none =>
      simp only [write, Memory.create] at h
      split at h
      · cases h
        exact .inl ⟨rfl, _, _, rfl⟩
      · cases h
  | some found =>
      simp only [write, Memory.replace] at h
      split at h
      · cases h
        exact .inr (.inl ⟨‹_›, _, _, rfl⟩)
      · split at h
        · cases h
          exact .inr (.inr ⟨Option.some_ne_none found, _, _, _, rfl⟩)
        · cases h

theorem run_put {α : Type} (m : Memory) (seen : Option Configuration) (config : Configuration)
    (next : Except Failure Configuration → Job α) :
    ((put seen config).bind next).run Memory.answer m =
      (next (write m seen config).1).run Memory.answer (write m seen config).2 := by
  cases seen <;> rfl

theorem run_job (s : StoreSettings) (o : Operation) (m : Memory) :
    (o.job s).run Memory.answer m =
      match o.effect m.collections? with
      | .answer result => ⟨result, m, []⟩
      | .write collections value =>
          ⟨.ok value, (m.store { m.stored.getD s.fresh with collections }).2, []⟩ := by
  rw [o.job_eq_change, change_eq]
  change (afterFetch o.retries (o.plan s) _ (.ok m.stored)).run Memory.answer m = _
  have hplan : o.plan s m.stored = (o.effect m.collections?).plan (m.stored.getD s.fresh) := rfl
  simp only [afterFetch, hplan]
  cases o.effect m.collections? with
  | answer result => rfl
  | write collections value =>
      simp only [Effect.plan]
      rw [run_put, write_stored]
      · rfl
      · intro stored hstored
        rw [Option.mem_def.mp hstored]
        rfl

theorem run_job_perform (s : StoreSettings) (o : Operation) (m : Memory) :
    ((o.job s).run Memory.answer m).result = (o.perform m.collections?).1 ∧
      ((o.job s).run Memory.answer m).state.collections? = (o.perform m.collections?).2 := by
  rw [run_job, Operation.perform]
  cases o.effect m.collections? with
  | answer result => exact ⟨rfl, rfl⟩
  | write collections value => exact ⟨rfl, rfl⟩

end Store

end ClusterOperator
