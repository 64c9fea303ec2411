import Mathlib.Data.Finset.Card
import Mathlib.Data.Fintype.Card
import ClusterOperator.Proofs.Store.Contention

/-!
Writes that are overtaken. Every refused write of an operation is charged to a write of another one
that was accepted after the object was fetched, and no two refusals of one operation are charged to
the same write.
-/

namespace ClusterOperator.Store

open Repository

variable {ι : Type}

def isFetch : Exchange interface → Bool
  | ⟨.fetch, _⟩ => true
  | ⟨.create _, _⟩ => false
  | ⟨.replace _, _⟩ => false

def isRefusedWrite : Exchange interface → Bool
  | ⟨.fetch, _⟩ => false
  | ⟨.create _, reply⟩ => !reply.isOk
  | ⟨.replace _, reply⟩ => !reply.isOk

@[simp] theorem isRefusedWrite_writeExchange (seen : Option Configuration) (sent : Configuration)
    (reply : Except Failure Configuration) :
    isRefusedWrite (writeExchange seen sent reply) = !reply.isOk := by
  cases seen <;> rfl

/-- The write `w` of an operation is charged to the write `a`: another operation made it, it was
accepted, and it came after the fetch that belongs to `w`. -/
def ChargedTo (log : List (ι × Exchange interface)) (i : ι) (w a : Nat) : Prop :=
  ∃ f j, f < a ∧ a < w ∧ CallAt log f i isFetch ∧
    (∀ t, f < t → t < w → ¬CallAt log t i fun _ => true) ∧
    j ≠ i ∧ CallAt log a j isAcceptedWrite

/-- A write of another operation was accepted between the first and the last call of this one. -/
def AcceptedDuring (log : List (ι × Exchange interface)) (i : ι) (a : Nat) : Prop :=
  (∃ j, j ≠ i ∧ CallAt log a j isAcceptedWrite) ∧
    (∃ f, f < a ∧ CallAt log f i fun _ => true) ∧ ∃ l, a < l ∧ CallAt log l i fun _ => true

/-- Failures that an operation does not get from the repository, but that its own change raises. -/
def Operation.Raises : Operation → Failure → Prop
  | .change (.update _ _ apply), failure => ∃ entry, apply entry = .error failure
  | _, _ => False

section Calls

variable {log : List (ι × Exchange interface)} {i j : ι} {t : Nat} {e : Exchange interface}
  {sort : Exchange interface → Bool}

theorem ChargedTo.append {w a : Nat} (hw : w < log.length) (h : ChargedTo log i w a) :
    ChargedTo (log ++ [(j, e)]) i w a := by
  obtain ⟨f, k, hfa, haw, hfetch, hquiet, hk, haccepted⟩ := h
  refine ⟨f, k, hfa, haw, hfetch.append, ?_, hk, haccepted.append⟩
  intro t hft htw hcall
  rcases callAt_append_iff.mp hcall with hold | ⟨heq, -⟩
  · exact hquiet t hft htw hold
  · omega

/-- Two refusals of one operation are not charged to the same write: the second fetched later. -/
theorem ChargedTo.injective {w w' a : Nat} (h : ChargedTo log i w a) (h' : ChargedTo log i w' a)
    (hw : CallAt log w i isRefusedWrite) (hw' : CallAt log w' i isRefusedWrite) : w = w' := by
  obtain ⟨f, k, hfa, haw, -, hquiet, -⟩ := h
  obtain ⟨f', k', hfa', haw', -, hquiet', -⟩ := h'
  rcases Nat.lt_trichotomy w w' with hlt | heq | hgt
  · exact absurd hw.any (hquiet' w (by omega) hlt)
  · exact heq
  · exact absurd hw'.any (hquiet w' (by omega) hgt)

end Calls

section Steps

variable {α : Type} {again : Failure → Bool} {plan : Option Configuration → Plan α}
  {m m' : Memory} {phase next : Phase α} {e : Exchange interface}

theorem Step.writing_of_refused (h : Step again plan m phase e next m')
    (he : isRefusedWrite e = true) : ∃ left seen config value failure,
      phase = .writing left seen config value ∧ write m seen config = (.error failure, m) := by
  cases h with
  | answered hplan => cases he
  | seen hplan => cases he
  | accepted hwrite =>
      rw [isRefusedWrite_writeExchange] at he
      cases he
  | retried hwrite hagain => exact ⟨_, _, _, _, _, rfl, hwrite⟩
  | refused hwrite hfinal => exact ⟨_, _, _, _, _, rfl, hwrite⟩

end Steps

theorem Operation.raises_of_effect {o : Operation} {found : Option Collections} {failure : Failure}
    (h : o.effect found = .answer (.error failure)) (hovertaken : isOvertaken failure = true) :
    o.Raises failure := by
  cases o with
  | change c =>
      cases Change.does_of_effect h with
      | duplicated hname => cases hovertaken
      | unconfigured => cases hovertaken
      | missing hentry => cases hovertaken
      | failed hentry happly => exact ⟨_, happly⟩
  | get k name =>
      simp only [effect] at h
      split at h
      · cases h
        cases hovertaken
      · cases h
  | list k =>
      cases found with
      | none =>
          cases h
          cases hovertaken
      | some collections => cases h

theorem Task.retries_of_refused (t : Task) {m : Memory} {seen : Option Configuration}
    {config : Configuration} {value : t.Result} {failure : Failure}
    (hplan : t.plan seen = .write config value)
    (hwrite : write m seen config = (.error failure, m))
    (hovertaken : isOvertaken failure = true) : t.retries failure = true := by
  obtain ⟨s, o⟩ := t
  obtain ⟨heffect, -⟩ := Effect.eq_write_of_plan hplan
  cases o with
  | change c =>
      generalize hfound : seen.map Configuration.collections = found at heffect
      generalize config.collections = collections at heffect
      cases Change.does_of_effect heffect with
      | created hname => exact hovertaken
      | changed hentry happly => exact hovertaken
      | removed hlength =>
          rcases failure_of_write_refused hwrite with
            ⟨rfl, -⟩ | ⟨-, kind, object, rfl⟩ | ⟨-, kind, object, message, rfl⟩
          · cases hfound
          · cases hovertaken
          · rfl
  | get k name =>
      simp only [Operation.effect] at heffect
      split at heffect <;> cases heffect
  | list k => cases seen <;> cases heffect

/-- An operation that has not finished has made as many refused writes as attempts are gone. One that
finished with a failure of the repository has made all its attempts. -/
def Spent (log : List (ι × Exchange interface)) (i : ι) (t : Task) (phase : Phase t.Result) :
    Prop :=
  ∃ refused : Finset Nat, (∀ w ∈ refused, CallAt log w i isRefusedWrite) ∧
    match phase with
    | .fetching left => refused.card + left + 1 = t.settings.attempts
    | .writing left _ _ _ => refused.card + left + 1 = t.settings.attempts
    | .finished result => ∀ failure, result = .error failure → isOvertaken failure = true →
        t.operation.Raises failure ∨ refused.card = t.settings.attempts

section Spending

variable {log : List (ι × Exchange interface)}

theorem Spent.append {i j : ι} {t : Task} {phase : Phase t.Result} {e : Exchange interface}
    (h : Spent log i t phase) : Spent (log ++ [(j, e)]) i t phase := by
  obtain ⟨refused, hrefused, hphase⟩ := h
  exact ⟨refused, fun w hw => (hrefused w hw).append, hphase⟩

theorem exists_insert_refused {i : ι} {refused : Finset Nat} {e : Exchange interface}
    (hrefused : ∀ w ∈ refused, CallAt log w i isRefusedWrite) (he : isRefusedWrite e = true) :
    ∃ more : Finset Nat, (∀ w ∈ more, CallAt (log ++ [(i, e)]) w i isRefusedWrite) ∧
      more.card = refused.card + 1 := by
  refine ⟨insert log.length refused, ?_, ?_⟩
  · intro w hw
    rcases Finset.mem_insert.mp hw with rfl | hw
    · exact callAt_append_iff.mpr (.inr ⟨rfl, rfl, he⟩)
    · exact (hrefused w hw).append
  · apply Finset.card_insert_of_notMem
    intro hmem
    exact absurd (hrefused _ hmem).lt_length (Nat.lt_irrefl _)

end Spending

section Reaching

variable [DecidableEq ι] {first : Memory} {tasks : ι → Task} {m : Memory}
  {phase : (i : ι) → Phase (tasks i).Result} {log : List (ι × Exchange interface)}

theorem Reaches.accepted_unique (h : Reaches first tasks m phase log) {i : ι} {a a' : Nat}
    (ha : CallAt log a i isAcceptedWrite) (ha' : CallAt log a' i isAcceptedWrite) : a = a' := by
  induction h with
  | start =>
      obtain ⟨e, he, -⟩ := ha
      cases he
  | @step m m' phase log j e next hreaches hstep ih =>
      have hlast : ∀ {t}, CallAt log t j isAcceptedWrite → False := by
        intro t ht
        obtain ⟨value, hvalue⟩ := hreaches.finished_of_accepted ht
        exact hstep.ne_finished _ hvalue
      rcases callAt_append_iff.mp ha with hold | ⟨heq, rfl, -⟩
      · rcases callAt_append_iff.mp ha' with hold' | ⟨heq', rfl, -⟩
        · exact ih hold hold'
        · exact (hlast hold).elim
      · rcases callAt_append_iff.mp ha' with hold' | ⟨heq', -, -⟩
        · exact (hlast hold').elim
        · rw [heq, heq']

/-- The object that an operation saw is still stored, or a write of another operation was accepted
since the fetch, which was the last call of the operation. -/
def Watches (m : Memory) (log : List (ι × Exchange interface)) (i : ι)
    (seen : Option Configuration) : Prop :=
  ∃ f, CallAt log f i isFetch ∧ (∀ t, f < t → ¬CallAt log t i fun _ => true) ∧
    (m.stored = seen ∨ ∃ a j, f < a ∧ j ≠ i ∧ CallAt log a j isAcceptedWrite)

theorem Reaches.watches (h : Reaches first tasks m phase log) {i : ι} {left : Nat}
    {seen : Option Configuration} {config : Configuration} {value : (tasks i).Result}
    (hphase : phase i = .writing left seen config value) : Watches m log i seen := by
  refine Reaches.writing_induction Watches ?_ ?_ h hphase
  · intro m phase log i hreaches
    refine ⟨log.length, callAt_append_iff.mpr (.inr ⟨rfl, rfl, rfl⟩), ?_, .inl rfl⟩
    intro t ht hcall
    have := hcall.lt_length
    simp only [List.length_append, List.length_singleton] at this
    omega
  · intro m m' phase log i j e next seen hreaches hstep hji hwatches
    obtain ⟨f, hfetch, hquiet, hstored⟩ := hwatches
    refine ⟨f, hfetch.append, fun t ht => not_callAt_append hji (hquiet t ht), ?_⟩
    rcases hstored with hstored | ⟨a, k, hfa, hk, haccepted⟩
    · rcases hstep.memory_cases with ⟨rfl, -⟩ | ⟨-, -, haccepted⟩
      · exact .inl hstored
      · exact .inr ⟨log.length, j, hfetch.lt_length, hji,
          callAt_append_iff.mpr (.inr ⟨rfl, rfl, haccepted⟩)⟩
    · exact .inr ⟨a, k, hfa, hk, haccepted.append⟩

theorem Reaches.charged (h : Reaches first tasks m phase log) {i : ι} {w : Nat}
    (hw : CallAt log w i isRefusedWrite) : ∃ a, ChargedTo log i w a := by
  induction h with
  | start =>
      obtain ⟨e, he, -⟩ := hw
      cases he
  | @step m m' phase log j e next hreaches hstep ih =>
      rcases callAt_append_iff.mp hw with hold | ⟨rfl, rfl, he⟩
      · obtain ⟨a, ha⟩ := ih hold
        exact ⟨a, ha.append hold.lt_length⟩
      · obtain ⟨left, seen, config, value, failure, hphase, hwrite⟩ :=
          hstep.writing_of_refused he
        have hplan := hreaches.planned hphase
        obtain ⟨f, hfetch, hquiet, hstored⟩ := hreaches.watches hphase
        rcases hstored with rfl | ⟨a, k, hfa, hk, haccepted⟩
        -- The write would have been accepted if what was seen were still stored.
        · rw [(tasks j).write_of_plan hplan] at hwrite
          cases hwrite
        · refine ⟨a, f, k, hfa, haccepted.lt_length, hfetch.append, ?_, hk, haccepted.append⟩
          intro t hft htw hcall
          rcases callAt_append_iff.mp hcall with hold | ⟨heq, -⟩
          · exact hquiet t hft hold
          · omega

theorem Reaches.spent (h : Reaches first tasks m phase log) (i : ι) :
    Spent log i (tasks i) (phase i) := by
  induction h with
  | start =>
      refine ⟨∅, fun w hw => absurd hw (Finset.notMem_empty w), ?_⟩
      simp only [Finset.card_empty, StoreSettings.attempts]
      omega
  | @step m m' phase log j e next hreaches hstep ih =>
      by_cases hij : i = j
      · subst hij
        rw [Function.update_self]
        have hplanned : ∀ left seen config value, phase i = .writing left seen config value →
            (tasks i).plan seen = .write config value :=
          fun _ _ _ _ hphase => hreaches.planned hphase
        generalize phase i = current at hstep ih hplanned
        cases hstep with
        | answered hplan =>
            obtain ⟨refused, hrefused, -⟩ := ih
            refine ⟨refused, fun w hw => (hrefused w hw).append, ?_⟩
            intro failure hresult hovertaken
            subst hresult
            exact .inl (Operation.raises_of_effect (Effect.eq_answer_of_plan hplan) hovertaken)
        | seen hplan => exact ih.append
        | accepted hwrite =>
            obtain ⟨refused, hrefused, -⟩ := ih
            refine ⟨refused, fun w hw => (hrefused w hw).append, ?_⟩
            intro failure hresult
            cases hresult
        | @retried left seen config value failure hwrite hagain =>
            obtain ⟨refused, hrefused, hcard⟩ := ih
            obtain ⟨more, hmore, hsucc⟩ := exists_insert_refused hrefused
              (e := writeExchange seen config (.error failure)) (isRefusedWrite_writeExchange _ _ _)
            refine ⟨more, hmore, ?_⟩
            simp only at hcard ⊢
            omega
        | @refused left seen config value failure hwrite hfinal =>
            obtain ⟨refused, hrefused, hcard⟩ := ih
            obtain ⟨more, hmore, hsucc⟩ := exists_insert_refused hrefused
              (e := writeExchange seen config (.error failure)) (isRefusedWrite_writeExchange _ _ _)
            refine ⟨more, hmore, ?_⟩
            intro failure' hresult hovertaken
            cases hresult
            have hleft := hfinal ((tasks i).retries_of_refused (hplanned _ _ _ _ rfl) hwrite
              hovertaken)
            simp only at hcard
            exact .inr (by omega)
      · rw [Function.update_of_ne hij]
        exact ih.append

theorem Reaches.card_accepted_lt {n : Nat} {tasks : Fin n → Task} {m : Memory}
    {phase : (i : Fin n) → Phase (tasks i).Result} {log : List (Fin n × Exchange interface)}
    (h : Reaches first tasks m phase log) {i : Fin n} {accepted : Finset Nat}
    (haccepted : ∀ a ∈ accepted, ∃ j, j ≠ i ∧ CallAt log a j isAcceptedWrite) :
    accepted.card < n := by
  have hwriter : ∀ a, ∃ j, a ∈ accepted → j ≠ i ∧ CallAt log a j isAcceptedWrite := by
    intro a
    by_cases ha : a ∈ accepted
    · obtain ⟨j, hj⟩ := haccepted a ha
      exact ⟨j, fun _ => hj⟩
    · exact ⟨i, fun hmem => absurd hmem ha⟩
  choose writer hwriter using hwriter
  have hcard : accepted.card ≤ (Finset.univ.erase i).card := by
    apply Finset.card_le_card_of_injOn writer
    · intro a ha
      exact Finset.mem_coe.mpr (Finset.mem_erase.mpr ⟨(hwriter a ha).1, Finset.mem_univ _⟩)
    · intro a ha a' ha' heq
      apply h.accepted_unique (hwriter a ha).2
      rw [heq]
      exact (hwriter a' ha').2
  rw [Finset.card_erase_of_mem (Finset.mem_univ i), Finset.card_univ, Fintype.card_fin] at hcard
  have := i.isLt
  omega

end Reaching

/-- An operation ends because its writes were overtaken, and not because its own change said so. -/
def EndsOvertaken [DecidableEq ι] (first : Memory) (tasks : ι → Task) (schedule : List ι) (i : ι) :
    Prop :=
  ∃ failure, ((interleave first tasks schedule).rest i).result? = some (.error failure) ∧
    isOvertaken failure = true ∧ ¬(tasks i).operation.Raises failure

theorem exists_charge [DecidableEq ι] {first : Memory} {tasks : ι → Task} {m : Memory}
    {phase : (i : ι) → Phase (tasks i).Result} {log : List (ι × Exchange interface)}
    (h : Reaches first tasks m phase log) :
    ∃ charge : Nat → Nat, ∀ i w, CallAt log w i isRefusedWrite →
      ChargedTo log i w (charge w) ∧
        ∀ w', CallAt log w' i isRefusedWrite → charge w' = charge w → w' = w := by
  have hcharge : ∀ w, ∃ a, ∀ i, CallAt log w i isRefusedWrite → ChargedTo log i w a := by
    intro w
    by_cases hw : ∃ i, CallAt log w i isRefusedWrite
    · obtain ⟨i, hi⟩ := hw
      obtain ⟨a, ha⟩ := h.charged hi
      refine ⟨a, fun j hj => ?_⟩
      obtain ⟨e, he, -⟩ := hi
      obtain ⟨e', he', -⟩ := hj
      rw [he] at he'
      cases he'
      exact ha
    · exact ⟨0, fun i hi => absurd ⟨i, hi⟩ hw⟩
  choose charge hcharge using hcharge
  refine ⟨charge, fun i w hw => ⟨hcharge w i hw, fun w' hw' heq => ?_⟩⟩
  have hcharged := hcharge w' i hw'
  rw [heq] at hcharged
  exact hcharged.injective (hcharge w i hw) hw' hw

/-- An operation whose writes were overtaken to the end saw as many writes of others accepted in the
meantime as it may make attempts. -/
theorem exists_accepted_of_endsOvertaken [DecidableEq ι] {first : Memory} {tasks : ι → Task}
    {schedule : List ι} {i : ι} (h : EndsOvertaken first tasks schedule i) :
    ∃ accepted : Finset Nat, accepted.card = max 1 (tasks i).settings.retries.toNat ∧
      ∀ a ∈ accepted, AcceptedDuring (interleave first tasks schedule).log i a := by
  obtain ⟨failure, hresult, hovertaken, hraises⟩ := h
  obtain ⟨phase, hreaches, hrest⟩ := exists_reaches first tasks schedule
  obtain ⟨refused, hrefused, hphase⟩ := hreaches.spent i
  rw [hrest i, Phase.result?_rest] at hresult
  rw [Phase.eq_finished_of_result? hresult] at hphase
  have hcard := (hphase failure rfl hovertaken).resolve_left hraises
  obtain ⟨charge, hcharge⟩ := exists_charge hreaches
  refine ⟨refused.image charge, ?_, ?_⟩
  · rw [Finset.card_image_of_injOn, hcard]
    · rfl
    · intro w hw w' hw' heq
      exact (hcharge i w' (hrefused w' hw')).2 w (hrefused w hw) heq
  · intro a ha
    obtain ⟨w, hw, rfl⟩ := Finset.mem_image.mp ha
    obtain ⟨⟨f, j, hfa, haw, hfetch, -, hj, haccepted⟩, -⟩ := hcharge i w (hrefused w hw)
    exact ⟨⟨j, hj, haccepted⟩, ⟨f, hfa, hfetch.any⟩, w, haw, (hrefused w hw).any⟩

/-- Every refused write is charged to a write of another operation of its own, so an operation makes
all its attempts in vain only if as many writes of others are accepted meanwhile. Hence with as many
retries as there are operations none ends because its writes were overtaken, whatever is stored when
they begin. -/
theorem enough_retries_hide_conflicts {n : Nat} (first : Memory) (tasks : Fin n → Task)
    (schedule : List (Fin n)) :
    (∃ charge : Nat → Nat, ∀ i w,
      CallAt (interleave first tasks schedule).log w i isRefusedWrite →
        ChargedTo (interleave first tasks schedule).log i w (charge w) ∧
          ∀ w', CallAt (interleave first tasks schedule).log w' i isRefusedWrite →
            charge w' = charge w → w' = w) ∧
    (∀ i, EndsOvertaken first tasks schedule i →
      ∃ accepted : Finset Nat, accepted.card = max 1 (tasks i).settings.retries.toNat ∧
        ∀ a ∈ accepted, AcceptedDuring (interleave first tasks schedule).log i a) ∧
    ((∀ i, n ≤ (tasks i).settings.retries.toNat) → ∀ i, ¬EndsOvertaken first tasks schedule i) := by
  obtain ⟨phase, hreaches, -⟩ := exists_reaches first tasks schedule
  refine ⟨exists_charge hreaches, fun i => exists_accepted_of_endsOvertaken, ?_⟩
  intro hretries i hovertaken
  obtain ⟨accepted, hcard, haccepted⟩ := exists_accepted_of_endsOvertaken hovertaken
  have hlt := hreaches.card_accepted_lt fun a ha => (haccepted a ha).1
  have := hretries i
  omega

end ClusterOperator.Store
