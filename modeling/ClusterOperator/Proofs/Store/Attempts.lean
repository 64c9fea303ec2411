import ClusterOperator.Proofs.Interleaving
import ClusterOperator.Proofs.Store.Operation

/-!
Changes over a repository that may answer in any way. A run is a sequence of attempts, each a fetch
and at most one write, and every attempt but the last ended in a write that was overtaken.
-/

namespace ClusterOperator.Store

open Repository

/-- Whether an exchange is a write that was carried out. -/
def isAcceptedWrite : Exchange interface → Bool
  | ⟨.fetch, _⟩ => false
  | ⟨.create _, reply⟩ => reply.isOk
  | ⟨.replace _, reply⟩ => reply.isOk

/-- A write and its answer: what was fetched is replaced, and only what is missing is created. -/
def writeExchange (seen : Option Configuration) (sent : Configuration)
    (reply : Except Failure Configuration) : Exchange interface :=
  match seen with
  | none => ⟨.create sent, reply⟩
  | some _ => ⟨.replace sent, reply⟩

@[simp] theorem isAcceptedWrite_writeExchange (seen : Option Configuration) (sent : Configuration)
    (reply : Except Failure Configuration) :
    isAcceptedWrite (writeExchange seen sent reply) = reply.isOk := by
  cases seen <;> rfl

inductive Attempt where
  | unread (failure : Failure)
  /-- Nothing was written after the fetch. -/
  | unwritten (seen : Option Configuration)
  /-- An object was sent after the fetch. -/
  | written (seen : Option Configuration) (sent : Configuration)
      (reply : Except Failure Configuration)

namespace Attempt

def exchanges : Attempt → List (Exchange interface)
  | unread failure => [⟨.fetch, .error failure⟩]
  | unwritten seen => [⟨.fetch, .ok seen⟩]
  | written seen sent reply => [⟨.fetch, .ok seen⟩, writeExchange seen sent reply]

def reply? : Attempt → Option (Except Failure Configuration)
  | unread _ => none
  | unwritten _ => none
  | written _ _ reply => some reply

/-- What an attempt of a change sends is what it fetched, or the fresh object where there was none:
the metadata and the collections of other kinds are the same. -/
def SendsWhatItSaw (s : StoreSettings) (c : Change) : Attempt → Prop
  | unread _ => True
  | unwritten _ => True
  | written seen sent _ =>
      sent.metadata = (seen.getD (.empty s.name s.space)).metadata ∧
        ∀ k, k ≠ c.kind → sent.entries k = (seen.getD (.empty s.name s.space)).entries k

/-- Whether an attempt of a change had nothing to remove. -/
def FoundNothing : Change → Attempt → Prop
  | .delete k name, unwritten seen =>
      ∀ config ∈ seen, ∀ e ∈ config.entries k, k.nameOf e ≠ name
  | _, _ => False

theorem exists_reply_of_isAcceptedWrite {a : Attempt} {e : Exchange interface}
    (he : e ∈ a.exchanges) (haccepted : isAcceptedWrite e = true) :
    ∃ stored, a.reply? = some (.ok stored) := by
  cases a with
  | unread failure =>
      rw [List.mem_singleton.mp he] at haccepted
      cases haccepted
  | unwritten seen =>
      rw [List.mem_singleton.mp he] at haccepted
      cases haccepted
  | written seen sent reply =>
      rcases List.mem_cons.mp he with rfl | he
      · cases haccepted
      · rw [List.mem_singleton.mp he, isAcceptedWrite_writeExchange] at haccepted
        cases reply with
        | error failure => cases haccepted
        | ok stored => exact ⟨stored, rfl⟩

end Attempt

variable {α : Type}

/-- How a change may go that has some attempts left after this one: the attempts that are followed by
another, the last one, and the result. -/
inductive Course (again : Failure → Bool) (plan : Option Configuration → Plan α) :
    Nat → List Attempt → Attempt → Except Failure α → Prop
  | unread {left : Nat} (failure : Failure) :
      Course again plan left [] (.unread failure) (.error failure)
  | unwritten {left : Nat} {seen : Option Configuration} {result : Except Failure α}
      (hplan : plan seen = .answer result) :
      Course again plan left [] (.unwritten seen) result
  | accepted {left : Nat} {seen : Option Configuration} {config : Configuration} {value : α}
      (hplan : plan seen = .write config value) (stored : Configuration) :
      Course again plan left [] (.written seen config (.ok stored)) (.ok value)
  | refused {left : Nat} {seen : Option Configuration} {config : Configuration} {value : α}
      {failure : Failure} (hplan : plan seen = .write config value)
      (hfinal : again failure = true → left = 0) :
      Course again plan left [] (.written seen config (.error failure)) (.error failure)
  | retried {left : Nat} {seen : Option Configuration} {config : Configuration} {value : α}
      {failure : Failure} {before : List Attempt} {last : Attempt} {result : Except Failure α}
      (hplan : plan seen = .write config value) (hagain : again failure = true)
      (hrest : Course again plan left before last result) :
      Course again plan (left + 1) (.written seen config (.error failure) :: before) last result

theorem exists_reply_of_put {σ : Type} (handler : Handler interface σ)
    (seen : Option Configuration) (config : Configuration) (s : σ) :
    ∃ reply s', ∀ next : Except Failure Configuration → Job α,
      ((put seen config).bind next).exchanges handler s =
          writeExchange seen config reply :: (next reply).exchanges handler s' ∧
        (((put seen config).bind next).run handler s).result =
          ((next reply).run handler s').result := by
  cases seen with
  | none =>
      exact ⟨(handler (.create config) s).1, (handler (.create config) s).2,
        fun next => ⟨rfl, rfl⟩⟩
  | some seen =>
      exact ⟨(handler (.replace config) s).1, (handler (.replace config) s).2,
        fun next => ⟨rfl, rfl⟩⟩

/-- Whatever the repository answers, a change goes in one of these ways. -/
theorem exists_course {σ : Type} (again : Failure → Bool) (plan : Option Configuration → Plan α)
    (handler : Handler interface σ) (left : Nat) (s : σ) :
    ∃ before last,
      (Store.change again plan left).exchanges handler s =
        (before ++ [last]).flatMap Attempt.exchanges ∧
      Course again plan left before last
        ((Store.change again plan left).run handler s).result := by
  induction left using Nat.strongRecOn generalizing s with
  | ind left ih =>
      rw [change_eq]
      simp only [Program.exchanges, Program.run]
      cases (handler Call.fetch s).1 with
      | error failure => exact ⟨[], .unread failure, rfl, .unread failure⟩
      | ok seen =>
          simp only [afterFetch]
          cases hplan : plan seen with
          | answer result => exact ⟨[], .unwritten seen, rfl, .unwritten hplan⟩
          | write config value =>
              simp only
              obtain ⟨reply, s', hnext⟩ :=
                exists_reply_of_put handler seen config (handler Call.fetch s).2
              rw [(hnext _).1, (hnext _).2]
              cases reply with
              | ok stored =>
                  exact ⟨[], .written seen config (.ok stored), rfl, .accepted hplan stored⟩
              | error failure =>
                  rcases afterWrite_error again plan left value failure with
                    ⟨hagain, fewer, rfl, hwrite⟩ | ⟨hfinal, hwrite⟩
                  · obtain ⟨before, last, hcalls, hcourse⟩ := ih fewer (Nat.lt_succ_self fewer) s'
                    rw [hwrite]
                    refine ⟨.written seen config (.error failure) :: before, last, ?_,
                      .retried hplan hagain hcourse⟩
                    simp [Program.exchanges, hcalls, Attempt.exchanges]
                  · rw [hwrite]
                    exact ⟨[], .written seen config (.error failure), rfl, .refused hplan hfinal⟩

namespace Course

variable {again : Failure → Bool} {plan : Option Configuration → Plan α} {left : Nat}
  {before : List Attempt} {last : Attempt} {result : Except Failure α}

theorem length_le (h : Course again plan left before last result) : before.length ≤ left := by
  induction h with
  | unread failure => exact Nat.zero_le _
  | unwritten hplan => exact Nat.zero_le _
  | accepted hplan stored => exact Nat.zero_le _
  | refused hplan hfinal => exact Nat.zero_le _
  | retried hplan hagain hrest ih => exact Nat.succ_le_succ ih

theorem overtaken (h : Course again plan left before last result) :
    ∀ a ∈ before, ∃ failure, a.reply? = some (.error failure) ∧ again failure = true := by
  induction h with
  | unread failure => exact List.forall_mem_nil _
  | unwritten hplan => exact List.forall_mem_nil _
  | accepted hplan stored => exact List.forall_mem_nil _
  | refused hplan hfinal => exact List.forall_mem_nil _
  | @retried left seen config value failure before last result hplan hagain hrest ih =>
      exact List.forall_mem_cons.mpr ⟨⟨failure, rfl, hagain⟩, ih⟩

theorem planned (h : Course again plan left before last result) :
    ∀ seen sent reply, .written seen sent reply ∈ before ++ [last] →
      ∃ value, plan seen = .write sent value := by
  induction h with
  | unread failure =>
      intro seen sent reply hmem
      cases List.mem_singleton.mp hmem
  | unwritten hplan =>
      intro seen sent reply hmem
      cases List.mem_singleton.mp hmem
  | accepted hplan stored =>
      intro seen sent reply hmem
      cases List.mem_singleton.mp hmem
      exact ⟨_, hplan⟩
  | refused hplan hfinal =>
      intro seen sent reply hmem
      cases List.mem_singleton.mp hmem
      exact ⟨_, hplan⟩
  | retried hplan hagain hrest ih =>
      intro seen sent reply hmem
      rcases List.mem_cons.mp hmem with heq | hmem
      · cases heq
        exact ⟨_, hplan⟩
      · exact ih seen sent reply hmem

theorem of_unread (h : Course again plan left before last result) {failure : Failure}
    (hlast : last = .unread failure) : result = .error failure := by
  induction h with
  | unread failure => cases hlast; rfl
  | unwritten hplan => cases hlast
  | accepted hplan stored => cases hlast
  | refused hplan hfinal => cases hlast
  | retried hplan hagain hrest ih => exact ih hlast

theorem of_unwritten (h : Course again plan left before last result)
    {seen : Option Configuration} (hlast : last = .unwritten seen) : plan seen = .answer result := by
  induction h with
  | unread failure => cases hlast
  | unwritten hplan => cases hlast; exact hplan
  | accepted hplan stored => cases hlast
  | refused hplan hfinal => cases hlast
  | retried hplan hagain hrest ih => exact ih hlast

theorem of_accepted (h : Course again plan left before last result) {stored : Configuration}
    (hlast : last.reply? = some (.ok stored)) : result.isOk = true := by
  induction h with
  | unread failure => cases hlast
  | unwritten hplan => cases hlast
  | accepted hplan stored => rfl
  | refused hplan hfinal => cases hlast
  | retried hplan hagain hrest ih => exact ih hlast

theorem of_refused (h : Course again plan left before last result) {failure : Failure}
    (hlast : last.reply? = some (.error failure)) :
    result = .error failure ∧ (again failure = true → before.length = left) := by
  induction h with
  | unread failure => cases hlast
  | unwritten hplan => cases hlast
  | accepted hplan stored => cases hlast
  | refused hplan hfinal =>
      cases hlast
      exact ⟨rfl, fun hagain => (hfinal hagain).symm⟩
  | retried hplan hagain hrest ih =>
      obtain ⟨hresult, hlength⟩ := ih hlast
      exact ⟨hresult, fun h => congrArg Nat.succ (hlength h)⟩

end Course

/-- The fault discipline of a change: its calls and its result over a repository that may answer in
any way, given the attempts that were followed by another one and the last attempt. -/
structure FaultDiscipline (s : StoreSettings) (c : Change) (log : List (Exchange interface))
    (result : Except Failure c.Result) (before : List Attempt) (last : Attempt) : Prop where
  /-- The calls are fetches, each followed by at most one write. -/
  calls : log = (before ++ [last]).flatMap Attempt.exchanges
  /-- There are no more attempts than the settings allow. -/
  bounded : before.length + 1 ≤ max 1 s.retries.toNat
  /-- Another attempt follows only a write that was overtaken. -/
  overtaken : ∀ a ∈ before,
    ∃ failure, a.reply? = some (.error failure) ∧ c.retries failure = true
  /-- What is sent is what was fetched just before, but for the collection that is changed. -/
  sent : ∀ a ∈ before ++ [last], a.SendsWhatItSaw s c
  /-- A failed fetch is the result. -/
  unread : ∀ failure, last = .unread failure → result = .error failure
  /-- Where nothing is written, the result is what the change says of the object that was fetched. -/
  unwritten : ∀ seen, last = .unwritten seen →
    c.effect (seen.map Configuration.collections) = .answer result
  /-- A failed last write is the result; where it was overtaken, no attempt is left. -/
  refused : ∀ failure, last.reply? = some (.error failure) →
    result = .error failure ∧
      (c.retries failure = true → before.length + 1 = max 1 s.retries.toNat)
  /-- The change succeeds if the last write did, and if there was nothing to remove. -/
  isOk_iff : result.isOk = true ↔
    (∃ stored, last.reply? = some (.ok stored)) ∨ Attempt.FoundNothing c last
  /-- No write of a change that fails was carried out. -/
  unaccepted : ∀ failure, result = .error failure → ∀ e ∈ log, isAcceptedWrite e = false

theorem sendsWhatItSaw_of_plan (s : StoreSettings) (c : Change) {seen : Option Configuration}
    {sent : Configuration} {value : c.Result}
    (hplan : (Operation.change c).plan s seen = .write sent value)
    (reply : Except Failure Configuration) :
    Attempt.SendsWhatItSaw s c (.written seen sent reply) := by
  obtain ⟨heffect, hmetadata⟩ := Effect.eq_write_of_plan hplan
  obtain ⟨es, hcollections⟩ := Change.exists_withEntries_of_effect heffect
  refine ⟨hmetadata, ?_⟩
  intro k hk
  have hfound : (seen.map Configuration.collections).getD .empty =
      (seen.getD (.empty s.name s.space)).collections := by
    cases seen <;> rfl
  rw [Configuration.entries, hcollections, hfound]
  exact Collections.entries_withEntries_of_ne _ hk es

/-- A change that writes nothing succeeds only if it has nothing to remove. -/
theorem isOk_iff_foundNothing {c : Change} {seen : Option Configuration}
    {result : Except Failure c.Result}
    (h : c.effect (seen.map Configuration.collections) = .answer result) :
    result.isOk = true ↔ Attempt.FoundNothing c (.unwritten seen) := by
  generalize hfound : seen.map Configuration.collections = found at h
  cases Change.does_of_effect h with
  | duplicated hname => simp [Except.isOk, Except.toBool, Attempt.FoundNothing]
  | unconfigured => simp [Except.isOk, Except.toBool, Attempt.FoundNothing]
  | missing hentry => simp [Except.isOk, Except.toBool, Attempt.FoundNothing]
  | failed hentry happly => simp [Except.isOk, Except.toBool, Attempt.FoundNothing]
  | unneeded =>
      cases Option.map_eq_none_iff.mp hfound
      simp [Except.isOk, Except.toBool, Attempt.FoundNothing]
  | spared hlength =>
      obtain ⟨config, rfl, rfl⟩ := Option.map_eq_some_iff.mp hfound
      have hkept := List.length_filter_eq_length_iff.mp hlength
      simpa [Except.isOk, Except.toBool, Attempt.FoundNothing, Configuration.entries] using hkept

theorem Course.isOk_of_isAcceptedWrite {again : Failure → Bool}
    {plan : Option Configuration → Plan α} {left : Nat} {before : List Attempt} {last : Attempt}
    {result : Except Failure α} (h : Course again plan left before last result)
    {e : Exchange interface} (he : e ∈ (before ++ [last]).flatMap Attempt.exchanges)
    (haccepted : isAcceptedWrite e = true) : result.isOk = true := by
  obtain ⟨a, ha, hea⟩ := List.mem_flatMap.mp he
  obtain ⟨stored, hreply⟩ := Attempt.exists_reply_of_isAcceptedWrite hea haccepted
  rcases List.mem_append.mp ha with hbefore | hlast
  · obtain ⟨failure, hfailure, -⟩ := h.overtaken a hbefore
    rw [hreply] at hfailure
    cases hfailure
  · rw [List.mem_singleton.mp hlast] at hreply
    exact h.of_accepted hreply

theorem isOk_iff_of_course {s : StoreSettings} {c : Change} {left : Nat} {before : List Attempt}
    {last : Attempt} {result : Except Failure c.Result}
    (h : Course c.retries ((Operation.change c).plan s) left before last result) :
    result.isOk = true ↔
      (∃ stored, last.reply? = some (.ok stored)) ∨ Attempt.FoundNothing c last := by
  cases hlast : last with
  | unread failure =>
      rw [h.of_unread hlast]
      cases c <;> simp [Except.isOk, Except.toBool, Attempt.reply?, Attempt.FoundNothing]
  | unwritten seen =>
      rw [isOk_iff_foundNothing (Effect.eq_answer_of_plan (h.of_unwritten hlast))]
      simp [Attempt.reply?]
  | written seen sent reply =>
      have hnot : ¬Attempt.FoundNothing c (.written seen sent reply) := by
        cases c <;> exact id
      have hreply : last.reply? = some reply := by
        rw [hlast]
        rfl
      cases reply with
      | ok stored =>
          have hok := h.of_accepted hreply
          simp [hok, Attempt.reply?]
      | error failure =>
          rw [(h.of_refused hreply).1]
          simp [Except.isOk, Except.toBool, Attempt.reply?, hnot]

/-- A change over a repository that may fail in any way keeps the fault discipline. -/
theorem Change.exists_faultDiscipline {σ : Type} (s : StoreSettings) (c : Change)
    (repository : Handler interface σ) (state : σ) :
    ∃ before last, FaultDiscipline s c ((c.job s).exchanges repository state)
      ((c.job s).run repository state).result before last := by
  have hjob : c.job s = Store.change c.retries ((Operation.change c).plan s) (s.attempts - 1) :=
    (Operation.change c).job_eq_change s
  have hattempts : s.attempts - 1 + 1 = max 1 s.retries.toNat := by
    simp only [StoreSettings.attempts]
    omega
  rw [hjob]
  obtain ⟨before, last, hcalls, hcourse⟩ :=
    exists_course c.retries ((Operation.change c).plan s) repository (s.attempts - 1) state
  generalize ((Store.change c.retries _ _).run repository state).result = result at hcourse ⊢
  refine ⟨before, last, ⟨hcalls, ?_, hcourse.overtaken, ?_, ?_, ?_, ?_, ?_, ?_⟩⟩
  · have := hcourse.length_le
    omega
  · intro a ha
    cases a with
    | unread failure => trivial
    | unwritten seen => trivial
    | written seen sent reply =>
        obtain ⟨value, hplan⟩ := hcourse.planned seen sent reply ha
        exact sendsWhatItSaw_of_plan s c hplan reply
  · exact fun failure hlast => hcourse.of_unread hlast
  · exact fun seen hlast => Effect.eq_answer_of_plan (hcourse.of_unwritten hlast)
  · intro failure hlast
    obtain ⟨hresult, hlength⟩ := hcourse.of_refused hlast
    exact ⟨hresult, fun hagain => by rw [hlength hagain, hattempts]⟩
  · exact isOk_iff_of_course hcourse
  · intro failure hresult e he
    by_contra haccepted
    rw [hcalls] at he
    have hok := hcourse.isOk_of_isAcceptedWrite he (eq_true_of_ne_false haccepted)
    rw [hresult] at hok
    cases hok

end ClusterOperator.Store
