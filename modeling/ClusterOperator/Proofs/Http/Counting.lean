import ClusterOperator.Proofs.Http.Outcomes

namespace ClusterOperator

namespace Program

variable {I : Interface} {σ α β ε : Type} {allowed : Metric → Prop}

/-- Whether a program counts nothing but what is allowed, whatever is answered. -/
def CountsOnly (allowed : Metric → Prop) : Program I α → Prop
  | done _ => True
  | count m next => allowed m ∧ next.CountsOnly allowed
  | call _ next => ∀ reply, (next reply).CountsOnly allowed

namespace CountsOnly

theorem bind {p : Program I α} {f : α → Program I β} (h : p.CountsOnly allowed)
    (hf : ∀ a, (f a).CountsOnly allowed) : (p.bind f).CountsOnly allowed := by
  induction p with
  | done a => exact hf a
  | count m next ih => exact ⟨h.1, ih h.2⟩
  | call c next ih => exact fun reply => ih reply (h reply)

theorem andThen {p : Program I (Except ε α)} {f : α → Program I (Except ε β)}
    (h : p.CountsOnly allowed) (hf : ∀ a, (f a).CountsOnly allowed) :
    (p.andThen f).CountsOnly allowed := by
  apply h.bind
  rintro (e | a)
  · trivial
  · exact hf a

theorem allowed_of_mem {p : Program I α} (h : p.CountsOnly allowed) (handler : Handler I σ) (s : σ) :
    ∀ m ∈ (p.run handler s).metrics, allowed m := by
  induction p generalizing s with
  | done a => nofun
  | count m next ih =>
      rw [run, List.forall_mem_cons]
      exact ⟨h.1, ih h.2 s⟩
  | call c next ih => exact ih _ (h _) _

end CountsOnly

/-- Whether a program gives a good result if it is answered well. -/
def Ensures (well : (c : I.Call) → I.Reply c → Prop) (good : α → Prop) : Program I α → Prop
  | done a => good a
  | count _ next => next.Ensures well good
  | call c next => ∀ reply, well c reply → (next reply).Ensures well good

namespace Ensures

variable {well : (c : I.Call) → I.Reply c → Prop}

theorem bind {good : α → Prop} {better : β → Prop} {p : Program I α} {f : α → Program I β}
    (h : p.Ensures well good) (hf : ∀ a, good a → (f a).Ensures well better) :
    (p.bind f).Ensures well better := by
  induction p with
  | done a => exact hf a h
  | count m next ih => exact ih h
  | call c next ih => exact fun reply hreply => ih reply (h reply hreply)

theorem result {good : α → Prop} {p : Program I α} (h : p.Ensures well good) {handler : Handler I σ}
    (hhandler : ∀ c s, well c (handler c s).1) (s : σ) : good (p.run handler s).result := by
  induction p generalizing s with
  | done a => exact h
  | count m next ih => exact ih h s
  | call c next ih => exact ih _ (h _ (hhandler c s)) _

end Ensures

end Program

open Program (CountsOnly Ensures)
open Repository (interface Job Memory)

/-- Whether the answer to a call is a panic. -/
def Repository.Panics : (c : Repository.Call) → Repository.Reply c → Prop
  | .fetch, reply => reply = .error .panicked
  | .create _, reply => reply = .error .panicked
  | .replace _, reply => reply = .error .panicked

/-- Whether a program over a repository that does not panic panics only for a reason. -/
def Repository.PanicsFor (reason : Prop) {α : Type} (job : Job α) : Prop :=
  job.Ensures (fun c reply => ¬Repository.Panics c reply) fun result =>
    result = .error .panicked → reason

namespace Store

theorem countsOnly_put {allowed : Metric → Prop} (seen : Option Configuration)
    (config : Configuration) : CountsOnly allowed (Repository.put seen config) := by
  cases seen with
  | none => exact fun _ => trivial
  | some _ => exact fun _ => trivial

theorem countsOnly_change {α : Type} (again : Failure → Bool)
    (plan : Option Configuration → Plan α) (left : Nat) :
    CountsOnly (· = .retry) (change again plan left) := by
  -- A write that is refused is counted as a retry only if it leaves fewer of them.
  induction left using Nat.strongRecOn with
  | ind left ih =>
      rw [change_eq]
      rintro (failure | seen)
      · trivial
      · simp only [afterFetch]
        cases plan seen with
        | answer result => trivial
        | write config value =>
            refine (countsOnly_put seen config).bind fun reply => ?_
            cases reply with
            | ok _ => trivial
            | error failure =>
                rcases afterWrite_error again plan left value failure with
                  ⟨-, fewer, rfl, hagain⟩ | ⟨-, hlast⟩
                · rw [hagain]
                  exact ⟨rfl, ih fewer (Nat.lt_succ_self fewer)⟩
                · rw [hlast]
                  trivial

theorem countsOnly_job (s : StoreSettings) (o : Operation) : CountsOnly (· = .retry) (o.job s) := by
  rw [Operation.job_eq_change]
  exact countsOnly_change _ _ _

theorem panicsFor_put (seen : Option Configuration) (config : Configuration) :
    Repository.PanicsFor False (Repository.put seen config) := by
  cases seen with
  | none => exact fun _ h => h
  | some _ => exact fun _ h => h

/-- A change panics only where its plan does. -/
theorem panicsFor_change {α : Type} {reason : Prop} (again : Failure → Bool)
    {plan : Option Configuration → Plan α}
    (hplan : ∀ seen, plan seen = .answer (.error .panicked) → reason) (left : Nat) :
    Repository.PanicsFor reason (change again plan left) := by
  induction left using Nat.strongRecOn with
  | ind left ih =>
      rw [change_eq]
      intro reply hreply
      cases reply with
      | error failure =>
          intro hresult
          cases hresult
          exact (hreply rfl).elim
      | ok seen =>
          simp only [afterFetch]
          cases hseen : plan seen with
          | answer result =>
              intro hresult
              rw [hresult] at hseen
              exact hplan seen hseen
          | write config value =>
              refine (panicsFor_put seen config).bind fun reply hreply => ?_
              cases reply with
              | ok _ =>
                  intro hresult
                  cases hresult
              | error failure =>
                  rcases afterWrite_error again plan left value failure with
                    ⟨-, fewer, rfl, hagain⟩ | ⟨-, hlast⟩
                  · rw [hagain]
                    exact ih fewer (Nat.lt_succ_self fewer)
                  · rw [hlast]
                    intro hresult
                    cases hresult
                    exact (hreply rfl).elim

theorem panicsFor_job (s : StoreSettings) {o : Operation} {reason : Prop}
    (hchange : ∀ k name apply, o = .change (.update k name apply) →
      ∀ e, apply e = .error .panicked → reason) : Repository.PanicsFor reason (o.job s) := by
  rw [Operation.job_eq_change]
  apply panicsFor_change
  intro seen hplan
  have heffect := Effect.eq_answer_of_plan hplan
  generalize seen.map Configuration.collections = found at heffect
  cases o with
  | change c =>
      cases Change.does_of_effect heffect with
      | failed hentry happly => exact hchange _ _ _ rfl _ happly
  | get k name =>
      simp only [Operation.effect] at heffect
      split at heffect <;> cases heffect
  | list k => cases found <;> cases heffect

end Store

/-- The counter of requests, which has a series for every kind, operation and status. -/
def requestsTotal : String := "clustersync_api_requests_total"

/-- How much the series with these labels grows by some events. -/
def requestGrowth (metrics : List Metric) (labels : List (String × String)) : Nat :=
  (metrics.flatMap Metric.series).count (requestsTotal, labels)

theorem requestGrowth_append (front back : List Metric) (labels : List (String × String)) :
    requestGrowth (front ++ back) labels = requestGrowth front labels + requestGrowth back labels := by
  rw [requestGrowth, List.flatMap_append, List.count_append, requestGrowth, requestGrowth]

theorem requestGrowth_of_retries {metrics : List Metric} (h : ∀ m ∈ metrics, m = .retry)
    (labels : List (String × String)) : requestGrowth metrics labels = 0 := by
  apply List.count_eq_zero_of_not_mem
  intro hmem
  obtain ⟨m, hm, hseries⟩ := List.mem_flatMap.mp hmem
  rw [h m hm, Metric.series, List.mem_singleton] at hseries
  have hname : requestsTotal = "clustersync_operatorconfig_conflict_retries_total" :=
    congrArg Prod.fst hseries
  exact absurd hname (by decide)

namespace Http

/-- The labels of the series of a kind, an operation and a status. -/
def requestLabels (k : Kind) (operation : String) (status : Nat) : List (String × String) :=
  [("entity", label k), ("operation", operation), ("status", toString status)]

/-- The method that decides what is done: the head of a resource is looked for by getting it. -/
def Request.verb (request : Request) : String :=
  if request.method = "HEAD" then "GET" else request.method

/-- Which operation on entries a request comes to. There is none if the name of the entry is no text. -/
inductive Dispatched (request : Request) : Kind → String → Prop
  | create {k} : resource? request.path = some (.collection k) → request.verb = "POST" →
      Dispatched request k "create"
  | list {k} : resource? request.path = some (.collection k) → request.verb = "GET" →
      Dispatched request k "list"
  | update {k segment name} : resource? request.path = some (.entry k segment) →
      segmentText? segment = some name → request.verb = "PUT" → Dispatched request k "update"
  | get {k segment name} : resource? request.path = some (.entry k segment) →
      segmentText? segment = some name → request.verb = "GET" → Dispatched request k "get"
  | delete {k segment name} : resource? request.path = some (.entry k segment) →
      segmentText? segment = some name → request.verb = "DELETE" → Dispatched request k "delete"

/-- The lifetime that a request to create or to change an entry gives. -/
def Request.lifetime? (request : Request) (s : ServiceSettings) (k : Kind) : String → Option String
  | "create" => (readBody s.maxBody k.decodeRequest request).toOption.bind k.lifetime?
  | "update" => (readBody s.maxBody k.decodePatch request).toOption.bind k.patchLifetime?
  | _ => none

/-- Whether there is a lifetime and its sums outgrow their width. -/
def Outgrows (lifetime? : Option String) : Prop :=
  ∃ text, lifetime? = some text ∧ Duration.parse text = .error .panicked

/-- Whether a request is answered by an operation that counts nothing but its retries, and that panics
only for a reason. -/
def CountedAs (k : Kind) (operation : String) (reason : Prop) (p : Handling) : Prop :=
  ∃ (o : Operation) (job : Job Body), o.name = operation ∧ CountsOnly (· = .retry) job ∧
    Repository.PanicsFor reason job ∧ p = respond k o job

section Answers

variable {s : ServiceSettings} {k : Kind} {operation : String} {request : Request} {reason : Prop}

theorem metrics_respond (o : Operation) {job : Job Body} (h : CountsOnly (· = .retry) job) {σ : Type}
    (handler : Handler interface σ) (state : σ) : ∃ before, (∀ m ∈ before, m = Metric.retry) ∧
      ((respond k o job).run handler state).metrics = before ++
        match ((respond k o job).run handler state).result with
        | some r => [.request k.title o.name r.status]
        | none => [] := by
  refine ⟨(job.run handler state).metrics, h.allowed_of_mem handler state, ?_⟩
  simp only [respond, Program.run_bind]
  cases responseTo? o (job.run handler state).result <;> rfl

theorem result_respond (o : Operation) {job : Job Body} {σ : Type} (handler : Handler interface σ)
    (state : σ) (h : ((respond k o job).run handler state).result = none) :
    (job.run handler state).result = .error .panicked := by
  simp only [respond, Program.run_bind] at h
  cases hresponse : responseTo? o (job.run handler state).result with
  | none => exact responseTo?_eq_none_iff.mp hresponse
  | some r =>
      rw [hresponse] at h
      cases h

theorem CountedAs.showing {α : Type} {body : α → Body} {job : Job α} (o : Operation)
    (hcounts : CountsOnly (· = .retry) job) (hpanics : Repository.PanicsFor reason job) :
    CountedAs k o.name reason (respond k o (Http.showing body job)) := by
  refine ⟨o, Http.showing body job, rfl, hcounts.andThen fun _ => trivial,
    hpanics.bind fun result hresult => ?_, rfl⟩
  cases result with
  | error failure =>
      intro h
      cases h
      exact hresult rfl
  | ok a =>
      intro h
      cases h

theorem CountedAs.ofJob (operation : Operation) (s : StoreSettings) (o : Store.Operation)
    {body : o.Result → Body} (hchange : ∀ k name apply, o = .change (.update k name apply) →
      ∀ e, apply e = .error .panicked → reason) :
    CountedAs k operation.name reason (respond k operation (Http.showing body (o.job s))) :=
  .showing operation (Store.countsOnly_job s o) (Store.panicsFor_job s hchange)

theorem CountedAs.refused (o : Operation) {failure : Failure} (h : failure = .panicked → reason) :
    CountedAs k o.name reason (respond k o (.done (.error failure))) := by
  refine ⟨o, .done (.error failure), rfl, trivial, fun hresult => ?_, rfl⟩
  cases hresult
  exact h rfl

theorem serve_eq [Cron.Library] (s : ServiceSettings) (request : Request) : serve s request =
    if request.method = "HEAD" then
      (serveMethod s request.verb request).bind fun r => .done (r.map Response.headOnly)
    else serveMethod s request.verb request := by
  rw [serve, Request.verb]
  split <;> rfl

theorem countedAs_getEntry (name : String) : CountedAs k "get" reason (getEntry k name) :=
  .ofJob .get .default (.get k name) fun _ _ _ h => by cases h

theorem countedAs_listEntries : CountedAs k "list" reason (listEntries k) :=
  .ofJob .list .default (.list k) fun _ _ _ h => by cases h

theorem countedAs_deleteEntry (name : String) :
    CountedAs k "delete" reason (deleteEntry s k name) :=
  .ofJob .delete s.store (.change (.delete k name)) fun _ _ _ h => by cases h

theorem requestGrowth_request (o : Operation) (status : Nat) (labels : List (String × String)) :
    requestGrowth [.request k.title o.name status] labels =
      if labels = requestLabels k o.name status then 1 else 0 := by
  have hseries : Metric.series (.request k.title o.name status) =
      [(requestsTotal, requestLabels k o.name status)] := by
    rw [title_eq_label]
    rfl
  rw [requestGrowth, List.flatMap_singleton, hseries]
  by_cases hlabels : labels = requestLabels k o.name status
  · rw [if_pos hlabels, hlabels, List.count_singleton_self]
  · rw [if_neg hlabels, List.count_eq_zero, List.mem_singleton, Prod.mk.injEq]
    exact fun h => hlabels h.2

theorem countsOnly_readiness : CountsOnly (fun _ => False) readiness := by
  rintro (failure | seen)
  · cases failure <;> trivial
  · trivial

variable [Cron.Library]

theorem validate_of_readEntry_panicked (h : readEntry s k request = .error .panicked) :
    ∃ asked, readBody s.maxBody k.decodeRequest request = .ok asked ∧
      k.validateRequest asked = .error .panicked := by
  cases hbody : readBody s.maxBody k.decodeRequest request with
  | error failure =>
      obtain ⟨text, -, rfl⟩ := exists_unreadable hbody
      rw [readEntry, hbody] at h
      cases h
  | ok asked =>
      refine ⟨asked, rfl, ?_⟩
      cases hvalid : k.validateRequest asked with
      | ok _ =>
          obtain ⟨e, hentry, -⟩ := Kind.exists_entry hvalid
          rw [readEntry_eq hbody hvalid hentry] at h
          cases h
      | error v =>
          simp only [readEntry, hbody, hvalid, bind, Except.bind, orInvalid] at h
          cases v <;> cases h
          rfl

theorem validate_of_readPatch_panicked (h : readPatch s k request = .error .panicked) :
    ∃ patch, readBody s.maxBody k.decodePatch request = .ok patch ∧
      k.validatePatch patch = .error .panicked := by
  cases hbody : readBody s.maxBody k.decodePatch request with
  | error failure =>
      obtain ⟨text, -, rfl⟩ := exists_unreadable hbody
      rw [readPatch, hbody] at h
      cases h
  | ok patch =>
      refine ⟨patch, rfl, ?_⟩
      cases hvalid : k.validatePatch patch with
      | ok _ =>
          rw [readPatch_eq hbody hvalid] at h
          cases h
      | error v =>
          simp only [readPatch, hbody, hvalid, bind, Except.bind, orInvalid] at h
          cases v <;> cases h
          rfl

theorem readBody_of_readPatch {patch : k.Patch} (h : readPatch s k request = .ok patch) :
    readBody s.maxBody k.decodePatch request = .ok patch := by
  simp only [readPatch, bind_eq_ok, pure_eq_ok] at h
  obtain ⟨read, hread, -, -, rfl⟩ := h
  exact hread

theorem countedAs_createEntry :
    CountedAs k "create" (Outgrows (request.lifetime? s k "create")) (createEntry s k request) := by
  rw [createEntry]
  cases hread : readEntry s k request with
  | ok entry =>
      exact .ofJob .create s.store (.change (.create k entry)) fun _ _ _ h => by cases h
  | error failure =>
      refine .refused .create ?_
      rintro rfl
      obtain ⟨asked, hbody, hvalid⟩ := validate_of_readEntry_panicked hread
      obtain ⟨text, hlifetime, hparse⟩ := Kind.parse_of_validateRequest_panicked hvalid
      refine ⟨text, ?_, hparse⟩
      simp only [Request.lifetime?, hbody]
      exact hlifetime

theorem countedAs_updateEntry (name : String) :
    CountedAs k "update" (Outgrows (request.lifetime? s k "update"))
      (updateEntry s k name request) := by
  rw [updateEntry]
  cases hread : readPatch s k request with
  | ok patch =>
      refine .ofJob .update s.store (.change (.update k name (k.change patch))) ?_
      rintro _ _ _ ⟨⟩ e hchange
      obtain ⟨text, hlifetime, hparse⟩ := Kind.parse_of_change_panicked hchange
      refine ⟨text, ?_, hparse⟩
      simp only [Request.lifetime?, readBody_of_readPatch hread]
      exact hlifetime
  | error failure =>
      refine .refused .update ?_
      rintro rfl
      obtain ⟨patch, hbody, hvalid⟩ := validate_of_readPatch_panicked hread
      obtain ⟨text, hlifetime, hparse⟩ := Kind.parse_of_validatePatch_panicked hvalid
      refine ⟨text, ?_, hparse⟩
      simp only [Request.lifetime?, hbody]
      exact hlifetime

theorem Dispatched.countedAs (h : Dispatched request k operation) :
    CountedAs k operation (Outgrows (request.lifetime? s k operation))
      (serveMethod s request.verb request) := by
  cases h with
  | create hresource hverb =>
      simp only [serveMethod, hresource, serveCollection, hverb]
      exact countedAs_createEntry
  | list hresource hverb =>
      simp only [serveMethod, hresource, serveCollection, hverb]
      exact countedAs_listEntries
  | update hresource hname hverb =>
      simp only [serveMethod, hresource, serveEntry, hname, hverb]
      exact countedAs_updateEntry _
  | get hresource hname hverb =>
      simp only [serveMethod, hresource, serveEntry, hname, hverb]
      exact countedAs_getEntry _
  | delete hresource hname hverb =>
      simp only [serveMethod, hresource, serveEntry, hname, hverb]
      exact countedAs_deleteEntry _

theorem countsOnly_serveCollection (hresource : resource? request.path = some (.collection k))
    (h : ∀ operation, ¬Dispatched request k operation) :
    CountsOnly (fun _ => False) (serveCollection s k request.verb request) := by
  have hpost : request.verb ≠ "POST" := fun hverb => h "create" (.create hresource hverb)
  have hget : request.verb ≠ "GET" := fun hverb => h "list" (.list hresource hverb)
  rw [serveCollection, if_neg hpost, if_neg hget]
  trivial

theorem countsOnly_serveEntry {segment : List UInt8}
    (hresource : resource? request.path = some (.entry k segment))
    (h : ∀ operation, ¬Dispatched request k operation) :
    CountsOnly (fun _ => False) (serveEntry s k segment request.verb request) := by
  cases hname : segmentText? segment with
  | none =>
      simp only [serveEntry, hname]
      repeat' split
      all_goals trivial
  | some name =>
      have hput : request.verb ≠ "PUT" := fun hverb => h "update" (.update hresource hname hverb)
      have hget : request.verb ≠ "GET" := fun hverb => h "get" (.get hresource hname hverb)
      have hdelete : request.verb ≠ "DELETE" := fun hverb =>
        h "delete" (.delete hresource hname hverb)
      rw [serveEntry, if_neg hput, if_neg hget, if_neg hdelete]
      trivial

theorem countsOnly_serveMethod (h : ∀ k operation, ¬Dispatched request k operation) :
    CountsOnly (fun _ => False) (serveMethod s request.verb request) := by
  rw [serveMethod]
  split
  · trivial
  · exact countsOnly_serveCollection ‹_› (h _)
  · exact countsOnly_serveEntry ‹_› (h _)
  · split <;> trivial
  · split
    · exact countsOnly_readiness
    · trivial

theorem countsOnly_serve (h : ∀ k operation, ¬Dispatched request k operation) :
    CountsOnly (fun _ => False) (serve s request) := by
  rw [serve_eq]
  split
  · exact (countsOnly_serveMethod h).bind fun _ => trivial
  · exact countsOnly_serveMethod h

end Answers

/-- What is counted in a run that ends with a response or without one, and why there is none. -/
structure Counted (k : Kind) (operation : String) (reason : Prop) {σ : Type}
    (o : Outcome σ (Option Response)) : Prop where
  answered : ∀ r, o.result = some r → ∀ labels, requestGrowth o.metrics labels =
    if labels = requestLabels k operation r.status then 1 else 0
  unanswered : o.result = none → reason ∧ ∀ labels, requestGrowth o.metrics labels = 0

section Runs

variable {σ : Type} {k : Kind} {operation : String} {reason : Prop} {handler : Handler interface σ}

theorem CountedAs.counted {p : Handling} (h : CountedAs k operation reason p) (state : σ) :
    Counted k operation ((∃ call before, Repository.Panics call (handler call before).1) ∨ reason)
      (p.run handler state) := by
  obtain ⟨o, job, rfl, hcounts, hpanics, rfl⟩ := h
  obtain ⟨before, hbefore, hmetrics⟩ := metrics_respond (k := k) o hcounts handler state
  have hgrowth := requestGrowth_of_retries hbefore
  constructor
  · intro r hr labels
    rw [hmetrics, hr, requestGrowth_append, hgrowth, Nat.zero_add, requestGrowth_request]
  · intro hnone
    constructor
    · by_cases hhandler : ∃ call before, Repository.Panics call (handler call before).1
      · exact .inl hhandler
      · refine .inr (hpanics.result (fun call before h => hhandler ⟨call, before, h⟩) state ?_)
        exact result_respond o handler state hnone
    · intro labels
      rw [hmetrics, hnone, List.append_nil, hgrowth]

theorem Counted.headOnly {p : Handling} {state : σ}
    (h : Counted k operation reason (p.run handler state)) :
    Counted k operation reason
      ((p.bind fun r => .done (r.map Response.headOnly)).run handler state) := by
  rw [Program.run_bind]
  simp only [Program.run, List.append_nil]
  constructor
  · intro head hhead
    obtain ⟨r, hr, rfl⟩ := Option.map_eq_some_iff.mp hhead
    exact h.answered r hr
  · intro hnone
    exact h.unanswered (Option.map_eq_none_iff.mp hnone)

end Runs

/-- A request that comes to an operation on entries increments one series by one: that of its kind, its
operation and the status that is sent. Only if a call panics, or its lifetime outgrows its width, there is
no response and no series is incremented. Any other request increments none. -/
theorem requests_counted [Cron.Library] {σ : Type} (handler : Handler interface σ) (state : σ)
    (s : ServiceSettings) (request : Request) :
    (∀ k operation, Dispatched request k operation →
      Counted k operation
        ((∃ call before, Repository.Panics call (handler call before).1) ∨
          Outgrows (request.lifetime? s k operation))
        ((serve s request).run handler state)) ∧
    ((∀ k operation, ¬Dispatched request k operation) → ∀ labels,
      requestGrowth ((serve s request).run handler state).metrics labels = 0) := by
  constructor
  · intro k operation hdispatched
    have hcounted : Counted k operation
        ((∃ call before, Repository.Panics call (handler call before).1) ∨
          Outgrows (request.lifetime? s k operation))
        ((serveMethod s request.verb request).run handler state) :=
      hdispatched.countedAs.counted state
    rw [serve_eq]
    split
    · exact hcounted.headOnly
    · exact hcounted
  · intro hnone labels
    apply requestGrowth_of_retries
    intro m hm
    exact ((countsOnly_serve hnone).allowed_of_mem handler state m hm).elim

/-- How much a series grows by a request to a service that stores nothing. -/
def growthBy (request : Request) (labels : List (String × String)) : Nat :=
  requestGrowth ((serve .default request).run Memory.answer .empty).metrics labels

def bare (method path : String) : Request :=
  ⟨method, Text.Utf8.encode (basePath ++ path), none, []⟩

/-- The head of a missing entry is counted as a look-up that finds nothing, and posting to an entry is not
counted. -/
theorem requests_counted_head :
    growthBy (bare "HEAD" "/backupconfigs/b")
        [("entity", "BackupConfig"), ("operation", "get"), ("status", "404")] = 1 ∧
      growthBy (sending "POST" "/storageconfigs" (.obj [("storageName", .str "s")]))
        [("entity", "StorageConfig"), ("operation", "create"), ("status", "200")] = 1 ∧
      growthBy (sending "PUT" "/scheduleconfigs/s" (.obj []))
        [("entity", "ScheduleConfig"), ("operation", "update"), ("status", "500")] = 1 ∧
      growthBy (bare "GET" "/restoreconfigs")
        [("entity", "RestoreConfig"), ("operation", "list"), ("status", "500")] = 1 ∧
      growthBy (bare "DELETE" "/restoreconfigs/r")
        [("entity", "RestoreConfig"), ("operation", "delete"), ("status", "200")] = 1 ∧
      (∀ k operation, ¬Dispatched (bare "POST" "/backupconfigs/b") k operation) ∧
      ∀ labels, growthBy (bare "POST" "/backupconfigs/b") labels = 0 := by
  have hgrows : ∀ {request k operation} status, Dispatched request k operation →
      ((serve .default request).run Memory.answer .empty).result.map Response.status = some status →
        growthBy request (requestLabels k operation status) = 1 := by
    intro request k operation status hdispatched hstatus
    obtain ⟨r, hr, rfl⟩ := Option.map_eq_some_iff.mp hstatus
    have hcounted := (requests_counted Memory.answer .empty .default request).1 k operation hdispatched
    rw [growthBy, hcounted.answered r hr, if_pos rfl]
  have hentry : ∀ method, resource? (bare method "/backupconfigs/b").path =
      some (.entry .backup (Text.Utf8.encode "b")) := by
    intro method
    change resource? (Text.Utf8.encode (basePath ++ "/backupconfigs/b")) = _
    decide +kernel
  have hnone : ∀ k operation, ¬Dispatched (bare "POST" "/backupconfigs/b") k operation := by
    rintro k operation (⟨hcollection, -⟩ | ⟨-, hverb⟩ | ⟨-, -, hverb⟩ | ⟨-, -, hverb⟩ | ⟨-, -, hverb⟩)
    · rw [hentry] at hcollection
      cases hcollection
    all_goals exact absurd hverb (by decide)
  have hhead : Dispatched (bare "HEAD" "/backupconfigs/b") .backup "get" :=
    .get (hentry "HEAD") (show segmentText? _ = some "b" by decide +kernel) (by decide)
  have hstorages : resource? (sending "POST" "/storageconfigs"
      (.obj [("storageName", .str "s")])).path = some (.collection .storage) := by
    decide +kernel
  have hschedule : resource? (sending "PUT" "/scheduleconfigs/s" (.obj [])).path =
      some (.entry .schedule (Text.Utf8.encode "s")) := by
    decide +kernel
  have hput : Dispatched (sending "PUT" "/scheduleconfigs/s" (.obj [])) .schedule "update" :=
    .update hschedule (show segmentText? _ = some "s" by decide +kernel) (by decide)
  have hrestores : resource? (bare "GET" "/restoreconfigs").path = some (.collection .restore) := by
    decide +kernel
  have hrestore : resource? (bare "DELETE" "/restoreconfigs/r").path =
      some (.entry .restore (Text.Utf8.encode "r")) := by
    decide +kernel
  have hdelete : Dispatched (bare "DELETE" "/restoreconfigs/r") .restore "delete" :=
    .delete hrestore (show segmentText? _ = some "r" by decide +kernel) (by decide)
  have hlook := hgrows 404 hhead (by decide +kernel)
  have hcreated := hgrows 200 (.create hstorages (by decide)) (by decide +kernel)
  have hunchanged := hgrows 500 hput (by decide +kernel)
  have hunlisted := hgrows 500 (.list hrestores (by decide)) (by decide +kernel)
  have hdeleted := hgrows 200 hdelete (by decide +kernel)
  exact ⟨hlook, hcreated, hunchanged, hunlisted, hdeleted, hnone,
    (requests_counted Memory.answer .empty .default _).2 hnone⟩

def overflowingPut : Request :=
  sending "PUT" "/backupconfigs/b"
    (.obj [("ttl", .str "340282366920938463463374607431768211.456us")])

/-- The check of the lifetime outgrows its width, so the change is handled and not counted. -/
theorem uncounted_overflow :
    Dispatched overflowingPut .backup "update" ∧ ∀ labels, growthBy overflowingPut labels = 0 := by
  constructor
  · have hresource : resource? overflowingPut.path = some (.entry .backup (Text.Utf8.encode "b")) := by
      decide +kernel
    exact .update hresource (show segmentText? _ = some "b" by decide +kernel) (by decide)
  · have hmetrics : ((serve .default overflowingPut).run Memory.answer .empty).metrics = [] := by
      decide +kernel
    intro labels
    rw [growthBy, hmetrics]
    rfl

end Http

end ClusterOperator
