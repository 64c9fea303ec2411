import ClusterOperator.Proofs.Http.Session
import ClusterOperator.Proofs.Interleaving
import ClusterOperator.Proofs.Request.Merging
import ClusterOperator.Proofs.Request.Normal
import ClusterOperator.Proofs.Request.Panicking

namespace ClusterOperator

open Repository (Memory)

/-- The status of a response to a request that breaks a rule. -/
def Violation.status : Violation → Nat
  | tooLong _ _ => 403
  | _ => 400

def Repository.Memory.lookup? (m : Memory) (k : Kind) (name : String) : Option k.Entry :=
  m.collections?.bind fun collections => Store.find? k name (collections.entries k)

theorem Repository.Memory.lookup?_eq (m : Memory) (k : Kind) (name : String) :
    m.lookup? k name = Store.find? k name ((m.collections?.getD .empty).entries k) := by
  rw [lookup?]
  cases m.collections? with
  | none => cases k <;> rfl
  | some collections => rfl

namespace Http

section Routes

structure ForCollection (k : Kind) (method : String) (request : Request) : Prop where
  method_eq : request.method = method
  resource_eq : resource? request.path = some (.collection k)

/-- The name stands for the last segment of the path, with its escapes decoded. -/
structure ForEntry (k : Kind) (name method : String) (request : Request) : Prop where
  method_eq : request.method = method
  exists_segment : ∃ segment, resource? request.path = some (.entry k segment) ∧
    segmentText? segment = some name

variable [Cron.Library] {s : ServiceSettings} {k : Kind} {name method : String} {request : Request}

theorem ForCollection.serve_eq (h : ForCollection k method request) (hmethod : method ≠ "HEAD") :
    serve s request = serveCollection s k method request := by
  obtain ⟨rfl, hresource⟩ := h
  simp only [serve, if_neg hmethod, serveMethod, hresource]

theorem ForEntry.serveMethod_eq (h : ForEntry k name method request) (other : String) :
    serveMethod s other request =
      if other = "PUT" then updateEntry s k name request
      else if other = "GET" then getEntry k name
      else if other = "DELETE" then deleteEntry s k name
      else .done (some methodNotAllowed) := by
  obtain ⟨-, segment, hresource, hname⟩ := h
  simp only [serveMethod, hresource, serveEntry, hname]

theorem ForEntry.serve_eq (h : ForEntry k name method request) (hmethod : method ≠ "HEAD") :
    serve s request = serveMethod s method request := by
  rw [serve, h.method_eq, if_neg hmethod]

end Routes

/-- The body of a response that gives a reason. -/
def reasonBody (reason : String) : Body :=
  .json (.obj [("reason", .str reason)])

def Body.IsReason (body : Body) : Prop :=
  ∃ reason, body = reasonBody reason

section Responses

theorem responseTo?_ofViolation (operation : Operation) {v : Violation} (h : v ≠ .panicked) :
    responseTo? operation (.error (.ofViolation v)) =
      some (.of v.status (reasonBody v.reason)) := by
  cases v with
  | panicked => exact absurd rfl h
  | _ => cases operation <;> rfl

theorem responseTo?_eq_none_iff {operation : Operation} {result : Except Failure Body} :
    responseTo? operation result = none ↔ result = .error .panicked := by
  cases result with
  | ok body => exact ⟨nofun, nofun⟩
  | error failure => cases failure <;> simp [responseTo?]

theorem isReason_of_responseTo?_error {operation : Operation} {failure : Failure} {r : Response}
    (h : responseTo? operation (.error failure) = some r) :
    r.body.IsReason ↔ r.status = 400 ∨ r.status = 403 := by
  cases failure with
  | panicked => cases h
  | invalid severity reason =>
      cases h
      refine ⟨fun _ => ?_, fun _ => ⟨reason, rfl⟩⟩
      cases severity with
      | semantic => exact .inl (by cases operation <;> rfl)
      | length => exact .inr (by cases operation <;> rfl)
  | _ =>
      cases h
      refine ⟨?_, ?_⟩
      · rintro ⟨reason, ⟨⟩⟩
      · cases operation <;> simp [Response.of, failureStatus, Failure.httpStatus]

theorem not_isReason_of_key {key : String} {value : Json} {members : List (String × Json)}
    (h : key ≠ "reason") : ¬Body.IsReason (.json (.obj ((key, value) :: members))) := by
  rintro ⟨reason, hbody⟩
  cases hbody
  exact h rfl

theorem not_isReason_viewJson {k : Kind} (e : k.Entry) : ¬Body.IsReason (.json (k.viewJson e)) := by
  cases k with
  | storage => exact not_isReason_of_key (by decide)
  | backup => exact not_isReason_of_key (by decide)
  | restore => exact not_isReason_of_key (by decide)
  | schedule => exact not_isReason_of_key (by decide)

theorem not_isReason_nameJson (k : Kind) (name : String) :
    ¬Body.IsReason (.json (k.nameJson name)) := by
  apply not_isReason_of_key
  cases k <;> decide

end Responses

/-- What is promised about a response: it leaves the memory as it is unless it reports success, and it
gives a reason if and only if its status says that a rule is broken. No response leaves the memory as
it is, too. -/
structure Orderly (m : Memory) (o : Outcome Memory (Option Response)) : Prop where
  unchanged : (∀ r, o.result = some r → r.status ≠ 200) → o.state = m
  reason : ∀ r, o.result = some r → (r.body.IsReason ↔ r.status = 400 ∨ r.status = 403)

section Runs

variable {s : ServiceSettings} {k : Kind} {m : Memory}

theorem run_respond (operation : Operation) (o : Store.Operation) (body : o.Result → Body) :
    ((respond k operation (showing body (o.job s.store))).run Memory.answer m).result =
        responseTo? operation ((o.perform m.collections?).1.map body) ∧
      ((respond k operation (showing body (o.job s.store))).run Memory.answer m).state =
        ((o.job s.store).run Memory.answer m).state := by
  obtain ⟨hresult, -⟩ := Store.run_job_perform s.store o m
  simp only [respond, showing, Program.andThen, Program.run_bind, ← hresult]
  cases ((o.job s.store).run Memory.answer m).result with
  | error failure => cases failure <;> exact ⟨rfl, rfl⟩
  | ok a => exact ⟨rfl, rfl⟩

theorem state_of_failed {o : Store.Operation} {failure : Failure}
    (h : (o.perform m.collections?).1 = .error failure) :
    ((o.job s.store).run Memory.answer m).state = m := by
  rw [Store.Operation.perform] at h
  rw [Store.run_job]
  cases heffect : o.effect m.collections? with
  | answer result => rfl
  | write collections value =>
      rw [heffect] at h
      cases h

theorem orderly_respond (operation : Operation) (o : Store.Operation) {body : o.Result → Body}
    (hbody : ∀ a, ¬(body a).IsReason) :
    Orderly m ((respond k operation (showing body (o.job s.store))).run Memory.answer m) := by
  obtain ⟨hresult, hstate⟩ := run_respond (s := s) (k := k) (m := m) operation o body
  cases hperform : (o.perform m.collections?).1 with
  | error failure =>
      rw [hperform] at hresult
      refine ⟨fun _ => hstate.trans (state_of_failed hperform), fun r hr => ?_⟩
      exact isReason_of_responseTo?_error (hresult.symm.trans hr)
  | ok a =>
      rw [hperform] at hresult
      refine ⟨fun h => absurd rfl (h _ hresult), fun r hr => ?_⟩
      cases hresult.symm.trans hr
      refine ⟨fun h => absurd h (hbody a), ?_⟩
      rintro (h | h) <;> cases h

theorem run_respond_error (operation : Operation) (failure : Failure) :
    ((respond k operation (.done (.error failure))).run Memory.answer m).result =
        responseTo? operation (.error failure) ∧
      ((respond k operation (.done (.error failure))).run Memory.answer m).state = m := by
  cases failure <;> exact ⟨rfl, rfl⟩

theorem orderly_refused (operation : Operation) (failure : Failure) :
    Orderly m ((respond k operation (.done (.error failure))).run Memory.answer m) := by
  obtain ⟨hresult, hstate⟩ := run_respond_error (m := m) (k := k) operation failure
  exact ⟨fun _ => hstate, fun r hr => isReason_of_responseTo?_error (hresult.symm.trans hr)⟩

theorem orderly_methodNotAllowed :
    Orderly m ((Program.done (some methodNotAllowed)).run Memory.answer m) := by
  refine ⟨fun _ => rfl, ?_⟩
  rintro r ⟨⟩
  constructor
  · rintro ⟨reason, ⟨⟩⟩
  · rintro (h | h) <;> cases h

end Runs

section Contracts

/-- What is said about a body that does not decode: what it failed at, the path to the trouble, and the
report of the reader with the place in the text. -/
def troubleSaid (source : List Text.Utf8.Symbol) (trouble : Json.Trouble) : String :=
  (if trouble.problem.isGrammar then "Failed to parse the request body as JSON: "
    else "Failed to deserialize the JSON body into the target type: ") ++
  (if trouble.path = [] then "" else Json.pathText trouble.path ++ ": ") ++
  match trouble.spot? source with
  | none => trouble.wording
  | some spot => trouble.wording ++ " at line " ++ toString (Json.Place.ofSpot source spot).line ++
      " column " ++ toString (Json.Place.ofSpot source spot).column

/-- The bodies that cannot be read, and what is said about them. -/
inductive Unreadable {α : Type} (maxBody : Nat) (decode : Json.Decoder α) (request : Request) :
    String → Prop
  | mediaType : saysJson request.contentType = false →
      Unreadable maxBody decode request "Expected request with `Content-Type: application/json`"
  | length : saysJson request.contentType = true → maxBody < request.body.length →
      Unreadable maxBody decode request "Failed to buffer the request body: length limit exceeded"
  | content {trouble} : saysJson request.contentType = true → request.body.length ≤ maxBody →
      Json.Decode.leading decode (Text.Utf8.decode request.body) = .error trouble →
      Unreadable maxBody decode request (troubleSaid (Text.Utf8.decode request.body) trouble)

variable [Cron.Library] (s : ServiceSettings) (m : Memory) (k : Kind)

/-- The response to a request in a memory, if there is one. -/
def response (request : Request) : Option Response :=
  ((serve s request).run Memory.answer m).result

/-- Responses to requests whose body is read first: one that cannot be read or that breaks a rule is
refused without a call of the repository. There is no response if the check panics, which it does over
nothing but a lifetime whose sums outgrow their width. -/
structure ReadsFirst {α : Type} (decode : Json.Decoder α) (validate : α → Verdict)
    (lifetime? : α → Option String) (request : Request) : Prop where
  undecodable : ∀ failure, readBody s.maxBody decode request = .error failure →
    ∃ text, Unreadable s.maxBody decode request text ∧
      (serve s request).result? = some (some (.of 500 (.text text)))
  invalid : ∀ a v, readBody s.maxBody decode request = .ok a → validate a = .error v →
    v ≠ .panicked → (serve s request).result? = some (some (.of v.status (reasonBody v.reason)))
  panics : ∀ a, readBody s.maxBody decode request = .ok a → validate a = .error .panicked →
    (∃ text, lifetime? a = some text ∧ Duration.parse text = .error .panicked) ∧
      (serve s request).result? = some none

/-- Responses to a request to create an entry. -/
structure CreateContract (request : Request) : Prop extends
    ReadsFirst s k.decodeRequest k.validateRequest k.lifetime? request where
  duplicated : ∀ asked, readBody s.maxBody k.decodeRequest request = .ok asked →
    k.validateRequest asked = .ok () → m.lookup? k (k.nameAsked asked) ≠ none →
      response s m request =
        some (.of 500 (.text (label k ++ " \"" ++ k.nameAsked asked ++ "\" duplicated")))
  created : ∀ asked, readBody s.maxBody k.decodeRequest request = .ok asked →
    k.validateRequest asked = .ok () → m.lookup? k (k.nameAsked asked) = none →
      (response s m request).map Response.status = some 200

/-- Responses to a request to change an entry. -/
structure UpdateContract (name : String) (request : Request) : Prop extends
    ReadsFirst s k.decodePatch k.validatePatch k.patchLifetime? request where
  missing : ∀ patch, readBody s.maxBody k.decodePatch request = .ok patch →
    k.validatePatch patch = .ok () → m.lookup? k name = none →
      (response s m request).map Response.status = some 500
  unfit : ∀ patch e, readBody s.maxBody k.decodePatch request = .ok patch →
    k.validatePatch patch = .ok () → m.lookup? k name = some e → ¬k.Fits patch e →
      ∃ reason, response s m request = some (.of 400 (reasonBody reason))
  changed : ∀ patch e, readBody s.maxBody k.decodePatch request = .ok patch →
    k.validatePatch patch = .ok () → m.lookup? k name = some e → k.Fits patch e →
      (response s m request).map Response.status = some 200

/-- Responses to requests about entries of a kind. -/
structure Contract : Prop where
  create : ∀ request, ForCollection k "POST" request → CreateContract s m k request
  update : ∀ name request, ForEntry k name "PUT" request → UpdateContract s m k name request
  get : ∀ name request, ForEntry k name "GET" request →
    (response s m request).map Response.status =
      some (if (m.lookup? k name).isSome then 200 else 404)
  list : ∀ request, ForCollection k "GET" request →
    (response s m request).map Response.status = some (if m.stored.isSome then 200 else 500)
  delete : ∀ name request, ForEntry k name "DELETE" request →
    (response s m request).map Response.status = some 200
  orderly_collection : ∀ method request, ForCollection k method request →
    Orderly m ((serve s request).run Memory.answer m)
  orderly_entry : ∀ name method request, ForEntry k name method request →
    Orderly m ((serve s request).run Memory.answer m)

end Contracts

section Reading

theorem troubleText_eq (source : List Text.Utf8.Symbol) (trouble : Json.Trouble) :
    troubleText source trouble = troubleSaid source trouble := by
  have hlocation : trouble.location =
      if trouble.path = [] then "" else Json.pathText trouble.path ++ ": " := by
    rw [Json.Trouble.location]
    split
    · rw [if_pos ‹_›]
    · rw [if_neg ‹_›]
  cases hspot : trouble.spot? source with
  | none => simp only [troubleText, troubleSaid, hlocation, Json.Trouble.report, hspot]
  | some spot => simp only [troubleText, troubleSaid, hlocation, Json.Trouble.report, hspot]

variable {request : Request}

theorem exists_unreadable {α : Type} {maxBody : Nat} {decode : Json.Decoder α} {failure : Failure}
    (h : readBody maxBody decode request = .error failure) :
    ∃ text, Unreadable maxBody decode request text ∧ failure = .undecodable text := by
  simp only [readBody] at h
  split at h
  · rename_i htype
    cases h
    exact ⟨_, .mediaType (by simpa using htype), rfl⟩
  · rename_i htype
    have htype : saysJson request.contentType = true := by simpa using htype
    split at h
    · rename_i hlong
      cases h
      exact ⟨_, .length htype hlong, rfl⟩
    · rename_i hfits
      simp only [decodeBody] at h
      split at h
      · cases h
      · rename_i trouble hdecode
        cases h
        rw [troubleText_eq]
        exact ⟨_, .content htype (Nat.not_lt.mp hfits) hdecode, rfl⟩

variable [Cron.Library] {s : ServiceSettings} {k : Kind} {name : String}

theorem readEntry_eq {asked : k.Request} {e : k.Entry}
    (hread : readBody s.maxBody k.decodeRequest request = .ok asked)
    (hvalid : k.validateRequest asked = .ok ()) (hentry : k.entryOf asked = .ok e) :
    readEntry s k request = .ok e := by
  simp only [readEntry, hread, bind, Except.bind, hvalid, hentry, orInvalid]

theorem readPatch_eq {patch : k.Patch} (hread : readBody s.maxBody k.decodePatch request = .ok patch)
    (hvalid : k.validatePatch patch = .ok ()) : readPatch s k request = .ok patch := by
  simp only [readPatch, hread, bind, Except.bind, hvalid, orInvalid]
  rfl

/-- Whatever follows the reading and the check of a body, neither calls the repository. -/
theorem readsFirst_of_serve_eq {α β : Type} {decode : Json.Decoder α} {validate : α → Verdict}
    {lifetime? : α → Option String} {operation : Operation} {next : α → Except Failure β}
    {job : β → Repository.Job Body}
    (hlifetime : ∀ a, validate a = .error .panicked →
      ∃ text, lifetime? a = some text ∧ Duration.parse text = .error .panicked)
    (hserve : serve s request = respond k operation (ifRead (do
      let a ← readBody s.maxBody decode request
      orInvalid (validate a)
      next a) job)) : ReadsFirst s decode validate lifetime? request where
  undecodable := by
    intro failure hread
    obtain ⟨text, hunreadable, rfl⟩ := exists_unreadable hread
    refine ⟨text, hunreadable, ?_⟩
    rw [hserve, hread]
    cases operation <;> rfl
  invalid := by
    intro a v hread hvalid hpanicked
    rw [hserve, hread, ← responseTo?_ofViolation operation hpanicked]
    simp only [bind, Except.bind, hvalid, orInvalid]
    cases v <;> rfl
  panics := by
    intro a hread hvalid
    refine ⟨hlifetime a hvalid, ?_⟩
    rw [hserve, hread]
    simp only [bind, Except.bind, hvalid, orInvalid]
    rfl

theorem ForCollection.serve_post (h : ForCollection k "POST" request) :
    serve s request = createEntry s k request :=
  h.serve_eq (by decide)

theorem ForEntry.serve_put (h : ForEntry k name "PUT" request) :
    serve s request = updateEntry s k name request :=
  (h.serve_eq (by decide)).trans (h.serveMethod_eq "PUT")

theorem ForEntry.serve_get (h : ForEntry k name "GET" request) :
    serve s request = getEntry k name :=
  (h.serve_eq (by decide)).trans (h.serveMethod_eq "GET")

theorem ForEntry.serve_delete (h : ForEntry k name "DELETE" request) :
    serve s request = deleteEntry s k name :=
  (h.serve_eq (by decide)).trans (h.serveMethod_eq "DELETE")

theorem ForCollection.serve_get (h : ForCollection k "GET" request) :
    serve s request = listEntries k :=
  h.serve_eq (by decide)

end Reading

section Performing

variable {m : Memory} {k : Kind} {name : String}

theorem perform_create (e : k.Entry) :
    ((Store.Operation.change (.create k e)).perform m.collections?).1 =
      if (m.lookup? k (k.nameOf e)).isSome then .error (.duplicated k.title (k.nameOf e))
      else .ok (k.nameOf e) := by
  simp only [Store.Operation.perform, Store.Operation.effect, Store.Change.effect, ← Memory.lookup?_eq]
  split <;> rfl

theorem perform_update (apply : k.Entry → Except Failure k.Entry) :
    ((Store.Operation.change (.update k name apply)).perform m.collections?).1 =
      match m.lookup? k name with
      | some e => apply e
      | none => .error (if m.stored.isSome then .noEntry k.title name else .noConfiguration) := by
  rw [Memory.lookup?, Memory.collections?]
  cases m.stored with
  | none => rfl
  | some config =>
      simp only [Store.Operation.perform, Store.Operation.effect, Store.Change.effect,
        Option.map_some, Option.bind_some]
      cases Store.find? k name (config.collections.entries k) with
      | none => rfl
      | some e =>
          cases happly : apply e with
          | error failure => simp only [Store.Effect.apply, happly]
          | ok changed => simp only [Store.Effect.apply, happly]

theorem perform_get :
    ((Store.Operation.get k name).perform m.collections?).1 =
      match m.lookup? k name with
      | some e => .ok e
      | none => .error (.noEntry k.title name) := by
  simp only [Store.Operation.perform, Store.Operation.effect, Memory.lookup?]
  split <;> simp only [*] <;> rfl

theorem perform_delete :
    ((Store.Operation.change (.delete k name)).perform m.collections?).1 = .ok () := by
  simp only [Store.Operation.perform, Store.Operation.effect]
  cases m.collections? with
  | none => rfl
  | some collections =>
      simp only [Store.Change.effect]
      split <;> rfl

end Performing

section Kept

variable {s : ServiceSettings} {m : Memory} {k : Kind} {name method : String} {request : Request}

theorem status_getEntry : ((getEntry k name).run Memory.answer m).result.map Response.status =
    some (if (m.lookup? k name).isSome then 200 else 404) := by
  obtain ⟨hresult, -⟩ := run_respond (s := .default) (k := k) (m := m) .get (.get k name)
    fun e => .json (k.viewJson e)
  rw [perform_get] at hresult
  refine (congrArg (Option.map Response.status) hresult).trans ?_
  cases m.lookup? k name with
  | none => rfl
  | some e => rfl

theorem status_listEntries : ((listEntries k).run Memory.answer m).result.map Response.status =
    some (if m.stored.isSome then 200 else 500) := by
  obtain ⟨hresult, -⟩ := run_respond (s := .default) (k := k) (m := m) .list (.list k)
    fun entries => .json (k.listJson entries)
  refine (congrArg (Option.map Response.status) hresult).trans ?_
  rw [Memory.collections?]
  cases m.stored with
  | none => rfl
  | some config => rfl

variable [Cron.Library]

theorem response_create (h : ForCollection k "POST" request) {asked : k.Request}
    (hread : readBody s.maxBody k.decodeRequest request = .ok asked)
    (hvalid : k.validateRequest asked = .ok ()) :
    response s m request = responseTo? .create
      (if (m.lookup? k (k.nameAsked asked)).isSome then .error (.duplicated k.title (k.nameAsked asked))
      else .ok (.json (k.nameJson (k.nameAsked asked)))) := by
  obtain ⟨e, hentry, hname, -⟩ := Kind.exists_entry hvalid
  obtain ⟨hresult, -⟩ := run_respond (s := s) (k := k) (m := m) .create (.change (.create k e))
    fun name => .json (k.nameJson name)
  rw [response, h.serve_post, createEntry, readEntry_eq hread hvalid hentry, ← hname]
  refine hresult.trans (congrArg (responseTo? .create) ?_)
  rw [perform_create]
  split <;> rfl

theorem response_update (h : ForEntry k name "PUT" request) {patch : k.Patch}
    (hread : readBody s.maxBody k.decodePatch request = .ok patch)
    (hvalid : k.validatePatch patch = .ok ()) :
    response s m request = responseTo? .update
      (match m.lookup? k name with
      | some e => (k.change patch e).map fun changed => .json (k.viewJson changed)
      | none => .error (if m.stored.isSome then .noEntry k.title name else .noConfiguration)) := by
  obtain ⟨hresult, -⟩ := run_respond (s := s) (k := k) (m := m) .update
    (.change (.update k name (k.change patch))) fun changed => .json (k.viewJson changed)
  rw [response, h.serve_put, updateEntry, readPatch_eq hread hvalid]
  refine hresult.trans (congrArg (responseTo? .update) ?_)
  rw [perform_update]
  cases m.lookup? k name with
  | none => rfl
  | some e => rfl

theorem createContract (h : ForCollection k "POST" request) : CreateContract s m k request where
  toReadsFirst := readsFirst_of_serve_eq
    (fun _ => Kind.parse_of_validateRequest_panicked) h.serve_post
  duplicated := by
    intro asked hread hvalid hstored
    rw [response_create h hread hvalid, if_pos (Option.isSome_iff_ne_none.mpr hstored),
      title_eq_label]
    rfl
  created := by
    intro asked hread hvalid hstored
    rw [response_create h hread hvalid, hstored]
    rfl

theorem sound_of_lookup? (hm : StoresValid m) {e : k.Entry} (h : m.lookup? k name = some e) :
    k.Sound e := by
  rw [Memory.lookup?] at h
  obtain ⟨collections, hstored, hentry⟩ := Option.bind_eq_some_iff.mp h
  obtain ⟨hmem, -⟩ := Store.find?_eq_some hentry
  exact (hm collections hstored).sound k e hmem

theorem updateContract (hm : StoresValid m) (h : ForEntry k name "PUT" request) :
    UpdateContract s m k name request where
  toReadsFirst := readsFirst_of_serve_eq (fun _ => Kind.parse_of_validatePatch_panicked) h.serve_put
  missing := by
    intro patch hread hvalid hstored
    rw [response_update h hread hvalid, hstored]
    simp only
    split <;> rfl
  unfit := by
    intro patch e hread hvalid hstored hfits
    rcases Kind.change_cases hvalid (sound_of_lookup? hm hstored) with ⟨hfits', -⟩ | ⟨-, v, hv, hchange⟩
    · exact absurd hfits' hfits
    · refine ⟨v.reason, ?_⟩
      rw [response_update h hread hvalid, hstored]
      simp only [hchange, Except.map]
      rcases hv with rfl | rfl <;> rfl
  changed := by
    intro patch e hread hvalid hstored hfits
    rcases Kind.change_cases hvalid (sound_of_lookup? hm hstored) with
      ⟨-, changed, hchange, -⟩ | ⟨hfits', -⟩
    · rw [response_update h hread hvalid, hstored]
      simp only [hchange]
      rfl
    · exact absurd hfits hfits'

theorem status_delete (h : ForEntry k name "DELETE" request) :
    (response s m request).map Response.status = some 200 := by
  obtain ⟨hresult, -⟩ := run_respond (s := s) (k := k) (m := m) .delete (.change (.delete k name))
    fun () => .empty
  rw [perform_delete] at hresult
  rw [response, h.serve_delete]
  exact congrArg (Option.map Response.status) hresult

end Kept

section Order

variable {s : ServiceSettings} {m : Memory} {k : Kind} {name method : String} {request : Request}

theorem orderly_getEntry : Orderly m ((getEntry k name).run Memory.answer m) :=
  orderly_respond (s := .default) .get (.get k name) not_isReason_viewJson

theorem orderly_listEntries : Orderly m ((listEntries k).run Memory.answer m) :=
  orderly_respond (s := .default) .list (.list k) fun _ => not_isReason_of_key (by decide)

theorem orderly_deleteEntry : Orderly m ((deleteEntry s k name).run Memory.answer m) :=
  orderly_respond .delete (.change (.delete k name)) (by rintro _ ⟨reason, ⟨⟩⟩)

/-- The head of a response has no body, so its status must not say that a rule is broken. -/
theorem Orderly.headOnly {p : Handling} (h : Orderly m (p.run Memory.answer m)) {status : Nat}
    (hstatus : (p.run Memory.answer m).result.map Response.status = some status)
    (hbroken : ¬(status = 400 ∨ status = 403)) :
    Orderly m ((p.bind fun r => .done (r.map Response.headOnly)).run Memory.answer m) := by
  obtain ⟨response, hresponse, rfl⟩ := Option.map_eq_some_iff.mp hstatus
  have hheads : ((p.bind fun r => .done (r.map Response.headOnly)).run Memory.answer m).result =
      some response.headOnly := by
    rw [Program.run_bind]
    simp only [Program.run, hresponse, Option.map_some]
  rw [Program.run_bind] at hheads ⊢
  constructor
  · intro hother
    apply h.unchanged
    rintro r hr
    cases hresponse.symm.trans hr
    exact hother response.headOnly hheads
  · rintro r hr
    cases hheads.symm.trans hr
    refine ⟨?_, fun h => absurd h hbroken⟩
    rintro ⟨reason, ⟨⟩⟩

variable [Cron.Library]

theorem orderly_createEntry : Orderly m ((createEntry s k request).run Memory.answer m) := by
  rw [createEntry]
  cases readEntry s k request with
  | error failure => exact orderly_refused .create failure
  | ok e => exact orderly_respond .create (.change (.create k e)) (not_isReason_nameJson k)

theorem orderly_updateEntry : Orderly m ((updateEntry s k name request).run Memory.answer m) := by
  rw [updateEntry]
  cases readPatch s k request with
  | error failure => exact orderly_refused .update failure
  | ok patch =>
      exact orderly_respond .update (.change (.update k name (k.change patch))) not_isReason_viewJson

theorem ForCollection.orderly (h : ForCollection k method request) :
    Orderly m ((serve s request).run Memory.answer m) := by
  by_cases hhead : method = "HEAD"
  · have hserve : serve s request =
        (listEntries k).bind fun r => .done (r.map Response.headOnly) := by
      rw [serve, h.method_eq, if_pos hhead, serveMethod, h.resource_eq]
      rfl
    rw [hserve]
    apply orderly_listEntries.headOnly status_listEntries
    split <;> decide
  · rw [h.serve_eq hhead, serveCollection]
    split
    · exact orderly_createEntry
    · split
      · exact orderly_listEntries
      · exact orderly_methodNotAllowed

theorem ForEntry.orderly (h : ForEntry k name method request) :
    Orderly m ((serve s request).run Memory.answer m) := by
  by_cases hhead : method = "HEAD"
  · have hserve : serve s request =
        (getEntry k name).bind fun r => .done (r.map Response.headOnly) := by
      rw [serve, h.method_eq, if_pos hhead, h.serveMethod_eq]
      rfl
    rw [hserve]
    apply orderly_getEntry.headOnly status_getEntry
    split <;> decide
  · rw [h.serve_eq hhead, h.serveMethod_eq]
    split
    · exact orderly_updateEntry
    · split
      · exact orderly_getEntry
      · split
        · exact orderly_deleteEntry
        · exact orderly_methodNotAllowed

end Order

/-- After any requests, every request about entries of a kind is answered as promised, unless the check of
its lifetime panics. -/
theorem contract_answerAll [Cron.Library] (s : ServiceSettings) (requests : List Request) (k : Kind) :
    Contract s (answerAll s requests Memory.empty) k where
  create := fun _ h => createContract h
  update := fun _ _ h => updateContract (storesValid_answerAll s requests nofun) h
  get := by
    intro name request h
    rw [response, h.serve_get]
    exact status_getEntry
  list := by
    intro request h
    rw [response, h.serve_get]
    exact status_listEntries
  delete := fun _ _ h => status_delete h
  orderly_collection := fun _ _ h => h.orderly
  orderly_entry := fun _ _ _ h => h.orderly

theorem contract_answerAll_backupSession :
    (serve .default (sending "POST" "/backupconfigs" (.obj []))).result? =
        some (some (.of 400 (reasonBody "Invalid BackupName : "))) ∧
      (response .default (answerAll .default backupSession Memory.empty)
        (sending "GET" "/backupconfigs" .null)).map Response.status = some 200 := by
  have h := contract_answerAll .default backupSession .backup
  have hpost : ForCollection .backup "POST" (sending "POST" "/backupconfigs" (.obj [])) :=
    ⟨rfl, by decide +kernel⟩
  have hlist : ForCollection .backup "GET" (sending "GET" "/backupconfigs" .null) :=
    ⟨rfl, by decide +kernel⟩
  refine ⟨(h.create _ hpost).invalid BackupRequest.empty (.malformed "BackupName" "") ?_ ?_ ?_, ?_⟩
  · decide +kernel
  · decide +kernel
  · intro hpanicked
    cases hpanicked
  · rw [h.list _ hlist]
    decide +kernel

/-- A backup whose lifetime is taken for one that outgrows its width. -/
def overflowingRequest : BackupRequest where
  name := "b"
  fields := { BackupPatch.empty with
    isOneTime := some true
    storageLocation := "s"
    ttl := "340282366920938463463374607431768211.456us" }

/-- The request is read, and it does not pass its check, but it is not answered. -/
theorem unanswered_overflow :
    ForCollection .backup "POST" (sending "POST" "/backupconfigs" overflowingRequest.toJson) ∧
      readBody ServiceSettings.default.maxBody (Kind.decodeRequest .backup)
          (sending "POST" "/backupconfigs" overflowingRequest.toJson) = .ok overflowingRequest ∧
      Kind.validateRequest .backup overflowingRequest ≠ .ok () ∧
      response .default Memory.empty
        (sending "POST" "/backupconfigs" overflowingRequest.toJson) = none := by
  have hpost : ForCollection .backup "POST"
      (sending "POST" "/backupconfigs" overflowingRequest.toJson) :=
    ⟨rfl, by decide +kernel⟩
  have hread : readBody ServiceSettings.default.maxBody (Kind.decodeRequest .backup)
      (sending "POST" "/backupconfigs" overflowingRequest.toJson) = .ok overflowingRequest := by
    decide +kernel
  have hpanicked : Kind.validateRequest .backup overflowingRequest = .error .panicked := by
    decide +kernel
  have hcontract := createContract (s := .default) (m := Memory.empty) hpost
  obtain ⟨-, hnone⟩ := hcontract.panics overflowingRequest hread hpanicked
  refine ⟨hpost, hread, fun hvalid => ?_, (Program.run_of_result? hnone Memory.answer _).1⟩
  cases hpanicked.symm.trans hvalid

end Http

end ClusterOperator
