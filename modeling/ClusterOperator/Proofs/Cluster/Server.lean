import ClusterOperator.Cluster.Client
import ClusterOperator.Cluster.Script
import ClusterOperator.Proofs.Http.Target
import ClusterOperator.Proofs.Json.Order
import ClusterOperator.Proofs.Number.Digits
import ClusterOperator.Proofs.Validation.Verdict

/-!
What is expected of a server that keeps objects: it stores the object that it is sent, its members
in any order, under a version that it has not given before, and refuses to create what exists, and
to replace what its writer has not seen.

This is said of one object, whatever else the server does, and of objects whose numbers are integers
of 64 bits.
-/

namespace ClusterOperator

namespace Json

theorem Reordered.exists_at? {v w : Json} (h : v.Reordered w) {key : String} {value : Json}
    (hvalue : v.at? key = some value) :
    ∃ value', w.at? key = some value' ∧ value.Reordered value' := by
  induction h generalizing value with
  | refl => exact ⟨value, hvalue, .refl value⟩
  | trans _ _ first second =>
      obtain ⟨middle, hmiddle, hfirst⟩ := first hvalue
      obtain ⟨last, hlast, hsecond⟩ := second hmiddle
      exact ⟨last, hlast, hfirst.trans hsecond⟩
  | members distinct perm =>
      rw [Json.at?, lookup_of_perm distinct perm] at hvalue
      exact ⟨value, hvalue, .refl value⟩
  | member front key back inner =>
      exact (memberwise_of_one inner .refl front key back).lookup hvalue
  | item => cases hvalue

end Json

namespace Cluster

open Json

/-- The name in the metadata of an object. -/
def nameOf (object : Json) : Option String :=
  (object.at? "metadata").bind (textAt? "name")

/-- The version in the metadata of an object. -/
def versionOf (object : Json) : Option String :=
  (object.at? "metadata").bind (textAt? "resourceVersion")

/-- The object with a version in its metadata. -/
def stamped (version : String) : Json → Json
  | obj members =>
      obj (members.map fun m =>
        if m.1 = "metadata" then (m.1, m.2.withText "resourceVersion" version) else m)
  | other => other

theorem versionOf_of_reordered {object object' : Json} (h : object.Reordered object')
    {version : String} (hversion : versionOf object = some version) :
    versionOf object' = some version := by
  rw [versionOf, Option.bind_eq_some_iff] at hversion ⊢
  obtain ⟨metadata, hmetadata, htext⟩ := hversion
  obtain ⟨metadata', hmetadata', hreordered⟩ := h.exists_at? hmetadata
  obtain ⟨value, hvalue, hsame⟩ := hreordered.exists_at? (textAt?_eq_some_iff.mp htext)
  refine ⟨metadata', hmetadata', textAt?_eq_some_iff.mpr ?_⟩
  rw [hvalue, hsame.eq_str rfl]

theorem isPlain_stamped {object : Json} (h : object.IsPlain) (version : String) :
    (stamped version object).IsPlain := by
  cases object with
  | obj members =>
      rw [isPlain_obj_iff] at h
      refine .obj fun m hm => ?_
      obtain ⟨m', hm', rfl⟩ := List.mem_map.mp hm
      split
      · exact (h m' hm').withText _ _
      · exact h m' hm'
  | _ => exact h

namespace Response

/-- An answer that holds an object, its members in any order, and nothing behind it but blanks. -/
structure Holds (r : Response) (object : Json) : Prop where
  accepts : r.isRefusal = false
  reads : ∃ shown rest, object.Reordered shown ∧
    Outline.read r.source = (outline shown, .ok rest) ∧ skipGap rest = []

/-- An answer that refuses a request and says why. -/
structure Refuses (r : Response) (status : Nat) (reason : String) : Prop where
  status_eq : r.status = status
  reads : ∃ said, Decode.whole decodeStatus r.source = .ok said ∧ said.code = status ∧
    said.reason = reason

variable {r : Response} {α : Type}

theorem Holds.object_eq {object : Json} (h : r.Holds object) {decode : Decoder α}
    (hsteady : decode.Steady) {a : α} (hdecode : decode (outline object) = .ok a) :
    r.object decode = .ok a := by
  obtain ⟨shown, rest, hshown, hread, hrest⟩ := h.reads
  have hwhole : Decode.whole decode r.source = .ok a := by
    rw [Decode.whole, hread]
    simp only [hsteady hshown hdecode, Except.map, hrest]
    rfl
  simp [Response.object, h.accepts, hwhole]

theorem Refuses.object_eq {status : Nat} {reason : String} (h : r.Refuses status reason)
    (decode : Decoder α) (hstatus : 400 ≤ status ∧ status < 600) :
    ∃ said, r.object decode = .error (.api said) ∧ said.reason = reason := by
  obtain ⟨said, hsaid, -, hreason⟩ := h.reads
  refine ⟨said, ?_, hreason⟩
  have hrefusal : r.isRefusal = true := by
    simp [Response.isRefusal, h.status_eq, hstatus]
  simp [Response.object, Response.refusal, hrefusal, hsaid]

theorem object_render {value : Json} {decode : Decoder α} {a : α}
    (h : Decode.whole decode (symbols value.chars) = .ok a) :
    Response.object decode ⟨200, value.render⟩ = .ok a := by
  have hsource : source ⟨200, value.render⟩ = symbols value.chars := by
    rw [source, Json.render, String.toList_ofList]
    rfl
  simp [Response.object, isRefusal, hsource, h]

theorem holds_render {object : Json} (h : object.IsPlain) {status : Nat} (hstatus : status < 400) :
    Holds ⟨status, object.render⟩ object := by
  constructor
  · simp [Response.isRefusal, Nat.not_le.mpr hstatus]
  · refine ⟨object, [], .refl object, ?_, rfl⟩
    rw [Response.source, Json.render, String.toList_ofList]
    exact h.spells.read_eq

end Response

/-- A server of which one object is looked at: how it answers, the object in a state, the versions
that it has given by then, and the state that it starts in. -/
structure Server (σ : Type) where
  answer : Handler interface σ
  object? : σ → Option Json
  /-- Whether a version was given to an object before. -/
  given : σ → String → Prop
  start : σ

namespace Server

variable {σ : Type}

/-- What a server answers to a request. -/
def reply (server : Server σ) (request : Request) (s : σ) : Response :=
  (server.answer (.send request) s).1

/-- The state of a server after a request. -/
def after (server : Server σ) (request : Request) (s : σ) : σ :=
  (server.answer (.send request) s).2

/-- A request is refused and leaves the object and the versions as they are. -/
structure Rejects (server : Server σ) (request : Request) (s : σ) (status : Nat) (reason : String) :
    Prop where
  refuses : (server.reply request s).Refuses status reason
  object_eq : server.object? (server.after request s) = server.object? s
  given_iff : ∀ v, server.given (server.after request s) v ↔ server.given s v

/-- The object of a request is stored under a version that is new, its members in any order. -/
structure Stores (server : Server σ) (request : Request) (s : σ) (object : Json)
    (version : String) : Prop where
  fresh : ¬server.given s version
  holds : (server.reply request s).Holds (stamped version object)
  stored : ∃ stored, (stamped version object).Reordered stored ∧
    server.object? (server.after request s) = some stored
  given_iff : ∀ v, server.given (server.after request s) v ↔ v = version ∨ server.given s v

/-- The server keeps the object of a name in a collection. -/
structure Keeps (server : Server σ) (collection name : String) : Prop where
  start : server.object? server.start = none
  get_missing : ∀ {request s}, Request.get collection name = .ok request →
    server.object? s = none → server.Rejects request s 404 "NotFound"
  get : ∀ {request s object}, Request.get collection name = .ok request →
    server.object? s = some object → object.IsPlain →
    (server.reply request s).Holds object ∧
      server.object? (server.after request s) = some object ∧
      ∀ v, server.given (server.after request s) v ↔ server.given s v
  post : ∀ {request s object}, Request.post collection object = .ok request →
    nameOf object = some name → versionOf object = none → object.IsPlain →
    server.object? s = none → ∃ version, server.Stores request s object version
  post_existing : ∀ {request s object}, Request.post collection object = .ok request →
    nameOf object = some name → (server.object? s).isSome →
    server.Rejects request s 409 "AlreadyExists"
  put : ∀ {request s stored object}, Request.put collection name object = .ok request →
    object.IsPlain → server.object? s = some stored → versionOf object = versionOf stored →
    ∃ version, server.Stores request s object version
  put_stale : ∀ {request s stored object}, Request.put collection name object = .ok request →
    server.object? s = some stored → (versionOf object).isSome →
    versionOf object ≠ versionOf stored → server.Rejects request s 409 "Conflict"

end Server

namespace Request

variable {collection name : String} {body : Json} {request : Request}

theorem of_eq_ok {method address : String} {contentType : Option String} {body : Option Json}
    (h : Request.of method address contentType body = .ok request) :
    request.method = method ∧ request.body = body := by
  rw [Request.of] at h
  split at h
  · cases h
    exact ⟨rfl, rfl⟩
  · cases h

theorem of_address (method : String) {address mark : String} {bound : Nat}
    (h : Http.IsAddress address bound) (hbound : bound < Http.longestTarget) (hmark : mark = "" ∨ mark = "?")
    (contentType : Option String) (body : Option Json) :
    Request.of method (address ++ mark) contentType body =
      .ok ⟨method, ⟨Text.Utf8.encode address, []⟩, contentType, body⟩ := by
  rw [Request.of, h.parse_eq hbound hmark]

theorem get_eq (h : name ≠ "") :
    Request.get collection name = Request.of "GET" (collection ++ "/" ++ name) none none := by
  rw [Request.get, objectAddress, if_neg h]
  rfl

theorem put_eq (h : name ≠ "") (body : Json) :
    Request.put collection name body =
      Request.of "PUT" (collection ++ "/" ++ name ++ "?") (some "application/json")
        (some body) := by
  rw [Request.put, objectAddress, if_neg h]
  rfl

theorem body_of_get (h : Request.get collection name = .ok request) : request.body = none := by
  simp only [Request.get, bind_eq_ok] at h
  obtain ⟨address, -, h⟩ := h
  exact (of_eq_ok h).2

theorem of_post (h : Request.post collection body = .ok request) :
    request.method = "POST" ∧ request.body = some body :=
  of_eq_ok h

theorem of_put (h : Request.put collection name body = .ok request) :
    request.method = "PUT" ∧ request.body = some body := by
  simp only [Request.put, bind_eq_ok] at h
  obtain ⟨address, -, h⟩ := h
  exact of_eq_ok h

end Request

/-- An object, and how often it was written. -/
structure Numbered where
  object : Option Json
  writes : Nat
deriving Inhabited

namespace Numbered

/-- An answer that refuses a request. -/
def refusal (status : Nat) (message reason : String) : Response :=
  ⟨status, (ScriptedAnswer.refusalJson status message reason).render⟩

def store (s : Numbered) (status : Nat) (object : Json) : Response × Numbered :=
  let stored := stamped (toString (s.writes + 1)) object
  (⟨status, stored.render⟩, ⟨some stored, s.writes + 1⟩)

def respond (request : Request) (s : Numbered) : Response × Numbered :=
  match request.body, s.object with
  | none, none => (refusal 404 "not found" "NotFound", s)
  | none, some object => (⟨200, object.render⟩, s)
  | some object, none =>
      if request.method = "POST" then s.store 201 object
      else (refusal 404 "not found" "NotFound", s)
  | some object, some stored =>
      if request.method = "POST" then (refusal 409 "already exists" "AlreadyExists", s)
      else if versionOf object = versionOf stored then s.store 200 object
      else (refusal 409 "the object has been modified" "Conflict", s)

/-- A server whose versions are the numbers of its writes. It has one object, whatever the
address. -/
def server : Server Numbered where
  answer
    | .send request, s => respond request s
    | .publish _ _, s => ((), s)
  object? := Numbered.object
  given := fun s version => ∃ n < s.writes, version = toString (n + 1)
  start := default

theorem refuses_refusal {status : Nat} {reason : String} (message : String)
    (h : (status, reason) ∈ [(404, "NotFound"), (409, "AlreadyExists"), (409, "Conflict")]) :
    (refusal status message reason).Refuses status reason := by
  have hcase : (status = 404 ∧ reason = "NotFound") ∨ (status = 409 ∧ reason = "AlreadyExists") ∨
      (status = 409 ∧ reason = "Conflict") := by
    simpa using h
  have hplain : (ScriptedAnswer.refusalJson status message reason).IsPlain := by
    have hword : IsWord status := by
      rcases hcase with ⟨rfl, -⟩ | ⟨rfl, -⟩ | ⟨rfl, -⟩ <;> exact ⟨by decide, by decide⟩
    simp [ScriptedAnswer.refusalJson, isPlain_obj_iff, IsPlain.str, IsPlain.int hword]
  refine ⟨rfl, ⟨"Failure", message, reason, status⟩, ?_, rfl, rfl⟩
  rw [Response.source, refusal, Json.render, String.toList_ofList, ← symbols,
    hplain.spells.whole_eq]
  rcases hcase with ⟨rfl, rfl⟩ | ⟨rfl, rfl⟩ | ⟨rfl, rfl⟩ <;> rfl

section Respond

variable {request : Request} {s : Numbered}

theorem stores_store {object : Json} {status : Nat} (hobject : object.IsPlain)
    (hstatus : status < 400) (h : respond request s = s.store status object) :
    server.Stores request s object (toString (s.writes + 1)) where
  fresh := by
    rintro ⟨n, hn, heq⟩
    have hsame := Digits.toString_injective heq
    omega
  holds := by
    change (respond request s).1.Holds _
    rw [h]
    exact Response.holds_render (isPlain_stamped hobject _) hstatus
  stored := by
    refine ⟨stamped (toString (s.writes + 1)) object, .refl _, ?_⟩
    change (respond request s).2.object = _
    rw [h]
    rfl
  given_iff := by
    intro v
    change (∃ n < (respond request s).2.writes, _) ↔ _ ∨ ∃ n < s.writes, _
    rw [h]
    constructor
    · rintro ⟨n, hn, rfl⟩
      rcases Nat.lt_succ_iff_lt_or_eq.mp hn with hn | rfl
      · exact .inr ⟨n, hn, rfl⟩
      · exact .inl rfl
    · rintro (rfl | ⟨n, hn, rfl⟩)
      · exact ⟨s.writes, Nat.lt_succ_self _, rfl⟩
      · exact ⟨n, Nat.lt_succ_of_lt hn, rfl⟩

theorem rejects_refusal {status : Nat} {message reason : String}
    (hreason : (status, reason) ∈ [(404, "NotFound"), (409, "AlreadyExists"), (409, "Conflict")])
    (h : respond request s = (refusal status message reason, s)) :
    server.Rejects request s status reason where
  refuses := by
    change (respond request s).1.Refuses status reason
    rw [h]
    exact refuses_refusal message hreason
  object_eq := by
    change (respond request s).2.object = s.object
    rw [h]
  given_iff := by
    intro v
    change (∃ n < (respond request s).2.writes, _) ↔ ∃ n < s.writes, _
    rw [h]

end Respond

theorem keeps (collection name : String) : server.Keeps collection name where
  start := rfl
  get_missing := by
    intro request s hrequest hobject
    have hobject : s.object = none := hobject
    apply rejects_refusal (by decide)
    rw [respond, Request.body_of_get hrequest, hobject]
  get := by
    intro request s object hrequest hobject hplain
    have hobject : s.object = some object := hobject
    have h : respond request s = (⟨200, object.render⟩, s) := by
      rw [respond, Request.body_of_get hrequest, hobject]
    refine ⟨?_, ?_, fun v => ?_⟩
    · change (respond request s).1.Holds object
      rw [h]
      exact Response.holds_render hplain (by decide)
    · change (respond request s).2.object = some object
      rw [h, hobject]
    · change (∃ n < (respond request s).2.writes, _) ↔ ∃ n < s.writes, _
      rw [h]
  post := by
    intro request s object hrequest _ _ hplain hobject
    have hobject : s.object = none := hobject
    obtain ⟨hmethod, hbody⟩ := Request.of_post hrequest
    have h : respond request s = s.store 201 object := by
      rw [respond, hbody, hobject]
      exact if_pos hmethod
    exact ⟨_, stores_store hplain (by decide) h⟩
  post_existing := by
    intro request s object hrequest _ hobject
    obtain ⟨stored, hobject⟩ := Option.isSome_iff_exists.mp hobject
    have hobject : s.object = some stored := hobject
    obtain ⟨hmethod, hbody⟩ := Request.of_post hrequest
    apply rejects_refusal (by decide)
    rw [respond, hbody, hobject]
    exact if_pos hmethod
  put := by
    intro request s stored object hrequest hplain hobject hversion
    have hobject : s.object = some stored := hobject
    obtain ⟨hmethod, hbody⟩ := Request.of_put hrequest
    have h : respond request s = s.store 200 object := by
      rw [respond, hbody, hobject]
      simp [hmethod, hversion]
    exact ⟨_, stores_store hplain (by decide) h⟩
  put_stale := by
    intro request s stored object hrequest hobject _ hversion
    have hobject : s.object = some stored := hobject
    obtain ⟨hmethod, hbody⟩ := Request.of_put hrequest
    apply rejects_refusal (by decide)
    rw [respond, hbody, hobject]
    simp only [hmethod, if_neg hversion]
    rfl

end Numbered

end Cluster

end ClusterOperator
