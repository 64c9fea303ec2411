import ClusterOperator.Proofs.Http.Transfer
import ClusterOperator.Proofs.Http.Updating
import ClusterOperator.Proofs.Request.Restating

namespace ClusterOperator

open Repository (Memory)

namespace Collections

theorem complete_replaced {c : Collections} {k : Kind} {e : k.Entry} {front back : List k.Entry}
    (h : c.entries k = front ++ e :: back) :
    (c.withEntries k (front ++ k.complete e :: back)).complete = c.complete := by
  apply eq_of_entries
  intro j
  rw [entries_complete, entries_complete]
  by_cases hj : j = k
  · subst hj
    rw [entries_withEntries, h, List.map_append, List.map_append, List.map_cons, List.map_cons,
      Kind.complete_complete]
  · rw [entries_withEntries_of_ne _ hj]

end Collections

namespace Http

open Text.Utf8 (encode)

section Statement

/-- A request to put a value under a name. -/
structure Puts (k : Kind) (name : String) (value : Json) (request : Request) : Prop extends
    ForEntry k name "PUT" request where
  says_json : saysJson request.contentType = true
  body_eq : request.body = encode value.render

variable [Cron.Library] (s : ServiceSettings)

/-- Whatever is read of the entries of all kinds, singly or in lists, is the same in two memories. -/
structure ReadsSame (m m' : Memory) : Prop where
  entry : ∀ k name get, ForEntry k name "GET" get → response s m' get = response s m get
  list : ∀ k get, ForCollection k "GET" get → response s m' get = response s m get

/-- A value that is put under a name is given back, and everything is read as before. -/
def WritesBack (m : Memory) (k : Kind) (name : String) (value : Json) : Prop :=
  ∀ put, Puts k name value put →
    response s m put = some (.of 200 (.json value)) ∧ ReadsSame s m (after s put m)

end Statement

section Showing

variable {s : ServiceSettings} {m m' : Memory} {k : Kind} {name : String}

theorem map_viewJson_lookup? {collections : Collections}
    (hstored : m.collections? = some collections) :
    (m.lookup? k name).map k.viewJson =
      (Store.find? k name (collections.complete.entries k)).map k.viewJson := by
  have hview : k.viewJson ∘ k.complete = k.viewJson := funext k.viewJson_complete
  rw [Memory.lookup?_eq, hstored, Option.getD_some, Collections.entries_complete, Store.find?,
    Store.find?, List.find?_map, Option.map_map, hview]
  simp only [Function.comp_def, k.nameOf_complete]

/-- What is seen of a sound entry is read as the patch that says it again. -/
theorem Puts.read {put : Request} {e : k.Entry} (h : Puts k name (k.viewJson e) put)
    (hfits : (encode (k.viewJson e).render).length ≤ s.maxBody) :
    readBody s.maxBody k.decodePatch put = .ok (k.restating e) :=
  readBody_of_value h.says_json h.body_eq (k.isPlain_viewJson e) (k.decodePatch_viewJson e) hfits

variable [Cron.Library]

theorem response_get_of_seen {get : Request} (hget : ForEntry k name "GET" get)
    (hseen : (m'.lookup? k name).map k.viewJson = (m.lookup? k name).map k.viewJson) :
    response s m' get = response s m get := by
  rw [response_get hget, response_get hget]
  cases hfound : m.lookup? k name with
  | none =>
      rw [hfound, Option.map_none, Option.map_eq_none_iff] at hseen
      rw [hseen]
  | some e =>
      rw [hfound, Option.map_some] at hseen
      obtain ⟨e', hfound', hview⟩ := Option.map_eq_some_iff.mp hseen
      simp only [hfound', hview]

/-- Where the collections are the same but for what is missing, all is read the same. -/
theorem readsSame_of_complete {collections collections' : Collections}
    (hstored : m.collections? = some collections) (hstored' : m'.collections? = some collections')
    (hcomplete : collections'.complete = collections.complete) : ReadsSame s m m' where
  entry k name get hget := by
    have hseen : (m'.lookup? k name).map k.viewJson = (m.lookup? k name).map k.viewJson := by
      rw [map_viewJson_lookup? hstored, map_viewJson_lookup? hstored', hcomplete]
    exact response_get_of_seen hget hseen
  list k get hget := by
    rw [response_list hget hstored, response_list hget hstored', ← Collections.listJson_complete,
      hcomplete, Collections.listJson_complete]

theorem put_viewJson {put : Request} {e : k.Entry} (hm : StoresValid m)
    (hstored : m.lookup? k name = some e) (hput : Puts k name (k.viewJson e) put)
    (hfits : (encode (k.viewJson e).render).length ≤ s.maxBody) :
    response s m put = some (.of 200 (.json (k.viewJson e))) ∧
      m.Replaces k e (k.complete e) (after s put m) := by
  have hsound := sound_of_lookup? hm hstored
  have hpatches := patches_of_storesValid (s := s) hm hput.toForEntry (hput.read hfits)
    hsound.validatePatch_restating hstored
  obtain ⟨changed, hmakes, hreplaces, hresult⟩ := hpatches.changed hsound.fits_restating
  obtain rfl : changed = k.complete e := hmakes.unique hsound.makes_restating
  rw [← hsound.complete.viewJson_eq, k.viewJson_complete] at hresult
  exact ⟨hresult, hreplaces⟩

/-- Whatever has been asked before, what is shown of a stored entry can be written back, and all is read
as before, if the service takes bodies as long as that. -/
theorem writesBack_shown (s : ServiceSettings) (requests : List Request) {e : k.Entry}
    (hstored : (answerAll s requests Memory.empty).lookup? k name = some e) :
    ∃ value : Json,
      (∀ get, ForEntry k name "GET" get →
        response s (answerAll s requests Memory.empty) get = some (.of 200 (.json value))) ∧
      ((encode value.render).length ≤ s.maxBody →
        WritesBack s (answerAll s requests Memory.empty) k name value) := by
  have hm := storesValid_answerAll s requests (m := Memory.empty) nofun
  refine ⟨k.viewJson e, fun get hget => ?_, fun hfits put hput => ?_⟩
  · rw [response_get hget, hstored]
    rfl
  · obtain ⟨hresponse, stored, front, back, version, hobject, hplace, hwritten⟩ :=
      put_viewJson hm hstored hput hfits
    have hbefore : (answerAll s requests Memory.empty).collections? = some stored.collections :=
      congrArg (Option.map Configuration.collections) hobject
    have hafter : (after s put (answerAll s requests Memory.empty)).collections? =
        some (stored.collections.withEntries k (front ++ k.complete e :: back)) :=
      congrArg (Option.map Configuration.collections) hwritten
    exact ⟨hresponse, readsSame_of_complete hbefore hafter (Collections.complete_replaced hplace)⟩

end Showing

/-- The request to put the restore back as it is shown. -/
def restorePut : Request :=
  sending "PUT" "/restoreconfigs/r" restoreItem.2

def restoreGet : Request :=
  sending "GET" "/restoreconfigs/r" .null

theorem restoreGet_forEntry : ForEntry .restore "r" "GET" restoreGet := by
  have hresource : resource? restoreGet.path = some (.entry .restore (encode "r")) := by
    decide +kernel
  exact ⟨rfl, _, hresource, by decide +kernel⟩

theorem restorePut_puts : Puts .restore "r" restoreItem.2 restorePut := by
  have hresource : resource? restorePut.path = some (.entry .restore (encode "r")) := by
    decide +kernel
  exact ⟨⟨rfl, _, hresource, by decide +kernel⟩, saysJson_sending _ _ _, rfl⟩

theorem writesBack_shown_restoreSession :
    (answerAll .default restoreSession Memory.empty).lookup? .restore "r" =
        some ⟨"r", "b", none, none⟩ ∧
      WritesBack .default (answerAll .default restoreSession Memory.empty) .restore "r"
        restoreItem.2 := by
  have hentry : (answerAll .default restoreSession Memory.empty).lookup? .restore "r" =
      some ⟨"r", "b", none, none⟩ := by
    decide +kernel
  obtain ⟨value, hshown, hback⟩ := writesBack_shown .default restoreSession hentry
  have hvalue : value = restoreItem.2 := by
    have hresponse := hshown _ restoreGet_forEntry
    rw [response_get restoreGet_forEntry, hentry] at hresponse
    cases hresponse
    rfl
  subst hvalue
  refine ⟨hentry, hback ?_⟩
  rw [encode_render]
  decide +kernel

/-- The restore was created by a shorter request than the one that would put it back, which is refused
for its length. -/
theorem not_writesBack_narrow :
    response narrow (answerAll narrow restoreSession Memory.empty) restoreGet =
        some (.of 200 (.json restoreItem.2)) ∧
      ¬WritesBack narrow (answerAll narrow restoreSession Memory.empty) .restore "r"
        restoreItem.2 := by
  have hentry : (answerAll narrow restoreSession Memory.empty).lookup? .restore "r" =
      some ⟨"r", "b", none, none⟩ := by
    decide +kernel
  constructor
  · rw [response_get restoreGet_forEntry, hentry]
    rfl
  · intro h
    have hrefused : (response narrow (answerAll narrow restoreSession Memory.empty)
        restorePut).map Response.status = some 500 := by
      decide +kernel
    rw [(h restorePut restorePut_puts).1] at hrefused
    cases hrefused

end Http

end ClusterOperator
