import ClusterOperator.Proofs.Http.Creating
import ClusterOperator.Proofs.Request.Completion
import ClusterOperator.Proofs.Text.Utf8

namespace ClusterOperator

open Repository (Memory)

namespace Collections

/-- Collections of which nothing is missing. -/
def complete (c : Collections) : Collections where
  storages := c.storages.map Storage.complete
  backups := c.backups.map Backup.complete
  restores := c.restores.map Restore.complete
  schedules := c.schedules.map Schedule.complete

theorem entries_complete (c : Collections) (k : Kind) :
    c.complete.entries k = (c.entries k).map k.complete := by
  cases k <;> rfl

theorem complete_append (c : Collections) {k : Kind} (e : k.Entry) :
    (c.withEntries k (c.entries k ++ [e])).complete =
      c.complete.withEntries k (c.complete.entries k ++ [k.complete e]) := by
  cases k <;> simp only [complete, withEntries, entries, List.map_append] <;> rfl

theorem eq_of_entries {c d : Collections} (h : ∀ k, c.entries k = d.entries k) : c = d := by
  obtain ⟨storages, backups, restores, schedules⟩ := c
  obtain ⟨storages', backups', restores', schedules'⟩ := d
  cases h .storage
  cases h .backup
  cases h .restore
  cases h .schedule
  rfl

theorem listJson_complete (c : Collections) (k : Kind) :
    k.listJson (c.complete.entries k) = k.listJson (c.entries k) := by
  have hview : k.viewJson ∘ k.complete = k.viewJson := funext k.viewJson_complete
  rw [entries_complete, Kind.listJson, Kind.listJson, List.length_map, List.map_map, hview]

end Collections

namespace Http

open Text.Utf8 (encode)

section Statement

variable [Cron.Library] (s fresh : ServiceSettings) (m : Memory)

/-- The responses to requests one after another. -/
def responses : List Request → Memory → List (Option Response)
  | [], _ => []
  | request :: rest, m => response s m request :: responses rest (after s request m)

/-- A request to create what an item of a list shows. -/
def posting (item : Kind × Json) : Request :=
  sending "POST" ("/" ++ item.1.plural) item.2

/-- The items of a kind in their order. -/
def itemsOf (k : Kind) (items : List (Kind × Json)) : List Json :=
  (items.filter (·.1 = k)).map Prod.snd

/-- The items are those of the lists of all kinds, each list in its order. -/
def Exports (items : List (Kind × Json)) : Prop :=
  ∀ k get, AtPath "GET" (collectionPath k) get → ∃ total, response s m get = some
    (.of 200 (.json (.obj [("total_count", total), ("items", .arr (itemsOf k items))])))

/-- A fresh service takes all items, and afterwards lists what was listed before. -/
structure Imports (items : List (Kind × Json)) : Prop where
  accepted : ∀ r ∈ responses fresh (items.map posting) Memory.empty,
    r.map Response.status = some 200
  listed : ∀ k get, AtPath "GET" (collectionPath k) get →
    response fresh (answerAll fresh (items.map posting) Memory.empty) get = response s m get

end Statement

section Transfers

variable {s fresh : ServiceSettings} {m : Memory} {k : Kind}

theorem encode_render (value : Json) :
    encode value.render = value.chars.flatMap String.utf8EncodeChar := by
  rw [encode, Json.render, String.toList_ofList]

theorem readBody_of_value {α : Type} {decode : Json.Decoder α} {maxBody : Nat} {value : Json} {a : α}
    {request : Request} (htype : saysJson request.contentType = true)
    (hbody : request.body = encode value.render) (hplain : value.IsPlain)
    (hdecode : decode (Json.outline value) = .ok a)
    (hfits : (encode value.render).length ≤ maxBody) : readBody maxBody decode request = .ok a := by
  have htext : Text.Utf8.decode (encode value.render) = Json.symbols value.chars := by
    rw [Text.Utf8.decode_encode, Json.render, String.toList_ofList, Json.symbols]
  have hread : decodeBody decode (encode value.render) = .ok a := by
    rw [decodeBody, htext, Json.Decode.leading, hplain.spells.read_eq, hdecode]
  simp only [readBody, htype, hbody, Nat.not_lt.mpr hfits, hread, Bool.not_true, Bool.false_eq_true,
    if_false]

theorem saysJson_sending (method path : String) (value : Json) :
    saysJson (sending method path value).contentType = true := by
  have htype : saysJson (some "application/json") = true := by decide +kernel
  exact htype

theorem posting_atPath (item : Kind × Json) :
    AtPath "POST" (collectionPath item.1) (posting item) := by
  refine ⟨rfl, ?_⟩
  rw [posting, sending, collectionPath, String.append_assoc]

@[simp] theorem itemsOf_cons_self (value : Json) (items : List (Kind × Json)) :
    itemsOf k ((k, value) :: items) = value :: itemsOf k items := by
  simp [itemsOf]

theorem itemsOf_cons_of_ne {j : Kind} (h : j ≠ k) (value : Json) (items : List (Kind × Json)) :
    itemsOf j ((k, value) :: items) = itemsOf j items := by
  simp [itemsOf, h.symm]

/-- The items show, for each kind, the entries that follow those of `front`. -/
def ShowsRest (collections front : Collections) (items : List (Kind × Json)) : Prop :=
  ∀ k, ∃ back, collections.entries k = front.entries k ++ back ∧
    itemsOf k items = back.map k.viewJson

section ShowsRest

variable {collections front : Collections} {items : List (Kind × Json)}

theorem ShowsRest.eq_front (h : ShowsRest collections front []) : collections = front := by
  apply Collections.eq_of_entries
  intro k
  obtain ⟨back, hsplit, hitems⟩ := h k
  rw [hsplit, List.map_eq_nil_iff.mp hitems.symm, List.append_nil]

/-- The first item shows the next entry of its kind. -/
theorem ShowsRest.exists_next {value : Json} (h : ShowsRest collections front ((k, value) :: items)) :
    ∃ e others, value = k.viewJson e ∧ collections.entries k = front.entries k ++ e :: others ∧
      ShowsRest collections (front.withEntries k (front.entries k ++ [e])) items := by
  obtain ⟨back, hsplit, hitems⟩ := h k
  rw [itemsOf_cons_self] at hitems
  obtain ⟨e, others, rfl, rfl, hrest⟩ := List.map_eq_cons_iff.mp hitems.symm
  refine ⟨e, others, rfl, hsplit, fun j => ?_⟩
  by_cases hj : j = k
  · subst hj
    exact ⟨others, by simp [hsplit], hrest.symm⟩
  · rw [Collections.entries_withEntries_of_ne _ hj, ← itemsOf_cons_of_ne hj]
    exact h j

variable [Cron.Library]

theorem answerAll_cons (request : Request) (rest : List Request) :
    answerAll s (request :: rest) m = answerAll s rest (after s request m) := rfl

/-- What is seen of a sound entry is taken where its name is free, and adds the completed entry. -/
theorem import_step {front : Collections} {e : k.Entry}
    (hm : m.collections?.getD .empty = front.complete) (hsound : k.Sound e)
    (hnew : k.nameOf e ∉ (front.entries k).map k.nameOf)
    (hfits : (encode (k.viewJson e).render).length ≤ s.maxBody) :
    (response s m (posting (k, k.viewJson e))).map Response.status = some 200 ∧
      (after s (posting (k, k.viewJson e)) m).collections?.getD .empty =
        (front.withEntries k (front.entries k ++ [e])).complete := by
  have hroute : ForCollection k "POST" (posting (k, k.viewJson e)) :=
    (posting_atPath (k, k.viewJson e)).forCollection
  have hread : readBody s.maxBody k.decodeRequest (posting (k, k.viewJson e)) =
      .ok (k.asking (k.complete e)) :=
    readBody_of_value (saysJson_sending _ _ _) rfl (k.isPlain_viewJson e) (k.decode_viewJson e) hfits
  have hnames : (front.complete.entries k).map k.nameOf = (front.entries k).map k.nameOf := by
    rw [Collections.entries_complete, List.map_map]
    exact congrArg (List.map · _) (funext k.nameOf_complete)
  have hfree : m.lookup? k (k.nameOf (k.complete e)) = none := by
    rw [Memory.lookup?_eq, hm, k.nameOf_complete, ← Option.not_isSome_iff_eq_none,
      Store.find?_isSome, hnames]
    exact hnew
  have hcomplete := hsound.complete
  constructor
  · rw [response_create hroute hread hcomplete.valid, k.nameAsked_asking, hfree]
    rfl
  · rw [collections?_after_create hroute hread hcomplete.valid hcomplete.entry hfree, hm,
      Option.getD_some, Collections.complete_append]

theorem import_items (hvalid : collections.Valid) (hitems : ShowsRest collections front items)
    (hfits : ∀ item ∈ items, (encode item.2.render).length ≤ s.maxBody)
    (hm : m.collections?.getD .empty = front.complete) :
    (∀ r ∈ responses s (items.map posting) m, r.map Response.status = some 200) ∧
      (answerAll s (items.map posting) m).collections?.getD .empty = collections.complete := by
  induction items generalizing front m with
  | nil =>
      refine ⟨nofun, ?_⟩
      rw [hitems.eq_front]
      exact hm
  | cons item rest ih =>
      obtain ⟨k, value⟩ := item
      obtain ⟨e, others, rfl, hplace, hrest⟩ := hitems.exists_next
      have hsound : k.Sound e := by
        apply hvalid.sound k
        rw [hplace]
        exact List.mem_append_right _ List.mem_cons_self
      have hnew : k.nameOf e ∉ (front.entries k).map k.nameOf := by
        have hdistinct := hvalid.distinct k
        rw [hplace, List.map_append, List.map_cons, List.nodup_append] at hdistinct
        intro hmem
        exact hdistinct.2.2 _ hmem _ List.mem_cons_self rfl
      have hfit := hfits (k, k.viewJson e) List.mem_cons_self
      obtain ⟨hresponse, hafter⟩ := import_step hm hsound hnew hfit
      obtain ⟨haccepted, hstored⟩ :=
        ih hrest (fun other h => hfits other (List.mem_cons_of_mem _ h)) hafter
      rw [List.map_cons, responses, answerAll_cons, List.forall_mem_cons]
      exact ⟨⟨hresponse, haccepted⟩, hstored⟩

end ShowsRest

variable [Cron.Library]

theorem exports_iff {collections : Collections} (hstored : m.collections? = some collections)
    {items : List (Kind × Json)} :
    Exports s m items ↔ ∀ k, itemsOf k items = (collections.entries k).map k.viewJson := by
  constructor
  · intro h k
    have hget : AtPath "GET" (collectionPath k) ⟨"GET", encode (collectionPath k), none, []⟩ :=
      ⟨rfl, rfl⟩
    obtain ⟨total, hresponse⟩ := h k _ hget
    rw [response_list hget.forCollection hstored] at hresponse
    simp only [Kind.listJson, Response.of, Option.some.injEq, Response.mk.injEq, Body.json.injEq,
      Json.obj.injEq, List.cons.injEq, Prod.mk.injEq, Json.arr.injEq] at hresponse
    obtain ⟨-, -, -, ⟨-, hsame⟩, -⟩ := hresponse
    exact hsame.symm
  · intro h k get hget
    exact ⟨_, by rw [response_list hget.forCollection hstored, Kind.listJson, h k]⟩

/-- Whatever has been asked before, all that a service with an entry lists can be posted to a fresh
service that takes bodies as long as the items, in any order that keeps that of each list. -/
theorem imports_exported (s fresh : ServiceSettings) (requests : List Request) {name : String}
    {e : k.Entry} (hstored : (answerAll s requests Memory.empty).lookup? k name = some e)
    {items : List (Kind × Json)} (hitems : Exports s (answerAll s requests Memory.empty) items)
    (hfits : ∀ item ∈ items, (encode item.2.render).length ≤ fresh.maxBody) :
    Imports s fresh (answerAll s requests Memory.empty) items := by
  obtain ⟨collections, hcollections, hentry⟩ := Option.bind_eq_some_iff.mp hstored
  obtain ⟨hvalid, -⟩ := stored_valid s requests hcollections
  have hshows : ShowsRest collections .empty items := by
    intro j
    exact ⟨_, by cases j <;> rfl, (exports_iff hcollections).mp hitems j⟩
  obtain ⟨haccepted, hafter⟩ := import_items (m := Memory.empty) hvalid hshows hfits rfl
  have hfilled : (answerAll fresh (items.map posting) Memory.empty).collections? =
      some collections.complete := by
    cases hfound : (answerAll fresh (items.map posting) Memory.empty).collections? with
    | some found =>
        rw [hfound] at hafter
        exact congrArg some hafter
    | none =>
        -- The entry that the service has would be missing.
        rw [hfound] at hafter
        have hnone : (collections.entries k).map k.complete = [] := by
          rw [← Collections.entries_complete, ← hafter]
          cases k <;> rfl
        obtain ⟨hmem, -⟩ := Store.find?_eq_some hentry
        rw [List.map_eq_nil_iff.mp hnone] at hmem
        cases hmem
  refine ⟨haccepted, fun j get hget => ?_⟩
  rw [response_list hget.forCollection hfilled, response_list hget.forCollection hcollections,
    Collections.listJson_complete]

end Transfers

/-- A restore that is created from as little as can be said of it. -/
def restoreSession : List Request :=
  [sending "POST" "/restoreconfigs" (.obj [("restoreName", .str "r"), ("backupName", .str "b")])]

def restoreItem : Kind × Json :=
  (.restore, .obj [("restoreName", .str "r"), ("backupName", .str "b"),
    ("includedNamespaces", .arr []), ("excludedNamespaces", .arr [])])

theorem imports_exported_sessions :
    (answerAll .default (restoreSession ++ backupSession) Memory.empty).lookup? .restore "r" =
        some ⟨"r", "b", none, none⟩ ∧
      Imports .default .default (answerAll .default (restoreSession ++ backupSession) Memory.empty)
        [(.backup, backupAfterSession.view.toJson), restoreItem] := by
  have hstored : (answerAll .default (restoreSession ++ backupSession) Memory.empty).collections? =
      some ⟨[], [backupAfterSession], [⟨"r", "b", none, none⟩], []⟩ := by
    decide +kernel
  have hentry : (answerAll .default (restoreSession ++ backupSession) Memory.empty).lookup?
      .restore "r" = some ⟨"r", "b", none, none⟩ := by
    rw [Memory.lookup?, hstored]
    decide +kernel
  refine ⟨hentry, imports_exported .default .default _ hentry ((exports_iff hstored).mpr ?_) ?_⟩
  · intro k
    cases k <;> decide +kernel
  · simp only [encode_render]
    decide +kernel

/-- Settings that leave little room for a body. -/
def narrow : ServiceSettings :=
  ⟨.default, 64⟩

/-- The request to create a restore is shorter than the restore as it is listed, so its item can be too
long even where the request was not. -/
theorem not_imports_narrow :
    (answerAll narrow restoreSession Memory.empty).lookup? .restore "r" =
        some ⟨"r", "b", none, none⟩ ∧
      Exports narrow (answerAll narrow restoreSession Memory.empty) [restoreItem] ∧
      ¬Imports narrow narrow (answerAll narrow restoreSession Memory.empty) [restoreItem] := by
  have hstored : (answerAll narrow restoreSession Memory.empty).collections? =
      some ⟨[], [], [⟨"r", "b", none, none⟩], []⟩ := by
    decide +kernel
  refine ⟨?_, (exports_iff hstored).mpr ?_, ?_⟩
  · rw [Memory.lookup?, hstored]
    decide +kernel
  · intro k
    cases k <;> decide +kernel
  · intro h
    have hrefused :
        (response narrow Memory.empty (posting restoreItem)).map Response.status = some 500 := by
      decide +kernel
    have haccepted := h.accepted _ List.mem_cons_self
    rw [hrefused] at haccepted
    cases haccepted

end Http

end ClusterOperator
