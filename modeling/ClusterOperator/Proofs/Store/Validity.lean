import ClusterOperator.Proofs.Request.Asking
import ClusterOperator.Proofs.Store.Entries
import ClusterOperator.Proofs.Store.Sequential

namespace ClusterOperator

/-- Names differ within each collection, and every entry is sound. -/
structure Collections.Valid [Cron.Library] (c : Collections) : Prop where
  distinct : ∀ k, ((c.entries k).map k.nameOf).Nodup
  sound : ∀ k, ∀ e ∈ c.entries k, k.Sound e

/-- The terms of all backups, those of schedules included. -/
def Collections.allTerms (c : Collections) : List BackupTerms :=
  c.backups.map Backup.terms ++ c.schedules.map Schedule.template

/-- The namespaces that entries include and exclude. -/
def Collections.ranges (c : Collections) : List (Option (List String) × Option (List String)) :=
  c.allTerms.map (fun t => (t.includedNamespaces, t.excludedNamespaces)) ++
    c.restores.map fun r => (r.includedNamespaces, r.excludedNamespaces)

/-- What validity means for single fields. -/
structure Collections.WellFormed (c : Collections) : Prop where
  namespaces : ∀ r ∈ c.ranges, (r.1.getD []).Nodup ∧ (r.2.getD []).Nodup ∧
    ∀ n ∈ r.2.getD [], n ∉ r.1.getD []
  locations : ∀ t ∈ c.allTerms, (t.volumeSnapshotLocations.getD []).Nodup ∧
    (t.snapshotMoveData = some true → t.volumeSnapshotLocations.getD [] ≠ [])
  ports : ∀ s ∈ c.storages, ∀ port, s.port = some port → 1 ≤ port.toInt ∧ port.toInt ≤ 65535
  oneTime : ∀ b ∈ c.backups, b.isOneTime.isSome

namespace Collections

variable [Cron.Library]

theorem valid_empty : empty.Valid where
  distinct := fun k => by cases k <;> exact List.nodup_nil
  sound := fun k e he => by cases k <;> cases he

theorem Valid.withEntries {c : Collections} (h : c.Valid) {k : Kind} {es : List k.Entry}
    (hdistinct : (es.map k.nameOf).Nodup) (hsound : ∀ e ∈ es, k.Sound e) :
    (c.withEntries k es).Valid where
  distinct := by
    intro j
    by_cases hj : j = k
    · subst hj
      rw [entries_withEntries]
      exact hdistinct
    · rw [entries_withEntries_of_ne c hj]
      exact h.distinct j
  sound := by
    intro j
    by_cases hj : j = k
    · subst hj
      rw [entries_withEntries]
      exact hsound
    · rw [entries_withEntries_of_ne c hj]
      exact h.sound j

theorem Valid.sound_terms {c : Collections} (h : c.Valid) {t : BackupTerms}
    (ht : t ∈ c.allTerms) : t.Sound := by
  rcases List.mem_append.mp ht with hbackup | hschedule
  · obtain ⟨b, hb, rfl⟩ := List.mem_map.mp hbackup
    obtain ⟨-, -, hterms⟩ := Kind.sound_backup_iff.mp (h.sound .backup b hb)
    exact hterms
  · obtain ⟨s, hs, rfl⟩ := List.mem_map.mp hschedule
    obtain ⟨-, -, hterms⟩ := Kind.sound_schedule_iff.mp (h.sound .schedule s hs)
    exact hterms

theorem Valid.checkNamespaceRange {c : Collections} (h : c.Valid)
    {r : Option (List String) × Option (List String)} (hr : r ∈ c.ranges) :
    checkNamespaceRange r.1 r.2 = .ok () := by
  rcases List.mem_append.mp hr with hterms | hrestore
  · obtain ⟨t, ht, rfl⟩ := List.mem_map.mp hterms
    exact (h.sound_terms ht).namespaces
  · obtain ⟨e, he, rfl⟩ := List.mem_map.mp hrestore
    obtain ⟨-, -, hnamespaces⟩ := RestoreRequest.validate_eq_ok.mp (h.sound .restore e he).valid
    exact hnamespaces

theorem Valid.wellFormed {c : Collections} (h : c.Valid) : c.WellFormed where
  namespaces := by
    intro r hr
    obtain ⟨⟨-, hincluded⟩, ⟨-, hexcluded⟩, hdisjoint⟩ :=
      checkNamespaceRange_eq_ok.mp (h.checkNamespaceRange hr)
    exact ⟨hincluded, hexcluded, hdisjoint⟩
  locations := by
    intro t ht
    obtain ⟨hnodup, -, -, hneeded⟩ := distinctLocations_ok (h.sound_terms ht).locations
    refine ⟨hnodup, fun hmoves => hneeded ?_⟩
    rw [hmoves]
    rfl
  ports := by
    intro s hs port hport
    obtain ⟨-, hfields⟩ := StorageRequest.validate_eq_ok.mp (h.sound .storage s hs).valid
    obtain ⟨-, -, -, -, -, hchecked, -⟩ := StoragePatch.validate_eq_ok.mp hfields
    simp only [Kind.asking, Storage.asking, hport, Option.map_some] at hchecked
    have hrange := range_of_checkOptionalPort hchecked
    rw [Int32.toInt_toInt64] at hrange
    exact hrange
  oneTime := by
    intro b hb
    obtain ⟨-, hone, -⟩ := Kind.sound_backup_iff.mp (h.sound .backup b hb)
    exact hone

end Collections

namespace Store

variable [Cron.Library]

/-- An operation stores only sound entries, if those that it finds are sound, and renames none. -/
def Operation.KeepsSound : Operation → Prop
  | .change (.create k entry) => k.Sound entry
  | .change (.update k _ apply) => ∀ e changed, k.Sound e → apply e = .ok changed →
      k.Sound changed ∧ k.nameOf changed = k.nameOf e
  | _ => True

theorem Change.valid_of_effect {c : Change} (hc : (Operation.change c).KeepsSound)
    {found : Option Collections} (hfound : ∀ collections, found = some collections →
      collections.Valid) {collections : Collections} {value : c.Result}
    (h : c.effect found = .write collections value) : collections.Valid := by
  have hvalid : (found.getD .empty).Valid := by
    cases found with
    | none => exact Collections.valid_empty
    | some collections => exact hfound collections rfl
  cases does_of_effect h with
  | @created k entry _ hfresh =>
      apply hvalid.withEntries
      · rw [List.map_append, List.nodup_append]
        refine ⟨hvalid.distinct k, List.nodup_singleton _, ?_⟩
        rintro name hname other hother rfl
        rw [List.map_singleton, List.mem_singleton] at hother
        rw [hother] at hname
        exact hfresh (find?_isSome.mpr hname)
      · intro e he
        rcases List.mem_append.mp he with he | he
        · exact hvalid.sound k e he
        · rw [List.mem_singleton.mp he]
          exact hc
  | @changed k name apply before entry changed hentry happly =>
      obtain ⟨hmem, hname⟩ := find?_eq_some hentry
      obtain ⟨hsound, hsame⟩ := hc entry changed (hvalid.sound k entry hmem) happly
      apply hvalid.withEntries
      · rw [map_nameOf_replaceFirst (hsame.trans hname)]
        exact hvalid.distinct k
      · intro e he
        rcases mem_replaceFirst he with rfl | he
        · exact hsound
        · exact hvalid.sound k e he
  | @removed k name before hlength =>
      apply hvalid.withEntries
      · exact (List.filter_sublist.map k.nameOf).nodup (hvalid.distinct k)
      · intro e he
        exact hvalid.sound k e (List.mem_of_mem_filter he)

theorem Operation.valid_perform {o : Operation} (ho : o.KeepsSound) {found : Option Collections}
    (hfound : ∀ collections, found = some collections → collections.Valid) :
    ∀ collections, (o.perform found).2 = some collections → collections.Valid := by
  intro collections hcollections
  rw [perform] at hcollections
  cases heffect : o.effect found with
  | answer result =>
      rw [heffect] at hcollections
      exact hfound collections hcollections
  | write written value =>
      rw [heffect] at hcollections
      cases hcollections
      cases o with
      | change c => exact Change.valid_of_effect ho hfound heffect
      | get k name =>
          simp only [effect] at heffect
          split at heffect <;> cases heffect
      | list k => cases found <;> cases heffect

end Store

end ClusterOperator
