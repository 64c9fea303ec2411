import ClusterOperator.Proofs.Http.Outcomes
import ClusterOperator.Proofs.Request.Composing

namespace ClusterOperator

open Repository (Memory)

/-- The object is written with one entry replaced in its place. -/
def Repository.Memory.Replaces (k : Kind) (e changed : k.Entry) (m m' : Memory) : Prop :=
  ∃ (stored : Configuration) (front back : List k.Entry) (version : String),
    m.stored = some stored ∧ stored.entries k = front ++ e :: back ∧
      m'.stored = some ((stored.withEntries k (front ++ changed :: back)).withVersion version)

/-- What becomes of a stored entry and of the memory by a request with a patch. -/
structure Http.Patches (k : Kind) (patch : k.Patch) (e : k.Entry) (m : Memory)
    (o : Outcome Memory (Option Http.Response)) : Prop where
  succeeds_iff : o.result.map Http.Response.status = some 200 ↔ k.Fits patch e
  changed : k.Fits patch e → ∃ changed, k.Makes patch e changed ∧ m.Replaces k e changed o.state ∧
    o.result = some (.of 200 (.json (k.normal (k.asking changed))))
  unchanged : ¬k.Fits patch e → o.state = m

namespace Http

section Patching

variable {s : ServiceSettings} {m : Memory} {k : Kind} {name : String} {request : Request}

theorem replaces_update {apply : k.Entry → Except Failure k.Entry} {e changed : k.Entry}
    (hstored : m.lookup? k name = some e) (happly : apply e = .ok changed) :
    m.Replaces k e changed
      (((Store.Operation.change (.update k name apply)).job s.store).run Memory.answer m).state := by
  obtain ⟨collections, hcollections, hentry⟩ := Option.bind_eq_some_iff.mp hstored
  obtain ⟨stored, hobject, rfl⟩ := Option.map_eq_some_iff.mp hcollections
  obtain ⟨front, back, hplace, hreplace⟩ := Store.exists_place hentry
  refine ⟨stored, front, back, toString (m.writes + 1).toNat, hobject, hplace, ?_⟩
  rw [Store.run_job]
  simp only [Store.Operation.effect, Store.Change.effect, hcollections, hentry, happly, hobject,
    hreplace]
  rfl

variable [Cron.Library]

/-- A request with a valid patch changes the stored entry if the patch fits it, and else nothing. -/
theorem patches_of_storesValid (hm : StoresValid m) (hroute : ForEntry k name "PUT" request)
    {patch : k.Patch} (hread : readBody s.maxBody k.decodePatch request = .ok patch)
    (hvalid : k.validatePatch patch = .ok ()) {e : k.Entry} (hstored : m.lookup? k name = some e) :
    Patches k patch e m ((serve s request).run Memory.answer m) := by
  have hsound := sound_of_lookup? hm hstored
  have hresponse := response_update hroute hread hvalid (m := m)
  have hcontract := updateContract hm hroute (s := s)
  rw [hstored] at hresponse
  rcases Kind.change_cases hvalid hsound with ⟨hfits, changed, hchange, hmakes⟩ | ⟨hfits, -⟩
  · refine ⟨⟨fun _ => hfits, hcontract.changed patch e hread hvalid hstored⟩, fun _ => ?_,
      fun h => absurd hfits h⟩
    refine ⟨changed, hmakes, ?_, ?_⟩
    · obtain ⟨-, hstate⟩ := run_respond (s := s) (k := k) (m := m) .update
        (.change (.update k name (k.change patch))) fun changed => .json (k.viewJson changed)
      rw [hroute.serve_put, updateEntry, readPatch_eq hread hvalid]
      refine Eq.subst hstate.symm (motive := fun state => m.Replaces k e changed state) ?_
      exact replaces_update hstored hchange
    · rw [← (Kind.sound_change hvalid hsound hchange).viewJson_eq]
      simp only [hchange] at hresponse
      exact hresponse
  · obtain ⟨reason, hrefused⟩ := hcontract.unfit patch e hread hvalid hstored hfits
    rw [response] at hrefused
    refine ⟨⟨fun h => ?_, fun h => absurd h hfits⟩, fun h => absurd h hfits, fun _ => ?_⟩
    · rw [hrefused] at h
      cases h
    · apply hroute.orderly.unchanged
      rw [hrefused]
      rintro r ⟨⟩ hstatus
      cases hstatus

/-- After any requests, a request with a valid patch for a stored entry changes this entry as the patch
says, and nothing else, if the patch fits the entry; if it does not, nothing is changed. -/
theorem update_patches (s : ServiceSettings) (requests : List Request)
    (hroute : ForEntry k name "PUT" request) {patch : k.Patch}
    (hread : readBody s.maxBody k.decodePatch request = .ok patch)
    (hvalid : k.validatePatch patch = .ok ()) {e : k.Entry}
    (hstored : (answerAll s requests Memory.empty).lookup? k name = some e) :
    Patches k patch e (answerAll s requests Memory.empty)
      ((serve s request).run Memory.answer (answerAll s requests Memory.empty)) := by
  have hm := storesValid_answerAll s requests (m := Memory.empty) nofun
  exact patches_of_storesValid hm hroute hread hvalid hstored

/-- After any requests, patches of a stored entry can be repeated, and two of them can be given as one. -/
theorem patches_compose (s : ServiceSettings) (requests : List Request) {e : k.Entry}
    (hstored : (answerAll s requests Memory.empty).lookup? k name = some e) : k.ActsOn e := by
  have hm := storesValid_answerAll s requests (m := Memory.empty) nofun
  exact (sound_of_lookup? hm hstored).actsOn

end Patching

/-- A patch of a lifetime and of locations. -/
def locationsPatch (locations : List String) : BackupPatch :=
  { BackupPatch.empty with ttl := "1h", volumeSnapshotLocations := some locations }

def patching (locations : List String) : Request :=
  sending "PUT" "/backupconfigs/b"
    (.obj [("ttl", .str "1h"), ("volumeSnapshotLocations", Json.strs locations)])

theorem update_patches_backupSession :
    ((serve .default (patching ["y", "y"])).run Memory.answer
        (answerAll .default backupSession Memory.empty)).result.map Response.status = some 200 ∧
      ((serve .default (patching [])).run Memory.answer
        (answerAll .default backupSession Memory.empty)).state =
          answerAll .default backupSession Memory.empty := by
  have hstored : (answerAll .default backupSession Memory.empty).lookup? .backup "b" =
      some backupAfterSession := by
    decide +kernel
  have hresource : resource? (patching []).path = some (.entry .backup (Text.Utf8.encode "b")) := by
    decide +kernel
  have hroute : ∀ locations, ForEntry .backup "b" "PUT" (patching locations) :=
    fun _ => ⟨rfl, _, hresource, by decide +kernel⟩
  have hread : ∀ locations ∈ [["y", "y"], []], readBody ServiceSettings.default.maxBody
      Kind.backup.decodePatch (patching locations) = .ok (locationsPatch locations) := by
    decide +kernel
  constructor
  · have hfits : Kind.backup.Fits (locationsPatch ["y", "y"]) backupAfterSession :=
      ⟨nofun, fun _ => by decide⟩
    have hpatches := update_patches .default backupSession (hroute _)
      (hread ["y", "y"] (by decide)) (by decide +kernel) hstored
    exact hpatches.succeeds_iff.mpr hfits
  · have hfits : ¬Kind.backup.Fits (locationsPatch []) backupAfterSession :=
      fun h => h.locations rfl rfl
    have hpatches := update_patches .default backupSession (hroute _)
      (hread [] (by decide)) (by decide +kernel) hstored
    exact hpatches.unchanged hfits

/-- A patch that moves data no longer. -/
def unmovedPatch : BackupPatch :=
  { BackupPatch.empty with snapshotMoveData := some false }

/-- The backup of the session, whose data is no longer moved. -/
def unmovedBackup : Backup :=
  { backupAfterSession with terms :=
      { backupAfterSession.terms with snapshotMoveData := some false } }

def bareBackup : Backup :=
  { unmovedBackup with terms :=
      { unmovedBackup.terms with
        ttl := ⟨Duration.TimeUnit.hour.nanos⟩
        volumeSnapshotLocations := some [] } }

/-- The last location of the backup of the session can be taken away after its data is no longer moved,
and so both can be done by one patch. -/
theorem patches_compose_backupSession :
    (answerAll .default backupSession Memory.empty).lookup? .backup "b" = some backupAfterSession ∧
      Kind.backup.change unmovedPatch backupAfterSession = .ok unmovedBackup ∧
      Kind.backup.change (locationsPatch []) unmovedBackup = .ok bareBackup ∧
      Kind.backup.change (unmovedPatch.followedBy (locationsPatch [])) backupAfterSession =
        .ok bareBackup := by
  have hstored : (answerAll .default backupSession Memory.empty).lookup? .backup "b" =
      some backupAfterSession := by
    decide +kernel
  have hfirst : Kind.backup.change unmovedPatch backupAfterSession = .ok unmovedBackup := by
    decide +kernel
  have hsecond : Kind.backup.change (locationsPatch []) unmovedBackup = .ok bareBackup := by
    decide +kernel
  have hacts := patches_compose .default backupSession hstored
  have hboth := hacts.followedBy unmovedPatch (locationsPatch []) unmovedBackup bareBackup
    (by decide +kernel) (by decide +kernel) hfirst hsecond
  exact ⟨hstored, hfirst, hsecond, hboth.2⟩

end Http

end ClusterOperator
