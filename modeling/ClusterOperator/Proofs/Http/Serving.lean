import ClusterOperator.Http.Service
import ClusterOperator.Proofs.Program
import ClusterOperator.Proofs.Store.Validity

namespace ClusterOperator.Http

open Program (Alike)
open Repository (interface Job)

/-- The kinds as answers and metrics call them. -/
def label : Kind → String
  | .storage => "StorageConfig"
  | .backup => "BackupConfig"
  | .restore => "RestoreConfig"
  | .schedule => "ScheduleConfig"

theorem title_eq_label (k : Kind) : k.title = label k := by
  cases k <;> rfl

theorem orInvalid_eq_ok {α : Type} {x : Except Violation α} {a : α} :
    orInvalid x = .ok a ↔ x = .ok a := by
  cases x with
  | error v => exact ⟨nofun, nofun⟩
  | ok a' => exact ⟨fun h => by cases h; rfl, fun h => by cases h; rfl⟩

theorem sound_of_readEntry [Cron.Library] {s : ServiceSettings} {k : Kind} {request : Request}
    {e : k.Entry}
    (h : readEntry s k request = .ok e) : k.Sound e := by
  simp only [readEntry, bind_eq_ok, orInvalid_eq_ok, exists_unit_eq_ok] at h
  obtain ⟨asked, -, hvalid, hentry⟩ := h
  exact k.sound_of_request hvalid hentry

theorem valid_of_readPatch [Cron.Library] {s : ServiceSettings} {k : Kind} {request : Request}
    {p : k.Patch}
    (h : readPatch s k request = .ok p) : k.validatePatch p = .ok () := by
  simp only [readPatch, bind_eq_ok, orInvalid_eq_ok, exists_unit_eq_ok, pure_eq_ok] at h
  obtain ⟨patch, -, hvalid, rfl⟩ := h
  exact hvalid

section Serve

variable {σ τ : Type} {first : Handler interface σ} {second : Handler interface τ}
  {related : σ → τ → Prop} {s : ServiceSettings} {k : Kind} {request : Request}

theorem alike_respond {operation : Operation} {job : Job Body} (h : Alike first second related job) :
    Alike first second related (respond k operation job) := by
  apply h.bind
  intro result
  split
  · exact .done _
  · exact (Alike.done _).count _

theorem alike_showing {α : Type} {body : α → Body} {job : Job α}
    (h : Alike first second related job) : Alike first second related (showing body job) :=
  h.andThen fun _ => .done _

theorem alike_readiness (h : Alike first second related Store.isReachable) :
    Alike first second related readiness := by
  apply h.bind
  intro result
  split <;> exact .done _

variable [Cron.Library]
variable (hjob : ∀ o : Store.Operation, o.KeepsSound → Alike first second related (o.job s.store))

include hjob

theorem alike_createEntry : Alike first second related (createEntry s k request) := by
  apply alike_respond
  cases hread : readEntry s k request with
  | error failure => exact .done _
  | ok entry => exact alike_showing (hjob (.change (.create k entry)) (sound_of_readEntry hread))

theorem alike_updateEntry (name : String) :
    Alike first second related (updateEntry s k name request) := by
  apply alike_respond
  cases hread : readPatch s k request with
  | error failure => exact .done _
  | ok patch =>
      refine alike_showing (hjob (.change (.update k name (k.change patch))) ?_)
      intro e changed he hchanged
      exact ⟨Kind.sound_change (valid_of_readPatch hread) he hchanged, Kind.nameOf_change hchanged⟩

theorem alike_getEntry (name : String) : Alike first second related (getEntry k name) :=
  alike_respond (alike_showing (hjob (.get k name) trivial))

theorem alike_listEntries : Alike first second related (listEntries k) :=
  alike_respond (alike_showing (hjob (.list k) trivial))

theorem alike_deleteEntry (name : String) : Alike first second related (deleteEntry s k name) :=
  alike_respond (alike_showing (hjob (.change (.delete k name)) trivial))

theorem alike_serveCollection (method : String) :
    Alike first second related (serveCollection s k method request) := by
  rw [serveCollection]
  split
  · exact alike_createEntry hjob
  · split
    · exact alike_listEntries hjob
    · exact .done _

theorem alike_serveEntry (segment : List UInt8) (method : String) :
    Alike first second related (serveEntry s k segment method request) := by
  rw [serveEntry]
  cases segmentText? segment with
  | none =>
      split
      · exact .done _
      · split
        · exact .done _
        · split <;> exact .done _
  | some name =>
      split
      · exact alike_updateEntry hjob name
      · split
        · exact alike_getEntry hjob name
        · split
          · exact alike_deleteEntry hjob name
          · exact .done _

variable (hready : Alike first second related Store.isReachable)

include hready

theorem alike_serveMethod (method : String) :
    Alike first second related (serveMethod s method request) := by
  rw [serveMethod]
  split
  · exact .done _
  · exact alike_serveCollection hjob method
  · exact alike_serveEntry hjob _ method
  · split <;> exact .done _
  · split
    · exact alike_readiness hready
    · exact .done _

theorem alike_serve : Alike first second related (serve s request) := by
  rw [serve]
  split
  · exact (alike_serveMethod hjob hready "GET").bind fun _ => .done _
  · exact alike_serveMethod hjob hready request.method

end Serve

end ClusterOperator.Http
