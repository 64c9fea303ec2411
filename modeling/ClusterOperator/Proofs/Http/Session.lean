import ClusterOperator.Proofs.Http.Serving

namespace ClusterOperator.Http

open Repository

section Sessions

variable [Cron.Library]

/-- The memory after requests one after another. -/
def answerAll (s : ServiceSettings) (requests : List Request) (m : Memory) : Memory :=
  requests.foldl (fun m request => ((serve s request).run Memory.answer m).state) m

/-- Whether a memory stores nothing that is not valid. -/
def StoresValid (m : Memory) : Prop :=
  ∀ collections, m.collections? = some collections → collections.Valid

theorem storesValid_serve (s : ServiceSettings) (request : Request) {m : Memory}
    (h : StoresValid m) : StoresValid ((serve s request).run Memory.answer m).state := by
  -- The run is compared with itself, to follow what is stored from one operation to the next.
  have halike : Program.Alike Memory.answer Memory.answer (fun a b => a = b ∧ StoresValid a)
      (serve s request) := by
    apply alike_serve
    · rintro o ho a _ ⟨rfl, hvalid⟩
      refine ⟨rfl, rfl, ?_⟩
      rw [StoresValid, (Store.run_job_perform s.store o a).2]
      exact Store.Operation.valid_perform ho hvalid
    · rintro a _ ⟨rfl, hvalid⟩
      exact ⟨rfl, rfl, hvalid⟩
  exact (halike ⟨rfl, h⟩).2.2

theorem storesValid_answerAll (s : ServiceSettings) (requests : List Request) {m : Memory}
    (h : StoresValid m) : StoresValid (answerAll s requests m) := by
  induction requests generalizing m with
  | nil => exact h
  | cons request rest ih => exact ih (storesValid_serve s request h)

/-- After any requests the stored collections, if there are any, are valid. -/
theorem stored_valid (s : ServiceSettings) (requests : List Request) {collections : Collections}
    (hstored : (answerAll s requests Memory.empty).collections? = some collections) :
    collections.Valid ∧ collections.WellFormed := by
  have hvalid := storesValid_answerAll s requests (m := Memory.empty) nofun collections hstored
  exact ⟨hvalid, hvalid.wellFormed⟩

end Sessions

def sending (method path : String) (value : Json) : Request :=
  ⟨method, Text.Utf8.encode (basePath ++ path), some "application/json",
    Text.Utf8.encode value.render⟩

/-- A backup that is created with a location named twice, and then changed. -/
def backupSession : List Request :=
  [sending "POST" "/backupconfigs" (.obj [("backupName", .str "b"), ("isOneTime", .bool false),
      ("storageLocation", .str "s"), ("volumeSnapshotLocations", Json.strs ["x", "x"])]),
    sending "PUT" "/backupconfigs/b" (.obj [("ttl", .str "90m"), ("snapshotMoveData", .bool true)])]

/-- The backup as it is stored in the end. -/
def backupAfterSession : Backup where
  name := "b"
  isOneTime := some false
  terms := { BackupTerms.absent with
    ttl := ⟨90 * Duration.TimeUnit.minute.nanos⟩
    storageLocation := "s"
    volumeSnapshotLocations := some ["x"]
    snapshotMoveData := some true }

theorem stored_valid_backupSession :
    (answerAll .default backupSession Memory.empty).collections? =
        some { Collections.empty with backups := [backupAfterSession] } ∧
      Collections.Valid { Collections.empty with backups := [backupAfterSession] } ∧
        Collections.WellFormed { Collections.empty with backups := [backupAfterSession] } := by
  have hstored : (answerAll .default backupSession Memory.empty).collections? =
      some { Collections.empty with backups := [backupAfterSession] } := by
    decide +kernel
  exact ⟨hstored, stored_valid .default backupSession hstored⟩

end ClusterOperator.Http
