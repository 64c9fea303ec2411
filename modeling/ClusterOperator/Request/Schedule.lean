import ClusterOperator.Request.Backup
import ClusterOperator.Validation.Cron

namespace ClusterOperator

open Json

/-- Changes of a schedule. -/
structure SchedulePatch where
  schedule : String
  paused : Option Bool
  template : Option BackupPatch
deriving DecidableEq, Repr, Inhabited

/-- A request to create a schedule. -/
structure ScheduleRequest where
  name : String
  schedule : String
  paused : Option Bool
  template : BackupRequest
deriving DecidableEq, Repr, Inhabited

namespace SchedulePatch

def empty : SchedulePatch :=
  ⟨"", none, none⟩

def toJson (p : SchedulePatch) : Json :=
  .obj [("schedule", .str p.schedule), ("paused", nullable .bool p.paused),
    ("template", nullable BackupPatch.toJson p.template)]

def decode : Decoder SchedulePatch :=
  Decode.record "struct ScheduleModifyRequest" <|
    SchedulePatch.mk <$>
    Fields.text "schedule" <*>
    optionalFlag "paused" <*>
    Fields.optional "template" BackupPatch.decode

/-- The rules for a changed template, which does not say whether it is for one time. -/
def validateTemplate (p : BackupPatch) : Verdict := do
  if p.isOneTime.isSome then throw (.notInTemplate Limits.isOneTime.field)
  p.validate

def validate [Cron.Library] (p : SchedulePatch) : Verdict := do
  if p.schedule ≠ "" then Limits.schedule.checkCron p.schedule
  match p.template with
  | none => pure ()
  | some template => validateTemplate template

def apply (p : SchedulePatch) (s : Schedule) : Schedule × Verdict :=
  let (template, verdict) := match p.template with
    | none => (s.template, .ok ())
    | some template => template.applyToTerms s.template
  (⟨s.name, overwrite s.schedule p.schedule, p.paused.or s.paused, template⟩, verdict)

end SchedulePatch

namespace ScheduleRequest

def toJson (r : ScheduleRequest) : Json :=
  .obj [("scheduleName", .str r.name), ("schedule", .str r.schedule),
    ("paused", nullable .bool r.paused), ("template", r.template.toJson)]

def decode : Decoder ScheduleRequest :=
  Decode.record "struct ScheduleRequest" <|
    ScheduleRequest.mk <$>
    Fields.text "scheduleName" <*>
    Fields.text "schedule" <*>
    optionalFlag "paused" <*>
    Fields.defaulted "template" BackupRequest.decode .empty

def validate [Cron.Library] (r : ScheduleRequest) : Verdict := do
  Limits.scheduleName.checkDnsName r.name
  Limits.schedule.checkCron r.schedule
  r.template.validate false

def entry (r : ScheduleRequest) : Except Violation Schedule := do
  let template ← r.template.terms
  return ⟨r.name, r.schedule, r.paused, template⟩

end ScheduleRequest

end ClusterOperator
