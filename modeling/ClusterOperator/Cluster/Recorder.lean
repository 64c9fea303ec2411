import ClusterOperator.Cluster.Api
import ClusterOperator.Text.Basic

/-!
Notices as events of the API. The first notice of a kind about a disk makes an event; its
repetitions, whatever they say, count that event up. Events of one disk are told apart by a number
behind its name.
-/

namespace ClusterOperator.Cluster

open Json

/-- What makes two notices repetitions of each other. -/
structure EventKey where
  name : Option String
  space : Option String
  uid : Option String
  warning : Bool
  reason : String
deriving DecidableEq, Repr

/-- An event that was published: what it first said, and how often it has been. -/
structure RecordedEvent where
  key : EventKey
  /-- The number that tells the event apart from others of the disk. -/
  serial : Nat
  note : String
  count : Nat
deriving DecidableEq, Repr

abbrev Recorder := List RecordedEvent

/-- The name of the controller that reports events. -/
def controllerName : String := "diskvolume-controller"

def eventKey (disk : DiskVolume) (notice : Notice) : EventKey :=
  ⟨disk.metadata.name, disk.metadata.space, disk.metadata.uid, notice.warning, notice.reason⟩

namespace RecordedEvent

/-- The name of an event, which begins like that of its disk. -/
def name (e : RecordedEvent) : String :=
  e.key.name.getD controllerName ++ "." ++ String.ofList (Digits.padded 16 e.serial)

/-- The body of an event. The name and the times of events are left out. -/
def toJson (e : RecordedEvent) : Json :=
  .obj ([("action", .str "Reconcile"), ("apiVersion", .str "events.k8s.io/v1"),
      ("kind", .str "Event"),
      ("metadata", .obj (member? "namespace" (e.key.space.map .str))),
      ("note", .str e.note), ("reason", .str e.key.reason),
      ("regarding", .obj ([("apiVersion", .str DiskVolume.apiVersion),
          ("kind", .str DiskVolume.kind)] ++
        member? "name" (e.key.name.map .str) ++
        member? "namespace" (e.key.space.map .str) ++
        member? "uid" (e.key.uid.map .str))),
      ("reportingController", .str controllerName),
      ("reportingInstance", .str controllerName)] ++
    member? "series" (if e.count = 1 then none else some (.obj [("count", .int e.count)])) ++
    [("type", .str (if e.key.warning then "Warning" else "Normal"))])

def collection (e : RecordedEvent) : String :=
  collectionAddress "/apis/events.k8s.io/v1" (e.key.space.getD "default") "events"

/-- The request that publishes an event, if it can be made. -/
def request (e : RecordedEvent) : Except Failure Request :=
  if e.count = 1 then Request.post e.collection e.toJson
  else Request.merge e.collection e.name "" e.toJson

end RecordedEvent

namespace Recorder

/-- The event of a notice: a new one, or one more repetition. -/
def event (r : Recorder) (disk : DiskVolume) (notice : Notice) : RecordedEvent :=
  match r.find? (·.key = eventKey disk notice) with
  | none => ⟨eventKey disk notice, r.length, notice.note, 1⟩
  | some e => { e with count := e.count + 1 }

def remember (r : Recorder) (e : RecordedEvent) : Recorder :=
  e :: r.filter (·.key ≠ e.key)

end Recorder

end ClusterOperator.Cluster
