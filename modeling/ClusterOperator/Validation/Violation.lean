import ClusterOperator.Duration.Parser

namespace ClusterOperator

/-- How a violation is reported. -/
inductive Severity where
  /-- A malformed value or a combination that is not allowed. -/
  | semantic
  /-- A value beyond the greatest length of its field. -/
  | length
deriving DecidableEq, Repr

/-- A field of a request and its bounds: on the length of a text, on the value of a number. -/
structure Limit where
  field : String
  minimum : Option Int
  maximum : Option Int
deriving DecidableEq, Repr

namespace Limit

def unbounded (field : String) : Limit :=
  ⟨field, none, none⟩

def upTo (field : String) (maximum : Int) : Limit :=
  ⟨field, none, some maximum⟩

def between (field : String) (minimum maximum : Int) : Limit :=
  ⟨field, some minimum, some maximum⟩

end Limit

namespace Limits

def storageName : Limit := .upTo "StorageName" 32
def provider : Limit := .upTo "Provider" 32
def bucket : Limit := .upTo "Bucket" 32
def root : Limit := .upTo "Prefix" 32
def region : Limit := .upTo "Region" 32
def ip : Limit := .unbounded "IP"
def port : Limit := .between "Port" 1 65535
def accessKey : Limit := .upTo "AccessKey" 32
def secretKey : Limit := .upTo "SecretKey" 32
def backupName : Limit := .upTo "BackupName" 32
def isOneTime : Limit := .unbounded "IsOneTime"
def ttl : Limit := .unbounded "TTL"
def storageLocation : Limit := .upTo "StorageLocation" 32
def restoreName : Limit := .upTo "RestoreName" 32
def scheduleName : Limit := .upTo "ScheduleName" 32
def schedule : Limit := .unbounded "Schedule"

end Limits

/-- Why a request is not valid. -/
inductive Violation where
  | tooLong (field : String) (maximum : Int)
  | malformed (field value : String)
  | outOfRange (field : String) (value minimum maximum : Int)
  | badDuration (field text : String) (cause : Duration.ParseError)
  | unset (field : String)
  /-- A field of a backup that its use in a schedule does not have. -/
  | notInTemplate (field : String)
  | repeatedNamespace (field name : String)
  /-- A namespace is both included and excluded. -/
  | overlap
  /-- Snapshot data is to be moved, but no location is named. -/
  | noLocations
  | repeatedKeys (field : String)
  /-- No rule is broken, but the check of one panics. -/
  | panicked
deriving DecidableEq, Repr

namespace Violation

/-- The wording of a violation; for a panic, what the panic says. -/
def reason : Violation → String
  | tooLong field maximum =>
      field ++ " is too long, maximum length is " ++ toString maximum ++ "."
  | malformed field value => "Invalid " ++ field ++ " : " ++ value
  | outOfRange field value minimum maximum =>
      "Invalid " ++ field ++ " : " ++ toString value ++ ", must be between " ++ toString minimum ++
        " and " ++ toString maximum ++ "."
  | badDuration field text cause => "Invalid " ++ field ++ " : " ++ cause.message text
  | unset field => "Invalid " ++ field ++ " : must be set"
  | notInTemplate field => "Invalid " ++ field ++ " : not allowed in a schedule template"
  | repeatedNamespace field name =>
      "Invalid " ++ field ++ ", duplicated namespace " ++ name ++ "."
  | overlap => "Invalid ExcludedNamespaces, must not be overlapped with IncludedNamespaces."
  | noLocations =>
      "Invalid VolumeSnapshotLocations, must not be empty when SnapshotMoveData is enabled."
  | repeatedKeys field => "Invalid " ++ field ++ ", duplicated keys."
  | panicked => "attempt to add with overflow"

def severity : Violation → Severity
  | tooLong _ _ => .length
  | _ => .semantic

end Violation

abbrev Verdict := Except Violation Unit

/-- How long a backup is kept unless its request says otherwise. -/
def defaultTtl : Duration :=
  ⟨720 * Duration.TimeUnit.hour.nanos⟩

/-- Reads a lifetime; an empty text stands for the default. -/
def Limit.readTtl (limit : Limit) (text : String) : Except Violation Duration :=
  if text = "" then .ok defaultTtl
  else
    match Duration.parse text with
    | .ok d => .ok d
    | .error (.refused cause) => .error (.badDuration limit.field text cause)
    | .error .panicked => .error .panicked

end ClusterOperator
