import ClusterOperator.Json.Numeral
import ClusterOperator.Text.Quoted

namespace ClusterOperator.Json

open Number

/-- What a document holds at a place where something else was wanted. -/
inductive Found where
  | null
  | boolean (value : Bool)
  | number (value : Numeral)
  | text (value : String)
  | sequence
  | map
deriving Repr

/-- Why a document does not decode. -/
inductive Problem where
  /-- The text is no JSON as far as it was looked at. -/
  | grammar (breach : Breach)
  /-- A container among more others around it than are kept. -/
  | tooDeep
  | wrongType (found : Found) (wanted : String)
  /-- An integer outside the wanted range. -/
  | outOfRange (value : Int) (wanted : String)
  /-- A field that was met before, at the position of its second member. -/
  | duplicateField (key : String) (position : Nat)
  | missingField (key : String)
  /-- An array with too few items for the fields of a record. -/
  | tooShort (length : Nat) (record : String) (fields : Nat)
  /-- An array with more items than the record has fields. -/
  | tooLong (length fields : Nat)
  /-- A text that is not accepted, by its own reader or by that of the record around it. -/
  | rejected (reason : String) (byRecord : Bool)
  /-- The reader of a text panics. -/
  | panicked
deriving Repr

/-- One step into a document. -/
inductive Segment where
  /-- The value of the member at a position. -/
  | key (name : String) (position : Nat)
  | index (position : Nat)
deriving DecidableEq, Repr

/-- A problem and where it lies. -/
structure Trouble where
  path : List Segment
  problem : Problem
deriving Repr

def Numeral.describe : Numeral → String
  | .integer n => "integer `" ++ toString n ++ "`"
  | .float negative size =>
      "floating point `" ++ (if negative then "-" else "") ++ String.ofList size.text ++ "`"

namespace Found

def describe : Found → String
  | null => "null"
  | boolean true => "boolean `true`"
  | boolean false => "boolean `false`"
  | number value => value.describe
  | text value => "string " ++ Text.quoted value
  | sequence => "sequence"
  | map => "map"

end Found

def elements (n : Nat) : String :=
  if n = 1 then "1 element" else toString n ++ " elements"

namespace Problem

/-- The wording of a problem; for a panic, what the panic says. -/
def message : Problem → String
  | grammar breach => breach.flaw.message
  | tooDeep => Flaw.message .depth
  | wrongType found wanted => "invalid type: " ++ found.describe ++ ", expected " ++ wanted
  | outOfRange value wanted =>
      "invalid value: integer `" ++ toString value ++ "`, expected " ++ wanted
  | duplicateField key _ => "duplicate field `" ++ key ++ "`"
  | missingField key => "missing field `" ++ key ++ "`"
  | tooShort length record fields =>
      "invalid length " ++ toString length ++ ", expected " ++ record ++ " with " ++ elements fields
  | tooLong length _ =>
      "invalid length " ++ toString length ++ ", expected fewer elements in array"
  | rejected reason _ => reason
  | panicked => "attempt to add with overflow"

/-- Whether a reader of JSON text counts the problem as one of the grammar. The reader of a record
stops at the last field, so it takes more items for a missing bracket. -/
def isGrammar : Problem → Bool
  | grammar _ => true
  | tooDeep => true
  | tooLong _ _ => true
  | _ => false

end Problem

def pathText : List Segment → String
  | [] => ""
  | [.key name _] => name
  | [.index n] => "[" ++ toString n ++ "]"
  | .key name _ :: .index n :: rest => name ++ pathText (.index n :: rest)
  | .key name _ :: rest => name ++ "." ++ pathText rest
  | .index n :: .index m :: rest => "[" ++ toString n ++ "]" ++ pathText (.index m :: rest)
  | .index n :: rest => "[" ++ toString n ++ "]." ++ pathText rest

namespace Trouble

def here (problem : Problem) : Trouble :=
  ⟨[], problem⟩

/-- The same trouble, seen from one step further out. -/
def under (segment : Segment) (trouble : Trouble) : Trouble :=
  ⟨segment :: trouble.path, trouble.problem⟩

/-- The path in front of a message, unless it is empty. -/
def location (trouble : Trouble) : String :=
  match trouble.path with
  | [] => ""
  | path => pathText path ++ ": "

end Trouble

end ClusterOperator.Json
