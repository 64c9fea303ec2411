import ClusterOperator.Json.Outline
import ClusterOperator.Json.Problem

namespace ClusterOperator.Json

abbrev Decoder (α : Type) := Outline → Except Trouble α

/-- The same result with its trouble seen from one step further out. -/
def within {α : Type} (segment : Segment) : Except Trouble α → Except Trouble α
  | .ok a => .ok a
  | .error trouble => .error (trouble.under segment)

def fail {α : Type} (problem : Problem) : Except Trouble α :=
  .error (.here problem)

namespace Outline

/-- What is wrong with a value where something else is wanted. A scalar has to be readable before
its type matters. -/
def mismatch (wanted : String) : Outline → Problem
  | null => .wrongType .null wanted
  | bool b => .wrongType (.boolean b) wanted
  | number (.ok n) => .wrongType (.number n) wanted
  | number (.error breach) => .grammar breach
  | text (.ok s) => .wrongType (.text s) wanted
  | text (.error breach) => .grammar breach
  | array _ _ => .wrongType .sequence wanted
  | object _ _ => .wrongType .map wanted
  | broken place => .grammar place.read

end Outline

namespace Decode

def unbroken : Option Break → Except Trouble Unit
  | none => .ok ()
  | some place => fail (.grammar place.read)

def text : Decoder String
  | .text (.ok s) => .ok s
  | other => fail (other.mismatch "a string")

def flag : Decoder Bool
  | .bool b => .ok b
  | other => fail (other.mismatch "a boolean")

def integer (least greatest : Int) (wanted : String) : Decoder Int
  | .number (.ok (.integer n)) =>
      if least ≤ n ∧ n ≤ greatest then .ok n else fail (.outOfRange n wanted)
  | other => fail (other.mismatch wanted)

def int64 : Decoder Int :=
  integer (-(Nat.pow 2 63)) (Nat.pow 2 63 - 1) "i64"

def int32 : Decoder Int :=
  integer (-(Nat.pow 2 31)) (Nat.pow 2 31 - 1) "i32"

def word16 : Decoder Int :=
  integer 0 (Nat.pow 2 16 - 1) "u16"

def optional {α : Type} (decode : Decoder α) : Decoder (Option α)
  | .null => .ok none
  | other => (decode other).map some

def itemsFrom {α : Type} (decode : Decoder α) : Nat → List Outline → Except Trouble (List α)
  | _, [] => .ok []
  | n, item :: items => do
      let a ← within (.index n) (decode item)
      let rest ← itemsFrom decode (n + 1) items
      .ok (a :: rest)

def list {α : Type} (decode : Decoder α) : Decoder (List α)
  | .array items stop => do
      let decoded ← itemsFrom decode 0 items
      unbroken stop
      return decoded
  | other => fail (other.mismatch "a sequence")

/-- Puts a pair where its key belongs in increasing order; an earlier value of the key is lost. -/
def insertSorted {α : Type} (key : String) (value : α) :
    List (String × α) → List (String × α)
  | [] => [(key, value)]
  | (k, v) :: rest =>
      if key < k then (key, value) :: (k, v) :: rest
      else if key = k then (key, value) :: rest
      else (k, v) :: insertSorted key value rest

/-- The pairs of an object's members from a position on; the last value of a key counts. -/
def pairsFrom {α : Type} (decode : Decoder α) : Nat →
    List (Except Breach String × Outline) → List (String × α) → Except Trouble (List (String × α))
  | _, [], done => .ok done
  | _, (.error breach, _) :: _, _ => fail (.grammar breach)
  | n, (.ok key, value) :: rest, done => do
      let a ← within (.key key n) (decode value)
      pairsFrom decode (n + 1) rest (insertSorted key a done)

/-- A map from texts, in increasing order of the keys. -/
def dictionary {α : Type} (decode : Decoder α) : Decoder (List (String × α))
  | .object members stop => do
      let decoded ← pairsFrom decode 0 members []
      unbroken stop
      return decoded
  | other => fail (other.mismatch "a map")

/-- How many containers may be around each other in a value that is kept as it is. -/
def deepest : Nat := 127

mutual

/-- A value of any type inside so many containers. Members come in increasing order of their keys,
of which the last value counts. -/
def anything (around : Nat) : Decoder Json
  | .null => .ok .null
  | .bool b => .ok (.bool b)
  | .number (.ok (.integer n)) => .ok (.int n)
  | .number (.ok (.float negative size)) => .ok (.float negative size)
  | .number (.error breach) => fail (.grammar breach)
  | .text (.ok s) => .ok (.str s)
  | .text (.error breach) => fail (.grammar breach)
  | .array items stop => do
      if deepest ≤ around then fail .tooDeep
      let items ← anyItems (around + 1) 0 items
      unbroken stop
      return .arr items
  | .object members stop => do
      if deepest ≤ around then fail .tooDeep
      let members ← anyMembers (around + 1) 0 members []
      unbroken stop
      return .obj members
  | .broken place => fail (.grammar place.read)

/-- The items of an array inside so many containers, from a position on. -/
def anyItems (around : Nat) : Nat → List Outline → Except Trouble (List Json)
  | _, [] => .ok []
  | n, item :: items => do
      let a ← within (.index n) (anything around item)
      let rest ← anyItems around (n + 1) items
      return a :: rest

/-- The members of an object inside so many containers, from a position on. -/
def anyMembers (around : Nat) : Nat → List (Except Breach String × Outline) →
    List (String × Json) → Except Trouble (List (String × Json))
  | _, [], done => .ok done
  | _, (.error breach, _) :: _, _ => fail (.grammar breach)
  | n, (.ok key, value) :: rest, done => do
      let a ← within (.key key n) (anything around value)
      anyMembers around (n + 1) rest (insertSorted key a done)

end

end Decode

/-- One field as the reader of members and items sees it. -/
structure Slot where
  key : String
  check : Outline → Except Trouble Unit
  /-- Whether an array may end before the field. -/
  mayEnd : Bool

/-- A description of a record's fields: how each is checked where it stands, and how the record is
built from the values found under the keys, each with the position of its member. -/
structure Fields (α : Type) where
  slots : List Slot
  build : (String → Option (Nat × Outline)) → Except Trouble α

namespace Fields

instance : Functor Fields where
  map f fields := ⟨fields.slots, fun find => (fields.build find).map f⟩

instance : Applicative Fields where
  pure a := ⟨[], fun _ => .ok a⟩
  seq f a := ⟨f.slots ++ (a ()).slots, fun find => do
    let g ← f.build find
    let x ← (a ()).build find
    .ok (g x)⟩

def checking {α : Type} (decode : Decoder α) (value : Outline) : Except Trouble Unit :=
  (decode value).map fun _ => ()

def required {α : Type} (key : String) (decode : Decoder α) : Fields α :=
  ⟨[⟨key, checking decode, false⟩], fun find =>
    match find key with
    | some (n, value) => within (.key key n) (decode value)
    | none => fail (.missingField key)⟩

/-- A field with a value of its own where it is absent. -/
def defaulted {α : Type} (key : String) (decode : Decoder α) (absent : α) : Fields α :=
  ⟨[⟨key, checking decode, true⟩], fun find =>
    match find key with
    | some (n, value) => within (.key key n) (decode value)
    | none => .ok absent⟩

def optional {α : Type} (key : String) (decode : Decoder α) : Fields (Option α) :=
  defaulted key (Decode.optional decode) none

/-- A field that may be `null`, or absent from an object. -/
def nullable {α : Type} (key : String) (decode : Decoder α) : Fields (Option α) :=
  ⟨[⟨key, checking (Decode.optional decode), false⟩], fun find =>
    match find key with
    | some (n, value) => within (.key key n) (Decode.optional decode value)
    | none => .ok none⟩

def text (key : String) : Fields String :=
  defaulted key Decode.text ""

end Fields

namespace Decode

/-- Checks the members of an object in order, from a position on. Those of the fields are checked
where they stand; `unknown` checks the values of all others. `seen` holds the keys of the fields met
before, which may be met again only if `repeats` says so. -/
def checkMembers (slots : List Slot) (unknown : Outline → Except Trouble Unit) (repeats : Bool) :
    Nat → List String → List (Except Breach String × Outline) → Except Trouble Unit
  | _, _, [] => .ok ()
  | _, _, (.error breach, _) :: _ => fail (.grammar breach)
  | n, seen, (.ok key, value) :: rest =>
      match slots.find? (·.key = key) with
      | none => do
          within (.key key n) (unknown value)
          checkMembers slots unknown repeats (n + 1) seen rest
      | some slot =>
          if seen.contains key ∧ !repeats then fail (.duplicateField key n)
          else do
            within (.key key n) (slot.check value)
            checkMembers slots unknown repeats (n + 1) (key :: seen) rest

def passOver (value : Outline) : Except Trouble Unit :=
  match value.stop? with
  | none => .ok ()
  | some place => fail (.grammar place.passed)

/-- The end of an array that a record takes no more items from. -/
def endOfRecord : Option Break → Except Trouble Unit
  | none => .ok ()
  | some place =>
      let breach := place.read
      fail <| .grammar <|
        match breach.flaw with
        | .itemComma => { breach with flaw := .trailing }
        | .endOfValue => { breach with flaw := .trailing }
        | _ => breach

/-- Checks the items of an array against the fields in order, from a position on. -/
def checkItems (record : String) (count : Nat) (stop : Option Break) :
    Nat → List Slot → List Outline → Except Trouble Unit
  | _, [], [] => endOfRecord stop
  | n, [], items => fail (.tooLong (n + items.length) count)
  | n, slot :: slots, [] => do
      unbroken stop
      if slot.mayEnd then checkItems record count stop (n + 1) slots []
      else fail (.tooShort n record count)
  | n, slot :: slots, item :: items => do
      within (.index n) (slot.check item)
      checkItems record count stop (n + 1) slots items

def hasKey (key : String) (member : Except Breach String × Outline) : Bool :=
  match member.1 with
  | .ok k => k = key
  | .error _ => false

def lastOf (members : List (Except Breach String × Outline)) (key : String) :
    Option (Nat × Outline) :=
  (members.zipIdx.reverse.find? fun (member, _) => hasKey key member).map
    fun ((_, value), n) => (n, value)

/-- A record, which `record` names in messages. It is read from an object, whose members come in any
order and may be unknown, or from an array of its fields in the order of their description. -/
def record {α : Type} (record : String) (fields : Fields α) : Decoder α
  | .object members stop => do
      checkMembers fields.slots passOver false 0 [] members
      unbroken stop
      fields.build (lastOf members)
  | .array items stop => do
      checkItems record fields.slots.length stop 0 fields.slots items
      fields.build (lastOf ((fields.slots.map fun slot => .ok slot.key).zip items))
  | other => fail (other.mismatch record)

/-- A record that is only read from an object, where the last value of a repeated key counts. -/
def openRecord {α : Type} (record : String) (fields : Fields α) : Decoder α
  | .object members stop => do
      checkMembers fields.slots passOver true 0 [] members
      unbroken stop
      fields.build (lastOf members)
  | other => fail (other.mismatch record)

/-- A record at the top of a document that is only read from an object. The members that are none of
its fields are kept for a second reading, so they have to be legible. -/
def sharedRecord {α : Type} (record : String) (fields : Fields α) : Decoder α
  | .object members stop => do
      checkMembers fields.slots (Fields.checking (anything 1)) false 0 [] members
      unbroken stop
      fields.build (lastOf members)
  | other => fail (other.mismatch record)

/-- Decodes the first value of a text and passes over what follows it. -/
def leading {α : Type} (decode : Decoder α) (source : List Text.Utf8.Symbol) :
    Except Trouble α :=
  decode (Outline.read source).1

/-- Decodes a text that holds one value and nothing else. -/
def whole {α : Type} (decode : Decoder α) (source : List Text.Utf8.Symbol) :
    Except Trouble α := do
  let (value, rest) := Outline.read source
  let a ← decode value
  match rest.map skipGap with
  | .ok [] => return a
  | .ok rest => fail (.grammar (.on .trailing rest))
  | .error place => fail (.grammar place.read)

end Decode

end ClusterOperator.Json
