import ClusterOperator.Json.Decode

/-!
Lines and columns: where in the text of a document a reader stands when it meets a problem.

A trouble tells the way from the top of its document, which is followed here through the text. The
reader stands behind a value that it has read, but in front of a container that it does not enter. A
value that the record around it refuses is met when the reader has looked for the end of the record.
-/

namespace ClusterOperator.Json

open Text.Utf8 (Symbol width)

/-- A place in a text. -/
structure Place where
  /-- The number of the line; the first one is one. -/
  line : Nat
  /-- How many bytes of the line come before the place. -/
  column : Nat
deriving DecidableEq, Repr

namespace Place

def start : Place :=
  ⟨1, 0⟩

def next (p : Place) (symbol : Symbol) : Place :=
  if symbol = some '\n' then ⟨p.line + 1, 0⟩ else ⟨p.line, p.column + width symbol⟩

/-- The place so many bytes further in a text, or at its end. -/
def advance (p : Place) : Nat → List Symbol → Place
  | _, [] => p
  | n, symbol :: rest =>
      if width symbol ≤ n then (p.next symbol).advance (n - width symbol) rest
      else ⟨p.line, p.column + n⟩

def ofSpot (source : List Symbol) (spot : Spot) : Place :=
  let gone := source.length - spot.left
  ((source.take gone).foldl next start).advance spot.ahead (source.drop gone)

end Place

/-- What follows the value that a text begins with. -/
def afterValue (source : List Symbol) : List Symbol :=
  match (Outline.read source).2 with
  | .ok rest => rest
  | .error _ => []

/-- What follows the key that a text begins with, and the gap behind it. -/
def afterKey (source : List Symbol) : List Symbol :=
  match readString (source.drop 1) with
  | .ok (_, rest) => skipGap rest
  | .error _ => []

/-- The first item or key of the container that a text begins with. -/
def enter (source : List Symbol) : List Symbol :=
  skipGap (source.drop 1)

/-- What follows the comma behind a value, and the gap behind the comma. -/
def afterComma (source : List Symbol) : List Symbol :=
  skipGap ((skipGap source).drop 1)

/-- The value of the member that a text begins with. -/
def toValue (source : List Symbol) : List Symbol :=
  skipGap ((afterKey source).drop 1)

def toItem : Nat → List Symbol → List Symbol
  | 0, source => source
  | n + 1, source => toItem n (afterComma (afterValue source))

def toMember : Nat → List Symbol → List Symbol
  | 0, source => source
  | n + 1, source => toMember n (afterComma (afterValue (toValue source)))

/-- The value that a path leads to from the value that a text begins with. -/
def follow : List Segment → List Symbol → List Symbol
  | [], source => source
  | .key _ n :: path, source => follow path (toValue (toMember n (enter source)))
  | .index n :: path, source => follow path (toItem n (enter source))

/-- What is left when the end of a record has been looked for behind one of its members. -/
def seekBrace (source : List Symbol) : List Symbol :=
  match skipGap source with
  | some '}' :: rest => rest
  | rest => rest

/-- What is left when the end of a record has been looked for behind one of its items. -/
def seekBracket (source : List Symbol) : List Symbol :=
  match skipGap source with
  | some ']' :: rest => rest
  | some ',' :: rest => skipGap rest
  | rest => rest

def Found.isContainer : Found → Bool
  | sequence => true
  | map => true
  | _ => false

namespace Trouble

/-- Where a reader of a text stands when it meets a trouble. One that only a record around the whole
document could notice has no spot. -/
def spot? (source : List Symbol) (trouble : Trouble) : Option Spot :=
  let value := follow trouble.path (skipGap source)
  match trouble.problem with
  | .grammar breach => some breach.spot
  | .tooDeep => some (.on value)
  | .wrongType found _ =>
      some (.before (if found.isContainer then value else afterValue value))
  | .duplicateField _ n => some (.before (afterKey (toMember n (enter value))))
  | .tooLong _ fields => some (.on (toItem fields (enter value)))
  | .outOfRange _ _ => some (.before (afterValue value))
  | .missingField _ => some (.before (afterValue value))
  | .tooShort _ _ _ => some (.before (afterValue value))
  | .rejected _ false => some (.before (afterValue value))
  | .rejected _ true =>
      trouble.path.getLast?.map fun
        | .key _ _ => .before (seekBrace (afterValue value))
        | .index _ => .before (seekBracket (afterValue value))
  | .panicked => none

/-- The wording of the problem for a reader of a text. -/
def wording (trouble : Trouble) : String :=
  match trouble.problem with
  | .tooLong _ _ => Flaw.message .trailing
  | problem => problem.message

/-- What a reader of a text reports: the wording, and the place if there is one. -/
def report (source : List Symbol) (trouble : Trouble) : String :=
  match trouble.spot? source with
  | none => trouble.wording
  | some spot =>
      let place := Place.ofSpot source spot
      trouble.wording ++ " at line " ++ toString place.line ++ " column " ++ toString place.column

end Trouble

end ClusterOperator.Json
