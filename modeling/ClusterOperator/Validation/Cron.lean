import ClusterOperator.Text.Basic
import ClusterOperator.Validation.Violation

/-!
Cron expressions of five or six fields: perhaps seconds, then minutes, hours, days of the month,
months and days of the week.

Only their number is counted here. Whether the fields can be read is up to a library, and everything
that checks an expression has the library as a parameter. `parse?` is the dialect that the library
documents: it reads an expression into what each field selects, which is every value, or the marks
that the parts of its list set. Names of months and of days of the week are replaced by numbers
before the fields are read, wherever they stand.
-/

namespace ClusterOperator

/-- A library that reads cron expressions, in which the seconds may be left out. -/
class Cron.Library where
  /-- Whether an expression can be read. -/
  accepts : String → Bool

def Limit.checkCron [Cron.Library] (limit : Limit) (value : String) : Verdict :=
  let fields := (Text.words value.toList).length
  if fields ≠ 5 ∧ fields ≠ 6 then .error (.malformed limit.field value)
  else if Cron.Library.accepts value then .ok ()
  else .error (.malformed limit.field value)

namespace Cron

/-- The fields of an expression. -/
inductive Field where
  | second
  | minute
  | hour
  | monthDay
  | month
  | weekDay
deriving DecidableEq, Repr

namespace Field

def least : Field → Nat
  | monthDay => 1
  | month => 1
  | _ => 0

/-- The greatest value of a field; Sunday is both the first and the last day of the week. -/
def greatest : Field → Nat
  | second => 59
  | minute => 59
  | hour => 23
  | monthDay => 31
  | month => 12
  | weekDay => 7

def allows (field : Field) (n : Nat) : Bool :=
  field.least ≤ n && n ≤ field.greatest

end Field

/-- What narrows a value: its last occurrence, its occurrence of a number, or the nearest work
day. -/
inductive Qualifier where
  | plain
  | last
  | nth (n : Nat)
  | workDay
deriving DecidableEq, Repr

/-- A value that a field selects. -/
structure Mark where
  value : Nat
  qualifier : Qualifier
deriving DecidableEq, Repr

/-- What a part of a list selects: marks, or, where it is the letter of last occurrences alone, what
the library takes for the last of the field. -/
inductive Selection where
  | marks (marks : List Mark)
  | lastValue
deriving DecidableEq, Repr

/-- What a field selects. -/
inductive Schedule where
  | every
  | some (parts : List Selection)
deriving DecidableEq, Repr

def number? (text : List Char) : Option Nat :=
  let digits := match text with
    | '+' :: rest => rest
    | rest => rest
  if !digits.isEmpty ∧ digits.all Char.isDigit ∧ Digits.value digits ≤ 255 then
    some (Digits.value digits)
  else none

def beforeSign (text : List Char) : List Char :=
  text.takeWhile (· ≠ '#')

/-- The qualifier that a part ends with. Only days of the week are counted; any field has a last
value. -/
def qualifier? (field : Field) (part : List Char) : Option Qualifier :=
  if part.getLast? = some 'l' ∨ part.getLast? = some 'L' then some .last
  else
    match Text.splitFirst '#' part with
    | none => some .plain
    | some (_, count) =>
        match number? count with
        | none => none
        | some n =>
            if 1 ≤ n ∧ n ≤ 5 ∧ field = .weekDay then some (.nth n) else none

/-- The two ends of a range, in order and within the field. -/
def range? (field : Field) (text : List Char) : Option (Nat × Nat) :=
  match Text.cutAt (· = '-') text with
  | [first, last] => do
      let first ← number? (Text.trim first)
      let last ← number? (Text.trim last)
      if field.least ≤ first ∧ first ≤ last ∧ last ≤ field.greatest then some (first, last)
      else none
  | _ => none

/-- The values from one to another by steps; none if a step leaves the bytes before it passes the
end. `bound` bounds the number of steps. -/
def stepsFrom (last step : Nat) : Nat → Nat → Option (List Nat)
  | 0, _ => none
  | bound + 1, value =>
      if last < value then some []
      else if 255 < value + step then none
      else (stepsFrom last step bound (value + step)).map (value :: ·)

/-- The values from one to another by steps of at least one. -/
def steps? (first last step : Nat) : Option (List Nat) :=
  if step = 0 then none else stepsFrom last step (last + 2) first

/-- The ends of the range that a step runs through. -/
def stepRange? (field : Field) (text : List Char) : Option (Nat × Nat) :=
  if text = ['*'] then some (field.least, field.greatest)
  else if text.contains '-' then range? field text
  else
    match number? text with
    | some n => if field.allows n then some (n, field.greatest) else none
    | none => none

def readStep? (field : Field) (part : List Char) : Option Selection := do
  let qualifier ← qualifier? field part
  match Text.cutAt (· = '/') (beforeSign part) with
  | [ends, step] =>
      let (first, last) ← stepRange? field ends
      let step ← number? step
      let values ← steps? first last step
      some (.marks (values.map (⟨·, qualifier⟩)))
  | _ => none

def readRange? (field : Field) (part : List Char) : Option Selection := do
  let qualifier ← qualifier? field part
  let (first, last) ← range? field (beforeSign part)
  some (.marks ((List.range' first (last + 1 - first)).map (⟨·, qualifier⟩)))

/-- A part with the letter of work days, which only days of the month have. -/
def readWorkDay? (field : Field) (part : List Char) : Option Selection :=
  match number? (part.takeWhile (· ≠ 'w')) with
  | some n =>
      if field.allows n ∧ field = .monthDay then some (.marks [⟨n, .workDay⟩]) else none
  | none => none

/-- The letter of last occurrences stands for a number sign and the letter. -/
def spellLast (part : List Char) : List Char :=
  let part := part.map fun c => if c = 'l' then 'L' else c
  if part.getLast? = some 'L' ∧ !part.contains '#' then
    part.flatMap fun c => if c = 'L' then ['#', 'L'] else [c]
  else part

/-- A part that is one value, perhaps qualified; only days of the week may be. -/
def readValue? (field : Field) (part : List Char) : Option Selection := do
  let part := spellLast part
  if (part.contains '#' ∨ part.contains 'L') ∧ field ≠ .weekDay then none
  let qualifier ← qualifier? field part
  let n ← number? (beforeSign part)
  if field.allows n then some (.marks [⟨n, qualifier⟩]) else none

def readPart? (field : Field) (part : List Char) : Option Selection :=
  if part.contains '/' then readStep? field part
  else if part.contains '-' then readRange? field part
  else if part.contains 'w' then readWorkDay? field part
  else if part = ['l'] then some .lastValue
  else readValue? field part

/-- A field: a star, or a list of parts. Empty parts are passed over. -/
def readField? (field : Field) (text : List Char) : Option Schedule :=
  if text = ['*'] then some .every
  else
    let parts := ((Text.cutAt (· = ',') text).map Text.trim).filter (!·.isEmpty)
    (parts.mapM (readPart? field)).map .some

/-- Replaces a word by another wherever it stands, from left to right. `bound` bounds the number of
characters. -/
def replaceWithin (word digits : List Char) : Nat → List Char → List Char
  | 0, text => text
  | _, [] => []
  | bound + 1, c :: rest =>
      if word.isPrefixOf (c :: rest) ∧ !word.isEmpty then
        digits ++ replaceWithin word digits bound ((c :: rest).drop word.length)
      else c :: replaceWithin word digits bound rest

def replaceWord (text : List Char) (change : String × String) : List Char :=
  replaceWithin change.1.toList change.2.toList text.length text

/-- The names that stand for numbers, in the order in which they are replaced. A range may end with
the Sunday after it. -/
def names : List (String × String) :=
  [("-sun", "-7"), ("sun", "0"), ("mon", "1"), ("tue", "2"), ("wed", "3"), ("thu", "4"),
   ("fri", "5"), ("sat", "6"), ("jan", "1"), ("feb", "2"), ("mar", "3"), ("apr", "4"),
   ("may", "5"), ("jun", "6"), ("jul", "7"), ("aug", "8"), ("sep", "9"), ("oct", "10"),
   ("nov", "11"), ("dec", "12")]

/-- Question marks are stars, letters are lower-case and names are numbers. Letters beyond ASCII
stay: none of them can stand in a field, nor does any have a lower-case form that can. -/
def normalize (text : List Char) : List Char :=
  names.foldl replaceWord (text.map fun c => if c = '?' then '*' else c.toLower)

def readFields? : List Field → List (List Char) → Option (List Schedule)
  | [], [] => some []
  | field :: fields, text :: texts => do
      let schedule ← readField? field text
      let rest ← readFields? fields texts
      some (schedule :: rest)
  | _, _ => none

/-- What each of the six fields selects. Without a field for them the seconds are zero. -/
def parse? (text : List Char) : Option (List Schedule) :=
  let fields := Text.words (normalize text)
  readFields? [.second, .minute, .hour, .monthDay, .month, .weekDay]
    (if fields.length = 5 then ['0'] :: fields else fields)

/-- A library that reads the dialect and nothing else. -/
instance dialect : Library where
  accepts text := (parse? text.toList).isSome

end Cron

end ClusterOperator
