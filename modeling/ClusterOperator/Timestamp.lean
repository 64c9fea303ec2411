import ClusterOperator.Json.Decode
import ClusterOperator.Text.Basic

namespace ClusterOperator

/-- A point in universal time. A leap second shares the number of the second before it and has a
thousand million nanoseconds more. -/
structure Timestamp where
  /-- Days since the first of January 1970. -/
  day : Int
  /-- Seconds since midnight. -/
  second : Nat
  /-- Nanoseconds of the second, which has twice as many if a leap second follows it. -/
  nanos : Nat
deriving DecidableEq, Repr, Inhabited

/-- A day of the calendar. -/
structure CalendarDate where
  year : Int
  month : Nat
  day : Nat
deriving DecidableEq, Repr

namespace CalendarDate

def isLeapYear (year : Int) : Bool :=
  year % 4 = 0 && (year % 100 ≠ 0 || year % 400 = 0)

def monthLength (year : Int) (month : Nat) : Nat :=
  if month = 2 then (if isLeapYear year then 29 else 28)
  else if month ∈ [4, 6, 9, 11] then 30
  else 31

def isValid (d : CalendarDate) : Bool :=
  1 ≤ d.month && d.month ≤ 12 && 1 ≤ d.day && d.day ≤ monthLength d.year d.month

def first : CalendarDate := ⟨-262143, 1, 1⟩

def last : CalendarDate := ⟨262142, 12, 31⟩

/-- Days since the first of January 1970. Years are counted from March, so that the leap day is the
last one of its year. -/
def toDays (d : CalendarDate) : Int :=
  let year := if d.month ≤ 2 then d.year - 1 else d.year
  let century := Int.fdiv year 400
  let yearOfCentury := year - century * 400
  let month : Int := if d.month ≤ 2 then d.month + 9 else d.month - 3
  let dayOfYear := (153 * month + 2) / 5 + d.day - 1
  century * 146097 + yearOfCentury * 365 + yearOfCentury / 4 - yearOfCentury / 100 + dayOfYear -
    719468

/-- The day that a number of days since the first of January 1970 leads to. -/
def ofDays (days : Int) : CalendarDate :=
  let shifted := days + 719468
  let century := Int.fdiv shifted 146097
  let day := shifted - century * 146097
  let year := (day - day / 1460 + day / 36524 - day / 146096) / 365
  let dayOfYear := day - (365 * year + year / 4 - year / 100)
  let month := (5 * dayOfYear + 2) / 153
  let civilMonth := if month < 10 then month + 3 else month - 9
  ⟨year + century * 400 + (if civilMonth ≤ 2 then 1 else 0), civilMonth.toNat,
    (dayOfYear - (153 * month + 2) / 5 + 1).toNat⟩

end CalendarDate

namespace Timestamp

/-- Why a text is no point in time. -/
inductive ParseError where
  | malformed
  | tooShort
  | outOfRange
  | tooLong
  /-- The point lies in the calendar of its own offset, but not in that of universal time. -/
  | impossible
deriving DecidableEq, Repr

def ParseError.message : ParseError → String
  | malformed => "input contains invalid characters"
  | tooShort => "premature end of input"
  | outOfRange => "input is out of range"
  | tooLong => "trailing input"
  | impossible => "no possible date and time matching input"

/-- Reads a part of a text and gives what follows it. -/
abbrev Reader (α : Type) := List Char → Except ParseError (α × List Char)

def skipBlanks (text : List Char) : List Char :=
  text.dropWhile Text.isBlank

def oneOf (allowed : List Char) : Reader Char
  | [] => .error .tooShort
  | c :: rest => if allowed.contains c then .ok (c, rest) else .error .malformed

def mark (c : Char) : Reader Char := fun text =>
  oneOf [c] (skipBlanks text)

/-- The digits that a text begins with, at most so many. -/
def digits (most : Nat) : Reader (List Char) := fun text =>
  let found := (text.take most).takeWhile Char.isDigit
  if text.isEmpty then .error .tooShort
  else if found.isEmpty then .error .malformed
  else .ok (found, text.drop found.length)

/-- A part of a date or of a time of day, which lies between bounds. -/
def part (least greatest : Nat) : Reader Nat := fun text => do
  let (found, rest) ← digits 2 (skipBlanks text)
  let n := Digits.value found
  if least ≤ n ∧ n ≤ greatest then .ok (n, rest) else .error .outOfRange

/-- A year: a sign and any number of digits, or at most four digits. It fits 32 bits. -/
def year : Reader Int := fun text => do
  let (year, rest) ← match skipBlanks text with
    | '-' :: rest => (digits rest.length rest).map fun (found, rest) =>
        (-(Digits.value found : Int), rest)
    | '+' :: rest => (digits rest.length rest).map fun (found, rest) =>
        ((Digits.value found : Int), rest)
    | text => (digits 4 text).map fun (found, rest) => ((Digits.value found : Int), rest)
  if -(Nat.pow 2 31) ≤ year ∧ year < Nat.pow 2 31 then .ok (year, rest) else .error .outOfRange

def date : Reader CalendarDate := fun text => do
  let (year, rest) ← year text
  let (_, rest) ← mark '-' rest
  let (month, rest) ← part 1 12 rest
  let (_, rest) ← mark '-' rest
  let (day, rest) ← part 1 31 rest
  return (⟨year, month, day⟩, rest)

/-- The nanoseconds of a fraction, if there is one. Digits beyond the ninth are dropped. -/
def fraction : Reader Nat
  | '.' :: rest => do
      let (kept, more) ← digits 9 rest
      return (Digits.value kept * Nat.pow 10 (9 - kept.length), more.dropWhile Char.isDigit)
  | text => .ok (0, text)

def clock : Reader (Nat × Nat) := fun text => do
  let (hour, rest) ← part 0 23 text
  let (_, rest) ← mark ':' rest
  let (minute, rest) ← part 0 59 rest
  let (_, rest) ← mark ':' rest
  let (second, rest) ← part 0 60 rest
  let (nanos, rest) ← fraction rest
  let start := (hour * 60 + minute) * 60
  if second = 60 then return ((start + 59, Nat.pow 10 9 + nanos), rest)
  return ((start + second, nanos), rest)

/-- Two digits with a first one up to `tens`. A character outside ASCII counts as two. -/
def twoDigits (tens : Char) : Reader Nat
  | [] => .error .tooShort
  | [c] => if c.toNat < 128 then .error .tooShort else .error .malformed
  | a :: b :: rest =>
      if !a.isDigit || !b.isDigit then .error .malformed
      else if tens < a then .error .outOfRange
      else .ok (Digits.value [a, b], rest)

/-- The hours and minutes of an offset in seconds, with colons and blanks between them. -/
def distance : Reader Int := fun text => do
  let (hours, rest) ← twoDigits '9' text
  let (minutes, rest) ← twoDigits '5' (rest.dropWhile fun c => c = ':' || Text.isBlank c)
  return (((hours * 60 + minutes) * 60 : Nat), rest)

/-- An offset from universal time in seconds. The minus sign may be the mathematical one. -/
def offset : Reader Int := fun text =>
  match skipBlanks text with
  | [] => .error .tooShort
  | c :: rest =>
      if (c :: rest.take 2).map Char.toUpper = ['U', 'T', 'C'] then .ok (0, rest.drop 2)
      else if c = 'Z' ∨ c = 'z' then .ok (0, rest)
      else if c = '+' then distance rest
      else if c = '-' ∨ c = '\u2212' then
        (distance rest).map fun (seconds, rest) => (-seconds, rest)
      else .error .malformed

/-- The point at a date and a time of day where clocks are ahead by an offset. -/
def ofLocal (date : CalendarDate) (second nanos : Nat) (offset : Int) :
    Except ParseError Timestamp :=
  if !date.isValid || date.year < CalendarDate.first.year || CalendarDate.last.year < date.year ||
      86400 ≤ offset.natAbs then
    .error .outOfRange
  else
    let seconds := (second : Int) - offset
    let day := date.toDays + Int.fdiv seconds 86400
    if day < CalendarDate.first.toDays || CalendarDate.last.toDays < day then .error .impossible
    else .ok ⟨day, (Int.fmod seconds 86400).toNat, nanos⟩

def parseChars (text : List Char) : Except ParseError Timestamp := do
  let (date, rest) ← date text
  let (_, rest) ← oneOf ['T', 't', ' '] rest
  let ((second, nanos), rest) ← clock rest
  let (offset, rest) ← offset rest
  if !(skipBlanks rest).isEmpty then throw .tooLong
  ofLocal date second nanos offset

def yearChars (year : Int) : List Char :=
  if year < 0 then '-' :: Digits.padded 4 year.natAbs
  else if 9999 < year then '+' :: Digits.padded 4 year.natAbs
  else Digits.padded 4 year.natAbs

/-- The second of the minute, which is the sixtieth in a leap second. -/
def secondOfMinute (t : Timestamp) : Nat :=
  t.second % 60 + t.nanos / Nat.pow 10 9

/-- The text of a point in time, in universal time and without its fraction of a second. -/
def chars (t : Timestamp) : List Char :=
  let date := CalendarDate.ofDays t.day
  yearChars date.year ++ '-' :: Digits.padded 2 date.month ++ '-' :: Digits.padded 2 date.day ++
    'T' :: Digits.padded 2 (t.second / 3600) ++ ':' :: Digits.padded 2 (t.second / 60 % 60) ++
    ':' :: Digits.padded 2 t.secondOfMinute ++ ['Z']

def toJson (t : Timestamp) : Json :=
  .str (String.ofList t.chars)

def decode : Json.Decoder Timestamp
  | .text (.ok s) =>
      match parseChars s.toList with
      | .ok t => .ok t
      | .error e => Json.fail (.rejected e.message false)
  | other => Json.fail (other.mismatch "an RFC 3339 formatted date and time string")

end Timestamp

end ClusterOperator
