import ClusterOperator.Json.Breach
import ClusterOperator.Number.Shortest

namespace ClusterOperator.Json

open Number
open Text.Utf8 (Symbol)

/-- The value of a number. -/
inductive Numeral where
  | integer (value : Int)
  | float (negative : Bool) (size : Binary64)
deriving DecidableEq, Repr

/-- A number as written. -/
structure Literal where
  negative : Bool
  whole : List Nat
  /-- Empty if there is no decimal point. -/
  fraction : List Nat
  /-- Whether the exponent is negative, and its digits. -/
  exponent : Option (Bool × List Nat)
deriving Repr

def wordMax : Nat := Nat.pow 2 64 - 1

def exponentMax : Nat := Nat.pow 2 31 - 1

/-- How many digits follow the one by which a number grows beyond the greatest exponent. -/
def digitsBeyond? (n : Nat) : List Nat → Option Nat
  | [] => none
  | d :: ds => if exponentMax < n * 10 + d then some ds.length else digitsBeyond? (n * 10 + d) ds

/-- Appends digits to a number as long as it fits 64 bits: the result and the count of the digits
that were left over. -/
def absorb (n : Nat) : List Nat → Nat × Nat
  | [] => (n, 0)
  | d :: ds => if wordMax < n * 10 + d then (n, ds.length + 1) else absorb (n * 10 + d) ds

def ofDigits (ds : List Nat) : Nat :=
  ds.foldl (fun n d => n * 10 + d) 0

namespace Literal

/-- The value of a literal without fraction and exponent whose digits all fit. There is no negative
zero among the integers, and none below the least 64-bit integer. -/
def integer? (negative : Bool) (n : Nat) : Option Numeral :=
  if negative then
    if n = 0 ∨ Nat.pow 2 63 < n then (Binary64.ofScientific? n 0).map (.float true)
    else some (.integer (-(n : Int)))
  else some (.integer n)

/-- The value of the digits scaled by the written exponent. An exponent beyond 32 bits leaves zero,
or has no value if it is positive and the digits are not zero. -/
def scaled? (negative : Bool) (significand : Nat) (places : Int) :
    Option (Bool × List Nat) → Option Numeral
  | none => (Binary64.ofScientific? significand places).map (.float negative)
  | some (down, digits) =>
      let e := ofDigits digits
      if exponentMax < e then
        if significand ≠ 0 ∧ !down then none else some (.float negative .zero)
      else
        (Binary64.ofScientific? significand (if down then places - e else places + e)).map
          (.float negative)

/-- The value of a literal, if the format has one: an integer if there is neither fraction nor
exponent and it fits 64 bits, else the leading digits that fit, scaled by one power of ten. -/
def value? (l : Literal) : Option Numeral :=
  let (whole, dropped) := absorb 0 l.whole
  if l.fraction.isEmpty ∧ l.exponent.isNone ∧ dropped = 0 then integer? l.negative whole
  else
    let (significand, ignored) := absorb whole l.fraction
    let places : Int := (dropped : Int) - (l.fraction.length - ignored : Nat)
    scaled? l.negative significand places l.exponent

/-- How many digits of a literal without a value are left when that is certain. -/
def unread (l : Literal) : Nat :=
  (l.exponent.bind fun (_, digits) => digitsBeyond? 0 digits).getD 0

def value (l : Literal) (rest : List Symbol) : Except Breach Numeral :=
  match l.value? with
  | some n => .ok n
  | none => .error ⟨.magnitude, l.unread + rest.length, 0⟩

end Literal

def digit? : Symbol → Option Nat
  | some c => if '0' ≤ c ∧ c ≤ '9' then some (c.toNat - 48) else none
  | none => none

/-- The digits at the front of the input and the rest. -/
def spanDigits (source : List Symbol) : List Nat × List Symbol :=
  (source.takeWhile (fun s => (digit? s).isSome) |>.filterMap digit?,
    source.dropWhile fun s => (digit? s).isSome)

/-- The break of a number where a digit is missing. -/
def missingDigit (source : List Symbol) : Break :=
  .apart (if source.isEmpty then .endOfValue else .number) .number source

/-- Reads the digits before the point: no leading zero, and at least one. -/
def readWhole (source : List Symbol) : Except Break (List Nat × List Symbol) :=
  match spanDigits source with
  | ([], rest) => .error (missingDigit rest)
  | (0 :: _ :: _, _) => .error (.on .number (source.drop 1))
  | (ds, rest) => .ok (ds, rest)

/-- Reads the point and the digits after it, if there is a point. -/
def readFraction : List Symbol → Except Break (List Nat × List Symbol)
  | some '.' :: rest =>
      match spanDigits rest with
      | ([], rest) => .error (missingDigit rest)
      | (ds, rest) => .ok (ds, rest)
  | rest => .ok ([], rest)

def readSign : List Symbol → Bool × List Symbol
  | some '+' :: rest => (false, rest)
  | some '-' :: rest => (true, rest)
  | rest => (false, rest)

def readExponent (source : List Symbol) :
    Except Break (Option (Bool × List Nat) × List Symbol) :=
  match source with
  | some c :: rest =>
      if c = 'e' ∨ c = 'E' then
        let (down, rest) := readSign rest
        match spanDigits rest with
        | ([], rest) => .error (missingDigit rest)
        | (ds, rest) => .ok (some (down, ds), rest)
      else .ok (none, source)
  | _ => .ok (none, source)

def readLiteral (source : List Symbol) : Except Break (Literal × List Symbol) := do
  let (negative, source) := match source with
    | some '-' :: rest => (true, rest)
    | rest => (false, rest)
  let (whole, source) ← readWhole source
  let (fraction, source) ← readFraction source
  let (exponent, source) ← readExponent source
  return (⟨negative, whole, fraction, exponent⟩, source)

end ClusterOperator.Json
