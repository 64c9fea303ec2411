import ClusterOperator.Duration.Basic
import ClusterOperator.Text.Basic

/-!
Durations read from text: an optional plus sign, then the single digit `0` or a sequence of terms,
each a decimal number directly followed by the symbol of a unit.

Sums are kept in 128 bits. The whole part of a term is checked against that width, and so is the
running total, but the places of a fraction are not: where they outgrow the width, the reader panics.
-/

namespace ClusterOperator.Duration

/-- Why a text is no duration. -/
inductive ParseError where
  | malformed
  | negative
  | missingUnit
  | unknownUnit (symbol : List Char)
deriving DecidableEq, Repr

/-- The wording of an error, which quotes the whole text as it stands. -/
def ParseError.message (text : String) : ParseError → String
  | malformed => "time: invalid duration \"" ++ text ++ "\""
  | negative => "duration \"" ++ text ++ "\" must not be negative"
  | missingUnit => "time: missing unit in duration \"" ++ text ++ "\""
  | unknownUnit symbol =>
      "time: unknown unit \"" ++ String.ofList symbol ++ "\" in duration \"" ++ text ++ "\""

/-- How reading ends without a duration. -/
inductive Stop where
  /-- The text is refused with an error. -/
  | refused (e : ParseError)
  /-- The reader panics over a sum that outgrows its width, and gives back nothing. -/
  | panicked
deriving DecidableEq, Repr

def width : Nat := Nat.pow 2 128

/-- A decimal number and the symbol that follows it. -/
structure Term where
  whole : List Char
  fraction : List Char
  symbol : List Char
deriving DecidableEq, Repr

def isSymbolChar (c : Char) : Bool :=
  !(c = '.' || c.isDigit)

/-- Cuts the first term off a text and gives what follows it. -/
def splitTerm (text : List Char) : Term × List Char :=
  let afterWhole := text.dropWhile Char.isDigit
  let (fraction, afterNumber) := match afterWhole with
    | '.' :: rest => (rest.takeWhile Char.isDigit, rest.dropWhile Char.isDigit)
    | rest => ([], rest)
  (⟨text.takeWhile Char.isDigit, fraction, afterNumber.takeWhile isSymbolChar⟩,
    afterNumber.dropWhile isSymbolChar)

/-- Adds the places of a fraction, each digit worth a tenth of the place before it. Places below a
nanosecond are dropped. There is no sum if one on the way outgrows the width. -/
def addFraction (value place : Nat) : List Char → Option Nat
  | [] => some value
  | c :: rest =>
      if place / 10 = 0 then some value
      else if width ≤ value + Digits.digit c * (place / 10) then none
      else addFraction (value + Digits.digit c * (place / 10)) (place / 10) rest

def Term.value? (term : Term) : Except Stop Nat :=
  if term.whole.isEmpty ∧ term.fraction.isEmpty then .error (.refused .malformed)
  else if term.symbol.isEmpty then .error (.refused .missingUnit)
  else
    match TimeUnit.ofSymbol? term.symbol with
    | none => .error (.refused (.unknownUnit term.symbol))
    | some unit =>
        let whole := Digits.value term.whole
        if width ≤ whole then .error (.refused .malformed)
        else if width ≤ whole * unit.nanos then .error (.refused .malformed)
        else
          match addFraction (whole * unit.nanos) unit.nanos term.fraction with
          | none => .error .panicked
          | some value => .ok value

/-- Adds the terms of a text to a total. Every term takes a character, so the length of the text
bounds their number. -/
def sumTerms : Nat → Nat → List Char → Except Stop Nat
  | _, total, [] => .ok total
  | 0, _, _ :: _ => .error (.refused .malformed)
  | bound + 1, total, c :: rest =>
      let (term, next) := splitTerm (c :: rest)
      match term.value? with
      | .error stop => .error stop
      | .ok value =>
          if width ≤ total + value then .error (.refused .malformed)
          else if longest < total + value then .error (.refused .malformed)
          else sumTerms bound (total + value) next

def parseUnsigned (text : List Char) : Except Stop Duration :=
  if text = ['0'] then .ok ⟨0⟩
  else if text.isEmpty then .error (.refused .malformed)
  else
    match sumTerms text.length 0 text with
    | .error stop => .error stop
    | .ok nanos => .ok ⟨nanos⟩

def parseChars : List Char → Except Stop Duration
  | '+' :: rest => parseUnsigned rest
  | '-' :: _ => .error (.refused .negative)
  | text => parseUnsigned text

def parse (text : String) : Except Stop Duration :=
  parseChars text.toList

end ClusterOperator.Duration
