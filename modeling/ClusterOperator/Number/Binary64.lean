/-!
Finite floating-point numbers with 53 significant bits, as exact rationals.

A number is `mantissa * 2 ^ exponent`. `ofRatio?` rounds a quotient to the nearest such number, an
exact half to the even mantissa; it has no answer where the quotient exceeds the format.
-/

namespace ClusterOperator.Number

/-- A finite non-negative number of the format. -/
structure Binary64 where
  /-- At most 53 bits. -/
  mantissa : Nat
  /-- The power of two that scales the mantissa, from -1074 to 971. -/
  exponent : Int
deriving DecidableEq, Repr

namespace Binary64

def zero : Binary64 := ⟨0, -1074⟩

/-- The numerator and the denominator of the number. -/
def ratio (x : Binary64) : Nat × Nat :=
  (x.mantissa * Nat.pow 2 x.exponent.toNat, Nat.pow 2 (-x.exponent).toNat)

/-- The quotient of two numbers rounded to the nearest integer, a half to the even one. -/
def roundQuotient (num den : Nat) : Nat :=
  let q := num / den
  let twice := 2 * (num % den)
  if den < twice ∨ (twice = den ∧ q % 2 = 1) then q + 1 else q

def floorLog2 (num den : Nat) : Int :=
  let k : Int := (num.log2 : Int) - den.log2
  if den * Nat.pow 2 k.toNat ≤ num * Nat.pow 2 (-k).toNat then k else k - 1

/-- The number nearest to a quotient, if it does not exceed the format. -/
def ofRatio? (num den : Nat) : Option Binary64 :=
  if num = 0 then some zero
  else
    let e := max (floorLog2 num den - 52) (-1074)
    let m := roundQuotient (num * Nat.pow 2 (-e).toNat) (den * Nat.pow 2 e.toNat)
    let x : Binary64 := if m = Nat.pow 2 53 then ⟨Nat.pow 2 52, e + 1⟩ else ⟨m, e⟩
    if 971 < x.exponent then none else some x

def mul? (x y : Binary64) : Option Binary64 :=
  ofRatio? (x.ratio.1 * y.ratio.1) (x.ratio.2 * y.ratio.2)

/-- The rounded quotient; the divisor is not zero. -/
def div? (x y : Binary64) : Option Binary64 :=
  ofRatio? (x.ratio.1 * y.ratio.2) (x.ratio.2 * y.ratio.1)

def tenTo (k : Nat) : Binary64 :=
  (ofRatio? (Nat.pow 10 k) 1).getD zero

/-- Scales by a power of ten in steps of at most 308 places, each rounded. Downwards three steps
take any 64-bit number to zero, so `steps` need not exceed four. -/
def scaleDown (x : Binary64) (places : Nat) : Nat → Binary64
  | 0 => zero
  | steps + 1 =>
      if places ≤ 308 then (x.div? (tenTo places)).getD zero
      else if x.mantissa = 0 then x
      else scaleDown ((x.div? (tenTo 308)).getD zero) (places - 308) steps

/-- A 64-bit number times a power of ten, if the result does not exceed the format. -/
def ofScientific? (significand : Nat) (exponent : Int) : Option Binary64 :=
  match ofRatio? significand 1 with
  | none => none
  | some x =>
      if 0 ≤ exponent then
        if exponent ≤ 308 then x.mul? (tenTo exponent.toNat)
        else if x.mantissa = 0 then some x else none
      else some (x.scaleDown (-exponent).toNat 4)

end Binary64

end ClusterOperator.Number
