import ClusterOperator.Number.Binary64

namespace ClusterOperator.Number.Binary64

/-- Whether `c * 10 ^ p` is less than `x * 2 ^ q`. -/
def decimalLt (c : Nat) (p : Int) (x : Nat) (q : Int) : Bool :=
  c * Nat.pow 10 p.toNat * Nat.pow 2 (-q).toNat < x * Nat.pow 2 q.toNat * Nat.pow 10 (-p).toNat

/-- Whether `x * 2 ^ q` is less than `c * 10 ^ p`. -/
def binaryLt (x : Nat) (q : Int) (c : Nat) (p : Int) : Bool :=
  x * Nat.pow 2 q.toNat * Nat.pow 10 (-p).toNat < c * Nat.pow 10 p.toNat * Nat.pow 2 (-q).toNat

/-- Whether a decimal rounds to the number. The ends of the interval do so if the mantissa is
even. -/
def reads (x : Binary64) (c : Nat) (p : Int) : Bool :=
  let q := x.exponent - 2
  let low := if x.mantissa = Nat.pow 2 52 ∧ -1074 < x.exponent then 4 * x.mantissa - 1
    else 4 * x.mantissa - 2
  let high := 4 * x.mantissa + 2
  if x.mantissa % 2 = 0 then !decimalLt c p low q && !binaryLt high q c p
  else binaryLt low q c p && decimalLt c p high q

/-- The greatest `k` with `10 ^ k ≤ num / den`, for a quotient that is not zero. -/
def floorLog10 (num den : Nat) : Int :=
  if den ≤ num then (Nat.toDigits 10 (num / den)).length - 1
  else
    let d := (Nat.toDigits 10 (den / num)).length
    if den ≤ num * Nat.pow 10 (d - 1) then 1 - d else -d

/-- Searches the decimal grids of `count`, `count + 1`, … digits; seventeen digits always do. -/
def searchFrom (x : Binary64) (top : Int) (count : Nat) : Nat → Nat × Int
  | 0 => (0, 0)
  | grids + 1 =>
      let p := top - count + 1
      let (num, den) := x.ratio
      let scaled := num * Nat.pow 10 (-p).toNat
      let unit := den * Nat.pow 10 p.toNat
      let below := scaled / unit
      let nearer := if 2 * (scaled % unit) < unit then below else below + 1
      let further := if nearer = below then below + 1 else below
      if x.reads nearer p then (nearer, p)
      else if x.reads further p then (further, p)
      else searchFrom x top (count + 1) grids

/-- The digits, as a number, and the power of ten that scales them. A hit above the grid's last
digit is the next power of ten. -/
def shortest (x : Binary64) : Nat × Int :=
  if x.mantissa = 0 then (0, 0)
  else
    let (c, p) := x.searchFrom (floorLog10 x.ratio.1 x.ratio.2) 1 17
    if c % 10 = 0 then (c / 10, p + 1) else (c, p)

def positional (c : Nat) (p : Int) : List Char :=
  let digits := Nat.toDigits 10 c
  if 0 ≤ p then digits ++ List.replicate p.toNat '0' ++ ['.', '0']
  else
    let places := (-p).toNat
    if places < digits.length then
      digits.take (digits.length - places) ++ '.' :: digits.drop (digits.length - places)
    else ['0', '.'] ++ List.replicate (places - digits.length) '0' ++ digits

/-- Writes `c * 10 ^ p` with one digit before the point and an exponent, which has a sign. -/
def scientific (c : Nat) (p : Int) : List Char :=
  let digits := Nat.toDigits 10 c
  let exponent := p + digits.length - 1
  let sign := if exponent < 0 then '-' else '+'
  let fraction := if digits.length = 1 then [] else '.' :: digits.drop 1
  digits.take 1 ++ fraction ++ 'e' :: sign :: Nat.toDigits 10 exponent.natAbs

/-- The shortest text of the number: it has an exponent if the first digit stands more than sixteen
places before the point or more than five places after it. -/
def text (x : Binary64) : List Char :=
  let (c, p) := x.shortest
  let exponent := p + (Nat.toDigits 10 c).length - 1
  if exponent < -5 ∨ 15 < exponent then scientific c p else positional c p

end ClusterOperator.Number.Binary64
