import Mathlib.Algebra.Order.BigOperators.Group.List
import Mathlib.Algebra.Order.Floor.Semifield
import Mathlib.Data.Rat.Floor
import Mathlib.Tactic.FieldSimp
import Mathlib.Tactic.Ring
import ClusterOperator.Proofs.Duration.Terms

namespace ClusterOperator.Duration

/-- How many places of a fraction of the unit are whole numbers of nanoseconds. -/
def TimeUnit.places : TimeUnit → Nat
  | nanosecond => 0
  | microsecond => 3
  | millisecond => 6
  | second => 9
  | minute => 10
  | hour => 11

/-- How many nanoseconds the last of these places takes. -/
def TimeUnit.factor : TimeUnit → Nat
  | nanosecond | microsecond | millisecond | second => 1
  | minute => 6
  | hour => 36

theorem TimeUnit.nanos_eq (unit : TimeUnit) : unit.nanos = unit.factor * 10 ^ unit.places := by
  cases unit <;> decide

/-- The whole nanoseconds in a fraction of a unit. -/
def fractionFloor (scale : Nat) (digits : List Char) : Nat :=
  Digits.value digits * scale / 10 ^ digits.length

variable {scale : Nat} {digits : List Char}

theorem fractionFloor_nil (scale : Nat) : fractionFloor scale [] = 0 := by
  rw [fractionFloor, Digits.value, List.foldl_nil, Nat.zero_mul, Nat.zero_div]

theorem fractionFloor_cons (scale : Nat) (c : Char) (rest : List Char) :
    fractionFloor (scale * 10) (c :: rest) =
      Digits.digit c * scale + fractionFloor scale rest := by
  have hpow : 0 < 10 ^ rest.length := Nat.pow_pos (by decide)
  calc fractionFloor (scale * 10) (c :: rest)
      = (Digits.digit c * 10 ^ rest.length + Digits.value rest) * scale * 10 /
          (10 ^ rest.length * 10) := by
        rw [fractionFloor, Digits.value_cons, List.length_cons, Nat.pow_succ, Nat.mul_assoc _ scale]
    _ = (Digits.value rest * scale + 10 ^ rest.length * (Digits.digit c * scale)) /
          10 ^ rest.length := by
        rw [Nat.mul_div_mul_right _ _ (by decide)]
        congr 1
        ring
    _ = Digits.digit c * scale + fractionFloor scale rest := by
        rw [Nat.add_mul_div_left _ _ hpow, fractionFloor, Nat.add_comm]

theorem fractionNanos_le (scale : Nat) (digits : List Char) :
    fractionNanos scale digits ≤ fractionFloor scale digits := by
  induction digits generalizing scale with
  | nil => exact Nat.zero_le _
  | cons c rest ih =>
      calc fractionNanos scale (c :: rest)
          ≤ Digits.digit c * (scale / 10) + fractionFloor (scale / 10) rest :=
            Nat.add_le_add_left (ih _) _
        _ = fractionFloor (scale / 10 * 10) (c :: rest) := (fractionFloor_cons _ c rest).symm
        _ ≤ fractionFloor scale (c :: rest) :=
            Nat.div_le_div_right (Nat.mul_le_mul_left _ (Nat.div_mul_le_self scale 10))

/-- Only the digits behind the places that are whole numbers can make a difference. -/
theorem fractionNanos_add_fractionFloor (factor places : Nat) (digits : List Char) :
    fractionNanos (factor * 10 ^ places) digits + fractionFloor factor (digits.drop places) =
      fractionFloor (factor * 10 ^ places) digits + fractionNanos factor (digits.drop places) := by
  induction places generalizing digits with
  | zero =>
      rw [Nat.pow_zero, Nat.mul_one, List.drop_zero, Nat.add_comm]
  | succ places ih =>
      cases digits with
      | nil => rw [List.drop_nil, fractionFloor_nil, fractionFloor_nil, fractionNanos, fractionNanos]
      | cons c rest =>
          have hrest := ih rest
          have hplace : factor * 10 ^ places * 10 / 10 = factor * 10 ^ places :=
            Nat.mul_div_cancel _ (by decide)
          rw [List.drop_succ_cons, Nat.pow_succ, ← Nat.mul_assoc, fractionFloor_cons,
            fractionNanos, hplace]
          omega

namespace Term

def number (t : Term) : ℚ :=
  Digits.value t.whole + Digits.value t.fraction / 10 ^ t.fraction.length

/-- The whole nanoseconds in a term. -/
def floorNanos (t : Term) : Nat :=
  ⌊t.number * t.scale⌋₊

theorem floorNanos_eq (t : Term) :
    t.floorNanos = t.wholeNanos + fractionFloor t.scale t.fraction := by
  have hpow : 0 < 10 ^ t.fraction.length := Nat.pow_pos (by decide)
  have hquotient : t.number * t.scale =
      ((Digits.value t.fraction * t.scale + 10 ^ t.fraction.length * t.wholeNanos : Nat) : ℚ) /
        (10 ^ t.fraction.length : Nat) := by
    rw [number, wholeNanos]
    push_cast
    field_simp
    ring
  rw [floorNanos, hquotient, Nat.floor_div_eq_div, Nat.add_mul_div_left _ _ hpow, fractionFloor,
    Nat.add_comm]

/-- The places of the unit of a term, as far as they are whole numbers. -/
def places (t : Term) : Nat :=
  (TimeUnit.ofSymbol? t.symbol).elim 0 TimeUnit.places

/-- What the last of these places takes. A symbol that names no unit counts nothing. -/
def factor (t : Term) : Nat :=
  (TimeUnit.ofSymbol? t.symbol).elim 0 TimeUnit.factor

theorem scale_eq_mul (t : Term) : t.scale = t.factor * 10 ^ t.places := by
  rw [scale, factor, places]
  cases TimeUnit.ofSymbol? t.symbol with
  | none => rfl
  | some unit => exact unit.nanos_eq

/-- The digits behind these places are worth no more whole nanoseconds than are counted for them. -/
def TailCounted (t : Term) : Prop :=
  fractionNanos t.factor (t.fraction.drop t.places) =
    fractionFloor t.factor (t.fraction.drop t.places)

instance (t : Term) : Decidable t.TailCounted :=
  inferInstanceAs (Decidable (_ = _))

variable {t : Term}

theorem tailCounted_iff :
    t.TailCounted ↔ fractionNanos t.scale t.fraction = fractionFloor t.scale t.fraction := by
  have hsame := fractionNanos_add_fractionFloor t.factor t.places t.fraction
  rw [TailCounted, t.scale_eq_mul]
  omega

theorem Digital.tailCounted (h : t.Digital)
    (hexact : t.factor ≤ 1 ∨ t.fraction.length ≤ t.places) : t.TailCounted := by
  rw [TailCounted]
  rcases hexact with hfactor | hlength
  · have htail : ∀ c ∈ t.fraction.drop t.places, c.isDigit := fun c hc =>
      h.fraction c (List.mem_of_mem_drop hc)
    have hvalue := Digits.value_lt htail
    have hsmall := Nat.mul_le_mul_left (Digits.value (t.fraction.drop t.places)) hfactor
    rw [fractionNanos_of_lt_ten (by omega), fractionFloor, Nat.div_eq_of_lt (by omega)]
  · rw [List.drop_eq_nil_iff.mpr hlength, fractionFloor_nil, fractionNanos]

theorem counted_le_floorNanos (t : Term) : t.counted ≤ t.floorNanos := by
  rw [counted, floorNanos_eq]
  exact Nat.add_le_add_left (fractionNanos_le _ _) _

theorem counted_eq_floorNanos_iff : t.counted = t.floorNanos ↔ t.TailCounted := by
  rw [counted, floorNanos_eq, Nat.add_left_cancel_iff, tailCounted_iff]

end Term

/-- Sums of which one is termwise no greater are equal only if they are so termwise. -/
theorem sum_eq_iff {f g : Term → Nat} {ts : List Term} (hle : ∀ t ∈ ts, f t ≤ g t) :
    (ts.map f).sum = (ts.map g).sum ↔ ∀ t ∈ ts, f t = g t := by
  induction ts with
  | nil => simp
  | cons t ts ih =>
      rw [List.forall_mem_cons] at hle
      have hsum : (ts.map f).sum ≤ (ts.map g).sum := List.sum_le_sum hle.2
      rw [List.forall_mem_cons, ← ih hle.2, List.map_cons, List.map_cons, List.sum_cons,
        List.sum_cons]
      have hfirst := hle.1
      omega

/-- A duration is the sum of the whole nanoseconds in its terms if and only if the digits that are worth
whole nanoseconds are all counted, as they are in the units up to the second and in the places of the
others that are whole numbers. -/
theorem nanos_eq_sum_floorNanos_iff {text : String} {d : Duration} (hparse : parse text = .ok d) :
    (d.nanos = ((terms text).map Term.floorNanos).sum ↔ ∀ t ∈ terms text, t.TailCounted) ∧
      ∀ t ∈ terms text, t.factor ≤ 1 ∨ t.fraction.length ≤ t.places → t.TailCounted := by
  refine ⟨?_, fun t ht => (digital_of_mem_terms ht).tailCounted⟩
  obtain ⟨-, -, hsum⟩ := parse_eq_ok_iff.mp hparse
  obtain ⟨-, hcounted⟩ := sum?_eq_ok hsum
  rw [← hcounted, Nat.zero_add, sum_eq_iff fun t _ => t.counted_le_floorNanos]
  exact forall₂_congr fun t _ => t.counted_eq_floorNanos_iff

theorem nanos_eq_sum_floorNanos_hours_seconds :
    parse "1.5h1.0000000019s" = .ok ⟨5401000000001⟩ ∧
      5401000000001 = ((terms "1.5h1.0000000019s").map Term.floorNanos).sum := by
  have hparse : parse "1.5h1.0000000019s" = .ok ⟨5401000000001⟩ := by decide +kernel
  exact ⟨hparse, (nanos_eq_sum_floorNanos_iff hparse).1.mpr (by decide +kernel)⟩

/-- Nine times the twelfth place of an hour, which is worth thirty-six tenths of a nanosecond and is
counted as three nanoseconds. -/
theorem nanos_ne_sum_floorNanos_hour :
    parse "0.000000000009h" = .ok ⟨27⟩ ∧
      (∀ t ∈ terms "0.000000000009h", Digits.value t.whole ≤ longest) ∧
      ((terms "0.000000000009h").map Term.floorNanos).sum = 32 := by
  refine ⟨by decide +kernel, by decide +kernel, ?_⟩
  have hfloors : (terms "0.000000000009h").map Term.floorNanos =
      (terms "0.000000000009h").map fun t =>
        t.wholeNanos + fractionFloor t.scale t.fraction :=
    List.map_congr_left fun t _ => t.floorNanos_eq
  rw [hfloors]
  decide +kernel

end ClusterOperator.Duration
