import Mathlib.Algebra.GroupWithZero.Nat
import ClusterOperator.Proofs.Duration.RoundTrip

namespace ClusterOperator.Duration

theorem length_splitTerm_le (text : List Char) :
    (splitTerm text).2.length ≤ (text.dropWhile Char.isDigit).length := by
  simp only [splitTerm]
  split
  · rename_i rest hpoint
    rw [hpoint, List.length_cons]
    exact (List.length_dropWhile_le _ _).trans (Nat.le_succ_of_le (List.length_dropWhile_le _ rest))
  · exact List.length_dropWhile_le isSymbolChar _

theorem length_splitTerm_lt (c : Char) (rest : List Char) :
    (splitTerm (c :: rest)).2.length < (c :: rest).length := by
  rw [List.length_cons, Nat.lt_succ_iff]
  by_cases hdigit : c.isDigit
  · have hsplit := length_splitTerm_le (c :: rest)
    rw [List.dropWhile_cons_of_pos hdigit] at hsplit
    exact hsplit.trans (List.length_dropWhile_le _ rest)
  · simp only [splitTerm, List.dropWhile_cons_of_neg hdigit]
    split
    · rename_i after hpoint
      cases hpoint
      exact (List.length_dropWhile_le _ _).trans (List.length_dropWhile_le _ rest)
    · rename_i hpoint
      have hsymbol : isSymbolChar c = true := by
        have hne : c ≠ '.' := fun h => hpoint rest (by rw [h])
        simp [isSymbolChar, hdigit, hne]
      rw [List.dropWhile_cons_of_pos hsymbol]
      exact List.length_dropWhile_le _ rest

/-- The terms of a text, one after another. Where a term ends does not depend on what the terms before
it are worth, so a text can be cut into all of them first. -/
def cut : List Char → List Term
  | [] => []
  | c :: rest => (splitTerm (c :: rest)).1 :: cut (splitTerm (c :: rest)).2
termination_by text => text.length
decreasing_by exact length_splitTerm_lt c rest

/-- Whether both parts of the number of a term are made of digits. -/
structure Term.Digital (t : Term) : Prop where
  whole : ∀ c ∈ t.whole, c.isDigit
  fraction : ∀ c ∈ t.fraction, c.isDigit

theorem digital_splitTerm (text : List Char) : (splitTerm text).1.Digital where
  whole := fun _ hc => List.mem_takeWhile_imp hc
  fraction := by
    intro c hc
    simp only [splitTerm] at hc
    split at hc
    · exact List.mem_takeWhile_imp hc
    · cases hc

theorem digital_of_mem_cut {text : List Char} {t : Term} (h : t ∈ cut text) : t.Digital := by
  induction text using cut.induct with
  | case1 =>
      rw [cut] at h
      cases h
  | case2 c rest ih =>
      rw [cut] at h
      rcases List.mem_cons.mp h with rfl | htail
      · exact digital_splitTerm _
      · exact ih htail

/-- What the digits of a fraction count: each digit so many places, and each place is a tenth of the one
before it, rounded down. -/
def fractionNanos (place : Nat) : List Char → Nat
  | [] => 0
  | c :: rest => Digits.digit c * (place / 10) + fractionNanos (place / 10) rest

theorem fractionNanos_of_lt_ten {place : Nat} (h : place < 10) (digits : List Char) :
    fractionNanos place digits = 0 := by
  induction digits generalizing place with
  | nil => rfl
  | cons c rest ih =>
      rw [fractionNanos, Nat.div_eq_of_lt h, Nat.mul_zero, ih (by decide)]

theorem fractionNanos_lt {digits : List Char} (hdigits : ∀ c ∈ digits, c.isDigit) {place : Nat}
    (hplace : 0 < place) : fractionNanos place digits < place := by
  induction digits generalizing place with
  | nil => exact hplace
  | cons c rest ih =>
      by_cases hsmall : place < 10
      · rw [fractionNanos_of_lt_ten hsmall]
        exact hplace
      · have hc := Digits.digit_le_nine (hdigits c List.mem_cons_self)
        have hdigit : Digits.digit c * (place / 10) ≤ 9 * (place / 10) := Nat.mul_le_mul_right _ hc
        have hrest : fractionNanos (place / 10) rest < place / 10 :=
          ih (fun d hd => hdigits d (List.mem_cons_of_mem c hd)) (by omega)
        rw [fractionNanos]
        omega

theorem addFraction_eq_ite {value : Nat} (hvalue : value < width) (place : Nat)
    (digits : List Char) :
    addFraction value place digits =
      if value + fractionNanos place digits < width then some (value + fractionNanos place digits)
      else none := by
  induction digits generalizing value place with
  | nil => rw [addFraction, fractionNanos, Nat.add_zero, if_pos hvalue]
  | cons c rest ih =>
      rw [addFraction]
      split
      · rename_i hplace
        rw [fractionNanos_of_lt_ten (by omega), Nat.add_zero, if_pos hvalue]
      · rw [fractionNanos]
        split
        · rw [if_neg (by omega)]
        · rw [ih (by omega), Nat.add_assoc]

namespace Term

/-- How many nanoseconds the unit of a term takes. A symbol that names no unit counts nothing. -/
def scale (t : Term) : Nat :=
  (TimeUnit.ofSymbol? t.symbol).elim 0 TimeUnit.nanos

/-- The nanoseconds of the whole units of a term. -/
def wholeNanos (t : Term) : Nat :=
  Digits.value t.whole * t.scale

/-- The nanoseconds that the reader counts in a term. -/
def counted (t : Term) : Nat :=
  t.wholeNanos + fractionNanos t.scale t.fraction

/-- Whether a term has digits and a unit. -/
structure Legible (t : Term) : Prop where
  number : ¬(t.whole = [] ∧ t.fraction = [])
  unit : ∃ unit, TimeUnit.ofSymbol? t.symbol = some unit

variable {t : Term} {unit : TimeUnit} {n : Nat}

theorem scale_eq (h : TimeUnit.ofSymbol? t.symbol = some unit) : t.scale = unit.nanos := by
  rw [scale, h, Option.elim_some]

theorem scale_le (t : Term) : t.scale ≤ 3600 * 1000000000 := by
  rw [scale]
  cases TimeUnit.ofSymbol? t.symbol with
  | none => exact Nat.zero_le _
  | some unit => exact unit.nanos_le

theorem Legible.value?_eq (h : t.Legible) : t.value? =
    if width ≤ t.wholeNanos then .error (.refused .malformed)
    else if width ≤ t.counted then .error .panicked
    else .ok t.counted := by
  obtain ⟨hnumber, unit, hunit⟩ := h
  have hsymbol : t.symbol ≠ [] := by
    intro hnil
    rw [hnil] at hunit
    cases hunit
  have hpos : 1 ≤ unit.nanos := by cases unit <;> decide
  have hwhole : Digits.value t.whole ≤ Digits.value t.whole * unit.nanos :=
    Nat.le_mul_of_pos_right _ hpos
  simp only [value?, List.isEmpty_iff, if_neg hnumber, if_neg hsymbol, hunit, counted, wholeNanos,
    scale_eq hunit]
  by_cases hfits : Digits.value t.whole * unit.nanos < width
  · rw [if_neg (by omega), if_neg (by omega), if_neg (by omega), addFraction_eq_ite hfits]
    rcases Nat.lt_or_ge (Digits.value t.whole * unit.nanos + fractionNanos unit.nanos t.fraction)
      width with hcounted | hreach
    · rw [if_pos hcounted, if_neg (Nat.not_le.mpr hcounted)]
    · rw [if_neg (Nat.not_lt.mpr hreach), if_pos hreach]
  · rw [if_pos (Nat.not_lt.mp hfits), ite_self, if_pos (Nat.not_lt.mp hfits)]

theorem value?_eq_refused (h : ¬t.Legible) : ∃ e, t.value? = .error (.refused e) := by
  simp only [value?, List.isEmpty_iff]
  split
  · exact ⟨_, rfl⟩
  · rename_i hnumber
    split
    · exact ⟨_, rfl⟩
    · cases hunit : TimeUnit.ofSymbol? t.symbol with
      | none => exact ⟨_, rfl⟩
      | some unit => exact absurd ⟨hnumber, unit, hunit⟩ h

theorem value?_eq_ok_iff : t.value? = .ok n ↔ t.Legible ∧ t.counted < width ∧ t.counted = n := by
  by_cases h : t.Legible
  · have hle : t.wholeNanos ≤ t.counted := Nat.le_add_right _ _
    rw [h.value?_eq]
    split
    · simp only [reduceCtorEq, false_iff]
      omega
    · split
      · simp only [reduceCtorEq, false_iff]
        omega
      · simp only [Except.ok.injEq, h, true_and]
        omega
  · obtain ⟨e, he⟩ := value?_eq_refused h
    simp [he, h]

theorem value?_eq_panicked_iff :
    t.value? = .error .panicked ↔ t.Legible ∧ t.wholeNanos < width ∧ width ≤ t.counted := by
  by_cases h : t.Legible
  · rw [h.value?_eq]
    split
    · simp only [Except.error.injEq, reduceCtorEq, false_iff]
      omega
    · split
      · simp only [h, true_and, true_iff]
        omega
      · simp only [reduceCtorEq, false_iff]
        omega
  · obtain ⟨e, he⟩ := value?_eq_refused h
    simp [he, h]

end Term

/-- Adds what terms are worth to a total, up to the longest duration. -/
def sum? : Nat → List Term → Except Stop Nat
  | total, [] => .ok total
  | total, t :: ts =>
      match t.value? with
      | .error stop => .error stop
      | .ok n => if longest < total + n then .error (.refused .malformed) else sum? (total + n) ts

theorem sumTerms_eq {bound total : Nat} {text : List Char} (hbound : text.length ≤ bound) :
    sumTerms bound total text = sum? total (cut text) := by
  induction bound generalizing total text with
  | zero =>
      rw [List.length_eq_zero_iff.mp (Nat.le_zero.mp hbound), cut, sum?, sumTerms]
  | succ bound ih =>
      cases text with
      | nil => rw [cut, sum?, sumTerms]
      | cons c rest =>
          have hshorter := length_splitTerm_lt c rest
          have hwidth : longest < width := by decide
          rw [cut, sum?, sumTerms]
          cases hvalue : (splitTerm (c :: rest)).1.value? with
          | error stop => simp only [hvalue]
          | ok n =>
              simp only [hvalue]
              by_cases hlong : longest < total + n
              · simp only [if_pos hlong, ite_self]
              · rw [if_neg (by omega), if_neg hlong, if_neg hlong]
                exact ih (by omega)

theorem sum?_eq_ok {total n : Nat} {ts : List Term} (h : sum? total ts = .ok n) :
    (∀ t ∈ ts, t.value? = .ok t.counted ∧ t.counted ≤ longest) ∧
      total + (ts.map Term.counted).sum = n := by
  induction ts generalizing total with
  | nil =>
      cases h
      exact ⟨nofun, rfl⟩
  | cons t ts ih =>
      rw [sum?] at h
      split at h
      · cases h
      · rename_i value hvalue
        obtain ⟨-, -, hcounted⟩ := Term.value?_eq_ok_iff.mp hvalue
        split at h
        · cases h
        · rename_i hlong
          obtain ⟨hrest, hsum⟩ := ih h
          rw [List.forall_mem_cons, List.map_cons, List.sum_cons, hcounted]
          exact ⟨⟨⟨hvalue, by omega⟩, hrest⟩, by omega⟩

/-- What follows the plus sign of a text, or the whole text if it begins with none. -/
def afterPlus : List Char → List Char
  | '+' :: rest => rest
  | text => text

/-- The terms that a text has if it may be a duration. The digit `0` alone is no term. -/
def terms (text : String) : List Term :=
  if text.toList.head? = some '-' ∨ afterPlus text.toList = ['0'] then []
  else cut (afterPlus text.toList)

theorem digital_of_mem_terms {text : String} {t : Term} (h : t ∈ terms text) : t.Digital := by
  rw [terms] at h
  split at h
  · cases h
  · exact digital_of_mem_cut h

theorem parseUnsigned_eq (text : List Char) : parseUnsigned text =
    if text = [] then .error (.refused .malformed)
    else (sum? 0 (if text = ['0'] then [] else cut text)).map mk := by
  rw [parseUnsigned, sumTerms_eq (Nat.le_refl _)]
  by_cases hzero : text = ['0']
  · subst hzero
    rfl
  · rw [if_neg hzero, if_neg hzero]
    simp only [List.isEmpty_iff]
    split
    · rfl
    · cases sum? 0 (cut text) with
      | error stop => rfl
      | ok nanos => rfl

/-- A text denotes the sum of its terms, or is stopped where that sum is. -/
theorem parse_eq (text : String) : parse text =
    if text.toList.head? = some '-' then .error (.refused .negative)
    else if afterPlus text.toList = [] then .error (.refused .malformed)
    else (sum? 0 (terms text)).map mk := by
  rw [parse, terms]
  generalize text.toList = chars
  rw [parseChars.eq_def]
  split
  · simp [afterPlus, parseUnsigned_eq]
  · simp
  · rename_i hplus hminus
    have hafter : afterPlus chars = chars := by
      rw [afterPlus]
      exact hplus
    have hhead : chars.head? ≠ some '-' := by
      intro h
      obtain ⟨rest, rfl⟩ := List.head?_eq_some_iff.mp h
      exact hminus rest rfl
    rw [parseUnsigned_eq, hafter, if_neg hhead]
    simp only [hhead, false_or]

theorem map_mk_eq_ok_iff {sum : Except Stop Nat} {d : Duration} :
    sum.map mk = .ok d ↔ sum = .ok d.nanos := by
  cases d
  cases sum <;> simp [Except.map]

theorem parse_eq_ok_iff {text : String} {d : Duration} : parse text = .ok d ↔
    text.toList.head? ≠ some '-' ∧ afterPlus text.toList ≠ [] ∧
      sum? 0 (terms text) = .ok d.nanos := by
  rw [parse_eq]
  split
  · simp [*]
  · split
    · simp [*]
    · simp [*, map_mk_eq_ok_iff]

end ClusterOperator.Duration
