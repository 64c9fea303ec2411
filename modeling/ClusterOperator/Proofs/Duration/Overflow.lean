import ClusterOperator.Proofs.Duration.Terms

namespace ClusterOperator.Duration

/-- The sums that are made of the places of a fraction, up to the first that outgrows the width. The
products in them are no greater than the sums. -/
def placeSums (value place : Nat) : List Char → List Nat
  | [] => []
  | c :: rest =>
      if place / 10 = 0 then []
      else
        let sum := value + Digits.digit c * (place / 10)
        sum :: if width ≤ sum then [] else placeSums sum (place / 10) rest

theorem placeSums_below_iff {value : Nat} (hvalue : value < width) (place : Nat)
    (digits : List Char) :
    (∀ sum ∈ placeSums value place digits, sum < width) ↔
      value + fractionNanos place digits < width := by
  induction digits generalizing value place with
  | nil => simp [placeSums, fractionNanos, hvalue]
  | cons c rest ih =>
      rw [placeSums]
      split
      · rename_i hplace
        rw [fractionNanos_of_lt_ten (by omega)]
        simp [hvalue]
      · rw [List.forall_mem_cons, fractionNanos]
        by_cases hfirst : value + Digits.digit c * (place / 10) < width
        · rw [if_neg (by omega), ih hfirst, Nat.add_assoc]
          simp [hfirst]
        · simp only [hfirst, false_and, false_iff]
          omega

namespace Term

/-- The sums that are made in a term. There are none if the check of the whole part fails. -/
def sums (t : Term) : List Nat :=
  if width ≤ t.wholeNanos then [] else placeSums t.wholeNanos t.scale t.fraction

/-- The whole part is the greatest whose units fit the width, and the fraction reaches the width. -/
def Wraps (t : Term) : Prop :=
  Digits.value t.whole = width / t.scale ∧ 0 < width % t.scale ∧
    width % t.scale ≤ fractionNanos t.scale t.fraction

instance (t : Term) : Decidable t.Wraps :=
  inferInstanceAs (Decidable (_ ∧ _))

variable {t : Term}

theorem Wraps.reaches (h : t.Wraps) : t.wholeNanos < width ∧ width ≤ t.counted := by
  obtain ⟨hwhole, hpos, hreach⟩ := h
  have hsplit := Nat.div_add_mod' width t.scale
  rw [counted, wholeNanos, hwhole]
  omega

theorem scale_pos (hwhole : t.wholeNanos < width) (hreach : width ≤ t.counted) : 0 < t.scale := by
  by_contra hzero
  rw [counted, Nat.eq_zero_of_not_pos hzero, fractionNanos_of_lt_ten (by decide)] at hreach
  omega

theorem Digital.wraps_iff (h : t.Digital) :
    t.Wraps ↔ t.wholeNanos < width ∧ width ≤ t.counted := by
  refine ⟨Wraps.reaches, fun ⟨hwhole, hreach⟩ => ?_⟩
  have hscale := scale_pos hwhole hreach
  have hsplit := Nat.div_add_mod' width t.scale
  have hrest := Nat.mod_lt width hscale
  have hfraction := fractionNanos_lt h.fraction hscale
  rw [counted] at hreach
  rw [wholeNanos] at hwhole hreach
  have hgreatest : Digits.value t.whole = width / t.scale := by
    rcases Nat.lt_trichotomy (Digits.value t.whole) (width / t.scale) with hless | heq | hmore
    · -- One more unit would fit, which the fraction does not make up for.
      have hnext := Nat.mul_le_mul_right t.scale (Nat.succ_le_of_lt hless)
      rw [Nat.succ_mul] at hnext
      omega
    · exact heq
    · have hnext := Nat.mul_le_mul_right t.scale (Nat.succ_le_of_lt hmore)
      rw [Nat.succ_mul] at hnext
      omega
  rw [hgreatest] at hwhole hreach
  exact ⟨hgreatest, by omega, by omega⟩

theorem Digital.sums_below_iff (h : t.Digital) : (∀ sum ∈ t.sums, sum < width) ↔ ¬t.Wraps := by
  rw [sums, h.wraps_iff]
  split
  · simp
    omega
  · rename_i hwhole
    rw [placeSums_below_iff (Nat.not_le.mp hwhole), counted]
    omega

theorem Wraps.legible (h : t.Wraps) : t.Legible := by
  obtain ⟨hfits, hreach⟩ := h.reaches
  have hscale := scale_pos hfits hreach
  refine ⟨fun ⟨hnil, _⟩ => ?_, ?_⟩
  · -- Without digits the whole part is zero, which is not the greatest that fits.
    have hzero : width / t.scale = 0 := by
      rw [← h.1, hnil]
      rfl
    have hlarge : 0 < width / t.scale :=
      Nat.div_pos (t.scale_le.trans (by decide)) hscale
    omega
  · rw [scale] at hscale
    cases hunit : TimeUnit.ofSymbol? t.symbol with
    | none =>
        rw [hunit] at hscale
        cases hscale
    | some unit => exact ⟨unit, rfl⟩

theorem Digital.value?_eq_panicked_iff (h : t.Digital) :
    t.value? = .error .panicked ↔ t.Wraps := by
  rw [Term.value?_eq_panicked_iff, ← h.wraps_iff]
  exact ⟨And.right, fun hwraps => ⟨hwraps.legible, hwraps⟩⟩

end Term

/-- The terms that are read before a text is refused, the refused one included. -/
def reached : Nat → List Term → List Term
  | _, [] => []
  | total, t :: ts =>
      t :: match t.value? with
        | .error _ => []
        | .ok n => if longest < total + n then [] else reached (total + n) ts

theorem mem_of_mem_reached {total : Nat} {ts : List Term} {t : Term} (h : t ∈ reached total ts) :
    t ∈ ts := by
  induction ts generalizing total with
  | nil => exact h
  | cons first ts ih =>
      rw [reached] at h
      rcases List.mem_cons.mp h with rfl | h
      · exact List.mem_cons_self
      · apply List.mem_cons_of_mem
        split at h
        · cases h
        · split at h
          · cases h
          · exact ih h

theorem sum?_eq_panicked_iff {total : Nat} {ts : List Term} :
    sum? total ts = .error .panicked ↔ ∃ t ∈ reached total ts, t.value? = .error .panicked := by
  induction ts generalizing total with
  | nil => simp [sum?, reached]
  | cons t ts ih =>
      rw [sum?, reached]
      cases hvalue : t.value? with
      | error stop => simp [hvalue]
      | ok n =>
          simp only [List.mem_cons, exists_eq_or_imp, hvalue, reduceCtorEq, false_or]
          split
          · simp
          · exact ih

theorem map_mk_eq_panicked_iff {sum : Except Stop Nat} :
    sum.map mk = .error .panicked ↔ sum = .error .panicked := by
  cases sum <;> simp [Except.map]

/-- The reader panics over exactly those texts in which it comes to a term that wraps. -/
theorem parse_eq_panicked_iff {text : String} :
    parse text = .error .panicked ↔ ∃ t ∈ reached 0 (terms text), t.Wraps := by
  have hwraps : sum? 0 (terms text) = .error .panicked ↔
      ∃ t ∈ reached 0 (terms text), t.Wraps := by
    rw [sum?_eq_panicked_iff]
    exact exists_congr fun t => and_congr_right fun ht =>
      (digital_of_mem_terms (mem_of_mem_reached ht)).value?_eq_panicked_iff
  have hnone : terms text = [] → ¬∃ t ∈ reached 0 (terms text), t.Wraps := by
    intro hnil
    simp [hnil, reached]
  rw [parse_eq]
  split
  · rename_i hminus
    simp only [Except.error.injEq, reduceCtorEq, false_iff]
    exact hnone (by rw [terms, if_pos (.inl hminus)])
  · split
    · rename_i hminus hempty
      simp only [Except.error.injEq, reduceCtorEq, false_iff]
      refine hnone ?_
      rw [terms, hempty, cut, ite_self]
    · rw [map_mk_eq_panicked_iff, hwraps]

/-- What is promised about the sums in a text: none outgrows the width, and a text with a term that is
too long by its whole part alone is refused. -/
structure SumsFit (text : String) : Prop where
  below : ∀ t ∈ reached 0 (terms text), ∀ sum ∈ t.sums, sum < width
  refused : ∀ t ∈ terms text, longest < t.wholeNanos → ∃ e, parse text = .error (.refused e)

/-- The promise is kept for exactly those texts in which no term that is read wraps, and over the others
the reader panics. -/
theorem sumsFit_iff (text : String) :
    (SumsFit text ↔ ∀ t ∈ reached 0 (terms text), ¬t.Wraps) ∧
      (parse text = .error .panicked ↔ ∃ t ∈ reached 0 (terms text), t.Wraps) := by
  refine ⟨⟨fun h t ht => ?_, fun h => ⟨fun t ht => ?_, fun t ht hlong => ?_⟩⟩, parse_eq_panicked_iff⟩
  · have hdigital : t.Digital := digital_of_mem_terms (mem_of_mem_reached ht)
    exact hdigital.sums_below_iff.mp (h.below t ht)
  · have hdigital : t.Digital := digital_of_mem_terms (mem_of_mem_reached ht)
    exact hdigital.sums_below_iff.mpr (h t ht)
  · match hparse : parse text with
    | .error (.refused e) => exact ⟨e, rfl⟩
    | .error .panicked =>
        obtain ⟨wrapped, hreached, hwraps⟩ := parse_eq_panicked_iff.mp hparse
        exact absurd hwraps (h wrapped hreached)
    | .ok d =>
        obtain ⟨-, -, hsum⟩ := parse_eq_ok_iff.mp hparse
        obtain ⟨-, hcounted⟩ := (sum?_eq_ok hsum).1 t ht
        have hle : t.wholeNanos ≤ t.counted := Nat.le_add_right _ _
        omega

/-- The greatest number of microseconds that fits the width, and of the next one as much as is left of
the width. -/
theorem not_sumsFit_microseconds :
    parse "340282366920938463463374607431768211.456us" = .error .panicked ∧
      ¬SumsFit "340282366920938463463374607431768211.456us" := by
  have hparse : parse "340282366920938463463374607431768211.456us" = .error .panicked := by
    decide +kernel
  have hterm : ⟨"340282366920938463463374607431768211".toList, "456".toList, "us".toList⟩ ∈
      terms "340282366920938463463374607431768211.456us" := by
    decide +kernel
  refine ⟨hparse, fun h => ?_⟩
  obtain ⟨e, herror⟩ := h.refused _ hterm (by decide +kernel)
  rw [hparse] at herror
  cases herror

end ClusterOperator.Duration
