import Mathlib.Algebra.Group.Int.Defs
import Mathlib.Algebra.Group.Nat.Defs
import Mathlib.Data.List.TakeWhile
import ClusterOperator.Text.Basic

namespace ClusterOperator.Digits

theorem value_eq_ofDigitChars (digits : List Char) :
    value digits = Nat.ofDigitChars 10 digits 0 := by
  simp only [value, Nat.ofDigitChars_eq_foldl, Nat.mul_comm]
  rfl

@[simp] theorem value_toDigits (n : Nat) : value (Nat.toDigits 10 n) = n := by
  rw [value_eq_ofDigitChars, Nat.ofDigitChars_ten_toDigits]

theorem isDigit_of_mem_toDigits {n : Nat} {c : Char} (h : c ∈ Nat.toDigits 10 n) : c.isDigit :=
  Nat.isDigit_of_mem_toDigits (by decide) (by decide) h

theorem toString_injective {m n : Nat} (h : toString m = toString n) : m = n := by
  have hdigits : Nat.toDigits 10 m = Nat.toDigits 10 n := by
    rw [← Nat.toList_repr, ← Nat.toList_repr]
    exact congrArg String.toList h
  rw [← value_toDigits m, ← value_toDigits n, hdigits]

theorem value_append (front back : List Char) :
    value (front ++ back) = value front * 10 ^ back.length + value back := by
  simp only [value_eq_ofDigitChars]
  rw [Nat.ofDigitChars_append, Nat.ofDigitChars_eq_ofDigitChars_zero, Nat.mul_comm]

theorem value_cons (c : Char) (rest : List Char) :
    value (c :: rest) = digit c * 10 ^ rest.length + value rest := by
  have h := value_append [c] rest
  rw [List.singleton_append] at h
  rw [h]
  simp only [value, List.foldl_cons, List.foldl_nil, Nat.zero_mul, Nat.zero_add]

theorem value_replicate_zero (n : Nat) : value (List.replicate n '0') = 0 := by
  rw [value_eq_ofDigitChars, Nat.ofDigitChars_replicate_zero, Nat.mul_zero]

theorem digit_le_nine {c : Char} (h : c.isDigit) : digit c ≤ 9 := by
  have hc : 48 ≤ c.toNat ∧ c.toNat ≤ 57 := Char.isDigit_iff_toNat.mp h
  rw [digit]
  omega

theorem value_lt {digits : List Char} (h : ∀ c ∈ digits, c.isDigit) :
    value digits < 10 ^ digits.length := by
  induction digits with
  | nil => decide
  | cons c rest ih =>
      have hrest := ih fun d hd => h d (List.mem_cons_of_mem c hd)
      have hc := Nat.mul_le_mul_right (10 ^ rest.length) (digit_le_nine (h c List.mem_cons_self))
      rw [value_cons, List.length_cons, Nat.pow_succ]
      omega

theorem length_padded {width n : Nat} (hwidth : 0 < width) (hn : n < 10 ^ width) :
    (padded width n).length = width := by
  have hlength := (Nat.length_toDigits_le_iff (by decide) hwidth).mpr hn
  rw [padded, List.length_append, List.length_replicate]
  omega

@[simp] theorem value_padded (width n : Nat) : value (padded width n) = n := by
  rw [padded, value_append, value_replicate_zero, Nat.zero_mul, Nat.zero_add, value_toDigits]

theorem isDigit_of_mem_padded {width n : Nat} {c : Char} (h : c ∈ padded width n) :
    c.isDigit := by
  rcases List.mem_append.mp h with hzero | hdigit
  · rw [(List.mem_replicate.mp hzero).2]
    decide
  · exact isDigit_of_mem_toDigits hdigit

theorem exists_trimZeros (digits : List Char) :
    ∃ n, digits = trimZeros digits ++ List.replicate n '0' := by
  have hsplit : digits.reverse.takeWhile (fun c => decide (c = '0')) ++
      digits.reverse.dropWhile (fun c => decide (c = '0')) = digits.reverse :=
    List.takeWhile_append_dropWhile
  have hzeros : ∀ c ∈ digits.reverse.takeWhile (fun c => decide (c = '0')), c = '0' := by
    intro c hc
    have hzero := List.mem_takeWhile_imp (p := fun c => decide (c = '0')) hc
    exact of_decide_eq_true hzero
  refine ⟨(digits.reverse.takeWhile fun c => decide (c = '0')).length, ?_⟩
  have hdigits := congrArg List.reverse hsplit
  rw [List.reverse_append, List.reverse_reverse, List.eq_replicate_of_mem hzeros,
    List.reverse_replicate] at hdigits
  exact hdigits.symm

theorem value_trimZeros (digits : List Char) :
    (trimZeros digits).length ≤ digits.length ∧
      value (trimZeros digits) * 10 ^ (digits.length - (trimZeros digits).length) =
        value digits := by
  obtain ⟨n, hn⟩ := exists_trimZeros digits
  have hlength : digits.length = (trimZeros digits).length + n := by
    conv => lhs; rw [hn, List.length_append, List.length_replicate]
  refine ⟨by omega, ?_⟩
  have hn' : digits.length - (trimZeros digits).length = n := by omega
  conv => rhs; rw [hn, value_append, value_replicate_zero, List.length_replicate, Nat.add_zero]
  rw [hn']

theorem isDigit_of_mem_trimZeros {digits : List Char} (h : ∀ c ∈ digits, c.isDigit) {c : Char}
    (hc : c ∈ trimZeros digits) : c.isDigit := by
  obtain ⟨n, hn⟩ := exists_trimZeros digits
  apply h
  rw [hn]
  exact List.mem_append_left _ hc

end ClusterOperator.Digits
