import Mathlib.Algebra.Order.BigOperators.Group.List
import Mathlib.Algebra.Order.Field.Rat
import Mathlib.Tactic.Linarith
import Mathlib.Tactic.Positivity
import ClusterOperator.Proofs.Duration.Fractions
import ClusterOperator.Proofs.Duration.Overflow

namespace ClusterOperator.Duration

def TimeUnit.symbols : List (List Char × TimeUnit) :=
  [("ns".toList, nanosecond), ("us".toList, microsecond), ("\u00b5s".toList, microsecond),
    ("\u03bcs".toList, microsecond), ("ms".toList, millisecond), ("s".toList, second),
    ("m".toList, minute), ("h".toList, hour)]

/-- The exact number with these digits before and behind the point. -/
def amount (whole fraction : List Char) : ℚ :=
  Digits.value whole + Digits.value fraction / 10 ^ fraction.length

/-- Decimal numbers without a sign. There are digits on at least one side of the point. -/
inductive IsNumber : List Char → ℚ → Prop
  | whole {whole} : whole ≠ [] → (∀ c ∈ whole, c.isDigit) → IsNumber whole (amount whole [])
  | point {whole fraction} : whole ≠ [] → (∀ c ∈ whole, c.isDigit) → (∀ c ∈ fraction, c.isDigit) →
      IsNumber (whole ++ '.' :: fraction) (amount whole fraction)
  | fraction {fraction} : fraction ≠ [] → (∀ c ∈ fraction, c.isDigit) →
      IsNumber ('.' :: fraction) (amount [] fraction)

/-- A number directly followed by a symbol, and the nanoseconds that it is worth. -/
inductive IsTerm : List Char → ℚ → Prop
  | mk {number symbol unit q} : IsNumber number q → (symbol, unit) ∈ TimeUnit.symbols →
      IsTerm (number ++ symbol) (q * unit.nanos)

inductive IsSum : List Char → ℚ → Prop
  | last {term q} : IsTerm term q → IsSum term q
  | more {term rest p q} : IsTerm term p → IsSum rest q → IsSum (term ++ rest) (p + q)

inductive IsUnsigned : List Char → ℚ → Prop
  | zero : IsUnsigned ['0'] 0
  | sum {text q} : IsSum text q → IsUnsigned text q

/-- The texts of durations, with the exact number of nanoseconds. -/
inductive Denotes : List Char → ℚ → Prop
  | plain {text q} : IsUnsigned text q → Denotes text q
  | plus {text q} : IsUnsigned text q → Denotes ('+' :: text) q

/-- Characters that stand neither in numbers nor in symbols, such as blanks and signs. -/
def IsForeign (c : Char) : Prop :=
  c.isDigit = false ∧ c ≠ '.' ∧ ∀ entry ∈ TimeUnit.symbols, c ∉ entry.1

/-- Terms that are followed by a number without a unit or with a symbol of none. -/
inductive BreaksOff : List Char → Prop
  | bare {number q} : IsNumber number q → BreaksOff number
  | unknown {number symbol rest q} : IsNumber number q → symbol ≠ [] →
      (∀ c ∈ symbol, isSymbolChar c) → (∀ unit, (symbol, unit) ∉ TimeUnit.symbols) →
      (∀ c ∈ rest.head?, isSymbolChar c = false) → BreaksOff (number ++ (symbol ++ rest))
  | later {term rest q} : IsTerm term q → BreaksOff rest → BreaksOff (term ++ rest)

/-- Texts that miss the grammar in one of the ways that occur. -/
inductive IsStray : List Char → Prop
  | empty {text} : afterPlus text = [] → IsStray text
  | minus {rest} : IsStray ('-' :: rest)
  | foreign {text c} : c ∈ afterPlus text → IsForeign c → IsStray text
  | breaksOff {text} : afterPlus text ≠ ['0'] → BreaksOff (afterPlus text) → IsStray text

theorem TimeUnit.ofSymbol?_eq_some_iff {symbol : List Char} {unit : TimeUnit} :
    ofSymbol? symbol = some unit ↔ (symbol, unit) ∈ symbols := by
  constructor
  · intro h
    simp only [ofSymbol?] at h
    split_ifs at h with hnano hmicro hmilli hsecond hminute hhour <;> cases h
    · rw [hnano]
      decide
    · rcases hmicro with rfl | rfl | rfl <;> decide
    · rw [hmilli]
      decide
    · rw [hsecond]
      decide
    · rw [hminute]
      decide
    · rw [hhour]
      decide
  · intro h
    have hall : ∀ entry ∈ symbols, ofSymbol? entry.1 = some entry.2 := by decide
    exact hall _ h

theorem TimeUnit.isSymbolChar_of_mem_symbols {symbol : List Char} {unit : TimeUnit}
    (h : (symbol, unit) ∈ symbols) : symbol ≠ [] ∧ ∀ c ∈ symbol, isSymbolChar c := by
  have hall : ∀ entry ∈ symbols, entry.1 ≠ [] ∧ entry.1.all isSymbolChar := by decide
  obtain ⟨hne, hchars⟩ := hall _ h
  exact ⟨hne, List.all_eq_true.mp hchars⟩

/-- Whether a text begins with a character that no symbol has, as numbers do. -/
def Opens (text : List Char) : Prop :=
  ∃ c rest, text = c :: rest ∧ isSymbolChar c = false

def Term.exactNanos (t : Term) : ℚ :=
  t.number * t.scale

variable {number symbol front back rest text : List Char} {p q : ℚ}

theorem Opens.append (h : Opens front) (back : List Char) : Opens (front ++ back) := by
  obtain ⟨c, rest, rfl, hc⟩ := h
  exact ⟨c, rest ++ back, rfl, hc⟩

theorem Opens.head? (h : Opens text) : ∀ c ∈ text.head?, isSymbolChar c = false := by
  obtain ⟨c, rest, rfl, hc⟩ := h
  rintro _ ⟨⟩
  exact hc

theorem Opens.ne_nil (h : Opens text) : text ≠ [] := by
  obtain ⟨c, rest, rfl, -⟩ := h
  exact List.cons_ne_nil c rest

theorem opens_of_digits (hne : text ≠ []) (hdigits : ∀ c ∈ text, c.isDigit) : Opens text := by
  obtain ⟨c, rest, rfl⟩ := List.exists_cons_of_ne_nil hne
  exact ⟨c, rest, rfl, isSymbolChar_eq_false_of_isDigit (hdigits c List.mem_cons_self)⟩

theorem IsNumber.opens (h : IsNumber number q) : Opens number := by
  cases h with
  | whole hne hdigits => exact opens_of_digits hne hdigits
  | point hne hdigits => exact (opens_of_digits hne hdigits).append _
  | fraction => exact ⟨'.', _, rfl, rfl⟩

theorem IsTerm.opens (h : IsTerm text q) : Opens text := by
  obtain ⟨hnumber, -⟩ := h
  exact hnumber.opens.append _

theorem IsSum.opens (h : IsSum text q) : Opens text := by
  cases h with
  | last hterm => exact hterm.opens
  | more hterm => exact hterm.opens.append _

theorem IsUnsigned.opens (h : IsUnsigned text q) : Opens text := by
  cases h with
  | zero => exact ⟨'0', [], rfl, rfl⟩
  | sum hsum => exact hsum.opens

theorem BreaksOff.opens (h : BreaksOff text) : Opens text := by
  cases h with
  | bare hnumber => exact hnumber.opens
  | unknown hnumber => exact hnumber.opens.append _
  | later hterm => exact hterm.opens.append _

theorem IsTerm.two_le_length (h : IsTerm text q) : 2 ≤ text.length := by
  obtain ⟨hnumber, hsymbol⟩ := h
  have hnumber_pos := List.length_pos_iff.mpr hnumber.opens.ne_nil
  have hsymbol_pos := List.length_pos_iff.mpr (TimeUnit.isSymbolChar_of_mem_symbols hsymbol).1
  rw [List.length_append]
  omega

theorem IsSum.two_le_length (h : IsSum text q) : 2 ≤ text.length := by
  cases h with
  | last hterm => exact hterm.two_le_length
  | more hterm => exact hterm.two_le_length.trans (List.sublist_append_left _ _).length_le

theorem IsNumber.exists_splitTerm (h : IsNumber number q) (hsymbol : ∀ c ∈ symbol, isSymbolChar c)
    (hnext : ∀ c ∈ (symbol ++ rest).head?, isSymbolChar c)
    (hrest : ∀ c ∈ rest.head?, isSymbolChar c = false) :
    ∃ t, splitTerm (number ++ (symbol ++ rest)) = (t, rest) ∧ t.symbol = symbol ∧ t.number = q ∧
      ¬(t.whole = [] ∧ t.fraction = []) := by
  cases h with
  | @whole whole hne hwhole =>
      exact ⟨_, splitTerm_whole hwhole hsymbol hnext hrest, rfl, rfl, fun hempty => hne hempty.1⟩
  | @point whole fraction hne hwhole hfraction =>
      rw [List.append_assoc, List.cons_append]
      exact ⟨_, splitTerm_point hwhole hsymbol hnext hrest hfraction, rfl, rfl,
        fun hempty => hne hempty.1⟩
  | @fraction fraction hne hfraction =>
      exact ⟨_, splitTerm_point (List.forall_mem_nil _) hsymbol hnext hrest hfraction, rfl, rfl,
        fun hempty => hne hempty.2⟩

theorem cut_eq (h : text ≠ []) : cut text = (splitTerm text).1 :: cut (splitTerm text).2 := by
  obtain ⟨c, rest, rfl⟩ := List.exists_cons_of_ne_nil h
  rw [cut]

theorem IsTerm.exists_cut (h : IsTerm front q) (hrest : ∀ c ∈ rest.head?, isSymbolChar c = false) :
    ∃ t, cut (front ++ rest) = t :: cut rest ∧ t.Legible ∧ t.exactNanos = q := by
  have hne : front ++ rest ≠ [] := (h.opens.append rest).ne_nil
  obtain @⟨number, symbol, unit, q, hnumber, hunit⟩ := h
  obtain ⟨hsymbol_ne, hsymbol⟩ := TimeUnit.isSymbolChar_of_mem_symbols hunit
  rw [List.append_assoc] at hne
  obtain ⟨t, hsplit, rfl, rfl, hdigits⟩ := hnumber.exists_splitTerm hsymbol
    (isSymbolChar_head? hsymbol hsymbol_ne rest) hrest
  have hknown := TimeUnit.ofSymbol?_eq_some_iff.mpr hunit
  refine ⟨t, ?_, ⟨hdigits, unit, hknown⟩, ?_⟩
  · rw [List.append_assoc, cut_eq hne, hsplit]
  · rw [Term.exactNanos, Term.scale_eq hknown]

theorem IsSum.cut (h : IsSum text q) :
    (∀ t ∈ Duration.cut text, t.Legible) ∧ ((Duration.cut text).map Term.exactNanos).sum = q := by
  induction h with
  | @last text q hterm =>
      have hrest : ∀ c ∈ ([] : List Char).head?, isSymbolChar c = false := nofun
      obtain ⟨t, hcut, hlegible, hexact⟩ := hterm.exists_cut hrest
      rw [List.append_nil, Duration.cut] at hcut
      rw [hcut]
      simp [hlegible, hexact]
  | @more term rest p q hterm hsum ih =>
      obtain ⟨t, hcut, hlegible, hexact⟩ := hterm.exists_cut hsum.opens.head?
      rw [hcut, List.forall_mem_cons, List.map_cons, List.sum_cons, hexact, ih.2]
      exact ⟨⟨hlegible, ih.1⟩, rfl⟩

theorem exists_isNumber (text : List Char)
    (h : ¬((splitTerm text).1.whole = [] ∧ (splitTerm text).1.fraction = [])) :
    ∃ number, IsNumber number (splitTerm text).1.number ∧
      text = number ++ ((splitTerm text).1.symbol ++ (splitTerm text).2) := by
  have hwhole : ∀ c ∈ text.takeWhile Char.isDigit, c.isDigit := fun _ hc =>
    List.mem_takeWhile_imp hc
  have hsplit := (List.takeWhile_append_dropWhile (p := Char.isDigit) (l := text)).symm
  -- From here on the text is what it was cut into; whether a point comes next decides the form.
  simp only [splitTerm] at h ⊢
  generalize text.takeWhile Char.isDigit = whole at *
  generalize text.dropWhile Char.isDigit = after at *
  subst hsplit
  split
  · rename_i rest
    have hfraction : ∀ c ∈ rest.takeWhile Char.isDigit, c.isDigit := fun _ hc =>
      List.mem_takeWhile_imp hc
    simp only [List.takeWhile_append_dropWhile]
    by_cases hempty : whole = []
    · subst hempty
      refine ⟨_, .fraction (fun hnil => h ⟨rfl, hnil⟩) hfraction, ?_⟩
      rw [List.cons_append, List.takeWhile_append_dropWhile, List.nil_append]
    · refine ⟨_, .point hempty hwhole hfraction, ?_⟩
      rw [List.append_assoc, List.cons_append, List.takeWhile_append_dropWhile]
  · rename_i hpoint
    simp only [List.takeWhile_append_dropWhile]
    refine ⟨whole, .whole (fun hnil => h ⟨hnil, ?_⟩) hwhole, rfl⟩
    split
    · exact absurd rfl (hpoint _)
    · rfl

theorem Term.Legible.exists_isTerm {text : List Char} (h : (splitTerm text).1.Legible) :
    ∃ term, IsTerm term (splitTerm text).1.exactNanos ∧ text = term ++ (splitTerm text).2 := by
  obtain ⟨hnumber, unit, hunit⟩ := h
  obtain ⟨number, hisNumber, htext⟩ := exists_isNumber text hnumber
  refine ⟨number ++ (splitTerm text).1.symbol, ?_, ?_⟩
  · rw [Term.exactNanos, Term.scale_eq hunit]
    exact .mk hisNumber (TimeUnit.ofSymbol?_eq_some_iff.mp hunit)
  · rw [List.append_assoc]
    exact htext

theorem isSum_of_cut (hne : text ≠ []) (h : ∀ t ∈ cut text, t.Legible) :
    IsSum text ((cut text).map Term.exactNanos).sum := by
  -- A text whose first term is all of it is the last of its sum, so what is left is looked at first.
  induction text using cut.induct with
  | case1 => exact absurd rfl hne
  | case2 c rest ih =>
      rw [cut, List.forall_mem_cons] at h
      obtain ⟨term, hterm, htext⟩ := h.1.exists_isTerm
      rw [cut, List.map_cons, List.sum_cons]
      generalize splitTerm (c :: rest) = parts at *
      by_cases hlast : parts.2 = []
      · rw [hlast, List.append_nil] at htext
        rw [hlast, cut, List.map_nil, List.sum_nil, add_zero, htext]
        exact .last hterm
      · rw [htext]
        exact .more hterm (ih hlast h.2)

theorem isSum_iff : IsSum text q ↔
    text ≠ [] ∧ (∀ t ∈ cut text, t.Legible) ∧ ((cut text).map Term.exactNanos).sum = q := by
  constructor
  · exact fun h => ⟨h.opens.ne_nil, h.cut⟩
  · rintro ⟨hne, hlegible, rfl⟩
    exact isSum_of_cut hne hlegible

theorem not_isSum_zero : ¬IsSum ['0'] q := by
  intro h
  exact absurd h.two_le_length (by decide)

theorem isUnsigned_iff : IsUnsigned text q ↔
    text ≠ [] ∧ (∀ t ∈ if text = ['0'] then [] else cut text, t.Legible) ∧
      ((if text = ['0'] then [] else cut text).map Term.exactNanos).sum = q := by
  constructor
  · rintro (_ | hsum)
    · simp
    · have hzero : text ≠ ['0'] := by
        rintro rfl
        exact not_isSum_zero hsum
      rw [if_neg hzero]
      exact isSum_iff.mp hsum
  · intro h
    by_cases hzero : text = ['0']
    · rw [if_pos hzero] at h
      obtain ⟨-, -, rfl⟩ := h
      subst hzero
      exact .zero
    · rw [if_neg hzero] at h
      exact .sum (isSum_iff.mpr h)

theorem denotes_iff_isUnsigned {chars : List Char} :
    Denotes chars q ↔ chars.head? ≠ some '-' ∧ IsUnsigned (afterPlus chars) q := by
  constructor
  · rintro (hplain | hplus)
    · obtain ⟨c, rest, rfl, hc⟩ := hplain.opens
      have hafter : afterPlus (c :: rest) = c :: rest := by
        rw [afterPlus]
        rintro more ⟨⟩
        cases hc
      rw [hafter]
      refine ⟨?_, hplain⟩
      rintro ⟨⟩
      cases hc
    · exact ⟨by simp, hplus⟩
  · rintro ⟨-, h⟩
    rw [afterPlus.eq_def] at h
    split at h
    · exact .plus h
    · exact .plain h

theorem denotes_iff {text : String} : Denotes text.toList q ↔
    text.toList.head? ≠ some '-' ∧ afterPlus text.toList ≠ [] ∧
      (∀ t ∈ terms text, t.Legible) ∧ ((terms text).map Term.exactNanos).sum = q := by
  rw [denotes_iff_isUnsigned, isUnsigned_iff, terms]
  by_cases hminus : text.toList.head? = some '-'
  · simp [hminus]
  · simp only [hminus, false_or]

theorem Term.exactNanos_nonneg (t : Term) : 0 ≤ t.exactNanos := by
  rw [exactNanos, number]
  positivity

theorem Term.floorNanos_le (t : Term) : (t.floorNanos : ℚ) ≤ t.exactNanos :=
  Nat.floor_le t.exactNanos_nonneg

theorem Term.Legible.value?_eq_counted {t : Term} (h : t.Legible) (hfits : t.floorNanos ≤ longest) :
    t.value? = .ok t.counted := by
  have hwidth : longest < width := by decide
  have hcounted := t.counted_le_floorNanos
  exact value?_eq_ok_iff.mpr ⟨h, by omega, rfl⟩

theorem sum_floorNanos_le (ts : List Term) :
    (((ts.map Term.floorNanos).sum : ℕ) : ℚ) ≤ (ts.map Term.exactNanos).sum := by
  induction ts with
  | nil => simp
  | cons t ts ih =>
      rw [List.map_cons, List.sum_cons, List.map_cons, List.sum_cons, Nat.cast_add]
      exact add_le_add t.floorNanos_le ih

theorem sum?_eq_of_le {total : Nat} {ts : List Term} (hvalue : ∀ t ∈ ts, t.value? = .ok t.counted)
    (hsum : total + (ts.map Term.counted).sum ≤ longest) :
    sum? total ts = .ok (total + (ts.map Term.counted).sum) := by
  induction ts generalizing total with
  | nil => rfl
  | cons t ts ih =>
      rw [List.forall_mem_cons] at hvalue
      rw [List.map_cons, List.sum_cons, ← Nat.add_assoc] at hsum ⊢
      rw [sum?, hvalue.1]
      simp only
      rw [if_neg (by omega), ih hvalue.2 hsum]

theorem exists_sum?_eq_ok {ts : List Term} (hlegible : ∀ t ∈ ts, t.Legible)
    (hfits : (ts.map Term.exactNanos).sum ≤ longest) :
    ∃ n, sum? 0 ts = .ok n := by
  -- Each term is counted for at most its floor, and the floors together for at most the exact sum.
  have hfloors : (ts.map Term.floorNanos).sum ≤ longest := by
    exact_mod_cast (sum_floorNanos_le ts).trans hfits
  have hvalue : ∀ t ∈ ts, t.value? = .ok t.counted := by
    intro t ht
    have hterm : t.floorNanos ≤ (ts.map Term.floorNanos).sum :=
      List.le_sum_of_mem (List.mem_map_of_mem ht)
    exact (hlegible t ht).value?_eq_counted (hterm.trans hfloors)
  have hcounted : (ts.map Term.counted).sum ≤ (ts.map Term.floorNanos).sum :=
    List.sum_le_sum fun t _ => t.counted_le_floorNanos
  exact ⟨_, sum?_eq_of_le hvalue (by omega)⟩

theorem exists_denotes_of_parse {text : String} {d : Duration} (h : parse text = .ok d) :
    ∃ q, Denotes text.toList q := by
  obtain ⟨hminus, hne, hsum⟩ := parse_eq_ok_iff.mp h
  refine ⟨_, denotes_iff.mpr ⟨hminus, hne, fun t ht => ?_, rfl⟩⟩
  exact (Term.value?_eq_ok_iff.mp ((sum?_eq_ok hsum).1 t ht).1).1

theorem exists_parse_of_denotes {text : String} (h : Denotes text.toList q) (hq : q ≤ longest) :
    ∃ d, parse text = .ok d := by
  obtain ⟨hminus, hne, hlegible, rfl⟩ := denotes_iff.mp h
  obtain ⟨n, hsum⟩ := exists_sum?_eq_ok hlegible hq
  exact ⟨⟨n⟩, parse_eq_ok_iff.mpr ⟨hminus, hne, hsum⟩⟩

theorem not_legible_of_symbol {t : Term} (h : ∀ unit, (t.symbol, unit) ∉ TimeUnit.symbols) :
    ¬t.Legible := by
  rintro ⟨-, unit, hunit⟩
  exact h unit (TimeUnit.ofSymbol?_eq_some_iff.mp hunit)

theorem BreaksOff.exists_not_legible (h : BreaksOff text) : ∃ t ∈ cut text, ¬t.Legible := by
  induction h with
  | @bare number q hnumber =>
      have hrest : ∀ c ∈ ([] : List Char).head?, isSymbolChar c = false := nofun
      have hnext : ∀ c ∈ ([] ++ [] : List Char).head?, isSymbolChar c := nofun
      obtain ⟨t, hsplit, hsymbol, -⟩ := hnumber.exists_splitTerm (List.forall_mem_nil _) hnext hrest
      rw [List.append_nil, List.append_nil] at hsplit
      rw [cut_eq hnumber.opens.ne_nil, hsplit]
      refine ⟨t, List.mem_cons_self, not_legible_of_symbol fun unit => ?_⟩
      rw [hsymbol]
      cases unit <;> decide
  | @unknown number symbol rest q hnumber hne hsymbol hunknown hrest =>
      obtain ⟨t, hsplit, rfl, -⟩ := hnumber.exists_splitTerm hsymbol
        (isSymbolChar_head? hsymbol hne rest) hrest
      rw [cut_eq (hnumber.opens.append _).ne_nil, hsplit]
      exact ⟨t, List.mem_cons_self, not_legible_of_symbol hunknown⟩
  | @later term rest q hterm hrest ih =>
      obtain ⟨first, hcut, -⟩ := hterm.exists_cut hrest.opens.head?
      obtain ⟨t, ht, hlegible⟩ := ih
      rw [hcut]
      exact ⟨t, List.mem_cons_of_mem first ht, hlegible⟩

theorem IsNumber.not_isForeign (h : IsNumber number q) : ∀ c ∈ number, ¬IsForeign c := by
  have hdigit : ∀ c : Char, c.isDigit → ¬IsForeign c := by
    rintro c hc ⟨hdigit, -⟩
    rw [hc] at hdigit
    cases hdigit
  have hpoint : ¬IsForeign '.' := fun h => h.2.1 rfl
  cases h with
  | whole _ hwhole => exact fun c hc => hdigit c (hwhole c hc)
  | point _ hwhole hfraction =>
      rw [List.forall_mem_append, List.forall_mem_cons]
      exact ⟨fun c hc => hdigit c (hwhole c hc), hpoint, fun c hc => hdigit c (hfraction c hc)⟩
  | fraction _ hfraction =>
      rw [List.forall_mem_cons]
      exact ⟨hpoint, fun c hc => hdigit c (hfraction c hc)⟩

theorem IsTerm.not_isForeign (h : IsTerm text q) : ∀ c ∈ text, ¬IsForeign c := by
  obtain ⟨hnumber, hunit⟩ := h
  rw [List.forall_mem_append]
  exact ⟨hnumber.not_isForeign, fun c hc hforeign => hforeign.2.2 _ hunit hc⟩

theorem IsUnsigned.not_isForeign (h : IsUnsigned text q) : ∀ c ∈ text, ¬IsForeign c := by
  rcases h with _ | hsum
  · intro c hc hforeign
    rw [List.mem_singleton.mp hc] at hforeign
    exact absurd hforeign.1 (by decide)
  · induction hsum with
    | last hterm => exact hterm.not_isForeign
    | more hterm _ ih =>
        rw [List.forall_mem_append]
        exact ⟨hterm.not_isForeign, ih⟩

theorem IsStray.not_denotes {chars : List Char} (h : IsStray chars) : ¬Denotes chars q := by
  rw [denotes_iff_isUnsigned]
  rintro ⟨hminus, hunsigned⟩
  cases h with
  | empty hempty =>
      exact hunsigned.opens.ne_nil hempty
  | minus => exact hminus rfl
  | foreign hmem hforeign => exact hunsigned.not_isForeign _ hmem hforeign
  | breaksOff hzero hbroken =>
      obtain ⟨t, ht, hlegible⟩ := hbroken.exists_not_legible
      have hall := (isUnsigned_iff.mp hunsigned).2.1
      rw [if_neg hzero] at hall
      exact hlegible (hall t ht)

theorem refused_iff_of_not_denotes {text : String} (h : ∀ q, ¬Denotes text.toList q) :
    (∃ e, parse text = .error (.refused e)) ↔ ∀ t ∈ reached 0 (terms text), ¬t.Wraps := by
  constructor
  · rintro ⟨e, herror⟩ t ht hwraps
    have hpanicked := parse_eq_panicked_iff.mpr ⟨t, ht, hwraps⟩
    rw [herror] at hpanicked
    cases hpanicked
  · intro hsafe
    match hparse : parse text with
    | .error (.refused e) => exact ⟨e, rfl⟩
    | .error .panicked =>
        obtain ⟨t, ht, hwraps⟩ := parse_eq_panicked_iff.mp hparse
        exact absurd hwraps (hsafe t ht)
    | .ok d =>
        obtain ⟨q, hq⟩ := exists_denotes_of_parse hparse
        exact absurd hq (h q)

/-- A text outside the grammar is refused unless the reader comes to a term that wraps, over which it
panics; it is never read. A text in the grammar is read if its exact value is not too long. The grammar
gives a text one value at most, and none to a stray one. -/
theorem parse_grammar (text : String) :
    ((∀ q, ¬Denotes text.toList q) →
      ((∃ e, parse text = .error (.refused e)) ↔ ∀ t ∈ reached 0 (terms text), ¬t.Wraps) ∧
        (parse text = .error .panicked ↔ ∃ t ∈ reached 0 (terms text), t.Wraps) ∧
        ∀ d, parse text ≠ .ok d) ∧
    (∀ q : ℚ, Denotes text.toList q → q ≤ longest → ∃ d, parse text = .ok d) ∧
    (∀ p q : ℚ, Denotes text.toList p → Denotes text.toList q → p = q) ∧
    (IsStray text.toList → ∀ q, ¬Denotes text.toList q) := by
  refine ⟨fun hoff => ⟨refused_iff_of_not_denotes hoff, parse_eq_panicked_iff, fun d hparse => ?_⟩,
    fun q => exists_parse_of_denotes, fun p q hp hq => ?_, fun hstray q => hstray.not_denotes⟩
  · obtain ⟨q, hq⟩ := exists_denotes_of_parse hparse
    exact hoff q hq
  · obtain ⟨-, -, -, rfl⟩ := denotes_iff.mp hp
    obtain ⟨-, -, -, hsum⟩ := denotes_iff.mp hq
    exact hsum

theorem parse_grammar_forms :
    Denotes "+1h2.m.5s".toList 3720500000000 ∧ (3720500000000 : ℚ) ≤ longest ∧
      (∃ d, parse "+1h2.m.5s" = .ok d) ∧
      IsStray "1h 5m".toList ∧ ∃ e, parse "1h 5m" = .error (.refused e) := by
  have hhours : IsTerm "1h".toList 3600000000000 := by
    have h := IsTerm.mk (.whole (show ['1'] ≠ [] by decide) (List.all_eq_true.mp (by decide)))
      (show (['h'], TimeUnit.hour) ∈ TimeUnit.symbols by decide)
    norm_num [amount, show Digits.digit '1' = 1 from rfl, Digits.value, TimeUnit.nanos] at h
    exact h
  have hminutes : IsTerm "2.m".toList 120000000000 := by
    have h := IsTerm.mk (.point (show ['2'] ≠ [] by decide) (List.all_eq_true.mp (by decide))
      (List.forall_mem_nil _))
      (show (['m'], TimeUnit.minute) ∈ TimeUnit.symbols by decide)
    norm_num [amount, show Digits.digit '2' = 2 from rfl, Digits.value, TimeUnit.nanos] at h
    exact h
  have hseconds : IsTerm ".5s".toList 500000000 := by
    have h := IsTerm.mk (.fraction (show ['5'] ≠ [] by decide) (List.all_eq_true.mp (by decide)))
      (show (['s'], TimeUnit.second) ∈ TimeUnit.symbols by decide)
    norm_num [amount, show Digits.digit '5' = 5 from rfl, Digits.value, TimeUnit.nanos] at h
    exact h
  have hdenotes : Denotes "+1h2.m.5s".toList 3720500000000 := by
    have h := Denotes.plus (.sum (.more hhours (.more hminutes (.last hseconds))))
    norm_num at h
    exact h
  have hstray : IsStray "1h 5m".toList :=
    .foreign (c := ' ') (by decide) ⟨rfl, by decide, by decide⟩
  have hfits : (3720500000000 : ℚ) ≤ longest := by norm_num [longest]
  obtain ⟨-, hread, -, -⟩ := parse_grammar "+1h2.m.5s"
  obtain ⟨hoff, -, -, hnone⟩ := parse_grammar "1h 5m"
  obtain ⟨hrefused, -, -⟩ := hoff (hnone hstray)
  exact ⟨hdenotes, hfits, hread _ hdenotes hfits, hstray, hrefused.mpr (by decide +kernel)⟩

/-- The one that stands alone at the end makes the text none of the grammar, but the reader does not come
so far. -/
theorem panicked_of_not_denotes :
    (∀ q, ¬Denotes "340282366920938463463374607431768211.456us1".toList q) ∧
      parse "340282366920938463463374607431768211.456us1" = .error .panicked := by
  have hterm : ⟨['1'], [], []⟩ ∈ terms "340282366920938463463374607431768211.456us1" := by
    decide +kernel
  refine ⟨fun q hdenotes => ?_, by decide +kernel⟩
  obtain ⟨-, -, hlegible, -⟩ := denotes_iff.mp hdenotes
  obtain ⟨unit, hunit⟩ := (hlegible _ hterm).unit
  cases hunit

end ClusterOperator.Duration
