import ClusterOperator.Duration.Parser
import ClusterOperator.Duration.Printer
import ClusterOperator.Proofs.Number.Digits

namespace ClusterOperator.Duration

def Term.chars (t : Term) : List Char :=
  t.whole ++ ((if t.fraction = [] then [] else '.' :: t.fraction) ++ t.symbol)

/-- Whether the parts of a term are what the reader takes for them. -/
structure Term.Plain (t : Term) : Prop where
  whole : ∀ c ∈ t.whole, c.isDigit
  fraction : ∀ c ∈ t.fraction, c.isDigit
  symbol : ∀ c ∈ t.symbol, isSymbolChar c
  whole_ne : t.whole ≠ []
  symbol_ne : t.symbol ≠ []

theorem takeWhile_append_stop {p : Char → Bool} {front back : List Char}
    (hfront : ∀ c ∈ front, p c) (hback : ∀ c ∈ back.head?, p c = false) :
    (front ++ back).takeWhile p = front ∧ (front ++ back).dropWhile p = back := by
  rw [List.takeWhile_append_of_pos hfront, List.dropWhile_append_of_pos hfront]
  cases back with
  | nil => exact ⟨List.append_nil front, rfl⟩
  | cons c back =>
      have hc : ¬p c = true := by
        rw [hback c rfl]
        nofun
      rw [List.takeWhile_cons_of_neg hc, List.dropWhile_cons_of_neg hc]
      exact ⟨List.append_nil front, rfl⟩

theorem isDigit_eq_false_of_isSymbolChar {c : Char} (h : isSymbolChar c) : c.isDigit = false := by
  simp only [isSymbolChar, Bool.not_eq_true', Bool.or_eq_false_iff] at h
  exact h.2

theorem ne_point_of_isSymbolChar {c : Char} (h : isSymbolChar c) : c ≠ '.' := by
  rintro rfl
  cases h

theorem isSymbolChar_eq_false_of_isDigit {c : Char} (h : c.isDigit) : isSymbolChar c = false := by
  rw [isSymbolChar, h, Bool.or_true, Bool.not_true]

section Split

variable {whole fraction symbol rest : List Char} (hwhole : ∀ c ∈ whole, c.isDigit)
  (hsymbol : ∀ c ∈ symbol, isSymbolChar c) (hnext : ∀ c ∈ (symbol ++ rest).head?, isSymbolChar c)
  (hrest : ∀ c ∈ rest.head?, isSymbolChar c = false)

include hwhole hsymbol hnext hrest

theorem splitTerm_whole : splitTerm (whole ++ (symbol ++ rest)) = (⟨whole, [], symbol⟩, rest) := by
  have hstop : ∀ c ∈ (symbol ++ rest).head?, c.isDigit = false := fun c hc =>
    isDigit_eq_false_of_isSymbolChar (hnext c hc)
  obtain ⟨htake, hdrop⟩ := takeWhile_append_stop hwhole hstop
  obtain ⟨htakeSymbol, hdropSymbol⟩ := takeWhile_append_stop hsymbol hrest
  simp only [splitTerm, htake, hdrop]
  -- No fraction is read, as what follows the digits does not begin with a point.
  split
  · rename_i heq
    exact absurd rfl (ne_point_of_isSymbolChar (hnext '.' (by rw [heq]; rfl)))
  · rw [htakeSymbol, hdropSymbol]

theorem splitTerm_point (hfraction : ∀ c ∈ fraction, c.isDigit) :
    splitTerm (whole ++ '.' :: (fraction ++ (symbol ++ rest))) =
      (⟨whole, fraction, symbol⟩, rest) := by
  have hpoint : ∀ c ∈ ('.' :: (fraction ++ (symbol ++ rest))).head?, c.isDigit = false := by
    rintro c ⟨⟩
    rfl
  have hstop : ∀ c ∈ (symbol ++ rest).head?, c.isDigit = false := fun c hc =>
    isDigit_eq_false_of_isSymbolChar (hnext c hc)
  obtain ⟨htake, hdrop⟩ := takeWhile_append_stop hwhole hpoint
  obtain ⟨htakeFraction, hdropFraction⟩ := takeWhile_append_stop hfraction hstop
  obtain ⟨htakeSymbol, hdropSymbol⟩ := takeWhile_append_stop hsymbol hrest
  simp only [splitTerm, htake, hdrop, htakeFraction, hdropFraction, htakeSymbol, hdropSymbol]

end Split

theorem isSymbolChar_head? {symbol : List Char} (hsymbol : ∀ c ∈ symbol, isSymbolChar c)
    (hne : symbol ≠ []) (rest : List Char) : ∀ c ∈ (symbol ++ rest).head?, isSymbolChar c := by
  obtain ⟨first, symbol, rfl⟩ := List.exists_cons_of_ne_nil hne
  rintro c ⟨⟩
  exact hsymbol first List.mem_cons_self

/-- The reader cuts a term off as it was written, if no symbol goes on after it. -/
theorem splitTerm_chars {t : Term} (h : t.Plain) {rest : List Char}
    (hrest : ∀ c ∈ rest.head?, isSymbolChar c = false) :
    splitTerm (t.chars ++ rest) = (t, rest) := by
  obtain ⟨whole, fraction, symbol⟩ := t
  obtain ⟨hwhole, hfraction, hsymbol, -, hne⟩ := h
  have hnext := isSymbolChar_head? hsymbol hne rest
  cases fraction with
  | nil =>
      simp only [Term.chars, if_true, List.nil_append, List.append_assoc]
      exact splitTerm_whole hwhole hsymbol hnext hrest
  | cons place fraction =>
      simp only [Term.chars, if_neg (List.cons_ne_nil place fraction), List.append_assoc,
        List.cons_append]
      exact splitTerm_point hwhole hsymbol hnext hrest hfraction

theorem TimeUnit.ofSymbol?_symbol (unit : TimeUnit) : ofSymbol? unit.symbol = some unit := by
  cases unit <;> decide

theorem TimeUnit.nanos_le (unit : TimeUnit) : unit.nanos ≤ 3600 * 1000000000 := by
  cases unit <;> decide

/-- Places of a fraction add up to the number that their digits denote. -/
theorem addFraction_eq {digits : List Char} (hdigits : ∀ c ∈ digits, c.isDigit) {value places : Nat}
    (hlength : digits.length ≤ places) (hwidth : value + 10 ^ places ≤ width) :
    addFraction value (10 ^ places) digits =
      some (value + Digits.value digits * 10 ^ (places - digits.length)) := by
  induction digits generalizing value places with
  | nil => simp only [addFraction, Digits.value, List.foldl_nil, Nat.zero_mul, Nat.add_zero]
  | cons c rest ih =>
      obtain ⟨fewer, rfl⟩ : ∃ fewer, places = fewer + 1 :=
        Nat.exists_eq_add_one_of_ne_zero (by rintro rfl; cases hlength)
      have hc := Digits.digit_le_nine (hdigits c List.mem_cons_self)
      have hplace : 10 ^ (fewer + 1) / 10 = 10 ^ fewer := by
        rw [Nat.pow_succ, Nat.mul_div_cancel _ (by decide)]
      have hpos : 0 < 10 ^ fewer := Nat.pow_pos (by decide)
      have hsmall : Digits.digit c * 10 ^ fewer ≤ 9 * 10 ^ fewer := Nat.mul_le_mul_right _ hc
      have hlength' : rest.length ≤ fewer := Nat.le_of_succ_le_succ hlength
      have hshift : 10 ^ rest.length * 10 ^ (fewer - rest.length) = 10 ^ fewer := by
        rw [← Nat.pow_add, Nat.add_sub_cancel' hlength']
      rw [Nat.pow_succ] at hwidth
      rw [addFraction, hplace, if_neg (by omega), if_neg (by omega),
        ih (fun d hd => hdigits d (List.mem_cons_of_mem c hd)) hlength' (by omega)]
      rw [Digits.value_cons, List.length_cons, Nat.add_sub_add_right, Nat.add_mul, Nat.mul_assoc,
        hshift, Nat.add_assoc]

/-- A term that the reader understands, and the nanoseconds that it takes. -/
structure Written (term : Term) (nanos : Nat) : Prop where
  plain : term.Plain
  value : term.value? = .ok nanos

/-- The term of a number of units of `10 ^ places`. -/
def decimalTerm (n places : Nat) (unit : TimeUnit) : Term where
  whole := Nat.toDigits 10 (n / 10 ^ places)
  fraction :=
    if n % 10 ^ places = 0 then [] else Digits.trimZeros (Digits.padded places (n % 10 ^ places))
  symbol := unit.symbol

theorem trimZeros_padded_ne_nil {places n : Nat} (hn : n ≠ 0) :
    Digits.trimZeros (Digits.padded places n) ≠ [] := by
  intro hnil
  obtain ⟨k, hk⟩ := Digits.exists_trimZeros (Digits.padded places n)
  have hvalue := Digits.value_padded places n
  rw [hk, hnil, List.nil_append, Digits.value_replicate_zero] at hvalue
  exact hn hvalue.symm

theorem decimal_eq (n places : Nat) : decimal n places =
    if n % 10 ^ places = 0 then Nat.toDigits 10 (n / 10 ^ places)
    else Nat.toDigits 10 (n / 10 ^ places) ++
      '.' :: Digits.trimZeros (Digits.padded places (n % 10 ^ places)) := rfl

theorem chars_decimalTerm (n places : Nat) (unit : TimeUnit) :
    (decimalTerm n places unit).chars = decimal n places ++ unit.symbol := by
  simp only [Term.chars, decimalTerm, decimal_eq]
  by_cases hzero : n % 10 ^ places = 0
  · simp only [if_pos hzero, if_true, List.nil_append]
  · simp only [if_neg hzero, if_neg (trimZeros_padded_ne_nil hzero), List.append_assoc]

theorem isSymbolChar_of_mem_symbol (unit : TimeUnit) : ∀ c ∈ unit.symbol, isSymbolChar c := by
  have hall : unit.symbol.all isSymbolChar = true := by
    cases unit <;> rfl
  exact List.all_eq_true.mp hall

theorem plain_decimalTerm (n places : Nat) (unit : TimeUnit) :
    (decimalTerm n places unit).Plain where
  whole := fun _ hc => Digits.isDigit_of_mem_toDigits hc
  fraction := by
    intro c hc
    simp only [decimalTerm] at hc
    split at hc
    · cases hc
    · exact Digits.isDigit_of_mem_trimZeros (fun _ hd => Digits.isDigit_of_mem_padded hd) hc
  symbol := isSymbolChar_of_mem_symbol unit
  whole_ne := Nat.toDigits_ne_nil
  symbol_ne := by cases unit <;> nofun

theorem value?_decimalTerm {n places nanos : Nat} {unit : TimeUnit}
    (hn : n / 10 ^ places * unit.nanos ≤ longest)
    (hfraction : addFraction (n / 10 ^ places * unit.nanos) unit.nanos
      (decimalTerm n places unit).fraction = some nanos) :
    (decimalTerm n places unit).value? = .ok nanos := by
  have hplain := plain_decimalTerm n places unit
  have hpos : 1 ≤ unit.nanos := by cases unit <;> decide
  have hwhole : n / 10 ^ places ≤ n / 10 ^ places * unit.nanos := Nat.le_mul_of_pos_right _ hpos
  have hwidth : longest < width := by decide
  have hempty : ¬((decimalTerm n places unit).whole.isEmpty ∧
      (decimalTerm n places unit).fraction.isEmpty) :=
    fun h => hplain.whole_ne (List.isEmpty_iff.mp h.1)
  have hsymbol : ¬(decimalTerm n places unit).symbol.isEmpty :=
    fun h => hplain.symbol_ne (List.isEmpty_iff.mp h)
  rw [Term.value?, if_neg hempty, if_neg hsymbol]
  have hunit : TimeUnit.ofSymbol? (decimalTerm n places unit).symbol = some unit :=
    unit.ofSymbol?_symbol
  have hvalue : Digits.value (decimalTerm n places unit).whole = n / 10 ^ places :=
    Digits.value_toDigits _
  simp only [hunit, hvalue]
  rw [if_neg (by omega), if_neg (by omega), hfraction]

theorem written_count {n : Nat} {unit : TimeUnit} (hn : n * unit.nanos ≤ longest) :
    Written (decimalTerm n 0 unit) (n * unit.nanos) where
  plain := plain_decimalTerm n 0 unit
  value := by
    have hone : n / 10 ^ 0 = n := Nat.div_one n
    apply value?_decimalTerm
    · rw [hone]
      exact hn
    · rw [hone]
      simp only [decimalTerm, Nat.pow_zero, Nat.mod_one, if_true, addFraction]

theorem written_decimal {n places : Nat} {unit : TimeUnit} (hunit : unit.nanos = 10 ^ places)
    (hn : n ≤ longest) : Written (decimalTerm n places unit) n where
  plain := plain_decimalTerm n places unit
  value := by
    have hle : n / 10 ^ places * unit.nanos ≤ n := by
      rw [hunit]
      exact Nat.div_mul_le_self n _
    have hsplit : n / 10 ^ places * 10 ^ places + n % 10 ^ places = n := by
      rw [Nat.mul_comm]
      exact Nat.div_add_mod n _
    apply value?_decimalTerm (Nat.le_trans hle hn)
    rw [hunit]
    by_cases hzero : n % 10 ^ places = 0
    · have hwhole : n / 10 ^ places * 10 ^ places = n := by omega
      simp only [decimalTerm, if_pos hzero, addFraction, hwhole]
    · have hplaces : 0 < places := by
        rcases Nat.eq_zero_or_pos places with rfl | hpos
        · exact absurd (Nat.mod_one n) hzero
        · exact hpos
      have hlength := Digits.length_padded hplaces
        (Nat.mod_lt n (Nat.pow_pos (by decide : 0 < 10)))
      obtain ⟨hshort, hvalue⟩ := Digits.value_trimZeros (Digits.padded places (n % 10 ^ places))
      rw [hlength] at hshort
      rw [hlength, Digits.value_padded] at hvalue
      have hbound := unit.nanos_le
      have hwidth : longest + 3600 * 1000000000 ≤ width := by decide
      simp only [decimalTerm, if_neg hzero]
      rw [addFraction_eq _ hshort (by omega), hvalue, hsplit]
      intro c hc
      exact Digits.isDigit_of_mem_trimZeros (fun _ hd => Digits.isDigit_of_mem_padded hd) hc

/-- A text is a sequence of terms that take so many nanoseconds together. -/
inductive Spells : List Char → Nat → Prop
  | nil : Spells [] 0
  | cons {term : Term} {nanos : Nat} {chars : List Char} {total : Nat}
      (hterm : Written term nanos) (hrest : Spells chars total) :
      Spells (term.chars ++ chars) (nanos + total)

theorem Spells.single {term : Term} {nanos : Nat} (h : Written term nanos) :
    Spells term.chars nanos := by
  have hspells := Spells.cons h .nil
  rw [List.append_nil, Nat.add_zero] at hspells
  exact hspells

theorem Term.Plain.exists_chars {t : Term} (h : t.Plain) :
    ∃ c d rest, t.chars = c :: d :: rest ∧ c.isDigit := by
  obtain ⟨c, whole, hwhole⟩ := List.exists_cons_of_ne_nil h.whole_ne
  have hc := h.whole c (by rw [hwhole]; exact List.mem_cons_self)
  have hne : whole ++ ((if t.fraction = [] then [] else '.' :: t.fraction) ++ t.symbol) ≠ [] := by
    intro hnil
    exact h.symbol_ne (List.append_eq_nil_iff.mp (List.append_eq_nil_iff.mp hnil).2).2
  obtain ⟨d, rest, hrest⟩ := List.exists_cons_of_ne_nil hne
  refine ⟨c, d, rest, ?_, hc⟩
  rw [Term.chars, hwhole, List.cons_append, hrest]

theorem Spells.isDigit_head? {chars : List Char} {nanos : Nat} (h : Spells chars nanos) :
    ∀ c ∈ chars.head?, c.isDigit := by
  cases h with
  | nil => nofun
  | cons hterm hrest =>
      obtain ⟨c, d, rest, hchars, hc⟩ := hterm.plain.exists_chars
      rw [hchars]
      rintro _ ⟨⟩
      exact hc

theorem Spells.ne_nil {chars : List Char} {nanos : Nat} (h : Spells chars nanos)
    (hnanos : nanos ≠ 0) : chars ≠ [] := by
  cases h with
  | nil => exact absurd rfl hnanos
  | cons hterm hrest =>
      obtain ⟨c, d, rest, hchars, -⟩ := hterm.plain.exists_chars
      rw [hchars]
      nofun

theorem Spells.sumTerms_eq {chars : List Char} {nanos : Nat} (h : Spells chars nanos)
    {total bound : Nat} (hsum : total + nanos ≤ longest) (hbound : chars.length ≤ bound) :
    sumTerms bound total chars = .ok (total + nanos) := by
  induction h generalizing total bound with
  | nil => simp only [sumTerms, Nat.add_zero]
  | @cons term value chars later hterm hrest ih =>
      obtain ⟨c, d, rest, hchars, -⟩ := hterm.plain.exists_chars
      have hhead : ∀ c ∈ chars.head?, isSymbolChar c = false := fun c hc =>
        isSymbolChar_eq_false_of_isDigit (hrest.isDigit_head? c hc)
      have hsplit := splitTerm_chars hterm.plain hhead
      have hwidth : longest < width := by decide
      rw [hchars] at hsplit hbound ⊢
      simp only [List.cons_append, List.length_cons, List.length_append] at hsplit hbound ⊢
      obtain ⟨fewer, rfl⟩ : ∃ fewer, bound = fewer + 1 :=
        Nat.exists_eq_add_one_of_ne_zero (by omega)
      rw [sumTerms, hsplit]
      simp only [hterm.value]
      rw [if_neg (by omega), if_neg (by omega), ih (by omega) (by omega), Nat.add_assoc]

theorem Spells.parseChars_eq {chars : List Char} {nanos : Nat} (h : Spells chars nanos)
    (hne : chars ≠ []) (hnanos : nanos ≤ longest) : parseChars chars = .ok ⟨nanos⟩ := by
  have hsum : 0 + nanos ≤ longest := by
    rw [Nat.zero_add]
    exact hnanos
  have hread := h.sumTerms_eq hsum (Nat.le_refl _)
  rw [Nat.zero_add] at hread
  cases h with
  | nil => exact absurd rfl hne
  | @cons term value chars later hterm hrest =>
      obtain ⟨c, d, rest, hchars, hc⟩ := hterm.plain.exists_chars
      have hplus : c ≠ '+' := by
        rintro rfl
        cases hc
      have hminus : c ≠ '-' := by
        rintro rfl
        cases hc
      rw [hchars] at hread ⊢
      simp only [List.cons_append] at hread ⊢
      rw [parseChars.eq_3 _ (fun _ heq => hplus (List.cons.inj heq).1)
        (fun _ heq => hminus (List.cons.inj heq).1), parseUnsigned, if_neg nofun, if_neg nofun,
        hread]

theorem spells_subsecond {n : Nat} (hn : n < TimeUnit.second.nanos) : Spells (subsecond n) n := by
  have hlongest : TimeUnit.second.nanos ≤ longest := by decide
  rw [subsecond]
  split
  · rw [← chars_decimalTerm]
    exact .single (written_decimal rfl (by omega))
  · split
    · rw [← chars_decimalTerm]
      exact .single (written_decimal rfl (by omega))
    · rw [← chars_decimalTerm]
      exact .single (written_decimal rfl (by omega))

theorem clock_parts (n : Nat) :
    n / TimeUnit.hour.nanos * TimeUnit.hour.nanos +
      (n % TimeUnit.hour.nanos / TimeUnit.minute.nanos * TimeUnit.minute.nanos +
        n % TimeUnit.minute.nanos) = n := by
  simp only [TimeUnit.nanos]
  omega

theorem chars_countTerm (n : Nat) (unit : TimeUnit) :
    (decimalTerm n 0 unit).chars = Nat.toDigits 10 n ++ unit.symbol := by
  rw [chars_decimalTerm, decimal_eq, Nat.pow_zero, Nat.mod_one, Nat.div_one, if_pos rfl]

theorem spells_clock {n : Nat} (hn : n ≤ longest) : Spells (clock n) n := by
  have hparts := clock_parts n
  have hhours : Written (decimalTerm (n / TimeUnit.hour.nanos) 0 .hour) _ :=
    written_count (by omega)
  have hminutes : Written
      (decimalTerm (n % TimeUnit.hour.nanos / TimeUnit.minute.nanos) 0 .minute) _ :=
    written_count (by omega)
  have hseconds : Written (decimalTerm (n % TimeUnit.minute.nanos) 9 .second) _ :=
    written_decimal rfl (by omega)
  simp only [clock, ← chars_countTerm, List.append_assoc, ← chars_decimalTerm]
  split
  · have hspells := Spells.cons hhours (.cons hminutes (.single hseconds))
    rw [hparts] at hspells
    rw [List.append_assoc]
    exact hspells
  · rename_i hhour
    have hzero : n / TimeUnit.hour.nanos = 0 := Nat.eq_zero_of_not_pos hhour
    rw [hzero, Nat.zero_mul, Nat.zero_add] at hparts
    split
    · have hspells := Spells.cons hminutes (.single hseconds)
      rw [hparts] at hspells
      exact hspells
    · rename_i hminute
      rw [Nat.eq_zero_of_not_pos hminute, Nat.zero_mul, Nat.zero_add] at hparts
      have hspells : Spells _ (n % TimeUnit.minute.nanos) := .single hseconds
      rw [hparts] at hspells ⊢
      exact hspells

theorem spells_chars {d : Duration} (h : d.nanos ≤ longest) : Spells d.chars d.nanos := by
  rw [chars]
  split
  · rename_i hzero
    rw [hzero]
    have hzero : Written (decimalTerm 0 0 .second) (0 * TimeUnit.second.nanos) :=
      written_count (by decide)
    exact .single hzero
  · split
    · exact spells_subsecond ‹_›
    · exact spells_clock h

theorem chars_ne_nil {d : Duration} (h : d.nanos ≤ longest) : d.chars ≠ [] := by
  by_cases hzero : d.nanos = 0
  · rw [chars, if_pos hzero]
    nofun
  · exact (spells_chars h).ne_nil hzero

theorem text_ne_empty {d : Duration} (h : d.nanos ≤ longest) : d.text ≠ "" := by
  intro hempty
  apply chars_ne_nil h
  rw [← String.toList_ofList (l := d.chars)]
  exact congrArg String.toList hempty

theorem parse_text {d : Duration} (h : d.nanos ≤ longest) : parse d.text = .ok d := by
  rw [parse, text, String.toList_ofList]
  exact (spells_chars h).parseChars_eq (chars_ne_nil h) h

theorem sumTerms_le {bound total : Nat} {text : List Char} {nanos : Nat}
    (h : sumTerms bound total text = .ok nanos) (htotal : total ≤ longest) : nanos ≤ longest := by
  induction bound generalizing total text with
  | zero =>
      cases text with
      | nil =>
          cases h
          exact htotal
      | cons c rest => cases h
  | succ bound ih =>
      cases text with
      | nil =>
          cases h
          exact htotal
      | cons c rest =>
          simp only [sumTerms] at h
          split at h
          · cases h
          · split at h
            · cases h
            · split at h
              · cases h
              · exact ih h (Nat.le_of_not_lt ‹_›)

theorem parseUnsigned_le {text : List Char} {d : Duration} (h : parseUnsigned text = .ok d) :
    d.nanos ≤ longest := by
  simp only [parseUnsigned] at h
  split at h
  · cases h
    exact Nat.zero_le _
  · split at h
    · cases h
    · split at h
      · cases h
      · rename_i nanos hnanos
        cases h
        exact sumTerms_le hnanos (Nat.zero_le _)

theorem parse_le {text : String} {d : Duration} (h : parse text = .ok d) : d.nanos ≤ longest := by
  simp only [parse, parseChars] at h
  split at h
  · exact parseUnsigned_le h
  · cases h
  · exact parseUnsigned_le h

end ClusterOperator.Duration
