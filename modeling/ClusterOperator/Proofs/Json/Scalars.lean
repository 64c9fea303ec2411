import ClusterOperator.Json.Outline
import ClusterOperator.Proofs.Number.Digits

namespace ClusterOperator.Json

open Text.Utf8 (Symbol)

/-- The symbols of a text without stray bytes. -/
def symbols (text : List Char) : List Symbol :=
  text.map some

@[simp] theorem symbols_nil : symbols [] = [] := rfl

@[simp] theorem symbols_cons (c : Char) (text : List Char) :
    symbols (c :: text) = some c :: symbols text := rfl

@[simp] theorem symbols_append (front back : List Char) :
    symbols (front ++ back) = symbols front ++ symbols back :=
  List.map_append

@[simp] theorem length_symbols (text : List Char) : (symbols text).length = text.length :=
  List.length_map _

theorem hexUnit?_control :
    ∀ n < 32, hexUnit? '0' '0' (hexDigit (n / 16)) (hexDigit (n % 16)) = some n := by
  decide

theorem joinPieces?_unit {n : Nat} (hn : n < 32) (rest : List Piece) (done : List Char) :
    joinPieces? (.unit n :: rest) done = joinPieces? rest (Char.ofNat n :: done) := by
  have hlead : isLead n = false := by
    simp [isLead]
    omega
  have htrail : isTrail n = false := by
    simp [isTrail]
    omega
  cases rest with
  | nil => simp [joinPieces?, hlead, htrail]
  | cons piece rest => cases piece <;> simp [joinPieces?, hlead, htrail]

theorem joinPieces?_short {letter c : Char} (h : shortEscape? letter = some c)
    (rest : List Piece) (done : List Char) :
    joinPieces? (.short letter :: rest) done = joinPieces? rest (c :: done) := by
  simp [joinPieces?, h]

theorem readPieces_char {c : Char} (hquote : c ≠ '"') (hslash : c ≠ '\\') (hc : ¬c.toNat < 32)
    (rest : List Symbol) (done : List Piece) :
    readPieces (some c :: rest) done = readPieces rest (.char c :: done) := by
  rw [readPieces.eq_7 _ _ _ hquote (fun _ _ _ _ _ _ => hslash) (fun _ _ => hslash)
    (fun _ _ _ => hslash) (fun _ _ => hslash) (fun _ => hslash), if_neg hc]

theorem exists_piece (c : Char) : ∃ piece,
    (∀ rest done, readPieces (symbols (escape c) ++ rest) done = readPieces rest (piece :: done)) ∧
      ∀ rest done, joinPieces? (piece :: rest) done = joinPieces? rest (c :: done) := by
  by_cases hquote : c = '"'
  · subst hquote
    exact ⟨.short '"', fun _ _ => rfl, joinPieces?_short rfl⟩
  by_cases hslash : c = '\\'
  · subst hslash
    exact ⟨.short '\\', fun _ _ => rfl, joinPieces?_short rfl⟩
  by_cases hn : c = '\n'
  · subst hn
    exact ⟨.short 'n', fun _ _ => rfl, joinPieces?_short rfl⟩
  by_cases hr : c = '\r'
  · subst hr
    exact ⟨.short 'r', fun _ _ => rfl, joinPieces?_short rfl⟩
  by_cases ht : c = '\t'
  · subst ht
    exact ⟨.short 't', fun _ _ => rfl, joinPieces?_short rfl⟩
  by_cases hb : c = Char.ofNat 8
  · subst hb
    exact ⟨.short 'b', fun _ _ => rfl, joinPieces?_short rfl⟩
  by_cases hf : c = Char.ofNat 12
  · subst hf
    exact ⟨.short 'f', fun _ _ => rfl, joinPieces?_short rfl⟩
  by_cases hcontrol : c.toNat < 32
  · refine ⟨.unit c.toNat, fun rest done => ?_, fun rest done => ?_⟩
    · simp [escape, hquote, hslash, hn, hr, ht, hb, hf, hcontrol, readPieces,
        hexUnit?_control _ hcontrol]
    · rw [joinPieces?_unit hcontrol, Char.ofNat_toNat]
  · refine ⟨.char c, fun rest done => ?_, fun rest done => rfl⟩
    simp [escape, hquote, hslash, hn, hr, ht, hb, hf, hcontrol,
      readPieces_char hquote hslash hcontrol]

theorem exists_pieces (text : List Char) : ∃ pieces,
    (∀ rest done, readPieces (symbols (text.flatMap escape) ++ rest) done =
      readPieces rest (pieces.reverse ++ done)) ∧
      ∀ rest done, joinPieces? (pieces ++ rest) done = joinPieces? rest (text.reverse ++ done) := by
  induction text with
  | nil => exact ⟨[], fun _ _ => rfl, fun _ _ => rfl⟩
  | cons c text ih =>
      obtain ⟨piece, hread, hjoin⟩ := exists_piece c
      obtain ⟨pieces, hreads, hjoins⟩ := ih
      refine ⟨piece :: pieces, fun rest done => ?_, fun rest done => ?_⟩
      · simp [hread, hreads]
      · simp [hjoin, hjoins]

theorem readString_escaped (text : String) (rest : List Symbol) :
    readString (symbols (text.toList.flatMap escape ++ ['"']) ++ rest) = .ok (.ok text, rest) := by
  obtain ⟨pieces, hread, hjoin⟩ := exists_pieces text.toList
  have hpieces : readPieces (symbols (text.toList.flatMap escape ++ ['"']) ++ rest) [] =
      (pieces ++ [.quote], .ok rest) := by
    rw [symbols_append, List.append_assoc, hread]
    simp [readPieces]
  have hchars : joinPieces? (pieces ++ [.quote]) [] = some text.toList := by
    rw [hjoin]
    simp [joinPieces?]
  simp only [readString, hpieces, hchars, String.ofList_toList]

/-- What follows a number without continuing it. -/
def EndsNumber (rest : List Symbol) : Prop :=
  ∀ s ∈ rest.head?, digit? s = none ∧ s ≠ some '.' ∧ s ≠ some 'e' ∧ s ≠ some 'E'

theorem endsNumber_nil : EndsNumber [] := nofun

theorem digit?_of_isDigit {c : Char} (h : c.isDigit) : digit? (some c) = some (Digits.digit c) := by
  have hc := Char.isDigit_iff_toNat.mp h
  have hbounds : '0' ≤ c ∧ c ≤ '9' := ⟨hc.1, hc.2⟩
  simp [digit?, hbounds, Digits.digit]

theorem spanDigits_append {digits : List Char} (hdigits : ∀ c ∈ digits, c.isDigit)
    {rest : List Symbol} (hrest : EndsNumber rest) :
    spanDigits (symbols digits ++ rest) = (digits.map Digits.digit, rest) := by
  induction digits with
  | nil =>
      cases rest with
      | nil => rfl
      | cons s rest =>
          have hs := (hrest s rfl).1
          simp [spanDigits, hs]
  | cons c digits ih =>
      have hc := digit?_of_isDigit (hdigits c List.mem_cons_self)
      have hspan := ih fun d hd => hdigits d (List.mem_cons_of_mem c hd)
      simp only [spanDigits, Prod.mk.injEq] at hspan
      simp [spanDigits, hc, hspan]

theorem exists_toDigits {n : Nat} (hn : n ≠ 0) :
    ∃ c rest, Nat.toDigits 10 n = c :: rest ∧ Digits.digit c ≠ 0 := by
  induction n using Nat.strong_induction_on with
  | _ n ih =>
      rw [Nat.toDigits_eq_if (by decide)]
      split
      · rename_i hsmall
        refine ⟨_, [], rfl, ?_⟩
        have hall : ∀ m < 10, m ≠ 0 → Digits.digit m.digitChar ≠ 0 := by decide
        exact hall n hsmall hn
      · obtain ⟨c, rest, hdigits, hc⟩ := ih (n / 10) (by omega) (by omega)
        exact ⟨c, rest ++ [(n % 10).digitChar], by rw [hdigits, List.cons_append], hc⟩

theorem readWhole_toDigits (n : Nat) {rest : List Symbol} (hrest : EndsNumber rest) :
    readWhole (symbols (Nat.toDigits 10 n) ++ rest) =
      .ok ((Nat.toDigits 10 n).map Digits.digit, rest) := by
  have hdigits : ∀ c ∈ Nat.toDigits 10 n, c.isDigit :=
    fun c hc => Digits.isDigit_of_mem_toDigits hc
  have hspan := spanDigits_append hdigits hrest
  by_cases hn : n = 0
  · subst hn
    rw [Nat.toDigits_of_lt_base (by decide)] at hspan ⊢
    rw [readWhole, hspan]
    rfl
  · obtain ⟨c, digits, hdigits, hc⟩ := exists_toDigits hn
    rw [hdigits] at hspan ⊢
    rw [readWhole, hspan]
    simp only [List.map_cons]
    split
    · rename_i heq
      simp at heq
    · rename_i heq
      simp [hc] at heq
    · rename_i heq
      simp only [Prod.mk.injEq] at heq
      rw [heq.1, heq.2]

theorem readFraction_none {rest : List Symbol} (hrest : EndsNumber rest) :
    readFraction rest = .ok ([], rest) := by
  cases rest with
  | nil => rfl
  | cons s rest =>
      have hs := (hrest s rfl).2.1
      rw [readFraction.eq_2]
      rintro more ⟨⟩
      exact hs rfl

theorem readExponent_none {rest : List Symbol} (hrest : EndsNumber rest) :
    readExponent rest = .ok (none, rest) := by
  cases rest with
  | nil => rfl
  | cons s rest =>
      obtain ⟨-, -, hlower, hupper⟩ := hrest s rfl
      cases s with
      | none => rfl
      | some c =>
          have hc : ¬(c = 'e' ∨ c = 'E') := by
            rintro (rfl | rfl)
            · exact hlower rfl
            · exact hupper rfl
          simp [readExponent, hc]

/-- The literal that an integer is written as. -/
def integerLiteral (n : Int) : Literal :=
  ⟨n < 0, (Nat.toDigits 10 n.natAbs).map Digits.digit, [], none⟩

theorem readLiteral_decimal (n : Int) {rest : List Symbol} (hrest : EndsNumber rest) :
    readLiteral (symbols (decimal n) ++ rest) = .ok (integerLiteral n, rest) := by
  have hwhole := readWhole_toDigits n.natAbs hrest
  by_cases hn : n < 0
  · simp [decimal, hn, readLiteral, hwhole, readFraction_none hrest, readExponent_none hrest,
      integerLiteral, bind, Except.bind, pure, Except.pure]
  · obtain ⟨c, digits, hdigits⟩ :=
      List.exists_cons_of_ne_nil (Nat.toDigits_ne_nil (b := 10) (n := n.natAbs))
    have hc : c ≠ '-' := by
      rintro rfl
      cases Digits.isDigit_of_mem_toDigits (n := n.natAbs) (hdigits ▸ List.mem_cons_self)
    simp only [decimal, if_neg hn, integerLiteral, hdigits, symbols_cons, List.cons_append] at hwhole ⊢
    simp [readLiteral, hn, hc, hwhole, readFraction_none hrest, readExponent_none hrest, bind,
      Except.bind, pure, Except.pure]

theorem absorb_eq {digits : List Nat} {n : Nat}
    (h : digits.foldl (fun n d => n * 10 + d) n ≤ wordMax) :
    absorb n digits = (digits.foldl (fun n d => n * 10 + d) n, 0) := by
  induction digits generalizing n with
  | nil => rfl
  | cons d digits ih =>
      have hgrows : ∀ (digits : List Nat) (m : Nat), m ≤ digits.foldl (fun n d => n * 10 + d) m := by
        intro digits
        induction digits with
        | nil => exact fun m => Nat.le_refl m
        | cons d digits ih => exact fun m => Nat.le_trans (by omega) (ih (m * 10 + d))
      have hle := Nat.le_trans (hgrows digits (n * 10 + d)) h
      rw [absorb, if_neg (Nat.not_lt.mpr hle), ih h, List.foldl_cons]

/-- Integers that fit 64 bits, with a sign or without. -/
def IsWord (n : Int) : Prop :=
  -(2 ^ 63) ≤ n ∧ n ≤ wordMax

theorem value_integerLiteral {n : Int} (h : IsWord n) (rest : List Symbol) :
    (integerLiteral n).value rest = .ok (.integer n) := by
  have hvalue : ((Nat.toDigits 10 n.natAbs).map Digits.digit).foldl (fun n d => n * 10 + d) 0 =
      n.natAbs := by
    rw [List.foldl_map]
    exact Digits.value_toDigits n.natAbs
  have hbounds : (-(2 ^ 63) : Int) ≤ n ∧ n ≤ (wordMax : Nat) := h
  have hmax : wordMax = 2 ^ 64 - 1 := rfl
  have habsorb : absorb 0 ((Nat.toDigits 10 n.natAbs).map Digits.digit) = (n.natAbs, 0) := by
    rw [absorb_eq (by rw [hvalue]; omega), hvalue]
  have hinteger : Literal.integer? (n < 0) n.natAbs = some (.integer n) := by
    have hleast : Nat.pow 2 63 = 2 ^ 63 := rfl
    rw [Literal.integer?, hleast]
    split
    · rename_i hneg
      have hneg := of_decide_eq_true hneg
      rw [if_neg (by omega)]
      congr
      omega
    · rename_i hneg
      have hneg : ¬n < 0 := fun h => hneg (decide_eq_true h)
      congr
      omega
  simp [Literal.value, Literal.value?, integerLiteral, habsorb, hinteger]

end ClusterOperator.Json
