import Mathlib
import ClusterOperator.Proofs.Text.Pieces
import ClusterOperator.Validation.Cron

namespace ClusterOperator.Cron

open Text

section Replacing

variable {word digits text : List Char} {change : String × String} {cut : Char → Bool}

theorem replaceWithin_congr {bound other : Nat} (hbound : text.length ≤ bound)
    (hother : text.length ≤ other) :
    replaceWithin word digits bound text = replaceWithin word digits other text := by
  -- Both bounds are counted down together, by one where a character stays and by one where a word goes,
  -- which leaves at least as many characters fewer.
  induction bound generalizing text other with
  | zero =>
      rw [List.length_eq_zero_iff.mp (Nat.le_zero.mp hbound)]
      cases other <;> rfl
  | succ bound ih =>
      cases text with
      | nil => cases other <;> rfl
      | cons c rest =>
          rw [List.length_cons] at hbound hother
          obtain ⟨fewer, rfl⟩ : ∃ fewer, other = fewer + 1 :=
            Nat.exists_eq_add_one_of_ne_zero (by omega)
          rw [replaceWithin, replaceWithin, ih (by omega) (Nat.le_of_succ_le_succ hother)]
          split
          · rename_i hword
            have hpos : 0 < word.length := by
              rw [List.length_pos_iff]
              simpa using hword.2
            have hshort : ((c :: rest).drop word.length).length ≤ rest.length := by
              rw [List.length_drop, List.length_cons]
              omega
            exact congrArg (digits ++ ·) (ih (by omega) (by omega))
          · rfl

@[elab_as_elim]
theorem word_induction (hword : word ≠ []) {motive : List Char → Prop} (nil : motive [])
    (found : ∀ rest, motive rest → motive (word ++ rest))
    (passed : ∀ c rest, ¬word <+: c :: rest → motive rest → motive (c :: rest))
    (text : List Char) : motive text := by
  match text with
  | [] => exact nil
  | c :: rest =>
      by_cases h : word <+: c :: rest
      · obtain ⟨back, hback⟩ := h
        have hshort : back.length < (c :: rest).length := by
          rw [← hback, List.length_append]
          exact Nat.lt_add_of_pos_left (List.length_pos_iff.mpr hword)
        rw [← hback]
        exact found back (word_induction hword nil found passed back)
      · exact passed c rest h (word_induction hword nil found passed rest)
termination_by text.length
decreasing_by
  · exact hshort
  · exact Nat.lt_succ_self rest.length

theorem replaceWord_append (hword : change.1.toList ≠ []) (text : List Char) :
    replaceWord (change.1.toList ++ text) change = change.2.toList ++ replaceWord text change := by
  obtain ⟨c, rest, hc⟩ := List.exists_cons_of_ne_nil hword
  have hfound : (c :: rest).isPrefixOf (c :: (rest ++ text)) ∧ !(c :: rest).isEmpty :=
    ⟨List.isPrefixOf_iff_prefix.mpr (List.prefix_append (c :: rest) text), rfl⟩
  simp only [replaceWord, hc, List.cons_append, List.length_cons, replaceWithin]
  rw [if_pos hfound, ← List.length_cons, ← List.cons_append, List.drop_left]
  congr 1
  exact replaceWithin_congr (by rw [List.length_append]; omega) (Nat.le_refl _)

theorem replaceWord_cons {c : Char} {rest : List Char} (h : ¬change.1.toList <+: c :: rest) :
    replaceWord (c :: rest) change = c :: replaceWord rest change := by
  have hpassed : ¬(change.1.toList.isPrefixOf (c :: rest) ∧ !change.1.toList.isEmpty) :=
    fun hfound => h (List.isPrefixOf_iff_prefix.mp hfound.1)
  rw [replaceWord, List.length_cons, replaceWithin, if_neg hpassed, replaceWord]

/-- A change of one word for another, neither of them empty nor with a cut in it. -/
structure Spares (cut : Char → Bool) (change : String × String) : Prop where
  word_ne_nil : change.1.toList ≠ []
  digits_ne_nil : change.2.toList ≠ []
  word_uncut : ∀ c ∈ change.1.toList, cut c = false
  digits_uncut : ∀ c ∈ change.2.toList, cut c = false

namespace Spares

theorem isPrefix_of_append (h : Spares cut change) {c : Char} (hc : cut c = true)
    (front : List Char) {back : List Char} (hword : change.1.toList <+: front ++ c :: back) :
    change.1.toList <+: front := by
  obtain ⟨after, hafter⟩ := hword
  -- Either the word ends in front of the cut, or the cut is one of its characters.
  rcases List.append_eq_append_iff.mp hafter with ⟨rest, hfront, -⟩ | ⟨rest, hword, hback⟩
  · exact ⟨rest, hfront.symm⟩
  · cases rest with
    | nil => rw [hword, List.append_nil]
    | cons d rest =>
        obtain ⟨rfl, -⟩ := List.cons.inj hback
        have hfalse := h.word_uncut c (by rw [hword]; simp)
        rw [hc] at hfalse
        contradiction

theorem replaceWord_eq_nil_iff (h : Spares cut change) (text : List Char) :
    replaceWord text change = [] ↔ text = [] := by
  induction text using word_induction h.word_ne_nil with
  | nil => rfl
  | found rest _ =>
      rw [replaceWord_append h.word_ne_nil]
      simp [h.word_ne_nil, h.digits_ne_nil]
  | passed c rest hpassed _ =>
      rw [replaceWord_cons hpassed]
      simp

theorem piecewise (h : Spares cut change) : Piecewise cut (replaceWord · change) where
  split := by
    intro front c back hc
    induction front using word_induction h.word_ne_nil with
    | nil =>
        exact replaceWord_cons fun hword =>
          h.word_ne_nil (List.prefix_nil.mp (h.isPrefix_of_append hc [] hword))
    | found rest ih =>
        rw [List.append_assoc, replaceWord_append h.word_ne_nil, replaceWord_append h.word_ne_nil, ih,
          List.append_assoc]
    | passed d rest hpassed ih =>
        have hpassed' : ¬change.1.toList <+: d :: (rest ++ c :: back) :=
          fun hword => hpassed (h.isPrefix_of_append hc (d :: rest) hword)
        rw [List.cons_append, replaceWord_cons hpassed', replaceWord_cons hpassed, ih, List.cons_append]
  uncut := by
    intro text huncut
    induction text using word_induction h.word_ne_nil with
    | nil => exact huncut
    | found rest ih =>
        rw [replaceWord_append h.word_ne_nil]
        intro c hc
        rcases List.mem_append.mp hc with hc | hc
        · exact h.digits_uncut c hc
        · exact ih (fun d hd => huncut d (List.mem_append_right _ hd)) c hc
    | passed d rest hpassed ih =>
        rw [replaceWord_cons hpassed]
        intro c hc
        rcases List.mem_cons.mp hc with rfl | hc
        · exact huncut c List.mem_cons_self
        · exact ih (fun d hd => huncut d (List.mem_cons_of_mem _ hd)) c hc

end Spares

theorem piecewise_foldl {changes : List (String × String)} (h : ∀ change ∈ changes, Spares cut change) :
    Piecewise cut (changes.foldl replaceWord ·) := by
  induction changes with
  | nil =>
      constructor
      · exact fun _ _ _ _ => rfl
      · exact fun _ huncut => huncut
  | cons change changes ih =>
      have hrest := ih fun other hmem => h other (List.mem_cons_of_mem change hmem)
      exact (h change List.mem_cons_self).piecewise.comp hrest

theorem foldl_eq_nil_iff {changes : List (String × String)} (h : ∀ change ∈ changes, Spares cut change)
    (text : List Char) : changes.foldl replaceWord text = [] ↔ text = [] := by
  induction changes generalizing text with
  | nil => rfl
  | cons change changes ih =>
      rw [List.foldl_cons, ih fun other hmem => h other (List.mem_cons_of_mem change hmem)]
      exact (h change List.mem_cons_self).replaceWord_eq_nil_iff text

theorem eq_singleton_of_replaceWord (h : Spares cut change) {c : Char}
    (hc : c ∉ change.2.toList) (hreplaced : replaceWord text change = [c]) : text = [c] := by
  induction text using word_induction h.word_ne_nil with
  | nil => cases hreplaced
  | found rest _ =>
      rw [replaceWord_append h.word_ne_nil] at hreplaced
      obtain ⟨d, digits, hd⟩ := List.exists_cons_of_ne_nil h.digits_ne_nil
      rw [hd] at hreplaced hc
      exact absurd (List.cons.inj hreplaced).1.symm (List.ne_of_not_mem_cons hc)
  | passed d rest hpassed _ =>
      rw [replaceWord_cons hpassed] at hreplaced
      obtain ⟨rfl, hrest⟩ := List.cons.inj hreplaced
      rw [(h.replaceWord_eq_nil_iff rest).mp hrest]

theorem eq_singleton_of_foldl {changes : List (String × String)}
    (h : ∀ change ∈ changes, Spares cut change) {c : Char}
    (hc : ∀ change ∈ changes, c ∉ change.2.toList)
    (hreplaced : changes.foldl replaceWord text = [c]) : text = [c] := by
  induction changes generalizing text with
  | nil => exact hreplaced
  | cons change changes ih =>
      rw [List.forall_mem_cons] at h hc
      exact eq_singleton_of_replaceWord h.1 hc.1 (ih h.2 hc.2 hreplaced)

end Replacing

section Normalizing

variable {cut : Char → Bool}

/-- What a character stands for before names are replaced. -/
def spell (c : Char) : Char :=
  if c = '?' then '*' else c.toLower

theorem normalize_eq (text : List Char) :
    normalize text = names.foldl replaceWord (text.map spell) := rfl

theorem spell_cases (c : Char) :
    spell c = c ∨ c = '?' ∧ spell c = '*' ∨ c.isAlpha = true ∧ (spell c).isAlpha = true := by
  unfold spell
  split
  · rename_i hmark
    exact .inr (.inl ⟨hmark, rfl⟩)
  · by_cases hupper : c.isUpper = true
    · have halpha : c.isAlpha = true := by simp [Char.isAlpha, hupper]
      exact .inr (.inr ⟨halpha, by rw [Char.isAlpha_toLower_eq_isAlpha, halpha]⟩)
    · exact .inl (Char.toLower_eq_of_not_isUpper hupper)

theorem spell_eq_star_iff (c : Char) : spell c = '*' ↔ c = '*' ∨ c = '?' := by
  constructor
  · intro hstar
    rcases spell_cases c with hsame | ⟨hmark, -⟩ | ⟨-, halpha⟩
    · exact .inl (hsame ▸ hstar)
    · exact .inr hmark
    · rw [hstar] at halpha
      contradiction
  · rintro (rfl | rfl) <;> rfl

theorem spell_eq_lastLetter {c : Char} (h : spell c = 'l') : c = 'l' ∨ c = 'L' := by
  unfold spell at h
  split at h
  · cases h
  · by_cases hupper : c.isUpper = true
    · right
      have hrange : 65 ≤ c.toNat ∧ c.toNat ≤ 90 := by
        simpa [Char.isUpper, UInt32.le_iff_toNat_le] using hupper
      have hlower := congrArg Char.toNat h
      rw [Char.toLower_eq_of_isUpper hupper, Char.toNat_ofNat, if_pos (.inl (by omega))] at hlower
      apply Char.toNat_inj.mp
      change c.toNat = 76
      change c.toNat + 32 = 108 at hlower
      omega
    · rw [Char.toLower_eq_of_not_isUpper hupper] at h
      exact .inl h

/-- The characters that names and the numbers for them are made of. -/
def isNameChar (c : Char) : Bool :=
  c.isAlphanum || c = '-'

theorem toNat_of_isNameChar {c : Char} (h : isNameChar c = true) : 45 ≤ c.toNat ∧ c.toNat ≤ 122 := by
  simp only [isNameChar, Char.isAlphanum, Char.isAlpha, Char.isUpper, Char.isLower, Char.isDigit,
    Bool.or_eq_true, Bool.and_eq_true, decide_eq_true_eq, UInt32.le_iff_toNat_le, ge_iff_le,
    Char.reduceVal, UInt32.reduceToNat, Char.toNat_val] at h
  rcases h with hrange | rfl
  · omega
  · decide

theorem names_spare {change : String × String} (h : change ∈ names)
    (hcut : ∀ c, isNameChar c = true → cut c = false) : Spares cut change := by
  have hempty : ∀ change ∈ names, change.1.toList ≠ [] ∧ change.2.toList ≠ [] := by decide
  -- Folded over the names: a quantifier over characters would be decided for every character there is.
  have hname : names.all fun change => (change.1.toList ++ change.2.toList).all isNameChar := by
    decide
  have hchar := List.all_eq_true.mp (List.all_eq_true.mp hname change h)
  constructor
  · exact (hempty change h).1
  · exact (hempty change h).2
  · exact fun c hc => hcut c (hchar c (List.mem_append_left _ hc))
  · exact fun c hc => hcut c (hchar c (List.mem_append_right _ hc))

theorem names_spare_star : ∀ change ∈ names, Spares (· = '*') change := by
  intro change hmem
  apply names_spare hmem
  intro c hc
  rw [decide_eq_false_iff_not]
  rintro rfl
  contradiction

theorem normalize_eq_lastLetter (text : List Char) (h : normalize text = ['l']) :
    text = ['l'] ∨ text = ['L'] := by
  have hdigits : ∀ change ∈ names, 'l' ∉ change.2.toList := by decide
  rw [normalize_eq] at h
  have hspelled := eq_singleton_of_foldl names_spare_star hdigits h
  obtain ⟨c, rfl, hc⟩ := List.map_eq_singleton_iff.mp hspelled
  rcases spell_eq_lastLetter hc with rfl | rfl
  · exact .inl rfl
  · exact .inr rfl

/-- Characters at which the text of an expression is cut. -/
structure Separates (cut : Char → Bool) : Prop where
  name : ∀ c, isNameChar c = true → cut c = false
  mark : cut '?' = false
  star : cut '*' = false

namespace Separates

theorem letter (h : Separates cut) {c : Char} (hc : c.isAlpha = true) : cut c = false :=
  h.name c (by simp [isNameChar, Char.isAlphanum, hc])

theorem cut_spell (h : Separates cut) (c : Char) : cut (spell c) = cut c := by
  rcases spell_cases c with hsame | ⟨rfl, hstar⟩ | ⟨halpha, hspell⟩
  · rw [hsame]
  · rw [hstar, h.mark, h.star]
  · rw [h.letter halpha, h.letter hspell]

theorem spell_of_cut (h : Separates cut) {c : Char} (hc : cut c = true) : spell c = c := by
  rcases spell_cases c with hsame | ⟨rfl, -⟩ | ⟨halpha, -⟩
  · exact hsame
  · rw [h.mark] at hc
    contradiction
  · rw [h.letter halpha] at hc
    contradiction

theorem piecewise (h : Separates cut) : Piecewise cut normalize := by
  have hspell : Piecewise cut (List.map spell) := .map h.cut_spell fun _ => h.spell_of_cut
  have hnames : Piecewise cut (names.foldl replaceWord ·) :=
    piecewise_foldl fun _ hmem => names_spare hmem h.name
  -- Not given as the goal at once, where the fold over the names would be unfolded.
  have hboth := hspell.comp hnames
  exact hboth

end Separates

theorem separates_blank : Separates isBlank where
  name := by
    intro c hc
    obtain ⟨hleast, hgreatest⟩ := toNat_of_isNameChar hc
    simp only [isBlank, Bool.or_eq_false_iff, Bool.and_eq_false_iff, beq_eq_false_iff_ne,
      decide_eq_false_iff_not]
    omega
  mark := by decide
  star := by decide

theorem separates_comma : Separates (· = ',') where
  name := by
    intro c hc
    rw [decide_eq_false_iff_not]
    rintro rfl
    contradiction
  mark := by decide
  star := by decide

theorem normalize_eq_nil_iff (text : List Char) : normalize text = [] ↔ text = [] := by
  rw [normalize_eq, foldl_eq_nil_iff fun _ hmem => names_spare hmem separates_comma.name,
    List.map_eq_nil_iff]

theorem normalize_eq_star_iff (text : List Char) :
    normalize text = ['*'] ↔ text = ['*'] ∨ text = ['?'] := by
  rw [normalize_eq, (piecewise_foldl names_spare_star).eq_singleton_iff
    (foldl_eq_nil_iff names_spare_star) (by decide), List.map_eq_singleton_iff]
  constructor
  · rintro ⟨c, rfl, hc⟩
    rcases (spell_eq_star_iff c).mp hc with rfl | rfl
    · exact .inl rfl
    · exact .inr rfl
  · rintro (rfl | rfl)
    · exact ⟨'*', rfl, rfl⟩
    · exact ⟨'?', rfl, rfl⟩

theorem words_normalize (text : List Char) : words (normalize text) = (words text).map normalize :=
  separates_blank.piecewise.words_eq normalize_eq_nil_iff text

theorem items_normalize (word : List Char) :
    cutAt (· = ',') (normalize word) = (cutAt (· = ',') word).map normalize :=
  separates_comma.piecewise.cutAt_eq word

end Normalizing

end ClusterOperator.Cron
