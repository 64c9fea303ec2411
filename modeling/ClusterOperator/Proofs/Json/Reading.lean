import Mathlib.Data.List.Forall2
import ClusterOperator.Json.Decode
import ClusterOperator.Proofs.Json.Scalars

namespace ClusterOperator.Json

open Text.Utf8 (Symbol)

/-- Values whose numbers are integers of 64 bits. -/
inductive IsPlain : Json → Prop
  | null : IsPlain null
  | bool (b : Bool) : IsPlain (bool b)
  | int {n : Int} (h : IsWord n) : IsPlain (int n)
  | str (text : String) : IsPlain (str text)
  | arr {items : List Json} (h : ∀ item ∈ items, IsPlain item) : IsPlain (arr items)
  | obj {members : List (String × Json)} (h : ∀ m ∈ members, IsPlain m.2) : IsPlain (obj members)

theorem isPlain_arr_iff {items : List Json} :
    IsPlain (arr items) ↔ ∀ item ∈ items, IsPlain item := by
  constructor
  · rintro ⟨⟩
    assumption
  · exact .arr

theorem isPlain_obj_iff {members : List (String × Json)} :
    IsPlain (obj members) ↔ ∀ m ∈ members, IsPlain m.2 := by
  constructor
  · rintro ⟨⟩
    assumption
  · exact .obj

/-- A text is read as a value, whatever follows that does not continue a number. -/
structure Spells (text : List Symbol) (value : Outline) : Prop where
  starts : ∃ c more, text = some c :: more ∧ isGap (some c) = false ∧ c ≠ ']'
  reads : ∀ fuel rest, 2 * (text ++ rest).length + 2 ≤ fuel → EndsNumber rest →
    readValue fuel (text ++ rest) = (value, .ok rest)

theorem skipGap_cons {c : Char} (h : isGap (some c) = false) (rest : List Symbol) :
    skipGap (some c :: rest) = some c :: rest :=
  List.dropWhile_cons_of_neg (by simp [h])

theorem spells_scalar {c : Char} {text : List Symbol} {value : Outline}
    (hgap : isGap (some c) = false) (hc : c ∉ [']', '[', '{'])
    (h : ∀ rest, EndsNumber rest → readScalar c (text ++ rest) = (value, .ok rest)) :
    Spells (some c :: text) value := by
  simp only [List.mem_cons, List.not_mem_nil, or_false, not_or] at hc
  obtain ⟨hclose, hopen, hbrace⟩ := hc
  refine ⟨⟨c, text, rfl, hgap, hclose⟩, ?_⟩
  intro fuel rest hfuel hrest
  obtain ⟨fuel, rfl⟩ := Nat.exists_eq_add_of_le' (Nat.le_of_add_left_le hfuel)
  rw [List.cons_append, readValue, skipGap_cons hgap]
  split
  · rename_i heq
    simp [hopen] at heq
  · rename_i heq
    simp [hbrace] at heq
  · rename_i heq
    cases heq
    exact h rest hrest
  · rename_i hne
    exact absurd rfl (hne c _)

theorem spells_string (text : String) : Spells (symbols (quote text)) (.text (.ok text)) := by
  have hquote : symbols (quote text) =
      some '"' :: symbols (text.toList.flatMap escape ++ ['"']) := rfl
  rw [hquote]
  apply spells_scalar rfl (by decide)
  intro rest _
  rw [readScalar, if_pos rfl, readString_escaped]

theorem spells_number {c : Char} {text : List Symbol} {literal : Literal}
    {number : Except Breach Numeral} (hc : c = '-' ∨ c.isDigit)
    (h : ∀ rest, EndsNumber rest → readLiteral (some c :: (text ++ rest)) = .ok (literal, rest) ∧
      literal.value rest = number) :
    Spells (some c :: text) (.number number) := by
  have hne : ∀ d : Char, d ≠ '-' → d.isDigit = false → c ≠ d := by
    rintro d hminus hdigit rfl
    rcases hc with rfl | hc
    · exact hminus rfl
    · rw [hdigit] at hc
      cases hc
  apply spells_scalar
  · simp [isGap, hne]
  · simp [hne]
  · intro rest hrest
    obtain ⟨hliteral, hvalue⟩ := h rest hrest
    have hword : ¬(c = '"') ∧ ¬(c = 'n') ∧ ¬(c = 't') ∧ ¬(c = 'f') := by
      simp [hne]
    rw [readScalar, if_neg hword.1, if_neg hword.2.1, if_neg hword.2.2.1, if_neg hword.2.2.2,
      if_pos hc, hliteral]
    simp only [hvalue]

theorem spells_int {n : Int} (h : IsWord n) :
    Spells (symbols (decimal n)) (.number (.ok (.integer n))) := by
  have hhead : ∃ c text, decimal n = c :: text ∧ (c = '-' ∨ c.isDigit) := by
    rw [decimal]
    split
    · exact ⟨'-', _, rfl, .inl rfl⟩
    · obtain ⟨c, text, htext⟩ :=
        List.exists_cons_of_ne_nil (Nat.toDigits_ne_nil (b := 10) (n := n.natAbs))
      refine ⟨c, text, htext, .inr ?_⟩
      exact Digits.isDigit_of_mem_toDigits (n := n.natAbs) (htext ▸ List.mem_cons_self)
  obtain ⟨c, text, htext, hc⟩ := hhead
  have hread := fun rest (hrest : EndsNumber rest) => readLiteral_decimal n hrest
  rw [htext] at hread ⊢
  exact spells_number hc fun rest hrest => ⟨hread rest hrest, value_integerLiteral h rest⟩

theorem endsNumber_cons {c : Char} (hc : c ∈ [',', ']', '}']) (rest : List Symbol) :
    EndsNumber (some c :: rest) := by
  rintro s ⟨⟩
  simp only [List.mem_cons, List.not_mem_nil, or_false] at hc
  rcases hc with rfl | rfl | rfl <;> decide

section Steps

variable {text : List Symbol} {value : Outline} {fuel : Nat} {rest : List Symbol}

theorem readItems_last (h : Spells text value) (done : List Outline)
    (hfuel : 2 * (text ++ some ']' :: rest).length + 2 ≤ fuel) :
    readItems (fuel + 1) (text ++ some ']' :: rest) done =
      (.array (done.reverse ++ [value]) none, .ok rest) := by
  rw [readItems, h.reads _ _ hfuel (endsNumber_cons (by decide) rest)]
  simp [skipGap_cons (c := ']') rfl]

theorem readItems_more (h : Spells text value) {next : List Symbol} {nextValue : Outline}
    (hnext : Spells next nextValue) (done : List Outline)
    (hfuel : 2 * (text ++ some ',' :: (next ++ rest)).length + 2 ≤ fuel) :
    readItems (fuel + 1) (text ++ some ',' :: (next ++ rest)) done =
      readItems fuel (next ++ rest) (value :: done) := by
  obtain ⟨c, more, rfl, hgap, hc⟩ := hnext.starts
  rw [readItems, h.reads _ _ hfuel (endsNumber_cons (by decide) _)]
  simp only [skipGap_cons (c := ',') rfl, List.cons_append, skipGap_cons hgap]
  split
  · rename_i heq
    cases heq
  · rename_i heq
    cases heq
    exact absurd rfl hc
  · rfl

theorem readMembers_last (h : Spells text value) (key : String)
    (done : List (Except Breach String × Outline))
    (hfuel : 2 * (text ++ some '}' :: rest).length + 2 ≤ fuel) :
    readMembers (fuel + 1)
        (symbols (key.toList.flatMap escape ++ ['"']) ++ some ':' :: (text ++ some '}' :: rest))
        done =
      (.object (done.reverse ++ [(.ok key, value)]) none, .ok rest) := by
  rw [readMembers, readString_escaped]
  simp only [skipGap_cons (c := ':') rfl]
  rw [h.reads _ _ hfuel (endsNumber_cons (by decide) rest)]
  simp [skipGap_cons (c := '}') rfl]

theorem readMembers_more (h : Spells text value) (key : String) (next : List Symbol)
    (done : List (Except Breach String × Outline))
    (hfuel : 2 * (text ++ some ',' :: some '"' :: next).length + 2 ≤ fuel) :
    readMembers (fuel + 1)
        (symbols (key.toList.flatMap escape ++ ['"']) ++
          some ':' :: (text ++ some ',' :: some '"' :: next)) done =
      readMembers fuel next ((.ok key, value) :: done) := by
  rw [readMembers, readString_escaped]
  simp only [skipGap_cons (c := ':') rfl]
  rw [h.reads _ _ hfuel (endsNumber_cons (by decide) _)]
  simp [skipGap_cons (c := ',') rfl, skipGap_cons (c := '"') rfl]

end Steps

/-- An item's text is read as its outline. -/
def ItemSpells (item : Json) (value : Outline) : Prop :=
  Spells (symbols item.chars) value

/-- A member's value is read as its outline, and its key as it is. -/
def MemberSpells (member : String × Json) (outlined : Except Breach String × Outline) : Prop :=
  outlined.1 = .ok member.1 ∧ Spells (symbols member.2.chars) outlined.2

theorem readItems_spells {items : List Json} {values : List Outline}
    (h : List.Forall₂ ItemSpells items values) {item : Json} {value : Outline}
    (hitem : ItemSpells item value) (done : List Outline) (fuel : Nat) (rest : List Symbol)
    (hfuel : 2 * ((item.chars ++ moreItems items).length + rest.length) + 3 ≤ fuel) :
    readItems fuel (symbols (item.chars ++ moreItems items) ++ rest) done =
      (.array (done.reverse ++ value :: values) none, .ok rest) := by
  induction h generalizing item value fuel done with
  | nil =>
      obtain ⟨fuel, rfl⟩ := Nat.exists_eq_add_one_of_ne_zero (n := fuel) (by omega)
      simp only [moreItems, List.length_append, List.length_singleton] at hfuel
      simp only [moreItems, symbols_append, List.append_assoc]
      exact readItems_last hitem done (by simp; omega)
  | @cons next nextValue items values hnext hitems ih =>
      obtain ⟨fuel, rfl⟩ := Nat.exists_eq_add_one_of_ne_zero (n := fuel) (by omega)
      simp only [moreItems, List.length_append, List.length_cons] at hfuel
      have hread := ih hnext (value :: done) fuel (by simp; omega)
      simp only [moreItems, symbols_append, symbols_cons, List.append_assoc, List.cons_append,
        List.reverse_cons, List.nil_append] at hread ⊢
      rw [readItems_more hitem hnext done (by simp; omega), hread]

theorem readMembers_spells {members : List (String × Json)}
    {outlined : List (Except Breach String × Outline)}
    (h : List.Forall₂ MemberSpells members outlined) (key : String) {item : Json} {value : Outline}
    (hitem : ItemSpells item value) (done : List (Except Breach String × Outline)) (fuel : Nat)
    (rest : List Symbol)
    (hfuel : 2 * ((item.chars ++ moreMembers members).length + rest.length) + 3 ≤ fuel) :
    readMembers fuel (symbols (key.toList.flatMap escape ++ ['"']) ++
        some ':' :: (symbols (item.chars ++ moreMembers members) ++ rest)) done =
      (.object (done.reverse ++ (.ok key, value) :: outlined) none, .ok rest) := by
  induction h generalizing key item value fuel done with
  | nil =>
      obtain ⟨fuel, rfl⟩ := Nat.exists_eq_add_one_of_ne_zero (n := fuel) (by omega)
      simp only [moreMembers, List.length_append, List.length_singleton] at hfuel
      have htext : symbols (item.chars ++ moreMembers []) ++ rest =
          symbols item.chars ++ some '}' :: rest := by
        simp [moreMembers]
      rw [htext]
      exact readMembers_last hitem key done (by simp; omega)
  | @cons next outline members outlined hnext hmembers ih =>
      obtain ⟨nextKey, nextItem⟩ := next
      obtain ⟨_, nextValue⟩ := outline
      obtain ⟨rfl, hspells⟩ := hnext
      obtain ⟨fuel, rfl⟩ := Nat.exists_eq_add_one_of_ne_zero (n := fuel) (by omega)
      simp only [moreMembers, quote, List.length_append, List.length_cons, List.length_nil] at hfuel
      have hread := ih nextKey hspells ((.ok key, value) :: done) fuel (by simp; omega)
      have htext : symbols (item.chars ++ moreMembers ((nextKey, nextItem) :: members)) ++ rest =
          symbols item.chars ++ some ',' :: some '"' ::
            (symbols (nextKey.toList.flatMap escape ++ ['"']) ++
              some ':' :: (symbols (nextItem.chars ++ moreMembers members) ++ rest)) := by
        simp [moreMembers, quote]
      rw [htext, readMembers_more hitem key _ done, hread]
      · simp
      · simp only [List.length_append, List.length_cons, List.length_nil, length_symbols]
        omega

theorem spells_arr {items : List Json} {values : List Outline}
    (h : List.Forall₂ ItemSpells items values) :
    Spells (symbols (arr items).chars) (.array values none) := by
  cases h with
  | nil =>
      refine ⟨⟨'[', _, rfl, rfl, by decide⟩, ?_⟩
      intro fuel rest hfuel _
      obtain ⟨fuel, rfl⟩ := Nat.exists_eq_add_one_of_ne_zero (n := fuel) (by omega)
      simp [chars, readValue, skipGap_cons (c := '[') rfl, skipGap_cons (c := ']') rfl]
  | @cons item value items values hitem hitems =>
      refine ⟨⟨'[', _, rfl, rfl, by decide⟩, ?_⟩
      intro fuel rest hfuel _
      obtain ⟨fuel, rfl⟩ := Nat.exists_eq_add_one_of_ne_zero (n := fuel) (by omega)
      obtain ⟨c, more, htext, hgap, hc⟩ := hitem.starts
      have hread := readItems_spells hitems hitem [] fuel rest
      simp only [chars, symbols_cons, List.cons_append, List.length_cons, List.length_append,
        length_symbols] at hfuel hread ⊢
      rw [readValue, skipGap_cons rfl]
      simp only [symbols_append, htext, List.cons_append, skipGap_cons hgap] at hread ⊢
      split
      · rename_i heq
        cases heq
      · rename_i heq
        cases heq
        exact absurd rfl hc
      · exact hread (by omega)

theorem spells_obj {members : List (String × Json)}
    {outlined : List (Except Breach String × Outline)}
    (h : List.Forall₂ MemberSpells members outlined) :
    Spells (symbols (obj members).chars) (.object outlined none) := by
  cases h with
  | nil =>
      refine ⟨⟨'{', _, rfl, rfl, by decide⟩, ?_⟩
      intro fuel rest hfuel _
      obtain ⟨fuel, rfl⟩ := Nat.exists_eq_add_one_of_ne_zero (n := fuel) (by omega)
      simp [chars, readValue, skipGap_cons (c := '{') rfl, skipGap_cons (c := '}') rfl]
  | @cons member outline members outlined hmember hmembers =>
      obtain ⟨key, item⟩ := member
      obtain ⟨_, value⟩ := outline
      obtain ⟨rfl, hspells⟩ := hmember
      refine ⟨⟨'{', _, rfl, rfl, by decide⟩, ?_⟩
      intro fuel rest hfuel _
      obtain ⟨fuel, rfl⟩ := Nat.exists_eq_add_one_of_ne_zero (n := fuel) (by omega)
      simp only [chars, quote, symbols_cons, List.cons_append, List.length_cons,
        List.length_append, length_symbols] at hfuel
      have htext : symbols (obj ((key, item) :: members)).chars ++ rest =
          some '{' :: some '"' :: (symbols (key.toList.flatMap escape ++ ['"']) ++
            some ':' :: (symbols (item.chars ++ moreMembers members) ++ rest)) := by
        simp [chars, quote]
      rw [htext, readValue, skipGap_cons rfl]
      simp only [skipGap_cons (c := '"') rfl]
      rw [readMembers_spells hmembers key hspells [] _ _ (by simp; omega)]
      rfl

theorem outlineItems_eq (items : List Json) : outlineItems items = items.map outline := by
  induction items with
  | nil => rfl
  | cons item items ih => rw [outlineItems, ih, List.map_cons]

theorem outlineMembers_eq (members : List (String × Json)) :
    outlineMembers members = members.map fun m => (.ok m.1, outline m.2) := by
  induction members with
  | nil => rfl
  | cons member members ih => rw [outlineMembers, ih, List.map_cons]

theorem IsPlain.spells {value : Json} (h : IsPlain value) :
    Spells (symbols value.chars) (outline value) := by
  induction h with
  | null => exact spells_scalar rfl (by decide) fun _ _ => rfl
  | bool b => cases b <;> exact spells_scalar rfl (by decide) fun _ _ => rfl
  | int h => exact spells_int h
  | str text => exact spells_string text
  | @arr items h ih =>
      apply spells_arr
      rw [outlineItems_eq, List.forall₂_map_right_iff]
      exact List.forall₂_same.mpr ih
  | @obj members h ih =>
      apply spells_obj
      rw [outlineMembers_eq, List.forall₂_map_right_iff]
      exact List.forall₂_same.mpr fun m hm => ⟨rfl, ih m hm⟩

theorem Spells.read_eq {text : List Symbol} {value : Outline} (h : Spells text value) :
    Outline.read text = (value, .ok []) := by
  have hread := h.reads (2 * text.length + 2) [] (by simp) endsNumber_nil
  rw [List.append_nil] at hread
  exact hread

theorem Spells.whole_eq {α : Type} {text : List Symbol} {value : Outline} (h : Spells text value)
    (decode : Decoder α) : Decode.whole decode text = decode value := by
  rw [Decode.whole, h.read_eq]
  cases hdecode : decode value with
  | error trouble =>
      simp only [hdecode]
      rfl
  | ok a =>
      simp only [hdecode]
      rfl

end ClusterOperator.Json
