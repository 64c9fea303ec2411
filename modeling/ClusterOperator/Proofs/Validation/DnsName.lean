import Mathlib.Computability.RegularExpressions
import ClusterOperator.Proofs.Http.Route

/-!
DNS names as a regular language, and as texts that stand for themselves in a path.

The pattern of a name repeats a group that has an optional part of its own, so a text can be read in many
ways. Its pieces between points are read in one way only: a name is a text whose pieces are all labels.
-/

namespace ClusterOperator

open RegularExpression

/-- A label: lower-case letters, digits and hyphens, at least one, and no hyphen at either end. -/
structure IsDnsLabel (label : List Char) : Prop where
  ne_nil : label ≠ []
  chars : ∀ c ∈ label, ('a' ≤ c ∧ c ≤ 'z') ∨ ('0' ≤ c ∧ c ≤ '9') ∨ c = '-'
  head : label.head? ≠ some '-'
  last : label.getLast? ≠ some '-'

/-- A text that stands for itself, whole, in the path of an address. -/
structure StandsForItself (text : String) : Prop where
  ne_empty : text ≠ ""
  ne_dot : text ≠ "." ∧ text ≠ ".."
  ascii : ∀ c ∈ text.toList, c.toNat < 128
  unmarked : ∀ c ∈ text.toList, c ∉ ['/', '%', '?', '#', '\n'] ∧ Text.isBlank c = false
  percentDecode_eq : Http.percentDecode (Text.Utf8.encode text) = Text.Utf8.encode text
  segmentText?_eq : Http.segmentText? (Text.Utf8.encode text) = some text

section Labels

variable {label : List Char}

theorem isLabelChar_iff {c : Char} :
    isLabelChar c ↔ ('a' ≤ c ∧ c ≤ 'z') ∨ ('0' ≤ c ∧ c ≤ '9') ∨ c = '-' := by
  have hlower : c.isLower = (decide ('a' ≤ c) && decide (c ≤ 'z')) := rfl
  have hdigit : c.isDigit = (decide ('0' ≤ c) && decide (c ≤ '9')) := rfl
  simp only [isLabelChar, isLabelEnd, hlower, hdigit, Bool.or_eq_true, Bool.and_eq_true,
    decide_eq_true_eq, or_assoc]

theorem isLabelEnd_iff {c : Char} : isLabelEnd c ↔ isLabelChar c ∧ c ≠ '-' := by
  rw [isLabelChar, Bool.or_eq_true, decide_eq_true_eq, or_and_right, and_not_self_iff, or_false]
  refine ⟨fun h => ⟨h, ?_⟩, And.left⟩
  rintro rfl
  cases h

theorem isLabel_eq_true :
    isLabel label ↔ (∀ c ∈ label, isLabelChar c) ∧
      (∃ c, label.head? = some c ∧ isLabelEnd c) ∧ ∃ c, label.getLast? = some c ∧ isLabelEnd c := by
  simp only [isLabel, Bool.and_eq_true, List.all_eq_true, Option.any_eq_true, and_assoc]

theorem isLabel_iff : isLabel label ↔ IsDnsLabel label := by
  rw [isLabel_eq_true]
  constructor
  · rintro ⟨hchars, ⟨first, hfirst, hfirstEnd⟩, last, hlast, hlastEnd⟩
    refine ⟨?_, fun c hc => isLabelChar_iff.mp (hchars c hc), ?_, ?_⟩
    · rintro rfl
      cases hfirst
    · rw [hfirst, ne_eq, Option.some.injEq]
      exact (isLabelEnd_iff.mp hfirstEnd).2
    · rw [hlast, ne_eq, Option.some.injEq]
      exact (isLabelEnd_iff.mp hlastEnd).2
  · intro h
    have hchars : ∀ c ∈ label, isLabelChar c := fun c hc => isLabelChar_iff.mpr (h.chars c hc)
    have hhead := List.head?_eq_some_head h.ne_nil
    have hlast := List.getLast?_eq_some_getLast h.ne_nil
    refine ⟨hchars, ⟨_, hhead, isLabelEnd_iff.mpr ⟨hchars _ (List.head_mem h.ne_nil), ?_⟩⟩,
      ⟨_, hlast, isLabelEnd_iff.mpr ⟨hchars _ (List.getLast_mem h.ne_nil), ?_⟩⟩⟩
    · intro hhyphen
      exact h.head (hhyphen ▸ hhead)
    · intro hhyphen
      exact h.last (hhyphen ▸ hlast)

end Labels

namespace DnsName

def oneOf (chars : List Char) : RegularExpression Char :=
  (chars.map char).sum

/-- The characters that may stand at the ends of a label. -/
def ends : List Char :=
  "abcdefghijklmnopqrstuvwxyz0123456789".toList

/-- The pattern `[a-z0-9]([-a-z0-9]*[a-z0-9])?`. -/
def labelPattern : RegularExpression Char :=
  oneOf ends * (1 + (oneOf ('-' :: ends)).star * oneOf ends)

/-- The pattern of labels with points between them: each label but the first one has a point in front. -/
def pattern : RegularExpression Char :=
  labelPattern * (char '.' * labelPattern).star

theorem mem_oneOf {chars text : List Char} :
    text ∈ (oneOf chars).matches' ↔ ∃ c ∈ chars, text = [c] := by
  induction chars with
  | nil =>
      refine ⟨fun h => absurd h (Language.notMem_zero text), ?_⟩
      rintro ⟨c, hc, -⟩
      cases hc
  | cons c rest ih =>
      have hcons : (oneOf (c :: rest)).matches' = {[c]} + (oneOf rest).matches' := rfl
      rw [hcons, Language.mem_add, ih, List.exists_mem_cons_iff]
      exact Iff.rfl

theorem mem_star_oneOf {chars text : List Char} :
    text ∈ (oneOf chars).star.matches' ↔ ∀ c ∈ text, c ∈ chars := by
  rw [matches'_star, Language.mem_kstar]
  constructor
  · rintro ⟨pieces, rfl, hpieces⟩ c hc
    obtain ⟨piece, hpiece, hc⟩ := List.mem_flatten.mp hc
    obtain ⟨d, hd, rfl⟩ := mem_oneOf.mp (hpieces piece hpiece)
    rwa [List.mem_singleton.mp hc]
  · intro h
    refine ⟨text.map fun c => [c], (List.flatMap_singleton' text).symm, ?_⟩
    intro piece hpiece
    obtain ⟨c, hc, rfl⟩ := List.mem_map.mp hpiece
    exact mem_oneOf.mpr ⟨c, h c hc, rfl⟩

theorem mem_ends_iff {c : Char} : c ∈ ends ↔ isLabelEnd c := by
  constructor
  · have hall : ends.all isLabelEnd := by decide
    exact List.all_eq_true.mp hall c
  · intro h
    have hchar : Http.isAddressChar c := by simp [Http.isAddressChar, isLabelChar, h]
    have hmem : isLabelEnd c → c ∈ ends := by
      refine Text.Utf8.of_ascii (Http.toNat_lt_of_isAddressChar hchar) ?_
      decide
    exact hmem h

theorem mem_chars_iff {c : Char} : c ∈ '-' :: ends ↔ isLabelChar c := by
  rw [List.mem_cons, mem_ends_iff, isLabelChar, Bool.or_eq_true, decide_eq_true_eq, or_comm]

theorem mem_labelPattern {text : List Char} :
    text ∈ labelPattern.matches' ↔ ∃ first, isLabelEnd first ∧
      (text = [first] ∨ ∃ middle last, (∀ c ∈ middle, isLabelChar c) ∧ isLabelEnd last ∧
        text = first :: (middle ++ [last])) := by
  simp only [labelPattern, matches'_mul, matches'_add, Language.mem_mul, Language.mem_add, mem_oneOf,
    mem_star_oneOf, mem_ends_iff, mem_chars_iff]
  constructor
  · rintro ⟨_, ⟨first, hfirst, rfl⟩, rest, rfl | ⟨middle, hmiddle, _, ⟨last, hlast, rfl⟩, rfl⟩, rfl⟩
    · exact ⟨first, hfirst, .inl rfl⟩
    · exact ⟨first, hfirst, .inr ⟨middle, last, hmiddle, hlast, rfl⟩⟩
  · rintro ⟨first, hfirst, rfl | ⟨middle, last, hmiddle, hlast, rfl⟩⟩
    · exact ⟨[first], ⟨first, hfirst, rfl⟩, [], .inl rfl, rfl⟩
    · exact ⟨[first], ⟨first, hfirst, rfl⟩, middle ++ [last],
        .inr ⟨middle, hmiddle, [last], ⟨last, hlast, rfl⟩, rfl⟩, rfl⟩

theorem mem_labelPattern_iff {text : List Char} : text ∈ labelPattern.matches' ↔ isLabel text := by
  rw [mem_labelPattern, isLabel_eq_true]
  constructor
  · rintro ⟨first, hfirst, rfl | ⟨middle, last, hmiddle, hlast, rfl⟩⟩
    · refine ⟨?_, ⟨first, rfl, hfirst⟩, first, rfl, hfirst⟩
      rw [List.forall_mem_singleton]
      exact (isLabelEnd_iff.mp hfirst).1
    · refine ⟨?_, ⟨first, rfl, hfirst⟩, last, ?_, hlast⟩
      · rw [List.forall_mem_cons, List.forall_mem_append, List.forall_mem_singleton]
        exact ⟨(isLabelEnd_iff.mp hfirst).1, hmiddle, (isLabelEnd_iff.mp hlast).1⟩
      · rw [← List.cons_append, List.getLast?_concat]
  · rintro ⟨hchars, ⟨first, hhead, hfirst⟩, last, hlast, hlastEnd⟩
    obtain ⟨rest, rfl⟩ := List.head?_eq_some_iff.mp hhead
    refine ⟨first, hfirst, ?_⟩
    rcases List.eq_nil_or_concat rest with rfl | ⟨middle, other, rfl⟩
    · exact .inl rfl
    · rw [List.concat_eq_append] at hchars hlast ⊢
      rw [← List.cons_append, List.getLast?_concat, Option.some.injEq] at hlast
      subst hlast
      have hrest := (List.forall_mem_cons.mp hchars).2
      exact .inr ⟨middle, other, fun c hc => hrest c (List.mem_append_left _ hc), hlastEnd, rfl⟩

def IsPointed (text : List Char) : Prop :=
  ∃ label, isLabel label ∧ text = '.' :: label

theorem mem_point_mul_labelPattern {text : List Char} :
    text ∈ (char '.' * labelPattern).matches' ↔ IsPointed text := by
  rw [matches'_mul, Language.mem_mul]
  constructor
  · rintro ⟨_, rfl, label, hlabel, rfl⟩
    exact ⟨label, mem_labelPattern_iff.mp hlabel, rfl⟩
  · rintro ⟨label, hlabel, rfl⟩
    exact ⟨['.'], rfl, label, mem_labelPattern_iff.mpr hlabel, rfl⟩

theorem mem_pattern {text : List Char} :
    text ∈ pattern.matches' ↔ ∃ first, isLabel first ∧ ∃ pointed : List (List Char),
      (∀ p ∈ pointed, IsPointed p) ∧ text = first ++ pointed.flatten := by
  rw [pattern, matches'_mul, matches'_star, Language.mem_mul]
  constructor
  · rintro ⟨first, hfirst, _, ⟨pointed, rfl, hpointed⟩, rfl⟩
    exact ⟨first, mem_labelPattern_iff.mp hfirst, pointed,
      fun p hp => mem_point_mul_labelPattern.mp (hpointed p hp), rfl⟩
  · rintro ⟨first, hfirst, pointed, hpointed, rfl⟩
    exact ⟨first, mem_labelPattern_iff.mpr hfirst, pointed.flatten,
      ⟨pointed, rfl, fun p hp => mem_point_mul_labelPattern.mpr (hpointed p hp)⟩, rfl⟩

theorem cutAt_of_isLabel {label : List Char} (h : isLabel label) :
    Text.cutAt (· = '.') label = [label] := by
  apply Text.cutAt_of_uncut
  intro c hc
  have hchar := (isLabel_eq_true.mp h).1 c hc
  rw [decide_eq_false_iff_not]
  rintro rfl
  cases hchar

theorem isLabel_of_mem_cutAt {first : List Char} {pointed : List (List Char)} (hfirst : isLabel first)
    (hpointed : ∀ p ∈ pointed, IsPointed p) :
    ∀ piece ∈ Text.cutAt (· = '.') (first ++ pointed.flatten), isLabel piece := by
  induction pointed generalizing first with
  | nil =>
      rw [List.flatten_nil, List.append_nil, cutAt_of_isLabel hfirst, List.forall_mem_singleton]
      exact hfirst
  | cons p rest ih =>
      obtain ⟨⟨label, hlabel, rfl⟩, hrest⟩ := List.forall_mem_cons.mp hpointed
      rw [List.flatten_cons, List.cons_append, Text.cutAt_append_cons _ _ (decide_eq_true rfl),
        cutAt_of_isLabel hfirst, List.singleton_append, List.forall_mem_cons]
      exact ⟨hfirst, ih hlabel hrest⟩

/-- A text is one of the pattern if and only if its pieces are labels. -/
theorem mem_pattern_iff {text : List Char} :
    text ∈ pattern.matches' ↔ ∀ piece ∈ Text.cutAt (· = '.') text, isLabel piece := by
  rw [mem_pattern]
  constructor
  · rintro ⟨first, hfirst, pointed, hpointed, rfl⟩
    exact isLabel_of_mem_cutAt hfirst hpointed
  · intro h
    -- Two texts of the pattern with a point between them are one, wherever the point is.
    induction text using Text.cut_induction (· = '.') with
    | uncut text huncut =>
        rw [Text.cutAt_of_uncut huncut, List.forall_mem_singleton] at h
        exact ⟨text, h, [], nofun, (List.append_nil text).symm⟩
    | split front c back hc hfront hback =>
        rw [Text.cutAt_append_cons front back hc, List.forall_mem_append] at h
        obtain ⟨first, hfirst, pointed, hpointed, rfl⟩ := hfront h.1
        obtain ⟨label, hlabel, later, hlater, rfl⟩ := hback h.2
        obtain rfl := of_decide_eq_true hc
        refine ⟨first, hfirst, pointed ++ ('.' :: label) :: later, ?_, by simp⟩
        rw [List.forall_mem_append, List.forall_mem_cons]
        exact ⟨hpointed, ⟨label, hlabel, rfl⟩, hlater⟩

end DnsName

theorem isDnsName_iff_pieces {text : String} :
    isDnsName text ↔ ∀ piece ∈ text.toList.splitOn '.', IsDnsLabel piece := by
  have hcut : Text.cutAt (· = '.') text.toList = text.toList.splitOn '.' :=
    Text.cutAt_eq_splitOnP _ _
  rw [isDnsName, hcut, List.all_eq_true]
  simp only [isLabel_iff]

theorem isDnsName_iff_mem_pattern {text : String} :
    isDnsName text ↔ text.toList ∈ DnsName.pattern.matches' := by
  rw [isDnsName, DnsName.mem_pattern_iff, List.all_eq_true]

theorem unmarked_of_isAddressChar {c : Char} (h : Http.isAddressChar c) (hslash : c ≠ '/') :
    c ∉ ['/', '%', '?', '#', '\n'] ∧ Text.isBlank c = false := by
  have hunmarked : Http.isAddressChar c → c ≠ '/' →
      c ∉ ['/', '%', '?', '#', '\n'] ∧ Text.isBlank c = false := by
    refine Text.Utf8.of_ascii (Http.toNat_lt_of_isAddressChar h) ?_
    decide
  exact hunmarked h hslash

theorem standsForItself_of_isDnsName {text : String} (h : isDnsName text) : StandsForItself text where
  ne_empty := Http.ne_empty_of_isDnsName h
  ne_dot := by
    constructor
    · rintro rfl
      cases h
    · rintro rfl
      cases h
  ascii := fun c hc => Http.toNat_lt_of_isAddressChar (Http.isAddressChar_of_isDnsName h c hc)
  unmarked := by
    intro c hc
    apply unmarked_of_isAddressChar (Http.isAddressChar_of_isDnsName h c hc)
    rintro rfl
    exact Http.not_mem_toList_of_isDnsName h hc
  percentDecode_eq := Http.percentDecode_eq (Http.not_mem_encode_of_isDnsName h).2
  segmentText?_eq := (Http.segment_of_isDnsName h).2.2

/-- A text is a DNS name if and only if its pieces between points are labels, which is what the pattern of
names says. It stands for itself then. -/
theorem isDnsName_exact (text : String) :
    (isDnsName text ↔ ∀ piece ∈ text.toList.splitOn '.', IsDnsLabel piece) ∧
      (isDnsName text ↔ text.toList ∈ DnsName.pattern.matches') ∧
      (isDnsName text → StandsForItself text) :=
  ⟨isDnsName_iff_pieces, isDnsName_iff_mem_pattern, standsForItself_of_isDnsName⟩

theorem isDnsName_exact_dated :
    isDnsName "backup.daily-01" ∧ StandsForItself "backup.daily-01" := by
  have hname : isDnsName "backup.daily-01" := by decide +kernel
  obtain ⟨-, -, hstands⟩ := isDnsName_exact "backup.daily-01"
  exact ⟨hname, hstands hname⟩

end ClusterOperator
