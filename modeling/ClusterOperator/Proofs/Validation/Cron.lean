import ClusterOperator.Proofs.Validation.CronNames

namespace ClusterOperator

namespace Cron

open Text

/-- Whether the library reads the dialect that it documents. -/
def FollowsDialect [Library] : Prop :=
  ∀ text : String, (words text.toList).length = 5 ∨ (words text.toList).length = 6 →
    Library.accepts text = (parse? text.toList).isSome

/-- The values that a part of a list marks. What the letter L marks where it stands alone is up to the
library. -/
def Selection.values (last : Field → List Nat) (field : Field) : Selection → List Nat
  | marks entries => entries.map Mark.value
  | lastValue => last field

/-- Whether a part marks values, and only values of its field. -/
inductive Selection.Fits (field : Field) : Selection → Prop
  | marks {entries} : entries ≠ [] → (∀ mark ∈ entries, field.allows mark.value = true) →
      Fits field (.marks entries)

/-- Whether the ends of a range are in order and within a field. -/
structure Field.Spans (field : Field) (ends : Nat × Nat) : Prop where
  least_le : field.least ≤ ends.1
  ordered : ends.1 ≤ ends.2
  le_greatest : ends.2 ≤ field.greatest

section Parts

variable {field : Field} {text part : List Char} {ends : Nat × Nat} {values : List Nat}
  {selection : Selection} {qualifier : Qualifier}

theorem Field.allows_iff {n : Nat} : field.allows n = true ↔ field.least ≤ n ∧ n ≤ field.greatest := by
  rw [allows, Bool.and_eq_true, decide_eq_true_eq, decide_eq_true_eq]

theorem Field.Spans.allows (h : field.Spans ends) {n : Nat} (hfirst : ends.1 ≤ n) (hlast : n ≤ ends.2) :
    field.allows n = true :=
  Field.allows_iff.mpr ⟨h.least_le.trans hfirst, hlast.trans h.le_greatest⟩

theorem Field.spans_whole (field : Field) : field.Spans (field.least, field.greatest) := by
  constructor
  · exact Nat.le_refl _
  · cases field <;> decide
  · exact Nat.le_refl _

theorem Selection.fits_marks (hne : values ≠ []) (hall : ∀ n ∈ values, field.allows n = true)
    (qualifier : Qualifier) : (Selection.marks (values.map (⟨·, qualifier⟩))).Fits field := by
  refine .marks (by simpa using hne) ?_
  rintro mark hmark
  obtain ⟨n, hn, rfl⟩ := List.mem_map.mp hmark
  exact hall n hn

theorem Selection.fits_mark {n : Nat} (h : field.allows n = true) (qualifier : Qualifier) :
    (Selection.marks [⟨n, qualifier⟩]).Fits field :=
  Selection.fits_marks (List.cons_ne_nil n []) (by simpa using h) qualifier

theorem range?_spans (h : range? field text = some ends) : field.Spans ends := by
  unfold range? at h
  split at h
  · simp only [Option.bind_eq_bind, Option.bind_eq_some_iff] at h
    obtain ⟨first, -, last, -, h⟩ := h
    split_ifs at h with hspans
    cases h
    exact ⟨hspans.1, hspans.2.1, hspans.2.2⟩
  · cases h

theorem stepRange?_spans (h : stepRange? field text = some ends) : field.Spans ends := by
  unfold stepRange? at h
  split_ifs at h with hstar hrange
  · cases h
    exact field.spans_whole
  · exact range?_spans h
  · split at h
    · split_ifs at h with hallows
      cases h
      obtain ⟨hleast, hgreatest⟩ := Field.allows_iff.mp hallows
      exact ⟨hleast, hgreatest, Nat.le_refl _⟩
    · cases h

theorem mem_stepsFrom {last step bound first : Nat}
    (h : stepsFrom last step bound first = some values) : ∀ n ∈ values, first ≤ n ∧ n ≤ last := by
  induction bound generalizing first values with
  | zero => cases h
  | succ bound ih =>
      rw [stepsFrom] at h
      split_ifs at h with hover hbyte
      · cases h
        nofun
      · obtain ⟨rest, hrest, rfl⟩ := Option.map_eq_some_iff.mp h
        intro n hn
        rcases List.mem_cons.mp hn with rfl | hn
        · exact ⟨Nat.le_refl _, Nat.le_of_not_lt hover⟩
        · obtain ⟨hfirst, hlast⟩ := ih hrest n hn
          exact ⟨Nat.le_of_add_right_le hfirst, hlast⟩

theorem steps?_ne_nil {first last step : Nat} (hle : first ≤ last)
    (h : steps? first last step = some values) : values ≠ [] := by
  rw [steps?, stepsFrom, if_neg (Nat.not_lt.mpr hle)] at h
  split_ifs at h with hstep hbyte
  obtain ⟨rest, -, rfl⟩ := Option.map_eq_some_iff.mp h
  exact List.cons_ne_nil first rest

theorem mem_steps? {first last step : Nat} (h : steps? first last step = some values) :
    ∀ n ∈ values, first ≤ n ∧ n ≤ last := by
  rw [steps?] at h
  split_ifs at h
  exact mem_stepsFrom h

theorem readStep?_fits (h : readStep? field part = some selection) : selection.Fits field := by
  simp only [readStep?, Option.bind_eq_bind, Option.bind_eq_some_iff] at h
  obtain ⟨qualifier, -, h⟩ := h
  split at h
  · simp only [Option.bind_eq_some_iff] at h
    obtain ⟨⟨first, last⟩, hends, step, -, values, hvalues, h⟩ := h
    cases h
    have hspans := stepRange?_spans hends
    apply Selection.fits_marks (steps?_ne_nil hspans.ordered hvalues)
    intro n hn
    obtain ⟨hfirst, hlast⟩ := mem_steps? hvalues n hn
    exact hspans.allows hfirst hlast
  · cases h

theorem readRange?_fits (h : readRange? field part = some selection) : selection.Fits field := by
  simp only [readRange?, Option.bind_eq_bind, Option.bind_eq_some_iff] at h
  obtain ⟨qualifier, -, ⟨first, last⟩, hends, h⟩ := h
  cases h
  have hspans := range?_spans hends
  have hordered : first ≤ last := hspans.ordered
  apply Selection.fits_marks
  · rw [ne_eq, List.range'_eq_nil_iff]
    omega
  · intro n hn
    rw [List.mem_range'_1] at hn
    exact hspans.allows hn.1 (show n ≤ last by omega)

theorem readWorkDay?_fits (h : readWorkDay? field part = some selection) : selection.Fits field := by
  unfold readWorkDay? at h
  split at h
  · split_ifs at h with hallows
    cases h
    exact Selection.fits_mark hallows.1 .workDay
  · cases h

theorem readValue?_fits (h : readValue? field part = some selection) : selection.Fits field := by
  unfold readValue? at h
  dsimp only at h
  split_ifs at h with hqualified
  · cases h
  · simp only [Option.bind_eq_bind, Option.bind_eq_some_iff] at h
    obtain ⟨qualifier, -, n, -, h⟩ := h
    split_ifs at h with hallows
    cases h
    exact Selection.fits_mark hallows qualifier

theorem readPart?_fits (h : readPart? field part = some selection) (hletter : part ≠ ['l']) :
    selection.Fits field := by
  unfold readPart? at h
  split_ifs at h
  · exact readStep?_fits h
  · exact readRange?_fits h
  · exact readWorkDay?_fits h
  · exact readValue?_fits h

end Parts

section Fields

variable {last : Field → List Nat} {field : Field} {text word item : List Char}
  {selection : Selection}

/-- The words of an expression with the fields that they stand for. Seconds may be left out. -/
def fieldsOf (text : List Char) : List (Field × List Char) :=
  let fields := [.minute, .hour, .monthDay, .month, .weekDay]
  (if (words text).length = 5 then fields else .second :: fields).zip (words text)

/-- The letter that stands for the last of something. -/
def IsLast (item : List Char) : Prop :=
  item = ['l'] ∨ item = ['L']

/-- Whether an item of the list in a field marks a value. -/
def Marks (last : Field → List Nat) (field : Field) (item : List Char) (n : Nat) : Prop :=
  ∃ selection, readPart? field (normalize item) = some selection ∧ n ∈ selection.values last field

/-- Whether an item marks values, and only values of its field. -/
structure MarksOnly (last : Field → List Nat) (field : Field) (item : List Char) : Prop where
  marks : ∃ n, Marks last field item n
  allowed : ∀ n, Marks last field item n → field.allows n = true

/-- Whether the word of a field is a star or a list whose items mark values of the field. -/
inductive Legible (last : Field → List Nat) (field : Field) (word : List Char) : Prop
  | star : word = ['*'] → Legible last field word
  | mark : word = ['?'] → Legible last field word
  | list : (∀ item ∈ cutAt (· = ',') word, item ≠ [] → ¬IsLast item → MarksOnly last field item) →
      Legible last field word

/-- Whether the word of a field selects a value. -/
inductive Selects (last : Field → List Nat) (field : Field) (word : List Char) : Prop
  | star : word = ['*'] → Selects last field word
  | mark : word = ['?'] → Selects last field word
  | item {item n} : item ∈ cutAt (· = ',') word → item ≠ [] → field.allows n = true →
      Marks last field item n → Selects last field word

/-- Whether each of five or six fields selects a value. -/
structure Selective (last : Field → List Nat) (text : List Char) : Prop where
  count : (words text).length = 5 ∨ (words text).length = 6
  selects : ∀ entry ∈ fieldsOf text, Selects last entry.1 entry.2

/-- Whether the list in a field has an item that is more than nothing. The letter of the last counts only
where it marks a value of the field. -/
def HasItem (last : Field → List Nat) (field : Field) (word : List Char) : Prop :=
  ∃ item ∈ cutAt (· = ',') word, item ≠ [] ∧
    (IsLast item → ∃ n ∈ last field, field.allows n = true)

theorem exists_of_mapM_eq_some {α β : Type} {f : α → Option β} {xs : List α} {ys : List β}
    (h : xs.mapM f = some ys) : ∀ x ∈ xs, ∃ y, f x = some y := by
  induction xs generalizing ys with
  | nil => nofun
  | cons x xs ih =>
      simp only [List.mapM_cons, Option.bind_eq_bind, Option.bind_eq_some_iff] at h
      obtain ⟨y, hy, rest, hrest, -⟩ := h
      intro z hz
      rcases List.mem_cons.mp hz with rfl | hz
      · exact ⟨y, hy⟩
      · exact ih hrest z hz

theorem readField?_parts {schedule : Schedule} (h : readField? field text = some schedule) :
    text = ['*'] ∨ ∀ item ∈ cutAt (· = ',') text, trim item ≠ [] →
      ∃ selection, readPart? field (trim item) = some selection := by
  unfold readField? at h
  split_ifs at h with hstar
  · exact .inl hstar
  · obtain ⟨parts, hparts, -⟩ := Option.map_eq_some_iff.mp h
    right
    intro item hitem hne
    apply exists_of_mapM_eq_some hparts
    rw [List.mem_filter]
    exact ⟨List.mem_map_of_mem hitem, by simpa using hne⟩

theorem marksOnly_of_readPart? (h : readPart? field (normalize item) = some selection)
    (hitem : ¬IsLast item) : MarksOnly last field item := by
  have hfits := readPart?_fits h fun hletter => hitem (normalize_eq_lastLetter item hletter)
  obtain @⟨entries, hne, hall⟩ := hfits
  constructor
  · obtain ⟨mark, hmark⟩ := List.exists_mem_of_ne_nil entries hne
    exact ⟨mark.value, .marks entries, h, List.mem_map_of_mem hmark⟩
  · rintro n ⟨other, hother, hn⟩
    cases h.symm.trans hother
    obtain ⟨mark, hmark, rfl⟩ := List.mem_map.mp hn
    exact hall mark hmark

theorem IsLast.marks_iff (h : IsLast item) {n : Nat} : Marks last field item n ↔ n ∈ last field := by
  have hread : readPart? field (normalize item) = some .lastValue := by
    rcases h with rfl | rfl <;> rfl
  constructor
  · rintro ⟨selection, hselection, hn⟩
    cases hread.symm.trans hselection
    exact hn
  · intro hn
    exact ⟨.lastValue, hread, hn⟩

theorem legible_of_readField? (hblank : ∀ c ∈ word, isBlank c = false)
    (h : (readField? field (normalize word)).isSome) : Legible last field word := by
  obtain ⟨schedule, hschedule⟩ := Option.isSome_iff_exists.mp h
  rcases readField?_parts hschedule with hstar | hparts
  · rcases (normalize_eq_star_iff word).mp hstar with hstar | hmark
    · exact .star hstar
    · exact .mark hmark
  · -- The items that are read are those of the word with names replaced, and without blanks to trim.
    apply Legible.list
    intro item hitem hne hletter
    have hitemBlank : ∀ c ∈ item, isBlank c = false := fun c hc =>
      hblank c (mem_and_uncut_of_mem_cutAt hitem c hc).1
    have htrim := trim_of_uncut (separates_blank.piecewise.uncut item hitemBlank)
    have hnormal : normalize item ∈ cutAt (· = ',') (normalize word) := by
      rw [items_normalize]
      exact List.mem_map_of_mem hitem
    have hread := hparts (normalize item) hnormal
    rw [htrim, ne_eq, normalize_eq_nil_iff] at hread
    obtain ⟨selection, hselection⟩ := hread hne
    exact marksOnly_of_readPart? hselection hletter

theorem readFields?_reads {fields : List Field} {texts : List (List Char)} {schedules : List Schedule}
    (h : readFields? fields texts = some schedules) :
    fields.length = texts.length ∧ ∀ entry ∈ fields.zip texts, (readField? entry.1 entry.2).isSome := by
  induction fields, texts using readFields?.induct generalizing schedules with
  | case1 => exact ⟨rfl, nofun⟩
  | case2 field fields text texts ih =>
      simp only [readFields?, Option.bind_eq_bind, Option.bind_eq_some_iff] at h
      obtain ⟨schedule, hschedule, rest, hrest, -⟩ := h
      obtain ⟨hlength, hzip⟩ := ih hrest
      refine ⟨by rw [List.length_cons, List.length_cons, hlength], ?_⟩
      intro entry hentry
      rw [List.zip_cons_cons] at hentry
      rcases List.mem_cons.mp hentry with rfl | hentry
      · rw [hschedule]
        rfl
      · exact hzip entry hentry
  | case3 fields texts hnil hcons =>
      rw [readFields?] at h
      · cases h
      · exact hnil
      · exact hcons

theorem parse?_reads {schedules : List Schedule} (h : parse? text = some schedules) :
    ((words text).length = 5 ∨ (words text).length = 6) ∧
      ∀ entry ∈ fieldsOf text, (readField? entry.1 (normalize entry.2)).isSome := by
  have hzip : ∀ fields : List Field,
      (∀ entry ∈ fields.zip ((words text).map normalize), (readField? entry.1 entry.2).isSome) →
      ∀ entry ∈ fields.zip (words text), (readField? entry.1 (normalize entry.2)).isSome := by
    rintro fields hall ⟨field, word⟩ hentry
    have hmem : (field, normalize word) ∈ fields.zip ((words text).map normalize) := by
      rw [List.zip_map_right, List.mem_map]
      exact ⟨(field, word), hentry, rfl⟩
    have hread := hall _ hmem
    dsimp only at hread ⊢
    exact hread
  simp only [parse?, words_normalize, List.length_map] at h
  by_cases hfive : (words text).length = 5
  · -- The seconds that are put in front are no word of the text.
    rw [if_pos hfive] at h
    obtain ⟨-, hall⟩ := readFields?_reads h
    refine ⟨.inl hfive, ?_⟩
    rw [fieldsOf, if_pos hfive]
    apply hzip
    intro entry hentry
    apply hall
    rw [List.zip_cons_cons]
    exact List.mem_cons_of_mem _ hentry
  · rw [if_neg hfive] at h
    obtain ⟨hlength, hall⟩ := readFields?_reads h
    refine ⟨.inr ?_, ?_⟩
    · rw [← List.length_map (f := normalize), ← hlength]
      rfl
    · rw [fieldsOf, if_neg hfive]
      exact hzip _ hall

theorem Selects.hasItem (h : Selects last field word) : HasItem last field word := by
  cases h with
  | star hstar => exact ⟨['*'], by simp [hstar, cutAt], by decide, by rintro (h | h) <;> cases h⟩
  | mark hmark => exact ⟨['?'], by simp [hmark, cutAt], by decide, by rintro (h | h) <;> cases h⟩
  | item hitem hne hallows hmarks =>
      exact ⟨_, hitem, hne, fun hletter => ⟨_, hletter.marks_iff.mp hmarks, hallows⟩⟩

theorem Legible.selects (h : Legible last field word) (hitem : HasItem last field word) :
    Selects last field word := by
  cases h with
  | star hstar => exact .star hstar
  | mark hmark => exact .mark hmark
  | list hitems =>
      obtain ⟨item, hitem, hne, hlast⟩ := hitem
      by_cases hletter : IsLast item
      · obtain ⟨n, hn, hallows⟩ := hlast hletter
        exact .item hitem hne hallows (hletter.marks_iff.mpr hn)
      · have honly := hitems item hitem hne hletter
        obtain ⟨n, hn⟩ := honly.marks
        exact .item hitem hne (honly.allowed n hn) hn

theorem not_hasItem_of_commas (h : ∀ c ∈ word, c = ',') : ¬HasItem last field word := by
  rintro ⟨item, hitem, hne, -⟩
  obtain ⟨c, hc⟩ := List.exists_mem_of_ne_nil item hne
  obtain ⟨hmem, huncut⟩ := mem_and_uncut_of_mem_cutAt hitem c hc
  exact of_decide_eq_false huncut (h c hmem)

theorem map_snd_fieldsOf (hcount : (words text).length = 5 ∨ (words text).length = 6) :
    (fieldsOf text).map Prod.snd = words text := by
  rw [fieldsOf, List.map_snd_zip]
  rcases hcount with hfive | hsix
  · rw [if_pos hfive, hfive]
    rfl
  · rw [if_neg (by omega), hsix]
    rfl

theorem parse?_of_checkCron [Library] (hdialect : FollowsDialect) {limit : Limit} {value : String}
    (h : limit.checkCron value = .ok ()) : ∃ schedules, parse? value.toList = some schedules := by
  simp only [Limit.checkCron] at h
  split_ifs at h with hcount haccepts
  have hfields : (words value.toList).length = 5 ∨ (words value.toList).length = 6 := by omega
  rw [hdialect value hfields] at haccepts
  exact Option.isSome_iff_exists.mp haccepts

/-- An accepted expression has the fields that it should have, and all of them are legible. Each of them
selects a value if and only if each has an item; in particular none may be made of commas alone. -/
theorem selective_iff_of_checkCron [Library] (hdialect : FollowsDialect) (last : Field → List Nat)
    {limit : Limit} {value : String} (h : limit.checkCron value = .ok ()) :
    ((words value.toList).length = 5 ∨ (words value.toList).length = 6) ∧
      (∀ entry ∈ fieldsOf value.toList, Legible last entry.1 entry.2) ∧
      (Selective last value.toList ↔
        ∀ entry ∈ fieldsOf value.toList, HasItem last entry.1 entry.2) ∧
      ((∃ word ∈ words value.toList, ∀ c ∈ word, c = ',') → ¬Selective last value.toList) := by
  obtain ⟨schedules, hparse⟩ := parse?_of_checkCron hdialect h
  obtain ⟨hcount, hreads⟩ := parse?_reads hparse
  have hwords := map_snd_fieldsOf hcount
  have hlegible : ∀ entry ∈ fieldsOf value.toList, Legible last entry.1 entry.2 := by
    intro entry hentry
    have hword : entry.2 ∈ words value.toList := hwords ▸ List.mem_map_of_mem hentry
    have hblank : ∀ c ∈ entry.2, isBlank c = false := fun c hc =>
      (mem_and_uncut_of_mem_cutAt (List.mem_filter.mp hword).1 c hc).2
    exact legible_of_readField? hblank (hreads entry hentry)
  refine ⟨hcount, hlegible, ⟨?_, ?_⟩, ?_⟩
  · exact fun hselective entry hentry => (hselective.selects entry hentry).hasItem
  · intro hitems
    exact ⟨hcount, fun entry hentry => (hlegible entry hentry).selects (hitems entry hentry)⟩
  · rintro ⟨word, hword, hcommas⟩ hselective
    rw [← hwords] at hword
    obtain ⟨entry, hentry, rfl⟩ := List.mem_map.mp hword
    exact not_hasItem_of_commas hcommas (hselective.selects entry hentry).hasItem

/-- Steps, ranges, a question mark and names, where the letter of the last marks nothing. -/
theorem selective_of_names :
    FollowsDialect ∧
      (Limit.unbounded "Schedule").checkCron "*/15 8-17 ? jan,jul mon-sun" = .ok () ∧
      Selective (fun _ => []) "*/15 8-17 ? jan,jul mon-sun".toList := by
  have hdialect : FollowsDialect := fun _ _ => rfl
  have haccepted : (Limit.unbounded "Schedule").checkCron "*/15 8-17 ? jan,jul mon-sun" = .ok () := by
    decide +kernel
  have hitems : (fieldsOf "*/15 8-17 ? jan,jul mon-sun".toList).all fun entry =>
      (cutAt (· = ',') entry.2).any fun item => item ≠ [] ∧ item ≠ ['l'] ∧ item ≠ ['L'] := by
    decide +kernel
  have hselective := (selective_iff_of_checkCron hdialect (fun _ => []) haccepted).2.2.1
  refine ⟨hdialect, haccepted, hselective.mpr fun entry hentry => ?_⟩
  obtain ⟨item, hitem, hletters⟩ := List.any_eq_true.mp (List.all_eq_true.mp hitems entry hentry)
  obtain ⟨hne, hlower, hupper⟩ := of_decide_eq_true hletters
  exact ⟨item, hitem, hne, fun hletter => absurd hletter (by rintro (h | h) <;> contradiction)⟩

/-- Nothing is left of a field of commas, and yet it is accepted. -/
theorem not_selective_comma :
    FollowsDialect ∧ (Limit.unbounded "Schedule").checkCron ", * * * *" = .ok () ∧
      ∀ last, ¬Selective last ", * * * *".toList := by
  refine ⟨fun _ _ => rfl, by decide +kernel, fun last hselective => ?_⟩
  have hminute : (Field.minute, [',']) ∈ fieldsOf ", * * * *".toList := by decide +kernel
  have hcommas : ∀ c ∈ [','], c = ',' := by simp
  exact not_hasItem_of_commas hcommas (hselective.selects _ hminute).hasItem

end Fields

end Cron

end ClusterOperator
