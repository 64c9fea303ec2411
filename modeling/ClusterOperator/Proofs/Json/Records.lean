import ClusterOperator.Json.Decode
import ClusterOperator.Proofs.Json.Reading
import ClusterOperator.Proofs.Validation.Verdict

namespace ClusterOperator.Json

open Text.Utf8 (Symbol)

/-- The members of a table that are present. -/
def present {β : Type} (table : List (String × Option β)) : List (String × β) :=
  table.filterMap fun (key, value) => value.map (key, ·)

/-- A text that is absent when empty. -/
def text? (value : String) : Option Json :=
  if value = "" then none else some (.str value)

/-- A list that is absent when empty. -/
def list? (items : List Json) : Option Json :=
  if items.isEmpty then none else some (.arr items)

section Present

variable {β : Type}

theorem present_cons (key : String) (value : β) (table : List (String × Option β)) :
    (key, value) :: present table = present ((key, some value) :: table) := rfl

theorem present_append (front back : List (String × Option β)) :
    present front ++ present back = present (front ++ back) :=
  List.filterMap_append.symm

theorem member?_eq (key : String) (value : Option Json) :
    member? key value = present [(key, value)] := by
  cases value <;> rfl

theorem nonempty_eq (key value : String) : nonempty key value = present [(key, text? value)] := by
  rw [nonempty, text?]
  split <;> rfl

theorem nonemptyList_eq (key : String) (items : List Json) :
    nonemptyList key items = present [(key, list? items)] := by
  rw [nonemptyList, list?]
  split <;> rfl

theorem mem_present {table : List (String × Option β)} {m : String × β} :
    m ∈ present table ↔ (m.1, some m.2) ∈ table := by
  simp only [present, List.mem_filterMap, Option.map_eq_some_iff]
  constructor
  · rintro ⟨⟨key, _⟩, hmem, value, rfl, rfl⟩
    exact hmem
  · intro hmem
    exact ⟨_, hmem, _, rfl, rfl⟩

theorem keys_present (table : List (String × Option β)) :
    ((present table).map Prod.fst).Sublist (table.map Prod.fst) := by
  induction table with
  | nil => exact .slnil
  | cons m table ih =>
      obtain ⟨key, value⟩ := m
      cases value with
      | none => exact ih.cons _
      | some value => exact ih.cons_cons _

theorem lookup_iff_mem {members : List (String × β)} (h : (members.map Prod.fst).Nodup)
    {key : String} {value : β} : members.lookup key = some value ↔ (key, value) ∈ members := by
  constructor
  · intro hlookup
    obtain ⟨front, back, rfl, -⟩ := List.lookup_eq_some_iff.mp hlookup
    simp
  · intro hmem
    induction members with
    | nil => cases hmem
    | cons m members ih =>
        obtain ⟨k, v⟩ := m
        rw [List.map_cons, List.nodup_cons] at h
        rw [List.lookup_cons]
        rcases List.mem_cons.mp hmem with heq | htail
        · cases heq
          simp
        · have hne : (key == k) = false := by
            rw [beq_eq_false_iff_ne]
            rintro rfl
            exact h.1 (List.mem_map.mpr ⟨_, htail, rfl⟩)
          rw [hne]
          exact ih h.2 htail

theorem lookup_present {table : List (String × Option β)} (h : (table.map Prod.fst).Nodup)
    (key : String) : (present table).lookup key = (table.lookup key).join := by
  ext value
  rw [lookup_iff_mem ((keys_present table).nodup h), mem_present, Option.join_eq_some_iff,
    lookup_iff_mem h]

end Present

section At

/-- The value under a key of an object. -/
def at? (key : String) : Json → Option Json
  | obj members => members.lookup key
  | _ => none

theorem textAt?_eq_some_iff {key text : String} {value : Json} :
    textAt? key value = some text ↔ value.at? key = some (.str text) := by
  cases value with
  | obj members =>
      rw [textAt?, at?]
      split
      · rename_i hfound
        rw [hfound]
        simp
      · rename_i hother
        constructor
        · intro h
          cases h
        · intro hfound
          exact absurd hfound (hother text)
  | _ =>
      constructor
      · intro h
        cases h
      · intro h
        cases h

/-- An object with a text under a key: in its place if the key is there, else behind all others. -/
def withText (key text : String) : Json → Json
  | obj members =>
      if (members.lookup key).isSome then
        obj (members.map fun m => if m.1 = key then (m.1, .str text) else m)
      else obj (members ++ [(key, .str text)])
  | other => other

theorem IsPlain.withText {value : Json} (h : value.IsPlain) (key text : String) :
    (value.withText key text).IsPlain := by
  cases value with
  | obj members =>
      rw [isPlain_obj_iff] at h
      rw [Json.withText]
      split
      · refine .obj fun m hm => ?_
        obtain ⟨m', hm', rfl⟩ := List.mem_map.mp hm
        split
        · exact .str text
        · exact h m' hm'
      · refine .obj fun m hm => ?_
        rcases List.mem_append.mp hm with hm | hm
        · exact h m hm
        · rw [List.mem_singleton.mp hm]
          exact .str text
  | _ => exact h

theorem at?_present {table : List (String × Option Json)} (h : (table.map Prod.fst).Nodup)
    (key : String) : (obj (present table)).at? key = (table.lookup key).join :=
  lookup_present h key

theorem textAt?_present {table : List (String × Option Json)} (h : (table.map Prod.fst).Nodup)
    {key : String} {text : Option String} (hfound : table.lookup key = some (text.map .str)) :
    textAt? key (obj (present table)) = text := by
  ext value
  rw [textAt?_eq_some_iff, at?_present h, hfound]
  cases text <;> simp

end At

section Plain

/-- Whether what a table holds is plain. -/
def PlainTable (table : List (String × Option Json)) : Prop :=
  ∀ m ∈ table, ∀ value, m.2 = some value → value.IsPlain

theorem PlainTable.isPlain {table : List (String × Option Json)} (h : PlainTable table) :
    (Json.obj (present table)).IsPlain :=
  .obj fun m hm => h _ (mem_present.mp hm) m.2 rfl

variable {key : String} {table : List (String × Option Json)}

theorem plainTable_nil : PlainTable [] :=
  fun _ h => absurd h List.not_mem_nil

theorem PlainTable.cons {value : Option Json} (h : PlainTable table)
    (hvalue : ∀ v, value = some v → v.IsPlain) : PlainTable ((key, value) :: table) := by
  intro m hm
  rcases List.mem_cons.mp hm with rfl | hm
  · exact hvalue
  · exact h m hm

theorem PlainTable.some {value : Json} (h : PlainTable table) (hvalue : value.IsPlain) :
    PlainTable ((key, Option.some value) :: table) :=
  h.cons fun _ hv => Option.some.inj hv ▸ hvalue

theorem PlainTable.text (h : PlainTable table) (value : String) :
    PlainTable ((key, text? value) :: table) := by
  apply h.cons
  intro v hv
  rw [text?] at hv
  split at hv
  · cases hv
  · cases hv
    exact .str value

theorem PlainTable.list (h : PlainTable table) {items : List Json}
    (hitems : ∀ item ∈ items, item.IsPlain) : PlainTable ((key, list? items) :: table) := by
  apply h.cons
  intro v hv
  rw [list?] at hv
  split at hv
  · cases hv
  · cases hv
    exact .arr hitems

theorem PlainTable.optional {α : Type} {encode : α → Json} (h : PlainTable table)
    (hencode : ∀ a, (encode a).IsPlain) (value : Option α) :
    PlainTable ((key, value.map encode) :: table) := by
  apply h.cons
  intro v hv
  obtain ⟨a, -, rfl⟩ := Option.map_eq_some_iff.mp hv
  exact hencode a

theorem isPlain_strs (names : List String) : (strs names).IsPlain := by
  apply IsPlain.arr
  intro item hitem
  obtain ⟨name, -, rfl⟩ := List.mem_map.mp hitem
  exact .str name

end Plain

namespace Outline

/-- An object whose members have all been read. -/
def ofMembers (members : List (String × Outline)) : Outline :=
  .object (members.map fun m => (.ok m.1, m.2)) none

end Outline

/-- The outlines of what a table holds. -/
def outlined (table : List (String × Option Json)) : List (String × Option Outline) :=
  table.map fun m => (m.1, m.2.map outline)

theorem present_outlined (table : List (String × Option Json)) :
    present (outlined table) = (present table).map fun m => (m.1, outline m.2) := by
  induction table with
  | nil => rfl
  | cons m table ih =>
      obtain ⟨key, value⟩ := m
      cases value with
      | none => exact ih
      | some value => exact congrArg _ ih

theorem outline_present (table : List (String × Option Json)) :
    outline (.obj (present table)) = .ofMembers (present (outlined table)) := by
  rw [outline, Outline.ofMembers, outlineMembers_eq, present_outlined, List.map_map]
  rfl

theorem stop?_outline (value : Json) : (outline value).stop? = none := by
  cases value <;> rfl

/-- The fields yield a value from a table, wherever its members stand. -/
structure Fields.Yields {α : Type} (fields : Fields α) (table : List (String × Option Outline))
    (a : α) : Prop where
  checked : ∀ slot ∈ fields.slots, ∀ value, table.lookup slot.key = some (some value) →
    slot.check value = .ok ()
  built : ∀ find : String → Option (Nat × Outline),
    (∀ key, (find key).map Prod.snd = (table.lookup key).join) → fields.build find = .ok a

namespace Fields.Yields

variable {α β : Type} {table : List (String × Option Outline)} {key : String}

theorem map {fields : Fields α} {a : α} (f : α → β) (h : fields.Yields table a) :
    (f <$> fields).Yields table (f a) := by
  refine ⟨h.checked, ?_⟩
  intro find hfind
  change (fields.build find).map f = _
  rw [h.built find hfind]
  rfl

theorem seq {f : Fields (α → β)} {fields : Fields α} {g : α → β} {a : α}
    (hf : f.Yields table g) (h : fields.Yields table a) :
    (f <*> fields).Yields table (g a) := by
  constructor
  · intro slot hslot
    rcases List.mem_append.mp hslot with hslot | hslot
    · exact hf.checked slot hslot
    · exact h.checked slot hslot
  · intro find hfind
    change ((f.build find).bind fun g => (fields.build find).bind fun a => .ok (g a)) = _
    rw [hf.built find hfind, h.built find hfind]
    rfl

theorem required {decode : Decoder α} {value : Outline} {a : α}
    (hfound : table.lookup key = some (some value)) (hdecode : decode value = .ok a) :
    (Fields.required key decode).Yields table a := by
  constructor
  · simp only [Fields.required, List.mem_singleton, forall_eq, checking]
    intro v hv
    rw [hfound] at hv
    cases hv
    rw [hdecode]
    rfl
  · intro find hfind
    have hkey := hfind key
    rw [hfound] at hkey
    obtain ⟨⟨n, v⟩, hv, rfl⟩ := Option.map_eq_some_iff.mp hkey
    simp [Fields.required, hv, hdecode, within]

theorem defaulted {decode : Decoder α} {found : Option Outline} {absent a : α}
    (hfound : table.lookup key = some found)
    (hdecode : ∀ value, found = some value → decode value = .ok a)
    (habsent : found = none → absent = a) : (Fields.defaulted key decode absent).Yields table a := by
  constructor
  · simp only [Fields.defaulted, List.mem_singleton, forall_eq, checking]
    intro v hv
    rw [hfound] at hv
    cases hv
    rw [hdecode v rfl]
    rfl
  · intro find hfind
    have hkey := hfind key
    rw [hfound] at hkey
    cases found with
    | none =>
        have hnone := Option.map_eq_none_iff.mp hkey
        simp [Fields.defaulted, hnone, habsent]
    | some value =>
        obtain ⟨⟨n, v⟩, hv, rfl⟩ := Option.map_eq_some_iff.mp hkey
        simp [Fields.defaulted, hv, hdecode, within]

theorem given {decode : Decoder α} {value : Outline} {absent a : α}
    (hfound : table.lookup key = some (some value)) (hdecode : decode value = .ok a) :
    (Fields.defaulted key decode absent).Yields table a :=
  defaulted hfound (fun _ hv => Option.some.inj hv ▸ hdecode) nofun

theorem text {value : String} (hfound : table.lookup key = some ((text? value).map outline)) :
    (Fields.text key).Yields table value := by
  apply defaulted hfound
  · intro v hv
    rw [text?] at hv
    split at hv
    · cases hv
    · cases hv
      rfl
  · intro hv
    rw [text?] at hv
    split at hv
    · rename_i hempty
      exact hempty.symm
    · cases hv

theorem optional {decode : Decoder α} {encode : α → Json} {value : Option α}
    (hfound : table.lookup key = some ((value.map encode).map outline))
    (hdecode : ∀ a, value = some a → decode (outline (encode a)) = .ok a)
    (hnull : ∀ a, encode a ≠ .null) : (Fields.optional key decode).Yields table value := by
  apply defaulted hfound
  · intro v hv
    cases value with
    | none => cases hv
    | some a =>
        cases hv
        have houtline : outline (encode a) ≠ .null := by
          intro heq
          have hne := hnull a
          cases hencode : encode a with
          | null => exact hne hencode
          | _ =>
              rw [hencode] at heq
              cases heq
        rw [Decode.optional.eq_2 _ _ houtline, hdecode a rfl]
        rfl
  · intro hv
    cases value with
    | none => rfl
    | some a => cases hv

theorem nullable {decode : Decoder α} {encode : α → Json} {value : Option α}
    (hfound : table.lookup key = some ((value.map encode).map outline))
    (hdecode : ∀ a, value = some a → decode (outline (encode a)) = .ok a)
    (hnull : ∀ a, encode a ≠ .null) : (Fields.nullable key decode).Yields table value := by
  -- An optional field differs only in that an array may end before it.
  have h : (Fields.optional key decode).Yields table value := .optional hfound hdecode hnull
  constructor
  · simp only [Fields.nullable, List.mem_singleton, forall_eq]
    exact h.checked ⟨key, checking (Decode.optional decode), true⟩ (List.mem_singleton_self _)
  · exact h.built

theorem list {decode : Decoder α} {encode : α → Json} {items : List α}
    (hfound : table.lookup key = some ((list? (items.map encode)).map outline))
    (hdecode : Decode.list decode (outline (.arr (items.map encode))) = .ok items) :
    (Fields.defaulted key (Decode.list decode) []).Yields table items := by
  apply defaulted hfound
  · intro v hv
    rw [list?] at hv
    split at hv
    · cases hv
    · cases hv
      exact hdecode
  · intro hv
    rw [list?] at hv
    split at hv
    · rename_i hempty
      simp at hempty
      exact hempty.symm
    · cases hv

end Fields.Yields

namespace Decode

theorem hasKey_ok {key : String} {m : Except Breach String × Outline}
    (h : hasKey key m = true) : m.1 = .ok key := by
  obtain ⟨_ | k, value⟩ := m
  · cases h
  · rw [of_decide_eq_true h]

theorem within_eq_ok {α : Type} {segment : Segment} {result : Except Trouble α} {a : α} :
    within segment result = .ok a ↔ result = .ok a := by
  cases result <;> simp [within]

theorem lastOf_of_nodup {members : List (String × Outline)} (h : (members.map Prod.fst).Nodup)
    (key : String) :
    (lastOf (members.map fun m => (.ok m.1, m.2)) key).map Prod.snd = members.lookup key := by
  rw [lastOf, Option.map_map]
  cases hfind : List.find? _ _ with
  | none =>
      symm
      rw [Option.map_none, Option.eq_none_iff_forall_not_mem]
      intro value hvalue
      have hmem := (lookup_iff_mem h).mp hvalue
      obtain ⟨n, hn⟩ := List.mem_iff_getElem?.mp (List.mem_map_of_mem
        (f := fun m : String × Outline => ((.ok m.1, m.2) : Except Breach String × Outline)) hmem)
      have hnone := List.find?_eq_none.mp hfind _
        (List.mem_reverse.mpr (List.mk_mem_zipIdx_iff_getElem?.mpr hn))
      simp [hasKey] at hnone
  | some found =>
      obtain ⟨⟨k, value⟩, n⟩ := found
      have hfound := List.find?_some hfind
      have hk := hasKey_ok hfound
      have hmem := List.fst_mem_of_mem_zipIdx (List.mem_reverse.mp (List.mem_of_find?_eq_some hfind))
      obtain ⟨m, hm, heq⟩ := List.mem_map.mp hmem
      cases heq
      cases hk
      exact ((lookup_iff_mem h).mpr hm).symm

/-- The check of a value under a key: that of the field, if the key belongs to one. -/
def checkOf (slots : List Slot) (unknown : Outline → Except Trouble Unit) (key : String) :
    Outline → Except Trouble Unit :=
  match slots.find? (·.key = key) with
  | some slot => slot.check
  | none => unknown

theorem checkOf_eq_ok {slots : List Slot} {unknown : Outline → Except Trouble Unit} {key : String}
    {value : Outline} (hknown : ∀ slot ∈ slots, slot.key = key → slot.check value = .ok ())
    (hunknown : (∃ slot ∈ slots, slot.key = key) ∨ unknown value = .ok ()) :
    checkOf slots unknown key value = .ok () := by
  rw [checkOf]
  cases hslot : slots.find? (·.key = key) with
  | some slot =>
      have hfound := List.find?_some hslot
      exact hknown slot (List.mem_of_find?_eq_some hslot) (of_decide_eq_true hfound)
  | none =>
      rcases hunknown with ⟨slot, hmem, hkey⟩ | hpassed
      · exact absurd (decide_eq_true hkey) (List.find?_eq_none.mp hslot slot hmem)
      · exact hpassed

theorem checkMembers_eq_ok {slots : List Slot} {unknown : Outline → Except Trouble Unit}
    {repeats : Bool} {members : List (String × Outline)} {seen : List String} (n : Nat)
    (hdistinct : (members.map Prod.fst).Nodup) (hseen : ∀ m ∈ members, m.1 ∉ seen) :
    checkMembers slots unknown repeats n seen (members.map fun m => (.ok m.1, m.2)) = .ok () ↔
      ∀ m ∈ members, checkOf slots unknown m.1 m.2 = .ok () := by
  induction members generalizing n seen with
  | nil => exact ⟨fun _ => nofun, fun _ => rfl⟩
  | cons m members ih =>
      obtain ⟨key, value⟩ := m
      rw [List.map_cons, List.nodup_cons] at hdistinct
      have hseen' := fun m hm => hseen m (List.mem_cons_of_mem _ hm)
      rw [List.map_cons, checkMembers, List.forall_mem_cons, checkOf]
      cases hslot : slots.find? (·.key = key) with
      | none =>
          simp only [bind_eq_ok, exists_unit_eq_ok, within_eq_ok]
          rw [ih (n + 1) hdistinct.2 hseen']
      | some slot =>
          have hnew : seen.contains key = false := by
            simpa using hseen _ List.mem_cons_self
          simp only [hnew, Bool.false_eq_true, false_and, if_false, bind_eq_ok, exists_unit_eq_ok,
            within_eq_ok]
          rw [ih (n + 1) hdistinct.2]
          intro m hm hmem
          rcases List.mem_cons.mp hmem with heq | hmem
          · exact hdistinct.1 (List.mem_map.mpr ⟨m, hm, heq⟩)
          · exact hseen' m hm hmem

section Records

variable {α : Type} {fields : Fields α} {a : α}

theorem checkMembers_present {table : List (String × Option Outline)} (h : fields.Yields table a)
    (hdistinct : (table.map Prod.fst).Nodup)
    (hunknown : ∀ m ∈ present table, (∃ slot ∈ fields.slots, slot.key = m.1) ∨ m.2.stop? = none)
    (repeats : Bool) :
    checkMembers fields.slots passOver repeats 0 []
      ((present table).map fun m => (.ok m.1, m.2)) = .ok () := by
  have hkeys := (keys_present table).nodup hdistinct
  rw [checkMembers_eq_ok 0 hkeys fun _ _ => List.not_mem_nil]
  rintro ⟨key, value⟩ hm
  apply checkOf_eq_ok
  · rintro slot hslot rfl
    exact h.checked slot hslot value ((lookup_iff_mem hdistinct).mpr (mem_present.mp hm))
  · refine (hunknown _ hm).imp id ?_
    intro hstop
    rw [passOver, hstop]

theorem build_present {table : List (String × Option Outline)} (h : fields.Yields table a)
    (hdistinct : (table.map Prod.fst).Nodup) :
    fields.build (lastOf ((present table).map fun m => (.ok m.1, m.2))) = .ok a := by
  apply h.built
  intro key
  rw [lastOf_of_nodup ((keys_present table).nodup hdistinct), lookup_present hdistinct]

/-- A record whose fields yield a value from a table is read from the object of that table. -/
theorem record_ofMembers {table : List (String × Option Outline)} (h : fields.Yields table a)
    (hdistinct : (table.map Prod.fst).Nodup)
    (hunknown : ∀ m ∈ present table, (∃ slot ∈ fields.slots, slot.key = m.1) ∨ m.2.stop? = none)
    (name : String) : record name fields (.ofMembers (present table)) = .ok a := by
  rw [Outline.ofMembers, record, checkMembers_present h hdistinct hunknown]
  exact build_present h hdistinct

theorem keys_outlined (table : List (String × Option Json)) :
    (outlined table).map Prod.fst = table.map Prod.fst := by
  rw [outlined, List.map_map]
  rfl

theorem stop?_of_mem_outlined {table : List (String × Option Json)} {m : String × Outline}
    (h : m ∈ present (outlined table)) : m.2.stop? = none := by
  obtain ⟨⟨key, value⟩, -, heq⟩ := List.mem_map.mp (mem_present.mp h)
  cases value with
  | none => cases heq
  | some value =>
      simp only [Option.map_some, Prod.mk.injEq, Option.some.injEq] at heq
      rw [← heq.2]
      exact stop?_outline value

theorem record_obj {table : List (String × Option Json)} (h : fields.Yields (outlined table) a)
    (hdistinct : (table.map Prod.fst).Nodup) (name : String) :
    record name fields (outline (.obj (present table))) = .ok a := by
  rw [outline_present]
  exact record_ofMembers h (keys_outlined table ▸ hdistinct)
    (fun _ hm => .inr (stop?_of_mem_outlined hm)) name

theorem openRecord_obj {table : List (String × Option Json)} (h : fields.Yields (outlined table) a)
    (hdistinct : (table.map Prod.fst).Nodup) (name : String) :
    openRecord name fields (outline (.obj (present table))) = .ok a := by
  rw [outline_present, Outline.ofMembers, openRecord,
    checkMembers_present h (keys_outlined table ▸ hdistinct)
      (fun _ hm => .inr (stop?_of_mem_outlined hm))]
  exact build_present h (keys_outlined table ▸ hdistinct)

end Records

theorem itemsFrom_outlineItems {α : Type} {decode : Decoder α} {encode : α → Json} {items : List α}
    (h : ∀ a ∈ items, decode (outline (encode a)) = .ok a) (n : Nat) :
    itemsFrom decode n (outlineItems (items.map encode)) = .ok items := by
  induction items generalizing n with
  | nil => rfl
  | cons a items ih =>
      have hrest := ih (fun b hb => h b (List.mem_cons_of_mem a hb)) (n + 1)
      rw [List.map_cons, outlineItems, itemsFrom, h a List.mem_cons_self]
      simp only [within]
      change ((itemsFrom decode (n + 1) _).bind fun rest => .ok (a :: rest)) = _
      rw [hrest]
      rfl

theorem list_arr {α : Type} {decode : Decoder α} {encode : α → Json} {items : List α}
    (h : ∀ a ∈ items, decode (outline (encode a)) = .ok a) :
    list decode (outline (.arr (items.map encode))) = .ok items := by
  rw [outline, list, itemsFrom_outlineItems h]
  rfl

theorem list_strs (names : List String) :
    list text (outline (strs names)) = .ok names :=
  list_arr fun _ _ => rfl

theorem insertSorted_greater {α : Type} {key : String} {done : List (String × α)}
    (h : ∀ p ∈ done, p.1 < key) (value : α) :
    insertSorted key value done = done ++ [(key, value)] := by
  induction done with
  | nil => rfl
  | cons p done ih =>
      obtain ⟨k, v⟩ := p
      have hlt : k < key := h _ List.mem_cons_self
      rw [insertSorted, if_neg (String.lt_asymm hlt), if_neg (String.ne_of_lt hlt).symm,
        ih fun p hp => h p (List.mem_cons_of_mem _ hp), List.cons_append]

theorem pairsFrom_increasing {α : Type} {decode : Decoder α} {encode : α → Json}
    {pairs : List (String × α)} (hdecode : ∀ p ∈ pairs, decode (outline (encode p.2)) = .ok p.2)
    (n : Nat) {done : List (String × α)}
    (hincreasing : ((done ++ pairs).map Prod.fst).Pairwise (· < ·)) :
    pairsFrom decode n (outlineMembers (pairs.map fun p => (p.1, encode p.2))) done =
      .ok (done ++ pairs) := by
  induction pairs generalizing n done with
  | nil =>
      rw [List.append_nil]
      rfl
  | cons p pairs ih =>
      obtain ⟨key, value⟩ := p
      have hless : ∀ q ∈ done, q.1 < key := by
        intro q hq
        rw [List.map_append, List.pairwise_append] at hincreasing
        exact hincreasing.2.2 _ (List.mem_map_of_mem hq) _ List.mem_cons_self
      rw [List.append_cons] at hincreasing ⊢
      have hrest := ih (fun q hq => hdecode q (List.mem_cons_of_mem _ hq)) (n + 1) hincreasing
      rw [List.map_cons, outlineMembers, pairsFrom, hdecode _ List.mem_cons_self]
      simp only [within]
      rw [← insertSorted_greater hless] at hrest ⊢
      exact hrest

theorem dictionary_obj {α : Type} {decode : Decoder α} {encode : α → Json}
    {pairs : List (String × α)} (hdecode : ∀ p ∈ pairs, decode (outline (encode p.2)) = .ok p.2)
    (hincreasing : (pairs.map Prod.fst).Pairwise (· < ·)) :
    dictionary decode (outline (.obj (pairs.map fun p => (p.1, encode p.2)))) = .ok pairs := by
  have hpairs : pairsFrom decode 0 (outlineMembers (pairs.map fun p => (p.1, encode p.2))) [] =
      .ok pairs := pairsFrom_increasing hdecode 0 hincreasing
  rw [outline, dictionary, hpairs]
  rfl

theorem exists_of_mem_list {α : Type} {decode : Decoder α} {value : Outline} {items : List α}
    (h : list decode value = .ok items) : ∀ a ∈ items, ∃ item, decode item = .ok a := by
  have hitems : ∀ (outlines : List Outline) (n : Nat) (items : List α),
      itemsFrom decode n outlines = .ok items → ∀ a ∈ items, ∃ item, decode item = .ok a := by
    intro outlines
    induction outlines with
    | nil =>
        intro n items h a ha
        cases h
        cases ha
    | cons outline outlines ih =>
        intro n items h a ha
        simp only [itemsFrom, bind_eq_ok] at h
        obtain ⟨first, hfirst, rest, hrest, hcons⟩ := h
        cases hcons
        rcases List.mem_cons.mp ha with rfl | ha
        · exact ⟨outline, within_eq_ok.mp hfirst⟩
        · exact ih _ _ hrest a ha
  cases value with
  | array outlines stop =>
      simp only [list, bind_eq_ok, pure_eq_ok] at h
      obtain ⟨decoded, hdecoded, -, -, rfl⟩ := h
      exact hitems _ _ _ hdecoded
  | _ => cases h

end Decode

theorem Decode.exists_of_whole {α : Type} {decode : Decoder α} {source : List Symbol} {a : α}
    (h : whole decode source = .ok a) : ∃ value, decode value = .ok a := by
  simp only [whole, bind_eq_ok] at h
  obtain ⟨b, hb, h⟩ := h
  split at h
  · cases h
    exact ⟨_, hb⟩
  · cases h
  · cases h

/-- Whatever the fields are read from, what they build has a property. -/
def Fields.Ensures {α : Type} (fields : Fields α) (P : α → Prop) : Prop :=
  ∀ find a, fields.build find = .ok a → P a

namespace Fields.Ensures

variable {α β : Type} {key : String}

theorem map {fields : Fields α} {P : β → Prop} {f : α → β} (h : ∀ a, P (f a)) :
    (f <$> fields).Ensures P := by
  intro find b hb
  change (fields.build find).map f = .ok b at hb
  cases hbuild : fields.build find with
  | error trouble =>
      rw [hbuild] at hb
      cases hb
  | ok a =>
      rw [hbuild] at hb
      cases hb
      exact h a

theorem seq_of {f : Fields (α → β)} {fields : Fields α} {P : α → Prop} {Q : β → Prop}
    (hf : f.Ensures fun g => ∀ a, P a → Q (g a)) (h : fields.Ensures P) :
    (f <*> fields).Ensures Q := by
  intro find b hb
  change (f.build find >>= fun g => fields.build find >>= fun a => .ok (g a)) = .ok b at hb
  simp only [bind_eq_ok] at hb
  obtain ⟨g, hg, a, ha, hb⟩ := hb
  cases hb
  exact hf find g hg a (h find a ha)

theorem seq {f : Fields (α → β)} {fields : Fields α} {Q : β → Prop}
    (hf : f.Ensures fun g => ∀ a, Q (g a)) : (f <*> fields).Ensures Q :=
  seq_of (P := fun _ => True) (fun find g hg a _ => hf find g hg a) fun _ _ _ => trivial

theorem required {decode : Decoder α} {P : α → Prop} (h : ∀ value a, decode value = .ok a → P a) :
    (Fields.required key decode).Ensures P := by
  intro find a ha
  simp only [Fields.required] at ha
  split at ha
  · exact h _ a (Decode.within_eq_ok.mp ha)
  · cases ha

theorem defaulted {decode : Decoder α} {absent : α} {P : α → Prop} (habsent : P absent)
    (h : ∀ value a, decode value = .ok a → P a) :
    (Fields.defaulted key decode absent).Ensures P := by
  intro find a ha
  simp only [Fields.defaulted] at ha
  split at ha
  · exact h _ a (Decode.within_eq_ok.mp ha)
  · cases ha
    exact habsent

theorem record {fields : Fields α} {P : α → Prop} (h : fields.Ensures P) {name : String}
    {value : Outline} {a : α} (ha : Decode.record name fields value = .ok a) : P a := by
  cases value with
  | object members stop =>
      simp only [Decode.record, bind_eq_ok, exists_unit_eq_ok] at ha
      exact h _ a ha.2.2
  | array items stop =>
      simp only [Decode.record, bind_eq_ok, exists_unit_eq_ok] at ha
      exact h _ a ha.2
  | _ => cases ha

end Fields.Ensures

end ClusterOperator.Json
