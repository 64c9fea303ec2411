import ClusterOperator.Proofs.Json.Records

/-!
The order of members does not matter to a reader, as long as no key is repeated.

A decoder is steady if it reads the same from a value and from each reordering of it. Records, lists
and maps of what steady decoders read are read by steady decoders.
-/

namespace ClusterOperator.Json

/-- The same value but for the order of members, of which no two have the same key. -/
inductive Reordered : Json → Json → Prop
  | refl (value : Json) : Reordered value value
  | trans {u v w : Json} (first : Reordered u v) (second : Reordered v w) : Reordered u w
  | members {ms ms' : List (String × Json)} (distinct : (ms.map Prod.fst).Nodup)
      (perm : ms.Perm ms') : Reordered (.obj ms) (.obj ms')
  | member {v w : Json} (front : List (String × Json)) (key : String)
      (back : List (String × Json)) (value : Reordered v w) :
      Reordered (.obj (front ++ (key, v) :: back)) (.obj (front ++ (key, w) :: back))
  | item {v w : Json} (front back : List Json) (value : Reordered v w) :
      Reordered (.arr (front ++ v :: back)) (.arr (front ++ w :: back))

section OneByOne

variable {α : Type} {related : α → α → Prop} {ofValues : Json → Json → Prop}

/-- Members with the same keys one by one, and related values. -/
def Memberwise (ofValues : Json → Json → Prop) :
    List (String × Json) → List (String × Json) → Prop :=
  List.Forall₂ fun m m' => m.1 = m'.1 ∧ ofValues m.2 m'.2

theorem forall₂_of_one {a b : α} (h : related a b) (hrefl : ∀ a, related a a)
    (front back : List α) :
    List.Forall₂ related (front ++ a :: back) (front ++ b :: back) :=
  List.rel_append (List.forall₂_same.mpr fun a _ => hrefl a)
    (.cons h (List.forall₂_same.mpr fun a _ => hrefl a))

theorem memberwise_of_one {v w : Json} (h : ofValues v w) (hrefl : ∀ v, ofValues v v)
    (front : List (String × Json)) (key : String) (back : List (String × Json)) :
    Memberwise ofValues (front ++ (key, v) :: back) (front ++ (key, w) :: back) :=
  forall₂_of_one ⟨rfl, h⟩ (fun m => ⟨rfl, hrefl m.2⟩) front back

theorem Memberwise.lookup {ms ms' : List (String × Json)} (h : Memberwise ofValues ms ms')
    {key : String} {v : Json} (hv : ms.lookup key = some v) :
    ∃ w, ms'.lookup key = some w ∧ ofValues v w := by
  induction h with
  | nil => cases hv
  | @cons m m' _ _ hm _ ih =>
      obtain ⟨k, x⟩ := m
      obtain ⟨_, y⟩ := m'
      obtain ⟨rfl, hvalue⟩ := hm
      rw [List.lookup_cons] at hv ⊢
      cases hkey : key == k with
      | true =>
          rw [hkey] at hv
          cases hv
          exact ⟨y, rfl, hvalue⟩
      | false =>
          rw [hkey] at hv
          exact ih hv

end OneByOne

namespace Reordered

variable {v w : Json}

theorem isPlain (h : v.Reordered w) (hv : v.IsPlain) : w.IsPlain := by
  induction h with
  | refl => exact hv
  | trans _ _ first second => exact second (first hv)
  | members distinct perm =>
      rw [isPlain_obj_iff] at hv ⊢
      exact fun m hm => hv m (perm.mem_iff.mpr hm)
  | member front key back _ value =>
      rw [isPlain_obj_iff, List.forall_mem_append, List.forall_mem_cons] at hv ⊢
      exact ⟨hv.1, value hv.2.1, hv.2.2⟩
  | item front back _ value =>
      rw [isPlain_arr_iff, List.forall_mem_append, List.forall_mem_cons] at hv ⊢
      exact ⟨hv.1, value hv.2.1, hv.2.2⟩

theorem eq_str {text : String} (h : v.Reordered w) (hv : v = .str text) : w = .str text := by
  induction h with
  | refl => exact hv
  | trans _ _ first second => exact second (first hv)
  | _ => cases hv

theorem outline_eq_null_iff (h : v.Reordered w) : outline v = .null ↔ outline w = .null := by
  induction h with
  | refl => exact .rfl
  | trans _ _ first second => exact first.trans second
  | _ => exact ⟨nofun, nofun⟩

end Reordered

theorem lookup_of_perm {β : Type} {ms ms' : List (String × β)} (h : (ms.map Prod.fst).Nodup)
    (hperm : ms.Perm ms') (key : String) : ms.lookup key = ms'.lookup key := by
  ext value
  rw [lookup_iff_mem h, lookup_iff_mem ((hperm.map Prod.fst).nodup h), hperm.mem_iff]

/-- What is found under a key, but for its place and the order of members in it. -/
inductive FoundAlike : Option (Nat × Outline) → Option (Nat × Outline) → Prop
  | none : FoundAlike none none
  | some {m n : Nat} {v w : Json} (h : v.Reordered w) :
      FoundAlike (some (m, outline v)) (some (n, outline w))

section Found

open Decode

theorem lastOf_append_singleton (members : List (Except Breach String × Outline))
    (member : Except Breach String × Outline) (key : String) :
    lastOf (members ++ [member]) key =
      if hasKey key member then some (members.length, member.2) else lastOf members key := by
  rw [lastOf, List.zipIdx_append, List.reverse_append]
  simp only [List.zipIdx_cons, List.zipIdx_nil, List.reverse_singleton, List.singleton_append,
    List.find?_cons, Nat.zero_add]
  split <;> simp_all [lastOf]

theorem foundAlike_of_forall₂ {ms ms' : List (String × Json)} (h : Memberwise Reordered ms ms')
    (key : String) :
    FoundAlike (lastOf (outlineMembers ms) key) (lastOf (outlineMembers ms') key) := by
  -- The last value counts, so the members are taken from behind.
  have hreversed : ∀ {back back' : List (String × Json)}, Memberwise Reordered back back' →
      FoundAlike (lastOf (outlineMembers back.reverse) key)
        (lastOf (outlineMembers back'.reverse) key) := by
    intro back back' hback
    induction hback with
    | nil => exact .none
    | @cons m m' _ _ hm hback ih =>
        obtain ⟨k, v⟩ := m
        obtain ⟨_, w⟩ := m'
        obtain ⟨rfl, hvalue⟩ := hm
        simp only [outlineMembers_eq, List.reverse_cons, List.map_append, List.map_cons,
          List.map_nil, lastOf_append_singleton] at ih ⊢
        by_cases hkey : hasKey key (.ok k, outline v)
        · have hkey' : hasKey key (.ok k, outline w) := hkey
          rw [if_pos hkey, if_pos hkey']
          exact .some hvalue
        · have hkey' : ¬hasKey key (.ok k, outline w) := hkey
          rw [if_neg hkey, if_neg hkey']
          exact ih
  have hback := hreversed (List.rel_reverse h)
  rwa [List.reverse_reverse, List.reverse_reverse] at hback

theorem outlineMembers_eq_map (ms : List (String × Json)) :
    outlineMembers ms = (ms.map fun m => (m.1, outline m.2)).map fun m => (.ok m.1, m.2) := by
  rw [outlineMembers_eq, List.map_map]
  rfl

theorem nodup_outlined {ms : List (String × Json)} (h : (ms.map Prod.fst).Nodup) :
    ((ms.map fun m => (m.1, outline m.2)).map Prod.fst).Nodup := by
  rw [List.map_map]
  exact h

theorem lastOf_outlineMembers {ms : List (String × Json)} (h : (ms.map Prod.fst).Nodup)
    (key : String) :
    (lastOf (outlineMembers ms) key).map Prod.snd = (ms.lookup key).map outline := by
  have hlookup : (ms.map fun m => (m.1, outline m.2)).lookup key =
      (ms.lookup key).map outline := by
    clear h
    induction ms with
    | nil => rfl
    | cons m ms ih =>
        obtain ⟨k, v⟩ := m
        rw [List.map_cons, List.lookup_cons, List.lookup_cons]
        cases key == k with
        | true => rfl
        | false => exact ih
  rw [outlineMembers_eq_map, lastOf_of_nodup (nodup_outlined h), hlookup]

theorem foundAlike_of_perm {ms ms' : List (String × Json)} (h : (ms.map Prod.fst).Nodup)
    (hperm : ms.Perm ms') (key : String) :
    FoundAlike (lastOf (outlineMembers ms) key) (lastOf (outlineMembers ms') key) := by
  have hsame := (lastOf_outlineMembers h key).trans (congrArg _ (lookup_of_perm h hperm key))
  have hsame' := lastOf_outlineMembers ((hperm.map Prod.fst).nodup h) key
  cases hfound : ms'.lookup key with
  | none =>
      rw [hfound, Option.map_none, Option.map_eq_none_iff] at hsame hsame'
      rw [hsame, hsame']
      exact .none
  | some value =>
      rw [hfound, Option.map_some, Option.map_eq_some_iff] at hsame hsame'
      obtain ⟨⟨m, _⟩, hm, rfl⟩ := hsame
      obtain ⟨⟨n, _⟩, hn, rfl⟩ := hsame'
      rw [hm, hn]
      exact .some (.refl value)

end Found

/-- What is read from the first value is read from the second. -/
def Decoder.Follows {α : Type} (decode : Decoder α) (v w : Json) : Prop :=
  ∀ ⦃a : α⦄, decode (outline v) = .ok a → decode (outline w) = .ok a

theorem Decoder.Follows.refl {α : Type} (decode : Decoder α) (v : Json) : decode.Follows v v :=
  fun _ h => h

/-- A decoder reads the same from a value and from its reorderings. -/
def Decoder.Steady {α : Type} (decode : Decoder α) : Prop :=
  ∀ ⦃v w : Json⦄, v.Reordered w → decode.Follows v w

namespace Decoder.Steady

open Decode

variable {α : Type} {decode : Decoder α}

theorem of_steps
    (hperm : ∀ {ms ms' : List (String × Json)}, (ms.map Prod.fst).Nodup → ms.Perm ms' →
      decode.Follows (.obj ms) (.obj ms'))
    (hmembers : ∀ {ms ms' : List (String × Json)}, Memberwise Reordered ms ms' →
      decode.Follows (.obj ms) (.obj ms'))
    (hitems : ∀ {items items' : List Json}, List.Forall₂ Reordered items items' →
      decode.Follows (.arr items) (.arr items')) : decode.Steady := by
  intro v w hvw a hv
  induction hvw with
  | refl => exact hv
  | trans _ _ first second => exact second (first hv)
  | members distinct perm => exact hperm distinct perm hv
  | member front key back value => exact hmembers (memberwise_of_one value .refl front key back) hv
  | item front back value => exact hitems (forall₂_of_one value .refl front back) hv

theorem of_scalars (harr : ∀ items a, decode (outline (.arr items)) ≠ .ok a)
    (hobj : ∀ ms a, decode (outline (.obj ms)) ≠ .ok a) : decode.Steady :=
  of_steps (fun _ _ a h => absurd h (hobj _ a)) (fun _ a h => absurd h (hobj _ a))
    (fun _ a h => absurd h (harr _ a))

theorem text : Decode.text.Steady :=
  .of_scalars nofun nofun

theorem flag : Decode.flag.Steady :=
  .of_scalars nofun nofun

theorem optional (h : decode.Steady) : (Decode.optional decode).Steady := by
  intro v w hvw found hv
  by_cases hnull : outline v = .null
  · rw [hnull] at hv
    rw [hvw.outline_eq_null_iff.mp hnull]
    exact hv
  · have hnull' := mt hvw.outline_eq_null_iff.mpr hnull
    rw [Decode.optional.eq_2 _ _ hnull, map_eq_ok] at hv
    rw [Decode.optional.eq_2 _ _ hnull', map_eq_ok]
    obtain ⟨a, ha, hfound⟩ := hv
    exact ⟨a, h hvw ha, hfound⟩

theorem itemsFrom_of_forall₂ {items items' : List Json}
    (h : List.Forall₂ decode.Follows items items') (n : Nat) {decoded : List α}
    (hv : itemsFrom decode n (outlineItems items) = .ok decoded) :
    itemsFrom decode n (outlineItems items') = .ok decoded := by
  induction h generalizing n decoded with
  | nil => exact hv
  | cons hvalue _ ih =>
      simp only [outlineItems, itemsFrom, bind_eq_ok, within_eq_ok] at hv ⊢
      obtain ⟨a, ha, rest, hrest, hcons⟩ := hv
      exact ⟨a, hvalue ha, rest, ih (n + 1) hrest, hcons⟩

theorem list (h : decode.Steady) : (list decode).Steady := by
  apply of_steps
  · intro ms ms' _ _ decoded hv
    cases hv
  · intro ms ms' _ decoded hv
    cases hv
  · intro items items' hitems decoded hv
    have hfollows := hitems.imp fun _ _ hvalue => h hvalue
    simp only [outline, Decode.list, bind_eq_ok] at hv ⊢
    obtain ⟨read, hread, hrest⟩ := hv
    exact ⟨read, itemsFrom_of_forall₂ hfollows 0 hread, hrest⟩

theorem insertSorted_comm {key key' : String} (h : key ≠ key') (a b : α)
    (done : List (String × α)) :
    insertSorted key a (insertSorted key' b done) =
      insertSorted key' b (insertSorted key a done) := by
  induction done with
  | nil => grind [insertSorted]
  | cons p done ih => grind [insertSorted]

theorem pairsFrom_of_perm {ms ms' : List (String × Json)} (hdistinct : (ms.map Prod.fst).Nodup)
    (hperm : ms.Perm ms') (n : Nat) {done pairs : List (String × α)}
    (hv : pairsFrom decode n (outlineMembers ms) done = .ok pairs) :
    pairsFrom decode n (outlineMembers ms') done = .ok pairs := by
  induction hperm generalizing n done with
  | nil => exact hv
  | cons m _ ih =>
      simp only [outlineMembers, pairsFrom, bind_eq_ok, within_eq_ok] at hv ⊢
      obtain ⟨a, ha, hrest⟩ := hv
      exact ⟨a, ha, ih (List.nodup_cons.mp hdistinct).2 (n + 1) hrest⟩
  | swap m m' ms =>
      have hne : m'.1 ≠ m.1 := by
        rintro heq
        simp [heq] at hdistinct
      simp only [outlineMembers, pairsFrom, bind_eq_ok, within_eq_ok] at hv ⊢
      obtain ⟨a, ha, b, hb, hrest⟩ := hv
      rw [insertSorted_comm hne.symm] at hrest
      exact ⟨b, hb, a, ha, hrest⟩
  | trans hperm _ first second =>
      exact second ((hperm.map Prod.fst).nodup hdistinct) n (first hdistinct n hv)

theorem pairsFrom_of_forall₂ {ms ms' : List (String × Json)}
    (h : Memberwise decode.Follows ms ms') (n : Nat) {done pairs : List (String × α)}
    (hv : pairsFrom decode n (outlineMembers ms) done = .ok pairs) :
    pairsFrom decode n (outlineMembers ms') done = .ok pairs := by
  induction h generalizing n done with
  | nil => exact hv
  | @cons m m' _ _ hm _ ih =>
      obtain ⟨key, v⟩ := m
      obtain ⟨_, w⟩ := m'
      obtain ⟨rfl, hvalue⟩ := hm
      simp only [outlineMembers, pairsFrom, bind_eq_ok, within_eq_ok] at hv ⊢
      obtain ⟨a, ha, hrest⟩ := hv
      exact ⟨a, hvalue ha, ih (n + 1) hrest⟩

theorem dictionary (h : decode.Steady) : (dictionary decode).Steady := by
  apply of_steps
  · intro ms ms' hdistinct hperm pairs hv
    simp only [outline, Decode.dictionary, bind_eq_ok] at hv ⊢
    obtain ⟨read, hread, hrest⟩ := hv
    exact ⟨read, pairsFrom_of_perm hdistinct hperm 0 hread, hrest⟩
  · intro ms ms' hmembers pairs hv
    have hfollows : Memberwise decode.Follows ms ms' :=
      hmembers.imp fun _ _ hm => ⟨hm.1, h hm.2⟩
    simp only [outline, Decode.dictionary, bind_eq_ok] at hv ⊢
    obtain ⟨read, hread, hrest⟩ := hv
    exact ⟨read, pairsFrom_of_forall₂ hfollows 0 hread, hrest⟩
  · intro items items' _ pairs hv
    cases hv

theorem anyItems_eq (around n : Nat) (items : List Outline) :
    anyItems around n items = itemsFrom (anything around) n items := by
  induction items generalizing n with
  | nil => rw [anyItems, itemsFrom]
  | cons item items ih =>
      rw [anyItems, itemsFrom, ih]
      rfl

theorem anyMembers_eq (around n : Nat) (members : List (Except Breach String × Outline))
    (done : List (String × Json)) :
    anyMembers around n members done = pairsFrom (anything around) n members done := by
  induction members generalizing n done with
  | nil => rw [anyMembers, pairsFrom]
  | cons member members ih =>
      obtain ⟨_ | key, value⟩ := member
      · rw [anyMembers, pairsFrom]
      · rw [anyMembers, pairsFrom]
        simp only [ih]

theorem not_deep_of_ok {around : Nat} {content : Except Trouble α} {a : α}
    (h : (if deepest ≤ around then (fail .tooDeep >>= fun _ : Unit => content) else content) =
      .ok a) :
    ¬deepest ≤ around ∧ content = .ok a := by
  split at h
  · cases h
  · exact ⟨‹_›, h⟩

theorem follows_anything_obj {around : Nat} {ms ms' : List (String × Json)}
    (h : ∀ ⦃decoded⦄, pairsFrom (anything (around + 1)) 0 (outlineMembers ms) [] = .ok decoded →
      pairsFrom (anything (around + 1)) 0 (outlineMembers ms') [] = .ok decoded) :
    (anything around).Follows (.obj ms) (.obj ms') := by
  intro value hv
  simp only [outline, Decode.anything, anyMembers_eq] at hv ⊢
  obtain ⟨hdepth, hv⟩ := not_deep_of_ok hv
  rw [if_neg hdepth]
  simp only [bind_eq_ok] at hv ⊢
  obtain ⟨decoded, hdecoded, hrest⟩ := hv
  exact ⟨decoded, h hdecoded, hrest⟩

theorem anything (around : Nat) : (anything around).Steady := by
  intro v w hvw value hv
  induction hvw generalizing around value with
  | refl => exact hv
  | trans _ _ first second => exact second around (first around hv)
  | members distinct perm =>
      exact follows_anything_obj (fun _ => pairsFrom_of_perm distinct perm 0) hv
  | @member v w front key back _ ih =>
      have hvalue : (Decode.anything (around + 1)).Follows v w := ih (around + 1)
      have hmembers := memberwise_of_one hvalue (.refl _) front key back
      exact follows_anything_obj (fun _ => pairsFrom_of_forall₂ hmembers 0) hv
  | @item v w front back _ ih =>
      have hvalue : (Decode.anything (around + 1)).Follows v w := ih (around + 1)
      have hitems := forall₂_of_one hvalue (.refl _) front back
      simp only [outline, Decode.anything, anyItems_eq] at hv ⊢
      obtain ⟨hdepth, hv⟩ := not_deep_of_ok hv
      rw [if_neg hdepth]
      simp only [bind_eq_ok] at hv ⊢
      obtain ⟨decoded, hdecoded, hrest⟩ := hv
      exact ⟨decoded, itemsFrom_of_forall₂ hitems 0 hdecoded, hrest⟩

end Decoder.Steady

/-- What fields check and build does not depend on the order of members. -/
structure Fields.Steady {α : Type} (fields : Fields α) : Prop where
  check : ∀ slot ∈ fields.slots, Decoder.Steady slot.check
  build : ∀ ⦃find find' : String → Option (Nat × Outline)⦄,
    (∀ key, FoundAlike (find key) (find' key)) → ∀ ⦃a : α⦄,
      fields.build find = .ok a → fields.build find' = .ok a

namespace Fields.Steady

variable {α β : Type} {key : String}

theorem map {fields : Fields α} (f : α → β) (h : fields.Steady) : (f <$> fields).Steady := by
  refine ⟨h.check, ?_⟩
  intro find find' hfind b hb
  obtain ⟨a, ha, rfl⟩ := map_eq_ok.mp hb
  exact map_eq_ok.mpr ⟨a, h.build hfind ha, rfl⟩

theorem seq {f : Fields (α → β)} {fields : Fields α} (hf : f.Steady) (h : fields.Steady) :
    (f <*> fields).Steady := by
  constructor
  · intro slot hslot
    rcases List.mem_append.mp hslot with hslot | hslot
    · exact hf.check slot hslot
    · exact h.check slot hslot
  · intro find find' hfind b hb
    change (f.build find >>= fun g => fields.build find >>= fun a => .ok (g a)) = .ok b at hb
    change (f.build find' >>= fun g => fields.build find' >>= fun a => .ok (g a)) = .ok b
    simp only [bind_eq_ok] at hb ⊢
    obtain ⟨g, hg, a, ha, hb⟩ := hb
    exact ⟨g, hf.build hfind hg, a, h.build hfind ha, hb⟩

theorem checking {decode : Decoder α} (h : decode.Steady) : Decoder.Steady (checking decode) := by
  intro v w hvw u hv
  obtain ⟨a, ha, rfl⟩ := map_eq_ok.mp hv
  exact map_eq_ok.mpr ⟨a, h hvw ha, rfl⟩

theorem defaulted {decode : Decoder α} (h : decode.Steady) (absent : α) :
    (Fields.defaulted key decode absent).Steady := by
  constructor
  · simp only [Fields.defaulted, List.mem_singleton, forall_eq]
    exact checking h
  · intro find find' hfind a ha
    have hkey := hfind key
    simp only [Fields.defaulted] at ha ⊢
    generalize find key = found at ha hkey
    generalize find' key = found' at hkey ⊢
    cases hkey with
    | none => exact ha
    | some hvalue => exact Decode.within_eq_ok.mpr (h hvalue (Decode.within_eq_ok.mp ha))

theorem required {decode : Decoder α} (h : decode.Steady) :
    (Fields.required key decode).Steady := by
  constructor
  · simp only [Fields.required, List.mem_singleton, forall_eq]
    exact checking h
  · intro find find' hfind a ha
    have hkey := hfind key
    simp only [Fields.required] at ha ⊢
    generalize find key = found at ha hkey
    generalize find' key = found' at hkey ⊢
    cases hkey with
    | none => cases ha
    | some hvalue => exact Decode.within_eq_ok.mpr (h hvalue (Decode.within_eq_ok.mp ha))

theorem optional {decode : Decoder α} (h : decode.Steady) : (Fields.optional key decode).Steady :=
  defaulted h.optional none

theorem text (key : String) : (Fields.text key).Steady :=
  defaulted .text ""

end Fields.Steady

section Members

open Decode

variable {slots : List Slot} (hslots : ∀ slot ∈ slots, Decoder.Steady slot.check) {repeats : Bool}
  {ms ms' : List (String × Json)}

theorem passOver_outline (value : Json) : passOver (outline value) = .ok () := by
  rw [passOver, stop?_outline]

include hslots

theorem checkMembers_of_forall₂ (h : Memberwise Reordered ms ms') (n : Nat) (seen : List String)
    (hms : checkMembers slots passOver repeats n seen (outlineMembers ms) = .ok ()) :
    checkMembers slots passOver repeats n seen (outlineMembers ms') = .ok () := by
  induction h generalizing n seen with
  | nil => rfl
  | @cons m m' _ _ hm _ ih =>
      obtain ⟨key, v⟩ := m
      obtain ⟨_, w⟩ := m'
      obtain ⟨rfl, hvalue⟩ := hm
      rw [outlineMembers, checkMembers] at hms ⊢
      cases hslot : slots.find? (·.key = key) with
      | none =>
          simp only [hslot, passOver_outline, within] at hms ⊢
          exact ih (n + 1) seen hms
      | some slot =>
          simp only [hslot] at hms ⊢
          split at hms
          · cases hms
          · rename_i hnew
            rw [if_neg hnew]
            simp only [bind_eq_ok, exists_unit_eq_ok, within_eq_ok] at hms ⊢
            exact ⟨hslots slot (List.mem_of_find?_eq_some hslot) hvalue hms.1,
              ih (n + 1) (key :: seen) hms.2⟩

omit hslots in
theorem checkMembers_of_perm {unknown : Outline → Except Trouble Unit}
    (hdistinct : (ms.map Prod.fst).Nodup) (hperm : ms.Perm ms')
    (hms : checkMembers slots unknown repeats 0 [] (outlineMembers ms) = .ok ()) :
    checkMembers slots unknown repeats 0 [] (outlineMembers ms') = .ok () := by
  have hdistinct' := (hperm.map Prod.fst).nodup hdistinct
  have houtlined := hperm.map fun m => (m.1, outline m.2)
  rw [outlineMembers_eq_map, checkMembers_eq_ok 0 (nodup_outlined hdistinct) (by simp)] at hms
  rw [outlineMembers_eq_map, checkMembers_eq_ok 0 (nodup_outlined hdistinct') (by simp)]
  exact fun m hm => hms m (houtlined.mem_iff.mpr hm)

theorem checkItems_of_forall₂ {record : String} {count : Nat} {items items' : List Json}
    (h : List.Forall₂ Reordered items items') (n : Nat)
    (hitems : checkItems record count none n slots (outlineItems items) = .ok ()) :
    checkItems record count none n slots (outlineItems items') = .ok () := by
  induction h generalizing n slots with
  | nil => exact hitems
  | cons hvalue _ ih =>
      cases slots with
      | nil => cases hitems
      | cons slot slots =>
          simp only [outlineItems, checkItems, bind_eq_ok, exists_unit_eq_ok,
            within_eq_ok] at hitems ⊢
          exact ⟨hslots slot List.mem_cons_self hvalue hitems.1,
            ih (fun slot hslot => hslots slot (List.mem_cons_of_mem _ hslot)) (n + 1) hitems.2⟩

end Members

theorem zip_outlineItems (keys : List String) (items : List Json) :
    (keys.map Except.ok).zip (outlineItems items) = outlineMembers (keys.zip items) := by
  rw [outlineItems_eq, outlineMembers_eq, List.zip_map]
  rfl

theorem memberwise_zip (keys : List String) {items items' : List Json}
    (h : List.Forall₂ Reordered items items') :
    Memberwise Reordered (keys.zip items) (keys.zip items') := by
  induction h generalizing keys with
  | nil =>
      rw [List.zip_nil_right]
      exact .nil
  | cons hvalue _ ih =>
      cases keys with
      | nil => exact .nil
      | cons key keys => exact .cons ⟨rfl, hvalue⟩ (ih keys)

section Records

open Decode

variable {α : Type} {fields : Fields α} {ms ms' : List (String × Json)} {a : α}

/-- What a record reads from members. -/
def Fields.fromMembers (fields : Fields α) (repeats : Bool) (ms : List (String × Json)) :
    Except Trouble α := do
  checkMembers fields.slots passOver repeats 0 [] (outlineMembers ms)
  fields.build (lastOf (outlineMembers ms))

theorem Fields.Steady.fromMembers_of_perm (h : fields.Steady) {repeats : Bool}
    (hdistinct : (ms.map Prod.fst).Nodup) (hperm : ms.Perm ms')
    (hms : fields.fromMembers repeats ms = .ok a) : fields.fromMembers repeats ms' = .ok a := by
  simp only [Fields.fromMembers, bind_eq_ok, exists_unit_eq_ok] at hms ⊢
  exact ⟨checkMembers_of_perm hdistinct hperm hms.1,
    h.build (foundAlike_of_perm hdistinct hperm) hms.2⟩

theorem Fields.Steady.fromMembers_of_forall₂ (h : fields.Steady) {repeats : Bool}
    (hmembers : Memberwise Reordered ms ms')
    (hms : fields.fromMembers repeats ms = .ok a) : fields.fromMembers repeats ms' = .ok a := by
  simp only [Fields.fromMembers, bind_eq_ok, exists_unit_eq_ok] at hms ⊢
  exact ⟨checkMembers_of_forall₂ h.check hmembers 0 [] hms.1,
    h.build (foundAlike_of_forall₂ hmembers) hms.2⟩

theorem Decoder.Steady.openRecord (h : fields.Steady) (name : String) :
    (openRecord name fields).Steady := by
  apply of_steps
  · intro ms ms' hdistinct hperm a hv
    exact h.fromMembers_of_perm hdistinct hperm hv
  · intro ms ms' hmembers a hv
    exact h.fromMembers_of_forall₂ hmembers hv
  · intro items items' _ a hv
    cases hv

theorem Decoder.Steady.record (h : fields.Steady) (name : String) :
    (record name fields).Steady := by
  apply of_steps
  · intro ms ms' hdistinct hperm a hv
    exact h.fromMembers_of_perm hdistinct hperm hv
  · intro ms ms' hmembers a hv
    exact h.fromMembers_of_forall₂ hmembers hv
  · intro items items' hitems a hv
    have hmembers := memberwise_zip (fields.slots.map Slot.key) hitems
    have hkeys : fields.slots.map (fun slot => (.ok slot.key : Except Breach String)) =
        (fields.slots.map Slot.key).map Except.ok := by
      rw [List.map_map]
      rfl
    simp only [outline, Decode.record, bind_eq_ok, exists_unit_eq_ok, hkeys,
      zip_outlineItems] at hv ⊢
    exact ⟨checkItems_of_forall₂ h.check hitems 0 hv.1,
      h.build (foundAlike_of_forall₂ hmembers) hv.2⟩

end Records

end ClusterOperator.Json
