import ClusterOperator.Proofs.Validation.Namespaces

namespace ClusterOperator

/-- The names in a list, each once, in the order of their first occurrences. -/
structure FirstOccurrences (names distinct : List String) : Prop where
  mem_iff : ∀ n, n ∈ distinct ↔ n ∈ names
  ordered : distinct.Pairwise fun a b => names.idxOf a < names.idxOf b

namespace FirstOccurrences

variable {names distinct distinct' : List String} {name : String}

theorem nil : FirstOccurrences [] [] :=
  ⟨fun _ => Iff.rfl, .nil⟩

theorem nodup (h : FirstOccurrences names distinct) : distinct.Nodup := by
  rw [List.nodup_iff_pairwise_ne]
  apply h.ordered.imp
  rintro a b hlt rfl
  exact Nat.lt_irrefl _ hlt

theorem eq_nil_iff (h : FirstOccurrences names distinct) : distinct = [] ↔ names = [] := by
  simp only [List.eq_nil_iff_forall_not_mem, h.mem_iff]

theorem ordered_append (h : FirstOccurrences names distinct) (later : List String) :
    distinct.Pairwise fun a b => (names ++ later).idxOf a < (names ++ later).idxOf b := by
  apply h.ordered.imp_of_mem
  intro a b ha hb hlt
  rwa [List.idxOf_append_of_mem ((h.mem_iff a).mp ha), List.idxOf_append_of_mem ((h.mem_iff b).mp hb)]

theorem append_old (h : FirstOccurrences names distinct) (hname : name ∈ distinct) :
    FirstOccurrences (names ++ [name]) distinct where
  mem_iff := by
    intro n
    rw [List.mem_append, List.mem_singleton, ← h.mem_iff]
    refine ⟨.inl, ?_⟩
    rintro (hn | rfl)
    · exact hn
    · exact hname
  ordered := h.ordered_append [name]

theorem append_new (h : FirstOccurrences names distinct) (hname : name ∉ distinct) :
    FirstOccurrences (names ++ [name]) (distinct ++ [name]) where
  mem_iff := by
    intro n
    rw [List.mem_append, List.mem_append, h.mem_iff]
  ordered := by
    rw [List.pairwise_append]
    refine ⟨h.ordered_append [name], List.pairwise_singleton _ _, ?_⟩
    intro a ha b hb
    rw [List.mem_singleton.mp hb, List.idxOf_append_of_mem ((h.mem_iff a).mp ha),
      List.idxOf_append_of_notMem fun hmem => hname ((h.mem_iff name).mpr hmem)]
    have hlt := List.idxOf_lt_length_of_mem ((h.mem_iff a).mp ha)
    omega

/-- Only one list has each of the names once and in this order. -/
theorem unique (h : FirstOccurrences names distinct) (h' : FirstOccurrences names distinct') :
    distinct = distinct' := by
  have hperm : distinct.Perm distinct' := by
    rw [List.perm_ext_iff_of_nodup h.nodup h'.nodup]
    intro n
    rw [h.mem_iff, h'.mem_iff]
  refine hperm.eq_of_pairwise ?_ h.ordered h'.ordered
  intro a b _ _ hlt hgt
  exact absurd hlt (Nat.lt_asymm hgt)

end FirstOccurrences

theorem FirstOccurrences.collect {before kept locations result : List String}
    (h : FirstOccurrences before kept.reverse)
    (hresult : collectLocations kept locations = .ok result) :
    FirstOccurrences (before ++ locations) result := by
  induction locations generalizing before kept with
  | nil =>
      cases hresult
      rwa [List.append_nil]
  | cons location rest ih =>
      simp only [collectLocations] at hresult
      split at hresult
      · cases hresult
      · rw [← List.singleton_append, ← List.append_assoc]
        split at hresult
        · rename_i hmem
          exact ih (h.append_old (List.mem_reverse.mpr hmem)) hresult
        · rename_i hmem
          refine ih ?_ hresult
          rw [List.reverse_cons]
          exact h.append_new (mt List.mem_reverse.mp hmem)

theorem firstOccurrences_of_distinctLocations {needed : Bool} {locations : Option (List String)}
    {result : List String} (h : distinctLocations needed locations = .ok result) :
    FirstOccurrences (locations.getD []) result := by
  simp only [distinctLocations] at h
  split at h
  · cases h
  · exact FirstOccurrences.nil.collect h

theorem exists_distinctLocations_iff {needed : Bool} {locations : Option (List String)} :
    (∃ result, distinctLocations needed locations = .ok result) ↔
      (∀ n ∈ locations.getD [], isDnsName n) ∧ (needed = true → locations.getD [] ≠ []) := by
  constructor
  · rintro ⟨result, hresult⟩
    obtain ⟨-, -, hdns, hneeded⟩ := distinctLocations_ok hresult
    refine ⟨hdns, fun hneed hempty => hneeded hneed ?_⟩
    rwa [(firstOccurrences_of_distinctLocations hresult).eq_nil_iff]
  · rintro ⟨hdns, hneeded⟩
    rw [distinctLocations_eq needed hdns, if_neg fun h => hneeded h.1 h.2]
    exact ⟨_, rfl⟩

/-- Locations are accepted if and only if all of them are DNS names and there is one if one is needed. Each
of them is left once, in the order in which they first occur; there is no other such list, and it is
left as it is the next time. -/
theorem distinctLocations_exact (needed : Bool) (locations : Option (List String)) :
    ((∃ result, distinctLocations needed locations = .ok result) ↔
        (∀ n ∈ locations.getD [], isDnsName n) ∧ (needed = true → locations.getD [] ≠ [])) ∧
      ∀ result, distinctLocations needed locations = .ok result →
        result.Nodup ∧ (∀ n, n ∈ result ↔ n ∈ locations.getD []) ∧
          (result.Pairwise fun a b =>
            (locations.getD []).idxOf a < (locations.getD []).idxOf b) ∧
          (result = [] → locations.getD [] = []) ∧
          (∀ distinct, FirstOccurrences (locations.getD []) distinct → distinct = result) ∧
          distinctLocations needed (some result) = .ok result := by
  refine ⟨exists_distinctLocations_iff, ?_⟩
  intro result hresult
  have hfirst := firstOccurrences_of_distinctLocations hresult
  exact ⟨hfirst.nodup, hfirst.mem_iff, hfirst.ordered, hfirst.eq_nil_iff.mp,
    fun distinct hdistinct => hdistinct.unique hfirst, distinctLocations_again hresult⟩

theorem distinctLocations_exact_twice :
    distinctLocations true (some ["vsl-b", "vsl-a", "vsl-b"]) = .ok ["vsl-b", "vsl-a"] ∧
      distinctLocations true (some ["vsl-b", "vsl-a"]) = .ok ["vsl-b", "vsl-a"] := by
  have hresult : distinctLocations true (some ["vsl-b", "vsl-a", "vsl-b"]) =
      .ok ["vsl-b", "vsl-a"] := by
    decide +kernel
  obtain ⟨-, hexact⟩ := distinctLocations_exact true (some ["vsl-b", "vsl-a", "vsl-b"])
  obtain ⟨-, -, -, -, -, hagain⟩ := hexact _ hresult
  exact ⟨hresult, hagain⟩

end ClusterOperator
