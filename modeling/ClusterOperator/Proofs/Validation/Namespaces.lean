import Mathlib.Data.List.Nodup
import ClusterOperator.Proofs.Validation.Verdict
import ClusterOperator.Validation.Namespaces

namespace ClusterOperator

theorem checkNamespacesAfter_eq_ok {field : String} {seen names : List String} :
    checkNamespacesAfter field seen names = .ok () ↔
      (∀ n ∈ names, isDnsName n) ∧ names.Nodup ∧ ∀ n ∈ names, n ∉ seen := by
  induction names generalizing seen with
  | nil => exact ⟨fun _ => ⟨nofun, .nil, nofun⟩, fun _ => rfl⟩
  | cons name rest ih =>
      simp only [checkNamespacesAfter, Bool.not_eq_true', List.forall_mem_cons, List.nodup_cons]
      split
      · rename_i hname
        refine ⟨nofun, ?_⟩
        rintro ⟨⟨hdns, -⟩, -⟩
        rw [hname] at hdns
        cases hdns
      · rename_i hname
        rw [Bool.not_eq_false] at hname
        split
        · rename_i hseen
          refine ⟨nofun, ?_⟩
          rintro ⟨-, -, hfresh, -⟩
          exact absurd hseen hfresh
        · rename_i hseen
          rw [ih]
          constructor
          · rintro ⟨hdns, hnodup, hfresh⟩
            refine ⟨⟨hname, hdns⟩, ⟨?_, hnodup⟩, hseen, ?_⟩
            · intro hmem
              exact hfresh name hmem List.mem_cons_self
            · intro n hn hmem
              exact hfresh n hn (List.mem_cons_of_mem name hmem)
          · rintro ⟨⟨-, hdns⟩, ⟨hname', hnodup⟩, -, hfresh⟩
            refine ⟨hdns, hnodup, fun n hn hmem => ?_⟩
            rcases List.mem_cons.mp hmem with rfl | hmem
            · exact hname' hn
            · exact hfresh n hn hmem

theorem checkNamespaces_eq_ok {field : String} {names : List String} :
    checkNamespaces field names = .ok () ↔ (∀ n ∈ names, isDnsName n) ∧ names.Nodup := by
  rw [checkNamespaces, checkNamespacesAfter_eq_ok]
  exact ⟨fun ⟨hdns, hnodup, _⟩ => ⟨hdns, hnodup⟩, fun ⟨hdns, hnodup⟩ => ⟨hdns, hnodup, nofun⟩⟩

theorem checkNamespaceRange_eq_ok {included excluded : Option (List String)} :
    checkNamespaceRange included excluded = .ok () ↔
      ((∀ n ∈ included.getD [], isDnsName n) ∧ (included.getD []).Nodup) ∧
        ((∀ n ∈ excluded.getD [], isDnsName n) ∧ (excluded.getD []).Nodup) ∧
          ∀ n ∈ excluded.getD [], n ∉ included.getD [] := by
  simp only [checkNamespaceRange, bind_eq_ok, exists_unit_eq_ok, checkNamespaces_eq_ok]
  have hoverlap : (if (excluded.getD []).any (· ∈ included.getD []) then .error .overlap
      else .ok () : Verdict) = .ok () ↔ ∀ n ∈ excluded.getD [], n ∉ included.getD [] := by
    split
    · rename_i hany
      obtain ⟨n, hn, hmem⟩ := List.any_eq_true.mp hany
      constructor
      · intro herror
        cases herror
      · intro h
        exact absurd (of_decide_eq_true hmem) (h n hn)
    · rename_i hany
      refine ⟨fun _ n hn hmem => hany ?_, fun _ => rfl⟩
      exact List.any_eq_true.mpr ⟨n, hn, decide_eq_true hmem⟩
  rw [hoverlap]

theorem collectLocations_ok {kept locations result : List String}
    (h : collectLocations kept locations = .ok result) (hkept : kept.Nodup) :
    result.Nodup ∧ (∀ n, n ∈ result ↔ n ∈ kept ∨ n ∈ locations) ∧
      ∀ n ∈ locations, isDnsName n := by
  induction locations generalizing kept with
  | nil =>
      cases h
      refine ⟨List.nodup_reverse.mpr hkept, fun n => ?_, nofun⟩
      rw [List.mem_reverse]
      exact ⟨.inl, fun h => h.resolve_right nofun⟩
  | cons location rest ih =>
      simp only [collectLocations, Bool.not_eq_true'] at h
      split at h
      · cases h
      · rename_i hdns
        rw [Bool.not_eq_false] at hdns
        split at h
        · rename_i hmem
          obtain ⟨hnodup, hresult, hrest⟩ := ih h hkept
          refine ⟨hnodup, fun n => ?_, List.forall_mem_cons.mpr ⟨hdns, hrest⟩⟩
          rw [hresult n, List.mem_cons]
          constructor
          · rintro (hn | hn)
            · exact .inl hn
            · exact .inr (.inr hn)
          · rintro (hn | rfl | hn)
            · exact .inl hn
            · exact .inl hmem
            · exact .inr hn
        · rename_i hmem
          obtain ⟨hnodup, hresult, hrest⟩ := ih h (List.nodup_cons.mpr ⟨hmem, hkept⟩)
          refine ⟨hnodup, fun n => ?_, List.forall_mem_cons.mpr ⟨hdns, hrest⟩⟩
          rw [hresult n, List.mem_cons, List.mem_cons, or_assoc, or_left_comm]

theorem collectLocations_of_nodup {kept locations : List String}
    (hdns : ∀ n ∈ locations, isDnsName n) (hnodup : locations.Nodup)
    (hfresh : ∀ n ∈ locations, n ∉ kept) :
    collectLocations kept locations = .ok (kept.reverse ++ locations) := by
  induction locations generalizing kept with
  | nil => rw [collectLocations, List.append_nil]
  | cons location rest ih =>
      obtain ⟨hlocation, hrest⟩ := List.forall_mem_cons.mp hdns
      obtain ⟨hother, hnodup⟩ := List.nodup_cons.mp hnodup
      obtain ⟨hnew, hfresh⟩ := List.forall_mem_cons.mp hfresh
      have hfresh' : ∀ n ∈ rest, n ∉ location :: kept := by
        intro n hn hmem
        rcases List.mem_cons.mp hmem with rfl | hmem
        · exact hother hn
        · exact hfresh n hn hmem
      rw [collectLocations, hlocation, Bool.not_true, if_neg nofun, if_neg hnew,
        ih hrest hnodup hfresh', List.reverse_cons, List.append_assoc, List.singleton_append]

theorem distinctLocations_ok {needed : Bool} {locations : Option (List String)}
    {result : List String} (h : distinctLocations needed locations = .ok result) :
    result.Nodup ∧ (∀ n, n ∈ result ↔ n ∈ locations.getD []) ∧
      (∀ n ∈ locations.getD [], isDnsName n) ∧ (needed = true → result ≠ []) := by
  simp only [distinctLocations] at h
  split at h
  · cases h
  · rename_i hneeded
    obtain ⟨hnodup, hresult, hdns⟩ := collectLocations_ok h .nil
    have hmem : ∀ n, n ∈ result ↔ n ∈ locations.getD [] := by
      intro n
      rw [hresult n]
      exact ⟨fun h => h.resolve_left nofun, .inr⟩
    refine ⟨hnodup, hmem, hdns, ?_⟩
    rintro hneed rfl
    refine hneeded ⟨hneed, List.isEmpty_iff.mpr (List.eq_nil_iff_forall_not_mem.mpr ?_)⟩
    intro n hn
    exact absurd ((hmem n).mpr hn) nofun

theorem distinctLocations_again {needed : Bool} {locations : Option (List String)}
    {result : List String} (h : distinctLocations needed locations = .ok result) :
    distinctLocations needed (some result) = .ok result := by
  obtain ⟨hnodup, hmem, hdns, hneeded⟩ := distinctLocations_ok h
  have hcollect : collectLocations [] result = .ok result :=
    collectLocations_of_nodup (fun n hn => hdns n ((hmem n).mp hn)) hnodup nofun
  rw [distinctLocations, if_neg]
  · exact hcollect
  · rintro ⟨hneed, hempty⟩
    exact hneeded hneed (List.isEmpty_iff.mp hempty)

theorem collectLocations_eq (kept : List String) {locations : List String}
    (hdns : ∀ n ∈ locations, isDnsName n) :
    collectLocations kept locations =
      .ok (kept.reverse ++ (locations.filter (· ∉ kept)).eraseDups) := by
  induction locations generalizing kept with
  | nil => rw [collectLocations, List.filter_nil, List.eraseDups_nil, List.append_nil]
  | cons location rest ih =>
      obtain ⟨hlocation, hrest⟩ := List.forall_mem_cons.mp hdns
      rw [collectLocations, hlocation, Bool.not_true, if_neg nofun]
      by_cases hmem : location ∈ kept
      · rw [if_pos hmem, ih _ hrest, List.filter_cons_of_neg (by simpa using hmem)]
      · have hfilter : rest.filter (· ∉ location :: kept) =
            (rest.filter (· ∉ kept)).filter (fun n => !n == location) := by
          rw [List.filter_filter]
          apply List.filter_congr
          intro n _
          by_cases hn : n = location <;> simp [hn]
        rw [if_neg hmem, ih _ hrest, List.filter_cons_of_pos (by simpa using hmem),
          List.eraseDups_cons, hfilter, List.reverse_cons, List.append_assoc,
          List.singleton_append]

theorem distinctLocations_eq (needed : Bool) {locations : Option (List String)}
    (hdns : ∀ n ∈ locations.getD [], isDnsName n) :
    distinctLocations needed locations =
      if needed = true ∧ locations.getD [] = [] then .error .noLocations
      else .ok (locations.getD []).eraseDups := by
  have hcollect := collectLocations_eq [] hdns
  have hall : (locations.getD []).filter (· ∉ ([] : List String)) = locations.getD [] := by
    rw [List.filter_eq_self]
    simp
  rw [List.reverse_nil, List.nil_append, hall] at hcollect
  simp only [distinctLocations, List.isEmpty_iff, hcollect]

end ClusterOperator
