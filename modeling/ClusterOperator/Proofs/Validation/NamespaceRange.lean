import Mathlib.Data.List.Perm.Basic
import ClusterOperator.Proofs.Validation.Namespaces

namespace ClusterOperator

/-- The problem of the name at a place of a list. -/
def namespaceProblem? (field : String) (names : List String) : String × Nat → Option Violation
  | (name, i) =>
      if !isDnsName name then some (.malformed field name)
      else if name ∈ names.take i then some (.repeatedNamespace field name)
      else none

def namespaceProblems (field : String) (names : List String) : List Violation :=
  names.zipIdx.filterMap (namespaceProblem? field names)

def rangeProblems (included excluded : List String) : List Violation :=
  namespaceProblems "IncludedNamespaces" included ++
    (namespaceProblems "ExcludedNamespaces" excluded ++
      if ∃ name ∈ excluded, name ∈ included then [.overlap] else [])

/-- The verdict that reports the first of some problems. -/
def reportFirst : List Violation → Verdict
  | [] => .ok ()
  | v :: _ => .error v

/-- What two lists of namespaces have to be. -/
structure RangeInOrder (included excluded : List String) : Prop where
  dnsIncluded : ∀ name ∈ included, isDnsName name
  dnsExcluded : ∀ name ∈ excluded, isDnsName name
  nodupIncluded : included.Nodup
  nodupExcluded : excluded.Nodup
  disjoint : included.Disjoint excluded

theorem reportFirst_append (front back : List Violation) :
    reportFirst (front ++ back) = reportFirst front >>= fun _ => reportFirst back := by
  cases front <;> rfl

/-- The names before those that are left have been seen, whatever the order in which they are kept. -/
theorem checkNamespacesAfter_eq (field : String) {before seen : List String} (names : List String)
    (hseen : ∀ name, name ∈ seen ↔ name ∈ before) :
    checkNamespacesAfter field seen names = reportFirst
      ((names.zipIdx before.length).filterMap (namespaceProblem? field (before ++ names))) := by
  induction names generalizing before seen with
  | nil => rfl
  | cons name rest ih =>
      have hproblem : namespaceProblem? field (before ++ name :: rest) (name, before.length) =
          if !isDnsName name then some (.malformed field name)
          else if name ∈ seen then some (.repeatedNamespace field name) else none := by
        simp only [namespaceProblem?, List.take_left, hseen]
      rw [checkNamespacesAfter, List.zipIdx_cons, List.filterMap_cons, hproblem]
      by_cases hdns : isDnsName name
      · by_cases hmem : name ∈ seen
        · simp [hdns, hmem, reportFirst]
        · have hnext : ∀ n, n ∈ name :: seen ↔ n ∈ before ++ [name] := by
            intro n
            rw [List.mem_cons, List.mem_append, List.mem_singleton, hseen, or_comm]
          simp only [hdns, hmem, Bool.not_true, Bool.false_eq_true, if_false]
          rw [ih hnext, List.length_append, List.length_singleton, List.append_assoc,
            List.singleton_append]
      · simp [hdns, reportFirst]

theorem checkNamespaces_eq (field : String) (names : List String) :
    checkNamespaces field names = reportFirst (namespaceProblems field names) := by
  have hseen : ∀ name : String, name ∈ [] ↔ name ∈ [] := fun _ => Iff.rfl
  exact checkNamespacesAfter_eq field names hseen

theorem checkNamespaceRange_eq (included excluded : Option (List String)) :
    checkNamespaceRange included excluded =
      reportFirst (rangeProblems (included.getD []) (excluded.getD [])) := by
  have hoverlap : (excluded.getD []).any (· ∈ included.getD []) =
      decide (∃ name ∈ excluded.getD [], name ∈ included.getD []) := by
    rw [Bool.eq_iff_iff]
    simp
  simp only [rangeProblems, reportFirst_append, ← checkNamespaces_eq, checkNamespaceRange, hoverlap,
    decide_eq_true_eq]
  split <;> rfl

namespace RangeInOrder

variable {included excluded included' excluded' : List String}

theorem of_perm (h : RangeInOrder included excluded) (hincluded : included.Perm included')
    (hexcluded : excluded.Perm excluded') : RangeInOrder included' excluded' where
  dnsIncluded := fun name hmem => h.dnsIncluded name (hincluded.mem_iff.mpr hmem)
  dnsExcluded := fun name hmem => h.dnsExcluded name (hexcluded.mem_iff.mpr hmem)
  nodupIncluded := hincluded.nodup h.nodupIncluded
  nodupExcluded := hexcluded.nodup h.nodupExcluded
  disjoint := fun _ hmem hmem' =>
    h.disjoint (hincluded.mem_iff.mpr hmem) (hexcluded.mem_iff.mpr hmem')

theorem swap (h : RangeInOrder included excluded) : RangeInOrder excluded included where
  dnsIncluded := h.dnsExcluded
  dnsExcluded := h.dnsIncluded
  nodupIncluded := h.nodupExcluded
  nodupExcluded := h.nodupIncluded
  disjoint := fun _ hmem hmem' => h.disjoint hmem' hmem

end RangeInOrder

theorem checkNamespaceRange_eq_ok_iff {included excluded : Option (List String)} :
    checkNamespaceRange included excluded = .ok () ↔
      RangeInOrder (included.getD []) (excluded.getD []) := by
  rw [checkNamespaceRange_eq_ok]
  constructor
  · rintro ⟨⟨hdns, hnodup⟩, ⟨hdns', hnodup'⟩, hdisjoint⟩
    exact ⟨hdns, hdns', hnodup, hnodup', fun n hn hn' => hdisjoint n hn' hn⟩
  · rintro ⟨hdns, hdns', hnodup, hnodup', hdisjoint⟩
    exact ⟨⟨hdns, hnodup⟩, ⟨hdns', hnodup'⟩, fun n hn' hn => hdisjoint hn hn'⟩

/-- Two lists of namespaces are accepted if and only if they are in order, which depends neither on the
order of the names nor on which list is which; a missing list counts as an empty one. Otherwise the first
of all problems is reported. -/
theorem checkNamespaceRange_exact (included excluded : Option (List String)) :
    (checkNamespaceRange included excluded = .ok () ↔
        RangeInOrder (included.getD []) (excluded.getD [])) ∧
      checkNamespaceRange included excluded =
        checkNamespaceRange (some (included.getD [])) (some (excluded.getD [])) ∧
      (∀ included' excluded' : Option (List String),
        (included.getD []).Perm (included'.getD []) → (excluded.getD []).Perm (excluded'.getD []) →
          (checkNamespaceRange included excluded = .ok () ↔
            checkNamespaceRange included' excluded' = .ok ())) ∧
      (checkNamespaceRange included excluded = .ok () ↔
        checkNamespaceRange excluded included = .ok ()) ∧
      ∀ v, checkNamespaceRange included excluded = .error v ↔
        (rangeProblems (included.getD []) (excluded.getD [])).head? = some v := by
  refine ⟨checkNamespaceRange_eq_ok_iff, rfl, ?_, ?_, ?_⟩
  · intro included' excluded' hincluded hexcluded
    rw [checkNamespaceRange_eq_ok_iff, checkNamespaceRange_eq_ok_iff]
    exact ⟨fun h => h.of_perm hincluded hexcluded,
      fun h => h.of_perm hincluded.symm hexcluded.symm⟩
  · rw [checkNamespaceRange_eq_ok_iff, checkNamespaceRange_eq_ok_iff]
    exact ⟨RangeInOrder.swap, RangeInOrder.swap⟩
  · intro v
    rw [checkNamespaceRange_eq]
    cases rangeProblems (included.getD []) (excluded.getD []) with
    | nil => simp [reportFirst]
    | cons first rest => simp [reportFirst]

theorem checkNamespaceRange_exact_cases :
    ["b", "a"].Perm ["a", "b"] ∧ checkNamespaceRange (some ["b", "a"]) none = .ok () ∧
      checkNamespaceRange (some ["a", "b"]) none = .ok () ∧
      checkNamespaceRange (some ["a"]) (some ["x", "x", "Kube"]) =
        .error (.repeatedNamespace "ExcludedNamespaces" "x") := by
  have hperm : ["b", "a"].Perm ["a", "b"] := .swap "a" "b" []
  have hrange : checkNamespaceRange (some ["b", "a"]) none = .ok () := by decide +kernel
  obtain ⟨-, -, hpermuted, -, -⟩ := checkNamespaceRange_exact (some ["b", "a"]) none
  obtain ⟨-, -, -, -, hreported⟩ := checkNamespaceRange_exact (some ["a"]) (some ["x", "x", "Kube"])
  exact ⟨hperm, hrange, (hpermuted (some ["a", "b"]) none hperm .nil).mp hrange,
    (hreported _).mpr (by decide +kernel)⟩

end ClusterOperator
