import Mathlib.Data.List.Nodup
import ClusterOperator.Store.Operations

namespace ClusterOperator.Store

variable {k : Kind} {name : String} {entries : List k.Entry}

theorem find?_eq_some {e : k.Entry} (h : find? k name entries = some e) :
    e ∈ entries ∧ k.nameOf e = name := by
  rw [find?] at h
  have hname := List.find?_some h
  exact ⟨List.mem_of_find?_eq_some h, of_decide_eq_true hname⟩

theorem find?_isSome : (find? k name entries).isSome ↔ name ∈ entries.map k.nameOf := by
  rw [find?, List.find?_isSome]
  constructor
  · rintro ⟨e, he, hname⟩
    rw [← of_decide_eq_true hname]
    exact List.mem_map_of_mem he
  · intro h
    obtain ⟨e, he, hname⟩ := List.mem_map.mp h
    exact ⟨e, he, decide_eq_true hname⟩

theorem mem_replaceFirst {entry e : k.Entry} (h : e ∈ replaceFirst k name entry entries) :
    e = entry ∨ e ∈ entries := by
  induction entries with
  | nil => cases h
  | cons first rest ih =>
      rw [replaceFirst] at h
      split at h
      · rcases List.mem_cons.mp h with rfl | h
        · exact .inl rfl
        · exact .inr (List.mem_cons_of_mem first h)
      · rcases List.mem_cons.mp h with rfl | h
        · exact .inr List.mem_cons_self
        · exact (ih h).imp id (List.mem_cons_of_mem first)

theorem exists_place {e : k.Entry} (h : find? k name entries = some e) :
    ∃ front back, entries = front ++ e :: back ∧
      ∀ entry, replaceFirst k name entry entries = front ++ entry :: back := by
  induction entries with
  | nil => cases h
  | cons first rest ih =>
      by_cases hfirst : k.nameOf first = name
      · rw [find?, List.find?_cons_of_pos (by simpa using hfirst)] at h
        cases h
        exact ⟨[], rest, rfl, fun entry => by rw [replaceFirst, if_pos hfirst]; rfl⟩
      · rw [find?, List.find?_cons_of_neg (by simpa using hfirst)] at h
        obtain ⟨front, back, rfl, hreplace⟩ := ih h
        refine ⟨first :: front, back, rfl, fun entry => ?_⟩
        rw [replaceFirst, if_neg hfirst, hreplace]
        rfl

theorem map_nameOf_replaceFirst {entry : k.Entry} (h : k.nameOf entry = name) :
    (replaceFirst k name entry entries).map k.nameOf = entries.map k.nameOf := by
  induction entries with
  | nil => rfl
  | cons first rest ih =>
      rw [replaceFirst]
      split
      · rename_i hfirst
        rw [List.map_cons, List.map_cons, h, hfirst]
      · rw [List.map_cons, List.map_cons, ih]

end ClusterOperator.Store
