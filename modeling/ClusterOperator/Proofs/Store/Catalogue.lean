import ClusterOperator.Proofs.Store.Entries
import ClusterOperator.Proofs.Store.Linearization

/-!
A store by itself is four ordered maps and a mark that there has been an entry.

The maps know nothing of the object that holds all entries, nor of its version. A run of operations,
told once with the maps and once with the repository, gives the same results and the same entries at
every step.
-/

namespace ClusterOperator.Store

open Repository

/-- Values under names, in the order in which the names came. -/
structure OrderedMap (α : Type) where
  names : List String
  value? : String → Option α
  distinct : names.Nodup
  isSome_iff : ∀ name, (value? name).isSome ↔ name ∈ names

namespace OrderedMap

variable {α : Type}

def empty : OrderedMap α where
  names := []
  value? := fun _ => none
  distinct := List.nodup_nil
  isSome_iff := by simp

/-- A value under a name: in its place if the name is there, else behind all others. -/
def put (m : OrderedMap α) (name : String) (a : α) : OrderedMap α where
  names := if name ∈ m.names then m.names else m.names ++ [name]
  value? := fun n => if n = name then some a else m.value? n
  distinct := by
    split
    · exact m.distinct
    · rename_i hnew
      rw [List.nodup_append]
      refine ⟨m.distinct, List.nodup_singleton _, ?_⟩
      rintro n hn other hother rfl
      rw [List.mem_singleton] at hother
      exact hnew (hother ▸ hn)
  isSome_iff := by
    intro n
    by_cases hname : name ∈ m.names
    · by_cases hn : n = name <;> simp [hn, hname, m.isSome_iff]
    · by_cases hn : n = name <;> simp [hn, hname, m.isSome_iff]

@[simp] theorem names_put (m : OrderedMap α) (name : String) (a : α) :
    (m.put name a).names = if name ∈ m.names then m.names else m.names ++ [name] := rfl

@[simp] theorem value?_put (m : OrderedMap α) (name : String) (a : α) (n : String) :
    (m.put name a).value? n = if n = name then some a else m.value? n := rfl

def erase (m : OrderedMap α) (name : String) : OrderedMap α where
  names := m.names.filter (· ≠ name)
  value? := fun n => if n = name then none else m.value? n
  distinct := m.distinct.filter _
  isSome_iff := by
    intro n
    by_cases hn : n = name
    · simp [hn]
    · simp [hn, m.isSome_iff]

@[simp] theorem names_erase (m : OrderedMap α) (name : String) :
    (m.erase name).names = m.names.filter (· ≠ name) := rfl

@[simp] theorem value?_erase (m : OrderedMap α) (name n : String) :
    (m.erase name).value? n = if n = name then none else m.value? n := rfl

def values (m : OrderedMap α) : List α :=
  m.names.filterMap m.value?

end OrderedMap

/-- Four ordered maps, and whether there has been an entry. -/
structure Catalogue where
  created : Bool
  maps : (k : Kind) → OrderedMap k.Entry

namespace Catalogue

def empty : Catalogue :=
  ⟨false, fun _ => .empty⟩

def withMap (c : Catalogue) (k : Kind) (m : OrderedMap k.Entry) : Catalogue :=
  { c with maps := fun j => if h : j = k then h ▸ m else c.maps j }

/-- What an operation gives, and the catalogue that it leaves. -/
def step (c : Catalogue) : (o : Operation) → Except Failure o.Result × Catalogue
  | .change (.create k entry) =>
      if ((c.maps k).value? (k.nameOf entry)).isSome then
        (.error (.duplicated k.title (k.nameOf entry)), c)
      else
        (.ok (k.nameOf entry),
          { c.withMap k ((c.maps k).put (k.nameOf entry) entry) with created := true })
  | .change (.update k name apply) =>
      if !c.created then (.error .noConfiguration, c)
      else
        match (c.maps k).value? name with
        | none => (.error (.noEntry k.title name), c)
        | some entry =>
            match apply entry with
            | .error failure => (.error failure, c)
            | .ok changed => (.ok changed, c.withMap k ((c.maps k).put name changed))
  | .change (.delete k name) => (.ok (), c.withMap k ((c.maps k).erase name))
  | .get k name =>
      match (c.maps k).value? name with
      | none => (.error (.noEntry k.title name), c)
      | some entry => (.ok entry, c)
  | .list k => (if c.created then .ok (c.maps k).values else .error .noConfiguration, c)

/-- The entries of the catalogue, once there has been one. -/
def collections? (c : Catalogue) : Option Collections :=
  if c.created then
    some ⟨(c.maps .storage).values, (c.maps .backup).values, (c.maps .restore).values,
      (c.maps .schedule).values⟩
  else none

/-- What operations give and leave, one after another. -/
def history : List Operation → Catalogue → List (Answered × Option Collections)
  | [], _ => []
  | o :: rest, c =>
      let next := c.step o
      (⟨o, next.1⟩, next.2.collections?) :: history rest next.2

end Catalogue

section Entries

variable {k : Kind} {name : String} {entry : k.Entry} {entries : List k.Entry}

theorem find?_cons (n : String) (e : k.Entry) (rest : List k.Entry) :
    find? k n (e :: rest) = if k.nameOf e = n then some e else find? k n rest := by
  rw [find?, List.find?_cons]
  by_cases h : k.nameOf e = n <;> simp [h, find?]

theorem find?_of_mem (hdistinct : (entries.map k.nameOf).Nodup) (h : entry ∈ entries) :
    find? k (k.nameOf entry) entries = some entry := by
  induction entries with
  | nil => cases h
  | cons first rest ih =>
      rw [List.map_cons, List.nodup_cons] at hdistinct
      rw [find?_cons]
      rcases List.mem_cons.mp h with rfl | h
      · rw [if_pos rfl]
      · have hne : k.nameOf first ≠ k.nameOf entry := by
          intro heq
          exact hdistinct.1 (heq ▸ List.mem_map_of_mem h)
        rw [if_neg hne, ih hdistinct.2 h]

theorem find?_append_singleton (n : String) (hnew : k.nameOf entry ∉ entries.map k.nameOf) :
    find? k n (entries ++ [entry]) =
      if n = k.nameOf entry then some entry else find? k n entries := by
  have hnone : find? k (k.nameOf entry) entries = none := by
    rw [← Option.not_isSome_iff_eq_none, find?_isSome]
    exact hnew
  by_cases hn : n = k.nameOf entry
  · subst hn
    rw [if_pos rfl, find?, List.find?_append, ← find?, hnone]
    simp
  · have hne : k.nameOf entry ≠ n := fun h => hn h.symm
    rw [if_neg hn, find?, List.find?_append, ← find?]
    simp [hne]

theorem find?_replaceFirst (n : String) (hentry : k.nameOf entry = name)
    (hmem : name ∈ entries.map k.nameOf) :
    find? k n (replaceFirst k name entry entries) =
      if n = name then some entry else find? k n entries := by
  induction entries with
  | nil => cases hmem
  | cons first rest ih =>
      rw [replaceFirst]
      by_cases hfirst : k.nameOf first = name
      · rw [if_pos hfirst, find?_cons, find?_cons, hentry, hfirst]
        by_cases hn : n = name
        · simp [hn]
        · have hne : name ≠ n := fun h => hn h.symm
          simp [hn, hne]
      · have hrest : name ∈ rest.map k.nameOf := by
          rw [List.map_cons, List.mem_cons] at hmem
          exact hmem.resolve_left fun h => hfirst h.symm
        rw [if_neg hfirst, find?_cons, find?_cons, ih hrest]
        by_cases hn : n = name
        · have hne : k.nameOf first ≠ n := fun h => hfirst (h.trans hn)
          rw [if_neg hne, if_pos hn, if_pos hn]
        · rw [if_neg hn, if_neg hn]

theorem find?_without (n : String) :
    find? k n (without k name entries) = if n = name then none else find? k n entries := by
  rw [find?, without, List.find?_filter, find?]
  by_cases hn : n = name
  · subst hn
    simp
  · rw [if_neg hn]
    congr 1
    funext e
    by_cases he : k.nameOf e = n <;> simp [he, hn]

theorem map_nameOf_without :
    (without k name entries).map k.nameOf = (entries.map k.nameOf).filter (· ≠ name) := by
  rw [without, List.filter_map]
  rfl

end Entries

/-- The entries are what the map holds, in its order. -/
structure Represents {k : Kind} (m : OrderedMap k.Entry) (entries : List k.Entry) : Prop where
  names : entries.map k.nameOf = m.names
  found : ∀ name, find? k name entries = m.value? name

namespace Represents

variable {k : Kind} {m : OrderedMap k.Entry} {entries : List k.Entry} {name : String}
  {entry : k.Entry}

theorem mem_iff (h : Represents m entries) : name ∈ entries.map k.nameOf ↔ (m.value? name).isSome := by
  rw [← h.found, find?_isSome]

theorem values_eq (h : Represents m entries) : m.values = entries := by
  have hdistinct : (entries.map k.nameOf).Nodup := h.names ▸ m.distinct
  rw [OrderedMap.values, ← h.names, List.filterMap_map]
  calc entries.filterMap (m.value? ∘ k.nameOf)
      = entries.filterMap some := by
        apply List.filterMap_congr
        intro e he
        rw [Function.comp_apply, ← h.found, find?_of_mem hdistinct he]
    _ = entries := List.filterMap_some

theorem append (h : Represents m entries) (hnew : ¬(m.value? (k.nameOf entry)).isSome) :
    Represents (m.put (k.nameOf entry) entry) (entries ++ [entry]) := by
  have hmem := mt h.mem_iff.mp hnew
  constructor
  · rw [OrderedMap.names_put, if_neg (h.names ▸ hmem), List.map_append, h.names]
    rfl
  · intro n
    rw [OrderedMap.value?_put, find?_append_singleton n hmem, h.found]

theorem replaceFirst (h : Represents m entries) (hentry : k.nameOf entry = name)
    (hmem : (m.value? name).isSome) :
    Represents (m.put name entry) (replaceFirst k name entry entries) := by
  rw [← h.mem_iff] at hmem
  constructor
  · rw [OrderedMap.names_put, if_pos (h.names ▸ hmem), map_nameOf_replaceFirst hentry, h.names]
  · intro n
    rw [OrderedMap.value?_put, find?_replaceFirst n hentry hmem, h.found]

theorem without (h : Represents m entries) (name : String) :
    Represents (m.erase name) (without k name entries) := by
  constructor
  · rw [OrderedMap.names_erase, map_nameOf_without, h.names]
  · intro n
    rw [OrderedMap.value?_erase, find?_without, h.found]

end Represents

/-- The collections are what the catalogue holds, kind by kind. -/
structure Catalogue.Models (c : Catalogue) (found : Option Collections) : Prop where
  created : c.created = found.isSome
  maps : ∀ k, Represents (c.maps k) ((found.getD .empty).entries k)

namespace Catalogue.Models

variable {c : Catalogue} {found : Option Collections}

theorem empty : Catalogue.empty.Models none where
  created := rfl
  maps := fun k => by cases k <;> exact ⟨rfl, fun _ => rfl⟩

theorem collections?_eq (h : c.Models found) : c.collections? = found := by
  rw [Catalogue.collections?, h.created]
  cases found with
  | none => rfl
  | some collections =>
      have hstorages := (h.maps .storage).values_eq
      have hbackups := (h.maps .backup).values_eq
      have hrestores := (h.maps .restore).values_eq
      have hschedules := (h.maps .schedule).values_eq
      rw [hstorages, hbackups, hrestores, hschedules]
      rfl

theorem withMap (h : c.Models found) {k : Kind} {m : OrderedMap k.Entry} {es : List k.Entry}
    (hm : Represents m es) (j : Kind) :
    Represents ((c.withMap k m).maps j) (((found.getD .empty).withEntries k es).entries j) := by
  by_cases hj : j = k
  · subst hj
    rw [Collections.entries_withEntries]
    simpa [Catalogue.withMap] using hm
  · rw [Collections.entries_withEntries_of_ne _ hj]
    simpa [Catalogue.withMap, hj] using h.maps j

theorem erase (h : c.Models found) {k : Kind} {name : String}
    (hsame : without k name ((found.getD .empty).entries k) = (found.getD .empty).entries k) :
    (c.withMap k ((c.maps k).erase name)).Models found where
  created := h.created
  maps := by
    intro j
    have hj := h.withMap ((h.maps k).without name) j
    rw [hsame, Collections.withEntries_entries] at hj
    exact hj

end Catalogue.Models

/-- Whether what an operation makes of an entry has the same name. -/
def Operation.KeepsName : Operation → Prop
  | .change (.update k _ apply) => ∀ e changed, apply e = .ok changed → k.nameOf changed = k.nameOf e
  | _ => True

theorem Catalogue.Models.change {c : Catalogue} {found : Option Collections} (h : c.Models found)
    {o : Change} (ho : (Operation.change o).KeepsName) :
    (c.step (.change o)).1 = ((Operation.change o).perform found).1 ∧
      (c.step (.change o)).2.Models ((Operation.change o).perform found).2 := by
  have hdoes := o.does_effect found
  change _ = ((o.effect found).apply found).1 ∧ Models _ ((o.effect found).apply found).2
  generalize o.effect found = effect at hdoes
  cases hdoes with
  | @duplicated k entry _ hname =>
      rw [(h.maps k).found] at hname
      simp only [step, if_pos hname]
      exact ⟨rfl, h⟩
  | @created k entry _ hname =>
      rw [(h.maps k).found] at hname
      simp only [step, if_neg hname]
      exact ⟨rfl, rfl, h.withMap ((h.maps k).append hname)⟩
  | unconfigured =>
      have hcreated : c.created = false := h.created
      simp only [step, hcreated]
      exact ⟨rfl, h⟩
  | @missing k name apply found hentry =>
      have hcreated : c.created = true := h.created
      have hvalue : (c.maps k).value? name = none := (h.maps k).found name ▸ hentry
      simp only [step, hcreated, hvalue]
      exact ⟨rfl, h⟩
  | @failed k name apply found entry failure hentry happly =>
      have hcreated : c.created = true := h.created
      have hvalue : (c.maps k).value? name = some entry := (h.maps k).found name ▸ hentry
      simp only [step, hcreated, hvalue, happly]
      exact ⟨rfl, h⟩
  | @changed k name apply found entry changed hentry happly =>
      have hcreated : c.created = true := h.created
      have hvalue : (c.maps k).value? name = some entry := (h.maps k).found name ▸ hentry
      have hname := (ho entry changed happly).trans (find?_eq_some hentry).2
      simp only [step, hcreated, hvalue, happly]
      exact ⟨rfl, hcreated, h.withMap ((h.maps k).replaceFirst hname (by rw [hvalue]; rfl))⟩
  | @unneeded k name => exact ⟨rfl, h.erase (by cases k <;> rfl)⟩
  | @spared k name found hlength => exact ⟨rfl, h.erase (List.filter_sublist.eq_of_length hlength)⟩
  | @removed k name found hlength =>
      have hcreated : c.created = true := h.created
      exact ⟨rfl, hcreated, h.withMap ((h.maps k).without name)⟩

theorem Catalogue.Models.step {c : Catalogue} {found : Option Collections} (h : c.Models found)
    {o : Operation} (ho : o.KeepsName) :
    (c.step o).1 = (o.perform found).1 ∧ (c.step o).2.Models (o.perform found).2 := by
  cases o with
  | change o => exact h.change ho
  | get k name =>
      have hvalue : (c.maps k).value? name =
          found.bind fun collections => find? k name (collections.entries k) := by
        rw [← (h.maps k).found]
        cases found with
        | none => cases k <;> rfl
        | some collections => rfl
      simp only [Catalogue.step, Operation.perform, Operation.effect, hvalue]
      cases found.bind fun collections => find? k name (collections.entries k) with
      | none => exact ⟨rfl, h⟩
      | some entry => exact ⟨rfl, h⟩
  | list k =>
      cases found with
      | none =>
          have hcreated : c.created = false := h.created
          simp only [Catalogue.step, hcreated]
          exact ⟨rfl, h⟩
      | some collections =>
          have hcreated : c.created = true := h.created
          simp only [Catalogue.step, hcreated, (h.maps k).values_eq]
          exact ⟨rfl, h⟩

/-- What operations give and leave in a repository in memory, one after another. -/
def history (s : StoreSettings) : List Operation → Memory → List (Answered × Option Collections)
  | [], _ => []
  | o :: rest, m =>
      let outcome := (o.job s).run Memory.answer m
      (⟨o, outcome.result⟩, outcome.state.collections?) :: history s rest outcome.state

theorem Catalogue.Models.history_eq {c : Catalogue} {m : Memory} (h : c.Models m.collections?)
    (s : StoreSettings) {os : List Operation} (hos : ∀ o ∈ os, o.KeepsName) :
    Store.history s os m = c.history os := by
  induction os generalizing c m with
  | nil => rfl
  | cons o rest ih =>
      obtain ⟨hresult, hmodels⟩ := h.step (hos o List.mem_cons_self)
      obtain ⟨hrun, hstate⟩ := run_job_perform s o m
      rw [← hstate] at hmodels
      have hrest := ih hmodels fun o ho => hos o (List.mem_cons_of_mem _ ho)
      simp only [Store.history, Catalogue.history, hrest, hrun, hresult, hmodels.collections?_eq]

/-- An operation that fails, or only reads, or deletes what is not there. -/
inductive Operation.Idles (s : StoreSettings) (m : Memory) : Operation → Prop
  | failed {o : Operation} {failure : Failure}
      (h : ((o.job s).run Memory.answer m).result = .error failure) : Idles s m o
  | get (k : Kind) (name : String) : Idles s m (.get k name)
  | list (k : Kind) : Idles s m (.list k)
  | delete {k : Kind} {name : String}
      (h : ∀ collections, m.collections? = some collections →
        name ∉ (collections.entries k).map k.nameOf) : Idles s m (.change (.delete k name))

theorem Operation.Idles.exists_answer {s : StoreSettings} {m : Memory} {o : Operation}
    (h : o.Idles s m) : ∃ result, o.effect m.collections? = .answer result := by
  cases h with
  | failed hfailed =>
      rw [run_job] at hfailed
      cases heffect : o.effect m.collections? with
      | answer result => exact ⟨result, rfl⟩
      | write collections value =>
          rw [heffect] at hfailed
          cases hfailed
  | get k name =>
      simp only [Operation.effect]
      split <;> exact ⟨_, rfl⟩
  | list k => cases m.collections? <;> exact ⟨_, rfl⟩
  | @delete k name hmissing =>
      have hdoes := (Change.delete k name).does_effect m.collections?
      change ∃ result, (Change.delete k name).effect m.collections? = .answer result
      cases hfound : m.collections? with
      | none => exact ⟨_, rfl⟩
      | some collections =>
          have hsame : without k name (collections.entries k) = collections.entries k := by
            rw [without, List.filter_eq_self]
            intro e he
            apply decide_eq_true
            rintro rfl
            exact hmissing collections hfound (List.mem_map_of_mem he)
          exact ⟨_, by rw [Change.effect, if_pos (by rw [hsame])]⟩

/-- An idle operation leaves the object as it is, its version included. -/
theorem Operation.Idles.state_eq {s : StoreSettings} {m : Memory} {o : Operation}
    (h : o.Idles s m) : ((o.job s).run Memory.answer m).state = m := by
  obtain ⟨result, heffect⟩ := h.exists_answer
  rw [run_job, heffect]

/-- Operations one after another give and leave the same as on four ordered maps. Those that fail, or
only read, or delete what is not there change nothing at all. -/
theorem history_eq_catalogue (s : StoreSettings) (os : List Operation)
    (hos : ∀ o ∈ os, o.KeepsName) :
    history s os Memory.empty = Catalogue.empty.history os ∧
      ∀ o m, Operation.Idles s m o → ((o.job s).run Memory.answer m).state = m :=
  have hempty : Catalogue.empty.Models Memory.empty.collections? := .empty
  ⟨hempty.history_eq s hos, fun _ _ h => h.state_eq⟩

def restoreOf (name backup : String) : Restore :=
  ⟨name, backup, none, none⟩

/-- Two restores, of which the first is changed in its place and then removed. -/
def restoreOperations : List Operation :=
  [.list .restore, .change (.create .restore (restoreOf "a" "x")),
    .change (.create .restore (restoreOf "b" "x")), .change (.create .restore (restoreOf "a" "y")),
    .change (.update .restore "a" fun e => .ok { (e : Restore) with backupName := "z" }),
    .change (.update .restore "b" fun _ => .error .noConfiguration),
    .change (.delete .restore "a"), .change (.delete .restore "a"), .get .restore "b"]

theorem history_eq_catalogue_restores :
    Store.history .default restoreOperations Memory.empty =
        Catalogue.empty.history restoreOperations ∧
      (Store.history .default restoreOperations Memory.empty).map
          (fun step => step.2.map Collections.restores) =
        [none, some [restoreOf "a" "x"], some [restoreOf "a" "x", restoreOf "b" "x"],
          some [restoreOf "a" "x", restoreOf "b" "x"], some [restoreOf "a" "z", restoreOf "b" "x"],
          some [restoreOf "a" "z", restoreOf "b" "x"], some [restoreOf "b" "x"],
          some [restoreOf "b" "x"], some [restoreOf "b" "x"]] := by
  have hkeeps : ∀ o ∈ restoreOperations, o.KeepsName := by
    intro o ho
    simp only [restoreOperations, List.mem_cons, List.not_mem_nil, or_false] at ho
    rcases ho with rfl | rfl | rfl | rfl | rfl | rfl | rfl | rfl | rfl
    case inr.inr.inr.inr.inl =>
      rintro e changed ⟨⟩
      rfl
    case inr.inr.inr.inr.inr.inl => exact nofun
    all_goals trivial
  exact ⟨(history_eq_catalogue .default restoreOperations hkeeps).1, by decide +kernel⟩

end ClusterOperator.Store
