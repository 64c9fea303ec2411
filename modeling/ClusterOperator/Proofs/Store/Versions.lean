import Mathlib.Data.List.Induction
import Mathlib.Data.List.Nodup
import ClusterOperator.Proofs.Store.Linearization

namespace ClusterOperator.Repository.Memory

open Store (isAcceptedWrite toNat_writes_store)

/-- The object that a write has stored, if it was accepted. -/
def written? : Exchange interface → Option Configuration
  | ⟨.fetch, _⟩ => none
  | ⟨.create _, reply⟩ => reply.toOption
  | ⟨.replace _, reply⟩ => reply.toOption

/-- The objects that the accepted writes have stored, one after another. -/
def written (log : List (Exchange interface)) : List Configuration :=
  log.filterMap written?

def accepts (m : Memory) (c : Call) : Bool :=
  isAcceptedWrite ⟨c, (answer c m).1⟩

/-- Calls that were made of a repository, with their answers, and the memory after them. -/
structure Run where
  memory : Memory
  log : List (Exchange interface)

namespace Run

def start : Run :=
  ⟨empty, []⟩

def call (r : Run) (c : Call) : Run :=
  ⟨(answer c r.memory).2, r.log ++ [⟨c, (answer c r.memory).1⟩]⟩

/-- Calls one after another, the first one of a repository without an object. -/
def ofCalls (calls : List Call) : Run :=
  calls.foldl call start

@[simp] theorem ofCalls_concat (calls : List Call) (c : Call) :
    ofCalls (calls ++ [c]) = (ofCalls calls).call c :=
  List.foldl_concat call start c calls

end Run

section Calls

variable {m : Memory} {c : Call} {config : Configuration}

/-- What the next write stores of an object. -/
def next (m : Memory) (config : Configuration) : Configuration :=
  config.withVersion (toString (m.writes + 1).toNat)

/-- A call leaves the memory as it is, or it is a write that is accepted. -/
theorem answer_cases (m : Memory) (c : Call) :
    written? ⟨c, (answer c m).1⟩ = none ∧ (answer c m).2 = m ∨
      ∃ config, written? ⟨c, (answer c m).1⟩ = some (m.next config) ∧
        (answer c m).2 = ⟨some (m.next config), m.writes + 1⟩ := by
  cases c with
  | fetch => exact .inl ⟨rfl, rfl⟩
  | create config =>
      simp only [answer, create]
      cases m.stored with
      | none => exact .inr ⟨config, rfl, rfl⟩
      | some stored => exact .inl ⟨rfl, rfl⟩
  | replace config =>
      simp only [answer, replace]
      cases m.stored with
      | none => exact .inl ⟨rfl, rfl⟩
      | some stored =>
          simp only
          split
          · exact .inl ⟨rfl, rfl⟩
          · exact .inr ⟨config, rfl, rfl⟩

theorem isAcceptedWrite_eq (e : Exchange interface) : isAcceptedWrite e = (written? e).isSome := by
  obtain ⟨call, reply⟩ := e
  cases call <;> cases reply <;> rfl

theorem countP_isAcceptedWrite (log : List (Exchange interface)) :
    log.countP isAcceptedWrite = (written log).length := by
  have hsame : isAcceptedWrite = fun e => (written? e).isSome := funext isAcceptedWrite_eq
  rw [written, List.length_filterMap_eq_countP, hsame]

theorem answer_of_refused (h : m.accepts c = false) : (answer c m).2 = m := by
  rcases answer_cases m c with ⟨-, hmemory⟩ | ⟨config, hwritten, -⟩
  · exact hmemory
  · rw [accepts, isAcceptedWrite_eq, hwritten] at h
    cases h

theorem accepts_replace_iff :
    m.accepts (.replace config) ↔ ∃ stored, m.stored = some stored ∧
      config.metadata.resourceVersion = stored.metadata.resourceVersion := by
  simp only [accepts, answer, replace]
  cases m.stored with
  | none =>
      refine ⟨fun hok => absurd hok Bool.false_ne_true, ?_⟩
      rintro ⟨stored, hstored, -⟩
      cases hstored
  | some stored =>
      simp only
      split
      · rename_i hstale
        refine ⟨fun hok => absurd hok Bool.false_ne_true, ?_⟩
        rintro ⟨_, ⟨rfl⟩, hsame⟩
        exact absurd hsame.symm hstale
      · rename_i hsame
        exact ⟨fun _ => ⟨stored, rfl, (Decidable.not_not.mp hsame).symm⟩, fun _ => rfl⟩

end Calls

namespace Run

variable {r : Run} {calls : List Call}

theorem written_call (r : Run) (c : Call) :
    written (r.call c).log = written r.log ++ (written? ⟨c, (answer c r.memory).1⟩).toList := by
  rw [call, written, List.filterMap_append, written]
  cases hwritten : written? ⟨c, (answer c r.memory).1⟩ <;> simp [hwritten]

theorem stored_eq_getLast? (calls : List Call) :
    (ofCalls calls).memory.stored = (written (ofCalls calls).log).getLast? := by
  induction calls using List.reverseRecOn with
  | nil => rfl
  | append_singleton calls c ih =>
      rw [ofCalls_concat, written_call]
      rcases answer_cases (ofCalls calls).memory c with ⟨hnone, hmemory⟩ | ⟨config, hsome, hmemory⟩
      · rw [hnone, Option.toList_none, List.append_nil, ← ih]
        exact congrArg stored hmemory
      · rw [hsome, Option.toList_some, List.getLast?_concat]
        exact congrArg stored hmemory

theorem stored_ne_none_append (h : (ofCalls calls).memory.stored ≠ none) (later : List Call) :
    (ofCalls (calls ++ later)).memory.stored ≠ none := by
  induction later using List.reverseRecOn with
  | nil => rwa [List.append_nil]
  | append_singleton later c ih =>
      rw [← List.append_assoc, ofCalls_concat, call]
      rcases answer_cases (ofCalls (calls ++ later)).memory c with
        ⟨-, hmemory⟩ | ⟨config, -, hmemory⟩
      · rw [hmemory]
        exact ih
      · rw [hmemory]
        nofun

/-- The writes are counted, and each has left its number as the version. -/
structure Numbered (r : Run) : Prop where
  writes : r.memory.writes.toNat = (written r.log).length
  versions : (written r.log).map (·.metadata.resourceVersion) =
    (List.range (written r.log).length).map fun i => some (toString (i + 1))

theorem Numbered.call (h : Numbered r) (c : Call)
    (hwrites : (written (r.call c).log).length < 2 ^ 64) : Numbered (r.call c) := by
  have hwritten := written_call r c
  rcases answer_cases r.memory c with ⟨hnone, hmemory⟩ | ⟨config, hsome, hmemory⟩
  · rw [hnone, Option.toList_none, List.append_nil] at hwritten
    refine ⟨?_, ?_⟩
    · rw [hwritten, ← h.writes]
      exact congrArg (fun m => m.writes.toNat) hmemory
    · rw [hwritten]
      exact h.versions
  · rw [hsome, Option.toList_some] at hwritten
    have hlength : (written (r.call c).log).length = r.memory.writes.toNat + 1 := by
      rw [hwritten, List.length_append, List.length_singleton, h.writes]
    rw [hlength] at hwrites
    have hnumber : (r.memory.writes + 1).toNat = r.memory.writes.toNat + 1 :=
      toNat_writes_store config hwrites
    refine ⟨?_, ?_⟩
    · rw [hlength, ← hnumber]
      exact congrArg (fun m => m.writes.toNat) hmemory
    · rw [hlength, hwritten, List.map_append, h.versions, List.range_succ, List.map_append, h.writes,
        List.map_singleton, List.map_singleton, next, hnumber, h.writes]
      rfl

theorem numbered_ofCalls (hwrites : (written (ofCalls calls).log).length < 2 ^ 64) :
    Numbered (ofCalls calls) := by
  induction calls using List.reverseRecOn with
  | nil => exact ⟨rfl, rfl⟩
  | append_singleton calls c ih =>
      rw [ofCalls_concat] at hwrites ⊢
      refine (ih ?_).call c hwrites
      rw [written_call, List.length_append] at hwrites
      omega

theorem Numbered.nodup (h : Numbered r) :
    ((written r.log).map (·.metadata.resourceVersion)).Nodup := by
  rw [h.versions]
  refine List.nodup_range.map ?_
  intro i j hsame
  exact Nat.succ_injective (Digits.toString_injective (Option.some.inj hsame))

theorem Numbered.version_getLast? (h : Numbered r) {config : Configuration}
    (hlast : (written r.log).getLast? = some config) :
    config.metadata.resourceVersion = some (toString (written r.log).length) := by
  have hpositive : 0 < (written r.log).length :=
    List.length_pos_of_mem (List.mem_of_getLast? hlast)
  have hversion := congrArg List.getLast? h.versions
  rw [List.getLast?_map, List.getLast?_map, hlast, List.getLast?_range, if_neg hpositive.ne',
    Option.map_some, Option.map_some, Nat.sub_add_cancel hpositive] at hversion
  exact Option.some.inj hversion

end Run

/-- What holds after some calls, whatever was called and whatever objects were given. -/
structure FreeOfReuse (calls : List Call) : Prop where
  /-- An object that is stored stays stored. -/
  remains : (Run.ofCalls calls).memory.stored ≠ none →
    ∀ later, (Run.ofCalls (calls ++ later)).memory.stored ≠ none
  /-- Its version is the number of the accepted writes, which the memory counts. -/
  version : ∀ config, (Run.ofCalls calls).memory.stored = some config →
    config.metadata.resourceVersion =
      some (toString ((Run.ofCalls calls).log.countP isAcceptedWrite))
  writes : (Run.ofCalls calls).memory.writes.toNat = (Run.ofCalls calls).log.countP isAcceptedWrite
  /-- No two accepted writes have given the same version. -/
  distinct : ((written (Run.ofCalls calls).log).map (·.metadata.resourceVersion)).Nodup
  /-- An object can be replaced with the version that the last accepted write has given, and with no
  other. -/
  replaces : ∀ config, (Run.ofCalls calls).memory.accepts (.replace config) ↔
    (Run.ofCalls calls).memory.stored ≠ none ∧
      ∃ last, (written (Run.ofCalls calls).log).getLast? = some last ∧
        config.metadata.resourceVersion = last.metadata.resourceVersion
  refuses : ∀ c, (Run.ofCalls calls).memory.accepts c = false →
    (answer c (Run.ofCalls calls).memory).2 = (Run.ofCalls calls).memory

/-- No version is used twice, as long as the numbers of the accepted writes do not start over. -/
theorem free_of_reuse (calls : List Call)
    (hwrites : (Run.ofCalls calls).log.countP isAcceptedWrite < 2 ^ 64) : FreeOfReuse calls := by
  have hstored := Run.stored_eq_getLast? calls
  rw [countP_isAcceptedWrite] at hwrites
  have hnumbered := Run.numbered_ofCalls hwrites
  refine ⟨Run.stored_ne_none_append, ?_, ?_, hnumbered.nodup, ?_, fun c => answer_of_refused⟩
  · intro config hconfig
    rw [countP_isAcceptedWrite]
    exact hnumbered.version_getLast? (hstored ▸ hconfig)
  · rw [countP_isAcceptedWrite]
    exact hnumbered.writes
  · intro config
    rw [accepts_replace_iff, hstored]
    constructor
    · rintro ⟨last, hlast, hsame⟩
      exact ⟨by rw [hlast]; nofun, last, hlast, hsame⟩
    · rintro ⟨-, hlast⟩
      exact hlast

/-- Two writers that have seen the same version, one that gives no version, and one that gives the current
one. -/
def contest : List Call :=
  [.create (.empty "c" "s"), .replace ((Configuration.empty "c" "s").withVersion "1"),
    .replace ((Configuration.empty "c" "s").withVersion "1"), .replace (.empty "c" "s"), .fetch,
    .replace ((Configuration.empty "c" "s").withVersion "2")]

theorem free_of_reuse_contest :
    (Run.ofCalls contest).log.countP isAcceptedWrite = 3 ∧ FreeOfReuse contest := by
  have hwrites : (Run.ofCalls contest).log.countP isAcceptedWrite = 3 := by decide +kernel
  exact ⟨hwrites, free_of_reuse contest (by rw [hwrites]; decide)⟩

end ClusterOperator.Repository.Memory
