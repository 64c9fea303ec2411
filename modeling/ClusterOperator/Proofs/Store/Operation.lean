import ClusterOperator.Store.Memory
import ClusterOperator.Store.Operations

namespace ClusterOperator.Store

open Repository

/-- The operations that change the object. -/
inductive Change where
  | create (k : Kind) (entry : k.Entry)
  | update (k : Kind) (name : String) (apply : k.Entry → Except Failure k.Entry)
  | delete (k : Kind) (name : String)

/-- The operations of a store. -/
inductive Operation where
  | change (c : Change)
  | get (k : Kind) (name : String)
  | list (k : Kind)

/-- What an operation does with the collections that it finds. -/
inductive Effect (α : Type) where
  | answer (result : Except Failure α)
  /-- It writes other collections, and has a value once they are written. -/
  | write (collections : Collections) (value : α)

namespace Change

@[reducible] def Result : Change → Type
  | create _ _ => String
  | update k _ _ => k.Entry
  | delete _ _ => Unit

def kind : Change → Kind
  | create k _ => k
  | update k _ _ => k
  | delete k _ => k

/-- The failures of a write after which a change is tried again. -/
def retries : Change → Failure → Bool
  | create _ _, f => f.isConflict || f.isAlreadyExists
  | update _ _ _, f => f.isConflict || f.isAlreadyExists
  | delete _ _, f => f.isConflict

def job (s : StoreSettings) : (c : Change) → Job c.Result
  | create k entry => Store.create s k entry
  | update k name apply => Store.update s k name apply
  | delete k name => Store.delete s k name

/-- What the change does with the collections that it finds. -/
def effect : (c : Change) → Option Collections → Effect c.Result
  | create k entry, found =>
      let collections := found.getD .empty
      if (find? k (k.nameOf entry) (collections.entries k)).isSome then
        .answer (.error (.duplicated k.title (k.nameOf entry)))
      else .write (collections.withEntries k (collections.entries k ++ [entry])) (k.nameOf entry)
  | update _ _ _, none => .answer (.error .noConfiguration)
  | update k name apply, some collections =>
      match find? k name (collections.entries k) with
      | none => .answer (.error (.noEntry k.title name))
      | some entry =>
          match apply entry with
          | .error failure => .answer (.error failure)
          | .ok changed =>
              .write (collections.withEntries k
                (replaceFirst k name changed (collections.entries k))) changed
  | delete _ _, none => .answer (.ok ())
  | delete k name, some collections =>
      if (without k name (collections.entries k)).length = (collections.entries k).length then
        .answer (.ok ())
      else .write (collections.withEntries k (without k name (collections.entries k))) ()

end Change

namespace Effect

variable {α : Type}

/-- The plan that writes the object found with other collections. -/
def plan (found : Configuration) : Effect α → Plan α
  | answer result => .answer result
  | write collections value => .write { found with collections } value

/-- The result and the collections afterwards. -/
def apply (found : Option Collections) : Effect α → Except Failure α × Option Collections
  | answer result => (result, found)
  | write collections value => (.ok value, some collections)

theorem eq_answer_of_plan {found : Configuration} {e : Effect α} {result : Except Failure α}
    (h : e.plan found = .answer result) : e = .answer result := by
  cases e <;> cases h
  rfl

theorem eq_write_of_plan {found sent : Configuration} {e : Effect α} {value : α}
    (h : e.plan found = .write sent value) :
    e = .write sent.collections value ∧ sent.metadata = found.metadata := by
  cases e <;> cases h
  exact ⟨rfl, rfl⟩

end Effect

namespace Operation

@[reducible] def Result : Operation → Type
  | change c => c.Result
  | get k _ => k.Entry
  | list k => List k.Entry

def job (s : StoreSettings) : (o : Operation) → Job o.Result
  | change c => c.job s
  | get k name => Store.get k name
  | list k => Store.list k

def retries : Operation → Failure → Bool
  | change c => c.retries
  | get _ _ => fun _ => false
  | list _ => fun _ => false

def effect : (o : Operation) → Option Collections → Effect o.Result
  | change c, found => c.effect found
  | get k name, found =>
      match found.bind fun collections => find? k name (collections.entries k) with
      | none => .answer (.error (.noEntry k.title name))
      | some entry => .answer (.ok entry)
  | list _, none => .answer (.error .noConfiguration)
  | list k, some collections => .answer (.ok (collections.entries k))

/-- What the operation makes of the object that it finds. -/
def plan (s : StoreSettings) (o : Operation) (seen : Option Configuration) : Plan o.Result :=
  (o.effect (seen.map Configuration.collections)).plan (seen.getD s.fresh)

/-- What the operation gives by itself, and the collections that it leaves. -/
def perform (o : Operation) (found : Option Collections) :
    Except Failure o.Result × Option Collections :=
  (o.effect found).apply found

end Operation

namespace Change

/-- The outcomes of a change, each with what it finds and does. -/
inductive Does : (c : Change) → Option Collections → Effect c.Result → Prop
  | duplicated {k : Kind} {entry : k.Entry} {found : Option Collections}
      (hname : (find? k (k.nameOf entry) ((found.getD .empty).entries k)).isSome) :
      Does (.create k entry) found (.answer (.error (.duplicated k.title (k.nameOf entry))))
  | created {k : Kind} {entry : k.Entry} {found : Option Collections}
      (hname : ¬(find? k (k.nameOf entry) ((found.getD .empty).entries k)).isSome) :
      Does (.create k entry) found
        (.write ((found.getD .empty).withEntries k ((found.getD .empty).entries k ++ [entry]))
          (k.nameOf entry))
  | unconfigured {k : Kind} {name : String} {apply : k.Entry → Except Failure k.Entry} :
      Does (.update k name apply) none (.answer (.error .noConfiguration))
  | missing {k : Kind} {name : String} {apply : k.Entry → Except Failure k.Entry}
      {found : Collections} (hentry : find? k name (found.entries k) = none) :
      Does (.update k name apply) (some found) (.answer (.error (.noEntry k.title name)))
  | failed {k : Kind} {name : String} {apply : k.Entry → Except Failure k.Entry}
      {found : Collections} {entry : k.Entry} {failure : Failure}
      (hentry : find? k name (found.entries k) = some entry)
      (happly : apply entry = .error failure) :
      Does (.update k name apply) (some found) (.answer (.error failure))
  | changed {k : Kind} {name : String} {apply : k.Entry → Except Failure k.Entry}
      {found : Collections} {entry changed : k.Entry}
      (hentry : find? k name (found.entries k) = some entry) (happly : apply entry = .ok changed) :
      Does (.update k name apply) (some found)
        (.write (found.withEntries k (replaceFirst k name changed (found.entries k))) changed)
  | unneeded {k : Kind} {name : String} : Does (.delete k name) none (.answer (.ok ()))
  | spared {k : Kind} {name : String} {found : Collections}
      (hlength : (without k name (found.entries k)).length = (found.entries k).length) :
      Does (.delete k name) (some found) (.answer (.ok ()))
  | removed {k : Kind} {name : String} {found : Collections}
      (hlength : (without k name (found.entries k)).length ≠ (found.entries k).length) :
      Does (.delete k name) (some found)
        (.write (found.withEntries k (without k name (found.entries k))) ())

theorem does_effect (c : Change) (found : Option Collections) : c.Does found (c.effect found) := by
  cases c with
  | create k entry =>
      simp only [effect]
      split
      · exact .duplicated ‹_›
      · exact .created ‹_›
  | update k name apply =>
      cases found with
      | none => exact .unconfigured
      | some found =>
          simp only [effect]
          split
          · exact .missing ‹_›
          · split
            · exact .failed ‹_› ‹_›
            · exact .changed ‹_› ‹_›
  | delete k name =>
      cases found with
      | none => exact .unneeded
      | some found =>
          simp only [effect]
          split
          · exact .spared ‹_›
          · exact .removed ‹_›

theorem does_of_effect {c : Change} {found : Option Collections} {e : Effect c.Result}
    (h : c.effect found = e) : c.Does found e :=
  h ▸ c.does_effect found

/-- A change writes what it finds, but for the collection of its kind. -/
theorem exists_withEntries_of_effect {c : Change} {found : Option Collections}
    {collections : Collections} {value : c.Result}
    (h : c.effect found = .write collections value) :
    ∃ es, collections = (found.getD .empty).withEntries c.kind es := by
  cases does_of_effect h with
  | created hname => exact ⟨_, rfl⟩
  | changed hentry happly => exact ⟨_, rfl⟩
  | removed hlength => exact ⟨_, rfl⟩

end Change

/-- What is left of a change once it has made an attempt to write. -/
def afterWrite {α : Type} (again : Failure → Bool) (plan : Option Configuration → Plan α)
    (left : Nat) (value : α) : Except Failure Configuration → Job α
  | .ok _ => .done (.ok value)
  | .error failure =>
      match left with
      | 0 => .done (.error failure)
      | left + 1 =>
          if again failure then .count .retry (Store.change again plan left)
          else .done (.error failure)

/-- What is left of a change once it has fetched. -/
def afterFetch {α : Type} (again : Failure → Bool) (plan : Option Configuration → Plan α)
    (left : Nat) : Except Failure (Option Configuration) → Job α
  | .error failure => .done (.error failure)
  | .ok seen =>
      match plan seen with
      | .answer result => .done result
      | .write config value => (put seen config).bind (afterWrite again plan left value)

theorem change_eq {α : Type} (again : Failure → Bool) (plan : Option Configuration → Plan α)
    (left : Nat) :
    Store.change again plan left = .call Call.fetch (afterFetch again plan left) := by
  unfold Store.change
  simp only [fetch, Program.andThen, Program.bind]
  congr 1
  funext reply
  cases reply with
  | error failure => rfl
  | ok seen =>
      simp only [afterFetch]
      cases plan seen with
      | answer result => rfl
      | write config value =>
          simp only
          congr 1

theorem afterWrite_error {α : Type} (again : Failure → Bool)
    (plan : Option Configuration → Plan α) (left : Nat) (value : α) (failure : Failure) :
    (again failure = true ∧ ∃ fewer, left = fewer + 1 ∧
        afterWrite again plan left value (.error failure) =
          .count .retry (Store.change again plan fewer)) ∨
      ((again failure = true → left = 0) ∧
        afterWrite again plan left value (.error failure) = .done (.error failure)) := by
  cases left with
  | zero => exact .inr ⟨fun _ => rfl, rfl⟩
  | succ fewer =>
      by_cases hagain : again failure = true
      · exact .inl ⟨hagain, fewer, rfl, by simp only [afterWrite, hagain, if_true]⟩
      · refine .inr ⟨fun h => absurd h hagain, ?_⟩
        simp only [afterWrite, hagain]
        rfl

theorem planCreate_eq (s : StoreSettings) (k : Kind) (entry : k.Entry) :
    planCreate s k entry = (Operation.change (.create k entry)).plan s := by
  funext seen
  have hentries : (seen.getD s.fresh).entries k =
      ((seen.map Configuration.collections).getD .empty).entries k := by
    cases seen <;> rfl
  simp only [planCreate, Operation.plan, Operation.effect, Change.effect, hentries]
  split
  · rfl
  · cases seen <;> rfl

theorem planUpdate_eq (s : StoreSettings) (k : Kind) (name : String)
    (apply : k.Entry → Except Failure k.Entry) :
    planUpdate k name apply = (Operation.change (.update k name apply)).plan s := by
  funext seen
  cases seen with
  | none => rfl
  | some config =>
      change _ = (Change.effect (.update k name apply) (some config.collections)).plan config
      simp only [planUpdate, Change.effect, Configuration.entries]
      cases find? k name (config.collections.entries k) with
      | none => rfl
      | some entry =>
          simp only
          cases apply entry <;> rfl

theorem planDelete_eq (s : StoreSettings) (k : Kind) (name : String) :
    planDelete k name = (Operation.change (.delete k name)).plan s := by
  funext seen
  cases seen with
  | none => rfl
  | some config =>
      change _ = (Change.effect (.delete k name) (some config.collections)).plan config
      simp only [planDelete, Change.effect, Configuration.entries]
      rw [apply_ite (Effect.plan config)]
      rfl

theorem Operation.job_eq_change (s : StoreSettings) (o : Operation) :
    o.job s = Store.change o.retries (o.plan s) (s.attempts - 1) := by
  cases o with
  | change c =>
      cases c with
      | create k entry =>
          change Store.change _ (planCreate s k entry) _ = _
          rw [planCreate_eq]
          rfl
      | update k name apply =>
          change Store.change _ (planUpdate k name apply) _ = _
          rw [planUpdate_eq s]
          rfl
      | delete k name =>
          change Store.change _ (planDelete k name) _ = _
          rw [planDelete_eq s]
          rfl
  | get k name =>
      rw [change_eq]
      change Program.call _ _ = _
      congr 1
      funext reply
      cases reply with
      | error failure => rfl
      | ok seen =>
          cases seen with
          | none => rfl
          | some config =>
              simp only [afterFetch, plan, effect, Option.map_some, Option.bind_some,
                Configuration.entries, Program.bind]
              cases find? k name (config.collections.entries k) <;> rfl
  | list k =>
      rw [change_eq]
      change Program.call _ _ = _
      congr 1
      funext reply
      cases reply with
      | error failure => rfl
      | ok seen => cases seen <;> rfl

end ClusterOperator.Store
