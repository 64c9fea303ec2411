import ClusterOperator.Store.Repository

/-!
Operations on the entries of the configuration object.

A change fetches the object, works out what to write, and writes it with the version that it has
seen. A write that another one has overtaken is tried again from the start, a bounded number of
times, and nothing else is.
-/

namespace ClusterOperator

open Repository

/-- How a store works. -/
structure StoreSettings where
  /-- The name of the configuration object. -/
  name : String
  /-- The namespace of the configuration object. -/
  space : String
  /-- How often a write is attempted. -/
  retries : UInt32
deriving DecidableEq, Repr

namespace StoreSettings

def default : StoreSettings :=
  ⟨Configuration.defaultName, Configuration.defaultSpace, 3⟩

instance : Inhabited StoreSettings := ⟨default⟩

def fresh (s : StoreSettings) : Configuration :=
  .empty s.name s.space

/-- How often a write is attempted: at least once. -/
def attempts (s : StoreSettings) : Nat :=
  max 1 s.retries.toNat

end StoreSettings

/-- What a change makes of the object that it finds. -/
inductive Plan (α : Type) where
  /-- Writes nothing. -/
  | answer (result : Except Failure α)
  /-- Writes an object, and has a result once it is written. -/
  | write (config : Configuration) (result : α)

namespace Store

/-- Carries out a change. A refused write is tried again if `again` says so, at most `retries`
times. -/
def change {α : Type} (again : Failure → Bool) (plan : Option Configuration → Plan α)
    (retries : Nat) : Job α :=
  fetch.andThen fun current =>
    match plan current with
    | .answer result => .done result
    | .write config result =>
        (put current config).bind fun
          | .ok _ => .done (.ok result)
          | .error failure =>
              match retries with
              | 0 => .done (.error failure)
              | retries + 1 =>
                  if again failure then .count .retry (change again plan retries)
                  else .done (.error failure)

/-- Whether the write of a new or changed entry was overtaken. -/
def isOvertaken (f : Failure) : Bool :=
  f.isConflict || f.isAlreadyExists

def find? (k : Kind) (name : String) (entries : List k.Entry) : Option k.Entry :=
  entries.find? (k.nameOf · = name)

/-- The entries with the first one of a name replaced. -/
def replaceFirst (k : Kind) (name : String) (entry : k.Entry) : List k.Entry → List k.Entry
  | [] => []
  | e :: rest => if k.nameOf e = name then entry :: rest else e :: replaceFirst k name entry rest

def without (k : Kind) (name : String) (entries : List k.Entry) : List k.Entry :=
  entries.filter (k.nameOf · ≠ name)

/-- Appends an entry whose name is not taken, to a fresh object if there is none. -/
def planCreate (s : StoreSettings) (k : Kind) (entry : k.Entry) (current : Option Configuration) :
    Plan String :=
  let config := current.getD s.fresh
  let name := k.nameOf entry
  if (find? k name (config.entries k)).isSome then .answer (.error (.duplicated k.title name))
  else .write (config.withEntries k (config.entries k ++ [entry])) name

def planUpdate (k : Kind) (name : String) (apply : k.Entry → Except Failure k.Entry) :
    Option Configuration → Plan k.Entry
  | none => .answer (.error .noConfiguration)
  | some config =>
      match find? k name (config.entries k) with
      | none => .answer (.error (.noEntry k.title name))
      | some entry =>
          match apply entry with
          | .error failure => .answer (.error failure)
          | .ok changed =>
              .write (config.withEntries k (replaceFirst k name changed (config.entries k))) changed

/-- Removes the entries of a name; it is no failure if there is none. -/
def planDelete (k : Kind) (name : String) : Option Configuration → Plan Unit
  | none => .answer (.ok ())
  | some config =>
      let kept := without k name (config.entries k)
      if kept.length = (config.entries k).length then .answer (.ok ())
      else .write (config.withEntries k kept) ()

def create (s : StoreSettings) (k : Kind) (entry : k.Entry) : Job String :=
  change isOvertaken (planCreate s k entry) (s.attempts - 1)

/-- Changes a stored entry and gives what it is afterwards. -/
def update (s : StoreSettings) (k : Kind) (name : String)
    (apply : k.Entry → Except Failure k.Entry) : Job k.Entry :=
  change isOvertaken (planUpdate k name apply) (s.attempts - 1)

def delete (s : StoreSettings) (k : Kind) (name : String) : Job Unit :=
  change Failure.isConflict (planDelete k name) (s.attempts - 1)

def get (k : Kind) (name : String) : Job k.Entry :=
  fetch.andThen fun current =>
    match current.bind fun config => find? k name (config.entries k) with
    | none => .done (.error (.noEntry k.title name))
    | some entry => .done (.ok entry)

def list (k : Kind) : Job (List k.Entry) :=
  fetch.andThen fun
    | none => .done (.error .noConfiguration)
    | some config => .done (.ok (config.entries k))

def isReachable : Job Bool :=
  fetch.bind fun
    | .ok _ => .done (.ok true)
    | .error .panicked => .done (.error .panicked)
    | .error _ => .done (.ok false)

end Store

end ClusterOperator
