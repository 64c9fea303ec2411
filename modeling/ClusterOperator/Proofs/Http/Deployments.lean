import ClusterOperator.Proofs.Http.Session
import ClusterOperator.Proofs.Store.Remote

namespace ClusterOperator.Http

open Repository
open Cluster (Server)

section Exchanges

variable [Cron.Library] {σ τ : Type}

/-- What a service answers to requests one after another, and the states that they leave. -/
def exchanges (s : ServiceSettings) (handler : Handler interface σ) :
    List Request → σ → List (Option Response × σ)
  | [], _ => []
  | request :: rest, state =>
      let outcome := (serve s request).run handler state
      (outcome.result, outcome.state) :: exchanges s handler rest outcome.state

theorem forall₂_exchanges {s : ServiceSettings} {first : Handler interface σ}
    {second : Handler interface τ} {related : σ → τ → Prop}
    (h : ∀ request, Program.Alike first second related (serve s request)) (requests : List Request)
    {a : σ} {b : τ} (hrelated : related a b) :
    List.Forall₂ (fun x y => x.1 = y.1 ∧ related x.2 y.2) (exchanges s first requests a)
      (exchanges s second requests b) := by
  induction requests generalizing a b with
  | nil => exact .nil
  | cons request rest ih =>
      obtain ⟨hresponse, hstates⟩ := h request hrelated
      exact .cons ⟨hresponse, hstates⟩ (ih hstates)

end Exchanges

variable {σ : Type} {server : Server σ} {s : ServiceSettings}

/-- The object of a server and the memory hold the same collections, which are valid. -/
structure Corresponds [Cron.Library] (server : Server σ) (s : StoreSettings) (state : σ) (m : Memory) :
    Prop where
  shows_eq : Shows server s.name s.space state m.collections?
  valid : StoresValid m

theorem alike_deployments [Cron.Library]
    (hserver : server.Keeps (configurationsAddress s.store.space) s.store.name)
    (hname : IsObjectName s.store.name) (hspace : IsObjectName s.store.space) (request : Request) :
    Program.Alike (keptBy server s.store.name s.store.space) Memory.answer
      (Corresponds server s.store) (serve s request) := by
  apply alike_serve
  · rintro o ho state m ⟨hshows, hvalid⟩
    have hvalidAfter := Store.Operation.valid_perform ho hvalid
    have hbounded : ∀ collections value, o.effect m.collections? = .write collections value →
        collections.Bounded := by
      intro collections value heffect
      refine (hvalidAfter collections ?_).bounded
      rw [Store.Operation.perform, heffect]
      rfl
    obtain ⟨hresult, hstate⟩ := Store.run_job_perform s.store o m
    obtain ⟨hremote, hshowsAfter⟩ := Store.run_job_keptBy hserver hname hspace hshows hbounded
    refine ⟨hremote.trans hresult.symm, ?_, ?_⟩
    · rw [hstate]
      exact hshowsAfter
    · rw [StoresValid, hstate]
      exact hvalidAfter
  · rintro state m ⟨hshows, hvalid⟩
    obtain ⟨hreached, hshowsAfter⟩ := Store.run_isReachable_keptBy hserver hname hspace hshows
    exact ⟨hreached, hshowsAfter, hvalid⟩

/-- What is read from the object of a server has the collections of the object in memory, or neither
has an object. -/
def SameCollections (server : Server σ) (state : σ) (m : Memory) : Prop :=
  Option.Rel (fun object stored => ∃ config,
    Configuration.decode (Json.outline object) = .ok config ∧
      config.collections = stored.collections) (server.object? state) m.stored

theorem Corresponds.sameCollections [Cron.Library] {state : σ} {m : Memory}
    (h : Corresponds server s.store state m) : SameCollections server state m := by
  obtain ⟨hshows, -⟩ := h
  rw [SameCollections]
  cases hstored : m.stored with
  | none =>
      rw [Memory.collections?, hstored] at hshows
      cases hshows with
      | missing hobject =>
          rw [hobject]
          exact .none
  | some stored =>
      rw [Memory.collections?, hstored] at hshows
      cases hshows with
      | stored hobject hrepresents =>
          rw [hobject]
          exact .some ⟨_, hrepresents.decode_eq, rfl⟩

/-- A service over a server that keeps its object and one over a memory give the same responses to
requests one after another, and after each of them they hold the same collections. -/
theorem deployments_agree [Cron.Library]
    (hserver : server.Keeps (configurationsAddress s.store.space) s.store.name)
    (hname : IsObjectName s.store.name) (hspace : IsObjectName s.store.space)
    (requests : List Request) :
    List.Forall₂ (fun remote inMemory => remote.1 = inMemory.1 ∧
        SameCollections server remote.2 inMemory.2)
      (exchanges s (keptBy server s.store.name s.store.space) requests server.start)
      (exchanges s Memory.answer requests Memory.empty) := by
  have hstart : Corresponds server s.store server.start Memory.empty :=
    ⟨.missing hserver.start, nofun⟩
  have hexchanges := forall₂_exchanges (alike_deployments hserver hname hspace) requests hstart
  exact hexchanges.imp fun _ _ h => ⟨h.1, h.2.sameCollections⟩

/-- A backup is created and changed, and one that is not there is looked for. -/
def readSession : List Request :=
  backupSession ++ [⟨"GET", Text.Utf8.encode (basePath ++ "/backupconfigs/c"), none, []⟩]

theorem deployments_agree_numbered :
    (exchanges .default Memory.answer readSession Memory.empty).map
        (fun exchange => exchange.1.map (·.status)) = [some 200, some 200, some 404] ∧
      List.Forall₂ (fun remote inMemory => remote.1 = inMemory.1 ∧
          SameCollections Cluster.Numbered.server remote.2 inMemory.2)
        (exchanges .default (keptBy Cluster.Numbered.server Configuration.defaultName
          Configuration.defaultSpace) readSession default)
        (exchanges .default Memory.answer readSession Memory.empty) := by
  have hname : IsObjectName Configuration.defaultName := ⟨by decide, by decide⟩
  have hspace : IsObjectName Configuration.defaultSpace := ⟨by decide, by decide⟩
  exact ⟨by decide +kernel,
    deployments_agree (s := .default) (Cluster.Numbered.keeps _ _) hname hspace readSession⟩

end ClusterOperator.Http
