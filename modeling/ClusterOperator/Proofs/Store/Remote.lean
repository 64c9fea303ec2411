import ClusterOperator.Cluster.Remote
import ClusterOperator.Proofs.Cluster.Object
import ClusterOperator.Proofs.Cluster.Order
import ClusterOperator.Proofs.Cluster.Server
import ClusterOperator.Proofs.Program
import ClusterOperator.Proofs.Store.Sequential

namespace ClusterOperator

open Json

namespace Repository

open Cluster (Server)

/-- A configuration of which only the collections and the version change. -/
def configurationOf (name space : String) (version : Option String) (collections : Collections) :
    Configuration :=
  ⟨{ name := some name, space := some space, resourceVersion := version }, collections⟩

section Addresses

variable {name space : String}

theorem isAddress_configurations (hspace : Http.IsObjectName space) :
    Http.IsAddress (configurationsAddress space) Http.longestCollection :=
  Http.isAddress_collection ⟨rfl, by decide, by decide⟩ hspace (by decide) (by decide)

end Addresses

section Objects

@[simp] theorem collections_configurationOf (name space : String) (version : Option String)
    (collections : Collections) :
    (configurationOf name space version collections).collections = collections := rfl

variable (name space : String) (version : Option String) (collections : Collections)

theorem metadata_configurationOf :
    (configurationOf name space version collections).metadata.toJson =
      .obj (present [("name", some (.str name)), ("namespace", some (.str space)),
        ("resourceVersion", version.map .str)]) := by
  rw [Metadata.toJson_eq]
  rfl

theorem at?_metadata : (configurationOf name space version collections).toJson.at? "metadata" =
    some (configurationOf name space version collections).metadata.toJson := by
  simp [Json.at?, Configuration.toJson, List.lookup_cons]

theorem nameOf_configurationOf :
    Cluster.nameOf (configurationOf name space version collections).toJson = some name := by
  rw [Cluster.nameOf, at?_metadata, metadata_configurationOf]
  simp [present, textAt?]

theorem versionOf_configurationOf :
    Cluster.versionOf (configurationOf name space version collections).toJson = version := by
  rw [Cluster.versionOf, at?_metadata, metadata_configurationOf]
  cases version <;> simp [present, textAt?, List.lookup_cons]

theorem stamped_configurationOf (v : String) :
    Cluster.stamped v (configurationOf name space version collections).toJson =
      (configurationOf name space (some v) collections).toJson := by
  have hmetadata : Json.withText "resourceVersion" v
      (configurationOf name space version collections).metadata.toJson =
        (configurationOf name space (some v) collections).metadata.toJson := by
    rw [metadata_configurationOf, metadata_configurationOf]
    cases version <;> simp [Json.withText, present, List.lookup_cons]
  simp [Configuration.toJson, Cluster.stamped, hmetadata]

theorem isPlain_configurationOf :
    (configurationOf name space version collections).toJson.IsPlain :=
  Configuration.isPlain_toJson (Metadata.isPlain_toJson rfl)

theorem decode_configurationOf (h : collections.Bounded) :
    Configuration.decode (outline (configurationOf name space version collections).toJson) =
      .ok (configurationOf name space version collections) := by
  have hplain := isPlain_configurationOf name space version collections
  have hsurvives : (configurationOf name space version collections).metadata.Survives :=
    Metadata.survives rfl nofun nofun
  rw [← hplain.spells.whole_eq Configuration.decode]
  exact Configuration.decode_text h hsurvives

end Objects

/-- An object holds collections that can be read back, under a version and with its members in any
order. -/
structure Represents (name space version : String) (collections : Collections) (object : Json) :
    Prop where
  reordered : (configurationOf name space (some version) collections).toJson.Reordered object
  bounded : collections.Bounded

section Represents

variable {name space version : String} {collections : Collections} {object : Json}
  (h : Represents name space version collections object)

include h

theorem Represents.isPlain : object.IsPlain :=
  h.reordered.isPlain (isPlain_configurationOf ..)

theorem Represents.versionOf_eq : Cluster.versionOf object = some version :=
  Cluster.versionOf_of_reordered h.reordered (versionOf_configurationOf ..)

theorem Represents.decode_eq : Configuration.decode (outline object) =
    .ok (configurationOf name space (some version) collections) :=
  Configuration.steady_decode h.reordered (decode_configurationOf _ _ _ _ h.bounded)

end Represents

variable {σ : Type} {server : Server σ} {name space : String} {s : σ}

/-- The repository of the object that a server keeps. -/
def keptBy (server : Server σ) (name space : String) : Handler interface σ :=
  Handler.through (remote name space) server.answer

/-- The object of a server holds these collections, or there is no object. -/
inductive Shows (server : Server σ) (name space : String) (s : σ) : Option Collections → Prop
  | missing (h : server.object? s = none) : Shows server name space s none
  | stored {version : String} {collections : Collections} {object : Json}
      (h : server.object? s = some object)
      (holds : Represents name space version collections object) :
      Shows server name space s (some collections)

section Calls

variable (hserver : server.Keeps (configurationsAddress space) name)
  (hname : Http.IsObjectName name) (hspace : Http.IsObjectName space)

include hname hspace

theorem exists_get :
    ∃ request, Cluster.Request.get (configurationsAddress space) name = .ok request := by
  have haddress := (isAddress_configurations hspace).object hname
  have hrequest := Cluster.Request.of_address "GET" haddress (by decide) (.inl rfl)
    none none
  rw [String.append_empty, ← Cluster.Request.get_eq hname.ne_empty] at hrequest
  exact ⟨_, hrequest⟩

theorem exists_put (object : Json) :
    ∃ request, Cluster.Request.put (configurationsAddress space) name object = .ok request := by
  rw [Cluster.Request.put_eq hname.ne_empty]
  have haddress := (isAddress_configurations hspace).object hname
  exact ⟨_, Cluster.Request.of_address _ haddress (by decide) (.inr rfl) _ _⟩

omit hname in
theorem exists_post (object : Json) :
    ∃ request, Cluster.Request.post (configurationsAddress space) object = .ok request :=
  ⟨_, Cluster.Request.of_address _ (isAddress_configurations hspace) (by decide) (.inr rfl) _ _⟩

include hserver

theorem fetch_missing (h : server.object? s = none) :
    (keptBy server name space .fetch s).1 = .ok none ∧
      server.object? (keptBy server name space .fetch s).2 = none := by
  obtain ⟨request, hrequest⟩ := exists_get hname hspace
  have hrejects := hserver.get_missing hrequest h
  obtain ⟨said, hsaid, hreason⟩ := hrejects.refuses.object_eq Configuration.decode (by decide)
  have hrun : keptBy server name space .fetch s =
      (Cluster.ifFound ((server.reply request s).object Configuration.decode),
        server.after request s) := by
    rw [keptBy, Handler.through, remote, hrequest]
    rfl
  rw [hrun, hsaid]
  refine ⟨?_, hrejects.object_eq.trans h⟩
  simp only [Cluster.ifFound, hreason, if_true]

theorem fetch_stored {version : String} {collections : Collections} {object : Json}
    (h : server.object? s = some object)
    (hobject : Represents name space version collections object) :
    (keptBy server name space .fetch s).1 =
        .ok (some (configurationOf name space (some version) collections)) ∧
      server.object? (keptBy server name space .fetch s).2 = some object := by
  obtain ⟨request, hrequest⟩ := exists_get hname hspace
  obtain ⟨hholds, hafter, -⟩ := hserver.get hrequest h hobject.isPlain
  have hrun : keptBy server name space .fetch s =
      (Cluster.ifFound ((server.reply request s).object Configuration.decode),
        server.after request s) := by
    rw [keptBy, Handler.through, remote, hrequest]
    rfl
  rw [hrun, hholds.object_eq Configuration.steady_decode hobject.decode_eq]
  exact ⟨rfl, hafter⟩

omit hname in
theorem create_missing (h : server.object? s = none) {collections : Collections}
    (hbounded : collections.Bounded) :
    ∃ version object, (keptBy server name space
        (.create (configurationOf name space none collections)) s).1 =
          .ok (configurationOf name space (some version) collections) ∧
      server.object? (keptBy server name space
        (.create (configurationOf name space none collections)) s).2 = some object ∧
      Represents name space version collections object := by
  obtain ⟨request, hrequest⟩ :=
    exists_post hspace (configurationOf name space none collections).toJson
  obtain ⟨version, hstores⟩ := hserver.post hrequest (nameOf_configurationOf ..)
    (versionOf_configurationOf ..) (isPlain_configurationOf ..) h
  have hrun : keptBy server name space (.create (configurationOf name space none collections)) s =
      ((server.reply request s).object Configuration.decode, server.after request s) := by
    rw [keptBy, Handler.through, remote, hrequest]
    rfl
  obtain ⟨object, hobject, hafter⟩ := hstores.stored
  have hholds := hstores.holds
  rw [stamped_configurationOf] at hobject hholds
  have hdecode := decode_configurationOf name space (some version) _ hbounded
  refine ⟨version, object, ?_, ?_, hobject, hbounded⟩
  · rw [hrun, hholds.object_eq Configuration.steady_decode hdecode]
  · rw [hrun, hafter]

theorem replace_stored {version : String} {before collections : Collections} {stored : Json}
    (h : server.object? s = some stored) (hstored : Represents name space version before stored)
    (hbounded : collections.Bounded) :
    ∃ version' object, (keptBy server name space
        (.replace (configurationOf name space (some version) collections)) s).1 =
          .ok (configurationOf name space (some version') collections) ∧
      server.object? (keptBy server name space
        (.replace (configurationOf name space (some version) collections)) s).2 = some object ∧
      Represents name space version' collections object := by
  obtain ⟨request, hrequest⟩ :=
    exists_put hname hspace (configurationOf name space (some version) collections).toJson
  obtain ⟨version', hstores⟩ := hserver.put hrequest (isPlain_configurationOf ..) h
    (by rw [versionOf_configurationOf, hstored.versionOf_eq])
  have hrun : keptBy server name space
      (.replace (configurationOf name space (some version) collections)) s =
      ((server.reply request s).object Configuration.decode, server.after request s) := by
    rw [keptBy, Handler.through, remote, hrequest]
    rfl
  obtain ⟨object, hobject, hafter⟩ := hstores.stored
  have hholds := hstores.holds
  rw [stamped_configurationOf] at hobject hholds
  have hdecode := decode_configurationOf name space (some version') _ hbounded
  refine ⟨version', object, ?_, ?_, hobject, hbounded⟩
  · rw [hrun, hholds.object_eq Configuration.steady_decode hdecode]
  · rw [hrun, hafter]

end Calls

end Repository

namespace Store

open Repository
open Cluster (Server)

section Put

variable {σ α : Type} (handler : Handler interface σ) (config : Configuration)
  (next : Except Failure Configuration → Job α) (s : σ)

theorem run_put_none : ((put none config).bind next).run handler s =
    (next (handler (.create config) s).1).run handler (handler (.create config) s).2 := rfl

theorem run_put_some (found : Configuration) : ((put (some found) config).bind next).run handler s =
    (next (handler (.replace config) s).1).run handler (handler (.replace config) s).2 := rfl

end Put

/-- By itself, an operation on the object that a server keeps gives what it gives on the collections
that the object holds, and leaves an object that holds what it leaves. -/
theorem run_job_keptBy {σ : Type} {server : Server σ} {settings : StoreSettings}
    (hserver : server.Keeps (configurationsAddress settings.space) settings.name)
    (hname : Http.IsObjectName settings.name) (hspace : Http.IsObjectName settings.space)
    {o : Operation} {s : σ} {found : Option Collections}
    (hshows : Shows server settings.name settings.space s found)
    (hbounded : ∀ collections value, o.effect found = .write collections value →
      collections.Bounded) :
    let outcome := (o.job settings).run (keptBy server settings.name settings.space) s
    outcome.result = (o.perform found).1 ∧
      Shows server settings.name settings.space outcome.state (o.perform found).2 := by
  rw [o.job_eq_change, change_eq, Program.run_call, Operation.perform]
  cases hshows with
  | missing hobject =>
      obtain ⟨hreply, hafter⟩ := fetch_missing hserver hname hspace hobject
      rw [hreply]
      have hplan : o.plan settings none = (o.effect none).plan settings.fresh := rfl
      simp only [afterFetch, hplan]
      cases heffect : o.effect none with
      | answer result => exact ⟨rfl, .missing hafter⟩
      | write collections value =>
          have hcollections := hbounded collections value heffect
          obtain ⟨version, object, hwritten, hstored, hobject⟩ :=
            create_missing hserver hspace hafter hcollections
          have hconfig : { settings.fresh with collections := collections } =
              configurationOf settings.name settings.space none collections := rfl
          simp only [Effect.plan, hconfig]
          rw [run_put_none, hwritten]
          simp only [afterWrite, Program.run, Effect.apply]
          exact ⟨trivial, .stored hstored hobject⟩
  | @stored version collections object hobject hfound =>
      obtain ⟨hreply, hafter⟩ := fetch_stored hserver hname hspace hobject hfound
      rw [hreply]
      have hplan : o.plan settings
          (some (configurationOf settings.name settings.space (some version) collections)) =
            (o.effect (some collections)).plan
              (configurationOf settings.name settings.space (some version) collections) := rfl
      simp only [afterFetch, hplan]
      cases heffect : o.effect (some collections) with
      | answer result => exact ⟨rfl, .stored hafter hfound⟩
      | write written value =>
          have hwrittenBounded := hbounded written value heffect
          obtain ⟨version', object', hwritten, hstored, hrepresents⟩ :=
            replace_stored hserver hname hspace hafter hfound hwrittenBounded
          have hconfig : { configurationOf settings.name settings.space (some version) collections with
              collections := written } =
                configurationOf settings.name settings.space (some version) written := rfl
          simp only [Effect.plan, hconfig]
          rw [run_put_some, hwritten]
          simp only [afterWrite, Program.run, Effect.apply]
          exact ⟨trivial, .stored hstored hrepresents⟩

theorem run_isReachable_keptBy {σ : Type} {server : Server σ} {name space : String}
    (hserver : server.Keeps (configurationsAddress space) name)
    (hname : Http.IsObjectName name) (hspace : Http.IsObjectName space) {s : σ}
    {found : Option Collections} (hshows : Shows server name space s found) :
    let outcome := isReachable.run (keptBy server name space) s
    outcome.result = .ok true ∧ Shows server name space outcome.state found := by
  rw [isReachable, fetch, Program.run_bind, Program.run_call]
  cases hshows with
  | missing hobject =>
      obtain ⟨hreply, hafter⟩ := fetch_missing hserver hname hspace hobject
      simp only [Program.run, hreply]
      exact ⟨trivial, .missing hafter⟩
  | stored hobject hfound =>
      obtain ⟨hreply, hafter⟩ := fetch_stored hserver hname hspace hobject hfound
      simp only [Program.run, hreply]
      exact ⟨trivial, .stored hafter hfound⟩

end Store

end ClusterOperator
