import ClusterOperator.Proofs.Http.Outcomes
import ClusterOperator.Proofs.Http.Route

namespace ClusterOperator

open Repository (Memory)

namespace Repository.Memory

variable {m m' : Memory} {k : Kind} {name : String} {e : k.Entry}

end Repository.Memory

namespace Http

open Text.Utf8 (encode)

section Statement

variable [Cron.Library] (s : ServiceSettings)

def after (request : Request) (m : Memory) : Memory :=
  ((serve s request).run Memory.answer m).state

/-- A request by a method for a path that stands in it as it is. -/
structure AtPath (method path : String) (request : Request) : Prop where
  method_eq : request.method = method
  path_eq : request.path = encode path

end Statement

section Lives

variable {s : ServiceSettings} {m : Memory} {k : Kind} {name method : String} {request : Request}

theorem AtPath.forCollection (h : AtPath method (collectionPath k) request) :
    ForCollection k method request :=
  ⟨h.method_eq, by rw [h.path_eq, resource?_collection]⟩

variable [Cron.Library]

theorem response_get (h : ForEntry k name "GET" request) :
    response s m request = responseTo? .get
      (match m.lookup? k name with
      | some e => .ok (.json (k.viewJson e))
      | none => .error (.noEntry k.title name)) := by
  obtain ⟨hresult, -⟩ := run_respond (s := .default) (k := k) (m := m) .get (.get k name)
    fun e => .json (k.viewJson e)
  rw [response, h.serve_get]
  refine hresult.trans (congrArg (responseTo? .get) ?_)
  rw [perform_get]
  cases m.lookup? k name with
  | none => rfl
  | some e => rfl

theorem response_list (h : ForCollection k "GET" request) {collections : Collections}
    (hstored : m.collections? = some collections) :
    response s m request = some (.of 200 (.json (k.listJson (collections.entries k)))) := by
  obtain ⟨hresult, -⟩ := run_respond (s := .default) (k := k) (m := m) .list (.list k)
    fun entries => .json (k.listJson entries)
  rw [response, h.serve_get]
  refine hresult.trans ?_
  rw [Store.Operation.perform, hstored]
  rfl

theorem collections?_after {operation : Operation} {o : Store.Operation} {body : o.Result → Body}
    (h : serve s request = respond k operation (showing body (o.job s.store))) :
    (after s request m).collections? = (o.perform m.collections?).2 := by
  obtain ⟨-, hstate⟩ := run_respond (s := s) (k := k) (m := m) operation o body
  rw [after, h, hstate, (Store.run_job_perform s.store o m).2]

theorem collections?_after_create (h : ForCollection k "POST" request) {asked : k.Request}
    (hread : readBody s.maxBody k.decodeRequest request = .ok asked)
    (hvalid : k.validateRequest asked = .ok ()) {e : k.Entry} (hentry : k.entryOf asked = .ok e)
    (hfree : m.lookup? k (k.nameOf e) = none) :
    (after s request m).collections? = some ((m.collections?.getD .empty).withEntries k
      ((m.collections?.getD .empty).entries k ++ [e])) := by
  have hserve : serve s request = respond k .create (showing (fun name => .json (k.nameJson name))
      ((Store.Operation.change (.create k e)).job s.store)) := by
    rw [h.serve_post, createEntry, readEntry_eq hread hvalid hentry]
    rfl
  rw [collections?_after hserve, Store.Operation.perform]
  simp only [Store.Operation.effect, Store.Change.effect, ← Memory.lookup?_eq, hfree]
  rfl

end Lives

end Http

end ClusterOperator
