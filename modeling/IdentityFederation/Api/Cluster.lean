import IdentityFederation.Api.Crds
import IdentityFederation.Framework.Interaction

/-!
# The API server

The state the components share, and what the API server does with each request they send.

* `CloudRoleBinding`s are kept in key order, which is the order `list` returns.  The server
  assigns `generation` (a new object has `1`, every change of the spec adds one) and
  `resourceVersion` (the revision of the last write), and refuses a write to the status whose
  `resourceVersion` is not the stored one.
* A `ResolvedCloudRoleBinding` is written by server-side apply under one field manager: `patch`
  on the object writes the spec and leaves the status, `patch` on the status subresource writes
  the status and leaves the spec.
* A Secret is written by a forced apply, which sets the entries it carries.
* Every change of a `CloudRoleBinding` is appended to `log`, the sequence of watch events.

`UserChange` is what users do; `Cluster.serve` is what the server does for the components, and
`Cluster.serveWith` adds the two ways in which a request can fail: it never reaches the server,
or its answer is lost on the way back.

The `byUser` mark and the revision of a log entry are bookkeeping for statements about runs; no
component reads them.
-/

namespace IdentityFederation

/-- Namespace and name of an object. -/
structure ObjectKey where
  ns : String
  name : String
  deriving DecidableEq

/-- Keys are ordered by namespace, then by name. -/
instance : Ord ObjectKey := ⟨compareLex (compareOn (·.ns)) (compareOn (·.name))⟩

instance : Std.TransOrd ObjectKey := inferInstanceAs (Std.TransCmp (compareLex _ _))

instance : Std.LawfulEqOrd ObjectKey where
  eq_of_compare {a b} h := by
    have h' : compareLex (compareOn ObjectKey.ns) (compareOn ObjectKey.name) a b = .eq := h
    rw [compareLex_eq_eq] at h'
    cases a
    cases b
    simpa [compareOn] using h'

/-! ## Stored objects -/

/-- A stored `CloudRoleBinding`; its key is not repeated. -/
structure StoredCrb where
  generation : ℕ
  resourceVersion : ℕ
  spec : CloudRoleBindingSpec
  status : Option CloudRoleBindingStatus
  generation_pos : 0 < generation

/-- The object as the API returns it. -/
def StoredCrb.object (key : ObjectKey) (c : StoredCrb) : CloudRoleBinding where
  metadata :=
    { name := some key.name, ns := some key.ns, generation := some c.generation,
      resourceVersion := some c.resourceVersion }
  spec := c.spec
  status := c.status

/-- A stored `ResolvedCloudRoleBinding`. -/
structure StoredRcrb where
  spec : ResolvedCloudRoleBindingSpec
  status : Option ResolvedCloudRoleBindingStatus
  deriving DecidableEq

/-- The object as the API returns it. -/
def StoredRcrb.object (key : ObjectKey) (r : StoredRcrb) : ResolvedCloudRoleBinding where
  metadata := { name := some key.name, ns := some key.ns }
  spec := r.spec
  status := r.status

/-- A Secret: a map from entry names to bytes, or no data at all. -/
structure Secret where
  data : Option (BTreeMap String ByteArray)

/-- An Event posted on a Pod (`k8s.rs`, `emit_pod_event`). -/
structure PodEvent where
  ns : String
  podName : String
  reason : String
  eventType : String
  message : String
  deriving DecidableEq

/-- The status of a TokenReview. -/
structure TokenReviewStatus where
  authenticated : Option Bool
  /-- The user, with the username it may carry. -/
  user : Option (Option String)
  deriving DecidableEq

/-! ## Watch events -/

/-- `kube_runtime`'s watcher events for `CloudRoleBinding`s. -/
inductive Event where
  | init
  | initApply (crb : CloudRoleBinding)
  | initDone
  | apply (crb : CloudRoleBinding)
  | delete (crb : CloudRoleBinding)

/-- A watch event with the revision of the write that caused it, and whether a user made it. -/
structure LogEntry where
  event : Event
  revision : ℕ
  byUser : Bool

/-! ## Errors -/

/-- What an API call fails with. -/
inductive ApiError where
  | notFound | conflict | unavailable
  deriving DecidableEq

/-- `anyhow::Error`, as far as the code tells errors apart: a failed API call or a message. -/
inductive Error where
  | api (e : ApiError)
  | msg (text : String)
  deriving DecidableEq

/-! ## The server -/

structure Cluster where
  crbs : BTreeMap ObjectKey StoredCrb
  rcrbs : ObjectKey → Option StoredRcrb
  secrets : ObjectKey → Option Secret
  podEvents : List PodEvent
  log : List LogEntry
  revision : ℕ
  /-- What TokenReview reports of a token. -/
  authenticator : String → Option TokenReviewStatus

/-- A cluster with no objects. -/
def Cluster.empty (authenticator : String → Option TokenReviewStatus) : Cluster where
  crbs := ∅
  rcrbs := fun _ => none
  secrets := fun _ => none
  podEvents := []
  log := []
  revision := 0
  authenticator := authenticator

/-- The requests the components send. -/
inductive ApiRequest where
  | listCrbs (ns : String)
  | replaceCrbStatus (ns name : String) (crb : CloudRoleBinding)
  | patchRcrb (ns name : String) (resolved : ResolvedCloudRoleBinding)
  | patchRcrbStatus (ns name : String) (resolved : ResolvedCloudRoleBinding)
  | getRcrb (ns name : String)
  | createPodEvent (event : PodEvent)
  | createTokenReview (token : String)
  | getSecret (ns name : String)
  | applySecret (ns name : String) (data : BTreeMap String ByteArray)

/-- What a request is answered with when it succeeds. -/
@[reducible] def ApiRequest.Answer : ApiRequest → Type
  | .listCrbs _ => List CloudRoleBinding
  | .getRcrb .. => ResolvedCloudRoleBinding
  | .createTokenReview _ => Option TokenReviewStatus
  | .getSecret .. => Secret
  | .replaceCrbStatus .. | .patchRcrb .. | .patchRcrbStatus .. | .createPodEvent _
  | .applySecret .. => Unit

abbrev ApiResponse (q : ApiRequest) : Type := Except ApiError q.Answer

/-- Programs that call the API. -/
abbrev ApiProgram := Interaction.Program ApiRequest ApiResponse

/-- Programs that call the API and return at the first error (`?`). -/
abbrev ApiM := ExceptT Error ApiProgram

/-- One API call followed by `?`. -/
def ApiM.send (q : ApiRequest) : ApiM q.Answer :=
  ExceptT.mk (.call q fun r => .ret (r.mapError Error.api))

/-- An object that does not exist is `None`, not an error. -/
def ApiM.opt {α : Type} : Except ApiError α → Except Error (Option α)
  | .ok a => .ok (some a)
  | .error .notFound => .ok none
  | .error e => .error (.api e)

/-- `Api::get_opt` followed by `?`. -/
def ApiM.sendOpt (q : ApiRequest) : ApiM (Option q.Answer) :=
  ExceptT.mk (.call q fun r => .ret (ApiM.opt r))

namespace Cluster

/-- `Api::list` in a namespace: the objects in key order. -/
def list (s : Cluster) (ns : String) : List CloudRoleBinding :=
  s.crbs.toList.filterMap fun p => if p.1.ns = ns then some (p.2.object p.1) else none

/-- Replace the stored binding `key`, in place. -/
def updateCrb (s : Cluster) (key : ObjectKey) (c : StoredCrb) : BTreeMap ObjectKey StoredCrb :=
  s.crbs.map fun k old => if k = key then c else old

/-- `replace_status`: the status of an existing object is replaced when the request carries its
current `resourceVersion` (or none); a write that changes nothing is not recorded. -/
def replaceCrbStatus (s : Cluster) (ns name : String) (crb : CloudRoleBinding) :
    Except ApiError Unit × Cluster :=
  match s.crbs[ObjectKey.mk ns name]? with
  | none => (.error .notFound, s)
  | some c =>
      if crb.metadata.resourceVersion ≠ none ∧
          crb.metadata.resourceVersion ≠ some c.resourceVersion then
        (.error .conflict, s)
      else if crb.status = c.status then (.ok (), s)
      else
        let c' := { c with status := crb.status, resourceVersion := s.revision + 1 }
        (.ok (),
          { s with
            crbs := s.updateCrb ⟨ns, name⟩ c'
            revision := s.revision + 1
            log := s.log ++ [⟨.apply (c'.object ⟨ns, name⟩), s.revision + 1, false⟩] })

/-- `patch` with `Patch::Apply` on the object: the spec is written, a status is kept. -/
def patchRcrb (s : Cluster) (ns name : String) (resolved : ResolvedCloudRoleBinding) : Cluster :=
  let old := s.rcrbs ⟨ns, name⟩
  { s with
    rcrbs := Function.update s.rcrbs ⟨ns, name⟩
      (some { spec := resolved.spec, status := old.bind StoredRcrb.status })
    revision := s.revision + 1 }

/-- `patch_status` with `Patch::Apply`: the status is written, the spec is kept. -/
def patchRcrbStatus (s : Cluster) (ns name : String) (resolved : ResolvedCloudRoleBinding) :
    Except ApiError Unit × Cluster :=
  match s.rcrbs ⟨ns, name⟩ with
  | none => (.error .notFound, s)
  | some old =>
      (.ok (),
        { s with
          rcrbs := Function.update s.rcrbs ⟨ns, name⟩
            (some { spec := old.spec, status := resolved.status })
          revision := s.revision + 1 })

/-- A forced server-side apply of a Secret: the entries it carries are set. -/
def applySecret (s : Cluster) (ns name : String) (data : BTreeMap String ByteArray) : Cluster :=
  let old := (s.secrets ⟨ns, name⟩).bind Secret.data
  { s with
    secrets := Function.update s.secrets ⟨ns, name⟩
      (some { data := some ((old.getD ∅) ∪ data) })
    revision := s.revision + 1 }

/-- What the server does with a request that reaches it. -/
def serve (s : Cluster) : (q : ApiRequest) → ApiResponse q × Cluster
  | .listCrbs ns => (.ok (s.list ns), s)
  | .replaceCrbStatus ns name crb => s.replaceCrbStatus ns name crb
  | .patchRcrb ns name resolved => (.ok (), s.patchRcrb ns name resolved)
  | .patchRcrbStatus ns name resolved => s.patchRcrbStatus ns name resolved
  | .getRcrb ns name =>
      (match s.rcrbs ⟨ns, name⟩ with
        | some r => .ok (r.object ⟨ns, name⟩)
        | none => .error .notFound, s)
  | .createPodEvent event => (.ok (), { s with podEvents := s.podEvents ++ [event] })
  | .createTokenReview token => (.ok (s.authenticator token), s)
  | .getSecret ns name =>
      (match s.secrets ⟨ns, name⟩ with
        | some secret => .ok secret
        | none => .error .notFound, s)
  | .applySecret ns name data => (.ok (), s.applySecret ns name data)

end Cluster

/-- How the environment treats a request. -/
inductive Fault where
  /-- The server answers. -/
  | none
  /-- The request fails without having reached the server. -/
  | refused (e : ApiError)
  /-- The server executes the request, but its answer is lost. -/
  | unanswered (e : ApiError)
  deriving DecidableEq

/-- Whether a request that meets the fault takes effect on the server. -/
def Fault.executes : Fault → Bool
  | .none | .unanswered _ => true
  | .refused _ => false

/-- One request under a fault. -/
def Cluster.serveWith (f : Fault) (s : Cluster) (q : ApiRequest) : ApiResponse q × Cluster :=
  match f with
  | .none => s.serve q
  | .refused e => (.error e, s)
  | .unanswered e => (.error e, (s.serve q).2)

/-- A whole run under faults: the first requests meet the faults of the list, the others
none. -/
def Cluster.serveFaulty (s : Cluster × List Fault) (q : ApiRequest) :
    ApiResponse q × (Cluster × List Fault) :=
  let served := Cluster.serveWith (s.2.headD .none) s.1 q
  (served.1, (served.2, s.2.tail))

/-- A request that is answered, followed by `?`. -/
lemma exec_send_answered (q : ApiRequest) (s : Cluster) (later : List Fault) :
    (ApiM.send q).run.exec Cluster.serveFaulty (s, .none :: later) =
      ((s.serve q).1.mapError Error.api, (s.serve q).2, later) := rfl

/-- A request that fails, followed by `?`. -/
lemma exec_send_fails {f : Fault} (hf : f ≠ .none) (q : ApiRequest) (s : Cluster)
    (later : List Fault) :
    ∃ e, (ApiM.send q).run.exec Cluster.serveFaulty (s, f :: later) =
      (.error e, (if f.executes then (s.serve q).2 else s), later) := by
  cases f with
  | none => exact absurd rfl hf
  | refused e => exact ⟨.api e, rfl⟩
  | unanswered e => exact ⟨.api e, rfl⟩

/-- The events a watch begins with: every object that exists. -/
def Cluster.initialEvents (s : Cluster) : List Event :=
  [.init] ++ (s.crbs.toList.map fun p => .initApply (p.2.object p.1)) ++ [.initDone]

/-! ## Users -/

/-- A change users make to the bindings. -/
inductive UserChange where
  | create (key : ObjectKey) (spec : CloudRoleBindingSpec)
  | edit (key : ObjectKey) (spec : CloudRoleBindingSpec)
  | delete (key : ObjectKey)

/-- The binding a change is about. -/
def UserChange.key : UserChange → ObjectKey
  | .create key _ | .edit key _ | .delete key => key

/-- The cluster after a change the server accepts: an object that is created has a name and
does not exist yet, an edit changes the spec of an existing object, an object that is deleted
exists. -/
def UserChange.apply (s : Cluster) : UserChange → Option Cluster
  | .create key spec =>
      match s.crbs[key]? with
      | some _ => none
      | none =>
          if key.name = "" then none
          else
            let c : StoredCrb := ⟨1, s.revision + 1, spec, none, Nat.one_pos⟩
            some { s with
              crbs := s.crbs.insert key c
              revision := s.revision + 1
              log := s.log ++ [⟨.apply (c.object key), s.revision + 1, true⟩] }
  | .edit key spec =>
      match s.crbs[key]? with
      | none => none
      | some c =>
          if spec = c.spec then none
          else
            let c' : StoredCrb :=
              { c with
                generation := c.generation + 1
                resourceVersion := s.revision + 1
                spec := spec
                generation_pos := Nat.succ_pos _ }
            some { s with
              crbs := s.updateCrb key c'
              revision := s.revision + 1
              log := s.log ++ [⟨.apply (c'.object key), s.revision + 1, true⟩] }
  | .delete key =>
      match s.crbs[key]? with
      | none => none
      | some c =>
          let last := { c with resourceVersion := s.revision + 1 }
          some { s with
            crbs := s.crbs.erase key
            revision := s.revision + 1
            log := s.log ++ [⟨.delete (last.object key), s.revision + 1, true⟩] }

end IdentityFederation
