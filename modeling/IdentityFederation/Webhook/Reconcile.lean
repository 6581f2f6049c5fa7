import IdentityFederation.Webhook.Merge
import IdentityFederation.Webhook.Queue

/-!
# Reconciling one ServiceAccount (`kif-webhook/src/reconcile.rs`)

`reconcile` lists the bindings of a namespace, merges those of one ServiceAccount, rewrites
the status of the bindings the outcome concerns and stores the resolved binding.  The two arms
of the Rust `match` on the outcome run the same loop and the same upsert; they differ in which
bindings are marked, in the status they get and in the object that is built, which is what
`marks`, `crbStatusFor` and `resolvedFor` say of a `Verdict`.

`clock` supplies the readings of `Timestamp::now()` in the order in which they are taken.
`watchKey` is what the watcher makes of one event.
-/

namespace IdentityFederation

/-- What `merge_inputs` returns. -/
abbrev Verdict := Except MergeIssue ResolvedCloudRoleBindingSpec

/-- The key that `watch_cloud_role_bindings` enqueues for an event. -/
def watchKey : Event → Option Key
  | .apply crb | .delete crb | .initApply crb =>
      crb.metadata.ns.map fun ns => ⟨ns, crb.spec.subject.serviceAccountName⟩
  | .init | .initDone => none

/-- The bindings whose subject is the ServiceAccount. -/
def relevantCrbs (sa : String) (all : List CloudRoleBinding) : List CloudRoleBinding :=
  all.filter fun crb => crb.spec.subject.serviceAccountName = sa

def sourcesOf (relevant : List CloudRoleBinding) : List CloudRoleBindingRef :=
  relevant.map fun crb => { name := crb.nameOrDefault, generation := crb.metadata.generation }

/-- Where the resolved binding of a ServiceAccount is stored. -/
def Key.resolved (key : Key) : ObjectKey := ⟨key.ns, key.serviceAccountName⟩

/-! ## The two arms of the `match` -/

/-- Success marks every binding, failure those the issue names. -/
def marks : Verdict → String → Bool
  | .ok _, _ => true
  | .error issue, name => issue.affectedCrbNames.any fun n => n = name

def crbStatusFor (verdict : Verdict) (crb : CloudRoleBinding) (now : Time) :
    CloudRoleBindingStatus :=
  match verdict with
  | .ok _ => buildCrbStatus crb true none now
  | .error issue => buildCrbStatus crb false (some issue) now

def resolvedFor (sha256 : String → String) (key : Key) (sources : List CloudRoleBindingRef)
    (verdict : Verdict) (now : Time) : ResolvedCloudRoleBinding :=
  match verdict with
  | .ok merged => buildResolvedFromSpec sha256 key.ns key.serviceAccountName sources merged now
  | .error issue => buildFailedResolved key.ns key.serviceAccountName sources issue now

/-- The loop over the relevant bindings: those that have a name and are marked get their status
replaced. -/
def writeStatuses (ns : String) (verdict : Verdict) :
    (ℕ → Time) → List CloudRoleBinding → ApiM Unit
  | _, [] => pure ()
  | clock, crb :: rest =>
      let name := crb.nameOrDefault
      if name = "" then writeStatuses ns verdict clock rest
      else if marks verdict name then do
        let updated := { crb with status := some (crbStatusFor verdict crb (clock 0)) }
        ApiM.send (.replaceCrbStatus ns name updated)
        writeStatuses ns verdict (fun i => clock (i + 1)) rest
      else writeStatuses ns verdict clock rest

/-! ## `reconcile` -/

/-- The verdict on the bindings of a namespace, for one ServiceAccount. -/
def verdictOn (key : Key) (all : List CloudRoleBinding) : Verdict :=
  mergeInputs key.serviceAccountName (relevantCrbs key.serviceAccountName all)

/-- The object that is stored for the bindings of a namespace, for one ServiceAccount. -/
def outcome (sha256 : String → String) (key : Key) (all : List CloudRoleBinding) (now : Time) :
    ResolvedCloudRoleBinding :=
  resolvedFor sha256 key (sourcesOf (relevantCrbs key.serviceAccountName all)) (verdictOn key all)
    now

/-- `reconcile` once it has listed the bindings. -/
def reconcileListed (sha256 : String → String) (clock : ℕ → Time) (key : Key)
    (all : List CloudRoleBinding) : ApiM Unit := do
  let relevant := relevantCrbs key.serviceAccountName all
  writeStatuses key.ns (verdictOn key all) clock relevant
  upsertResolved key.ns (outcome sha256 key all (clock relevant.length))

/-- Merge the bindings of a ServiceAccount into its `ResolvedCloudRoleBinding`. -/
def reconcile (sha256 : String → String) (clock : ℕ → Time) (key : Key) : ApiM Unit := do
  let all ← ApiM.send (.listCrbs key.ns)
  reconcileListed sha256 clock key all

end IdentityFederation
