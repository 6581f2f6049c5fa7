import IdentityFederation.Api.Cluster
import IdentityFederation.Framework.AccessControl

/-!
# What the chart lets each component do (`templates/*/rbac.yaml`, `rbac-cluster.yaml`)

The roles of the Helm chart, and what the API server checks of each request: a verb on a resource,
and for a server-side apply that creates its object the verb `create` too.

Each role is bound to the ServiceAccount of one component.  `release` is the namespace of the
release; the Pods of the components run there.
-/

namespace IdentityFederation

open AccessControl

/-! ## Roles -/

/-- `templates/webhook/rbac.yaml`. -/
def webhookGrants : Policy :=
  [{ scope := none
     rules :=
       [{ apiGroups := ["64f.dev"]
          resources := ["cloudrolebindings", "cloudrolebindings/status"]
          verbs := ["get", "list", "watch", "update"] },
        { apiGroups := ["64f.dev"]
          resources := ["resolvedcloudrolebindings", "resolvedcloudrolebindings/status"]
          verbs := ["get", "list", "watch", "create", "update", "patch", "delete"] },
        { apiGroups := [""]
          resources := ["events"]
          verbs := ["create"] }] }]

/-- `templates/federation/rbac.yaml` and `rbac-cluster.yaml`. -/
def federationGrants (release : String) : Policy :=
  [{ scope := some release
     rules :=
       [{ apiGroups := [""]
          resources := ["secrets"]
          verbs := ["get", "create", "patch"] }] },
   { scope := none
     rules :=
       [{ apiGroups := ["authentication.k8s.io"]
          resources := ["tokenreviews"]
          verbs := ["create"] },
        { apiGroups := ["64f.dev"]
          resources := ["resolvedcloudrolebindings"]
          verbs := ["get"] }] }]

/-- `templates/issuer/rbac.yaml`. -/
def issuerGrants (release : String) : Policy :=
  [{ scope := some release
     rules :=
       [{ apiGroups := [""]
          resources := ["secrets"]
          verbs := ["get", "list", "watch"] }] }]

/-- The components that call the API. -/
inductive Component where
  | webhook | federation | issuer
  deriving DecidableEq

def Component.grants (release : String) : Component → Policy
  | .webhook => webhookGrants
  | .federation => federationGrants release
  | .issuer => issuerGrants release

/-! ## What is checked -/

/-- A server-side apply: `patch`, and `create` if the object is new. -/
def applyAccesses (apiGroup resource ns : String) (new : Bool) : List Access :=
  ⟨"patch", apiGroup, resource, some ns⟩ ::
    if new then [⟨"create", apiGroup, resource, some ns⟩] else []

def accesses (s : Cluster) : ApiRequest → List Access
  | .listCrbs ns => [⟨"list", "64f.dev", "cloudrolebindings", some ns⟩]
  | .replaceCrbStatus ns _ _ => [⟨"update", "64f.dev", "cloudrolebindings/status", some ns⟩]
  | .patchRcrb ns name _ =>
      applyAccesses "64f.dev" "resolvedcloudrolebindings" ns (s.rcrbs ⟨ns, name⟩).isNone
  | .patchRcrbStatus ns _ _ => [⟨"patch", "64f.dev", "resolvedcloudrolebindings/status", some ns⟩]
  | .getRcrb ns _ => [⟨"get", "64f.dev", "resolvedcloudrolebindings", some ns⟩]
  | .createPodEvent event => [⟨"create", "", "events", some event.ns⟩]
  | .createTokenReview _ => [⟨"create", "authentication.k8s.io", "tokenreviews", none⟩]
  | .getSecret ns _ => [⟨"get", "", "secrets", some ns⟩]
  | .applySecret ns name _ => applyAccesses "" "secrets" ns (s.secrets ⟨ns, name⟩).isNone

/-- `watcher` lists and watches: the webhook the bindings of all namespaces, the issuer the Secrets
of its own. -/
def watchAccesses (apiGroup resource : String) (ns : Option String) : List Access :=
  [⟨"list", apiGroup, resource, ns⟩, ⟨"watch", apiGroup, resource, ns⟩]

def authorized (policy : Policy) (s : Cluster) (q : ApiRequest) : Bool :=
  (accesses s q).all policy.allows

/-- The server as it answers a component that was granted `policy`.  A component does not tell
`403` from other failures. -/
def Cluster.serveAs (policy : Policy) :
    Fault → Cluster → (q : ApiRequest) → ApiResponse q × Cluster :=
  Interaction.guarded (authorized policy) (fun _ => .error .unavailable) Cluster.serveWith

/-- The same for a whole run under faults. -/
def Cluster.serveFaultyAs (policy : Policy) :
    Cluster × List Fault → (q : ApiRequest) → ApiResponse q × (Cluster × List Fault) :=
  Interaction.guarded (fun s => authorized policy s.1) (fun _ => .error .unavailable)
    (fun _ : Unit => Cluster.serveFaulty) ()

end IdentityFederation
