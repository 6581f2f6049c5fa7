import Mathlib.Tactic.Common
import IdentityFederation.Webhook.Mutate

/-!
# The admission handler (`kif-webhook/src/admission.rs`)

`handle` answers one AdmissionReview.  A Pod whose ServiceAccount has no resolved binding is
admitted unchanged; one whose resolved binding is not `Ready` goes through the admission failure
mode (`failOrSkip`); the others get the agent injected.
-/

namespace IdentityFederation

inductive AdmissionFailureMode where
  | fail | ignore
  deriving DecidableEq

structure WebhookConfig where
  admissionFailureMode : AdmissionFailureMode
  agentImage : String
  agentImagePullPolicy : String
  agentPort : UInt16
  federationUrl : String
  deriving DecidableEq

inductive Operation where
  | create | update | delete | connect
  deriving DecidableEq

structure AdmissionRequest where
  uid : String
  operation : Operation
  /-- The namespace of the request. -/
  ns : Option String
  object : Option Pod
  deriving DecidableEq

structure AdmissionReview where
  request : Option AdmissionRequest
  deriving DecidableEq

structure AdmissionResponse (Patch : Type) where
  uid : String
  allowed : Bool
  patch : Option Patch := none
  /-- The message of a denial. -/
  message : Option String := none
  deriving DecidableEq

def isReady (resolved : ResolvedCloudRoleBinding) : Bool :=
  match resolved.status with
  | none => false
  | some status =>
      status.conditions.any fun c => c.type = .ready && c.status = .true

/-- `emit_pod_event`, whose result the caller drops. -/
def emitPodEvent (ns podName reason eventType message : String) : ApiM Unit :=
  ExceptT.mk (.call
    (.createPodEvent
      { ns := ns, podName := podName, reason := reason, eventType := eventType,
        message := message })
    fun _ => .ret (.ok ()))

/-- The namespace a request is about. -/
def AdmissionRequest.nsOrDefault (req : AdmissionRequest) : String := req.ns.getD "default"

/-- The ServiceAccount a Pod runs under. -/
def Pod.saName (pod : Pod) : String := (pod.spec.bind (·.serviceAccountName)).getD "default"

section Handle

variable {Patch : Type}

/-- `AdmissionResponse::from`. -/
def AdmissionResponse.ofRequest (req : AdmissionRequest) : AdmissionResponse Patch where
  uid := req.uid
  allowed := true

def failOrSkip (cfg : WebhookConfig) (req : AdmissionRequest) (podName message : String) :
    ApiM (AdmissionResponse Patch) :=
  let resp : AdmissionResponse Patch := .ofRequest req
  match cfg.admissionFailureMode with
  | .fail => return { resp with allowed := false, message := some message }
  | .ignore => do
      emitPodEvent req.nsOrDefault podName "InjectionSkipped" "Warning"
        ("Injection skipped (ADMISSION_FAILURE_MODE=Ignore): " ++ message)
      return { resp with allowed := true }

/-- `handle` once the resolved binding was found. -/
def handleResolved (diff : Pod → Pod → Patch) (cfg : WebhookConfig) (req : AdmissionRequest)
    (pod : Pod) (resolved : ResolvedCloudRoleBinding) :
    ApiM (AdmissionResponse Patch) :=
  let resp : AdmissionResponse Patch := .ofRequest req
  if ¬ isReady resolved then
    failOrSkip cfg req (pod.name.getD "unknown")
      ("ResolvedCloudRoleBinding not Ready for " ++ req.nsOrDefault ++ "/" ++ pod.saName)
  else
    match resolved.status.bind (·.configHash) with
    | none => throw (.msg "ResolvedCloudRoleBinding.status.configHash is required")
    | some configHash =>
        match resolved.spec.providers.aws with
        | none => throw (.msg "AWS provider is required (current support is AWS only)")
        | some aws =>
            match buildPodPatch diff pod cfg.agentImage cfg.agentImagePullPolicy cfg.agentPort
                cfg.federationUrl pod.saName configHash aws with
            | .error e => throw e
            | .ok patch =>
                return { resp with allowed := true, patch := some patch }

def handle (diff : Pod → Pod → Patch) (cfg : WebhookConfig) (review : AdmissionReview) :
    ApiM (AdmissionResponse Patch) :=
  match review.request with
  | none => throw (.msg "invalid AdmissionReview payload")
  | some req =>
      let resp : AdmissionResponse Patch := .ofRequest req
      if req.operation ≠ .create then return { resp with allowed := true }
      else
        match req.object with
        | none => throw (.msg "missing pod object")
        | some pod =>
            if podHasContainer pod "kif-agent" then return { resp with allowed := true }
            else do
              match ← ApiM.sendOpt (.getRcrb req.nsOrDefault pod.saName) with
              | some resolved => handleResolved diff cfg req pod resolved
              -- No binding for this ServiceAccount: the Pod is not managed.
              | none => return { resp with allowed := true }

/-! ### What becomes of a request -/

variable {diff : Pod → Pod → Patch} {cfg : WebhookConfig} {req : AdmissionRequest} {pod : Pod}
  {s : Cluster}

/-- A Pod that has the agent already is admitted unchanged, without asking the API. -/
lemma handle_run_of_agent (hcreate : req.operation = .create) (hobject : req.object = some pod)
    (hagent : podHasContainer pod "kif-agent" = true) :
    (handle diff cfg ⟨some req⟩).run = .ret (.ok { uid := req.uid, allowed := true }) := by
  simp only [handle, hcreate, ne_eq, not_true_eq_false, if_false, hobject, hagent, if_true]
  rfl

/-- What a request about a Pod without the agent comes to: the stored resolved binding decides. -/
lemma exec_handle (hcreate : req.operation = .create) (hobject : req.object = some pod)
    (hagent : podHasContainer pod "kif-agent" = false) :
    (handle diff cfg ⟨some req⟩).run.exec Cluster.serve s =
      match s.rcrbs ⟨req.nsOrDefault, pod.saName⟩ with
      | none => (.ok { AdmissionResponse.ofRequest req with allowed := true }, s)
      | some r =>
          (handleResolved diff cfg req pod (r.object ⟨req.nsOrDefault, pod.saName⟩)).run.exec
            Cluster.serve s := by
  simp only [handle, hcreate, ne_eq, not_true_eq_false, if_false, hobject, hagent]
  rw [if_neg Bool.false_ne_true, Interaction.Program.exec_run_bind]
  cases hr : s.rcrbs ⟨req.nsOrDefault, pod.saName⟩ with
  | none => simp [ApiM.sendOpt, Cluster.serve, hr, ApiM.opt]
  | some r => simp [ApiM.sendOpt, Cluster.serve, hr, ApiM.opt]

/-- A resolved binding that is not `Ready` takes the request through the failure mode: it is
denied, or admitted with an Event on the Pod. -/
lemma exec_handle_not_ready (hcreate : req.operation = .create)
    (hobject : req.object = some pod) (hagent : podHasContainer pod "kif-agent" = false)
    {r : StoredRcrb} (hr : s.rcrbs ⟨req.nsOrDefault, pod.saName⟩ = some r)
    (hready : isReady (r.object ⟨req.nsOrDefault, pod.saName⟩) = false) :
    ∃ message event,
      (handle diff cfg ⟨some req⟩).run.exec Cluster.serve s =
        match cfg.admissionFailureMode with
        | .fail => (.ok { uid := req.uid, allowed := false, message := some message }, s)
        | .ignore => (.ok { uid := req.uid, allowed := true },
            { s with podEvents := s.podEvents ++ [event] }) := by
  refine ⟨"ResolvedCloudRoleBinding not Ready for " ++ req.nsOrDefault ++ "/" ++ pod.saName,
    { ns := req.nsOrDefault, podName := pod.name.getD "unknown", reason := "InjectionSkipped",
      eventType := "Warning",
      message := "Injection skipped (ADMISSION_FAILURE_MODE=Ignore): " ++
        ("ResolvedCloudRoleBinding not Ready for " ++ req.nsOrDefault ++ "/" ++ pod.saName) }, ?_⟩
  rw [exec_handle hcreate hobject hagent, hr]
  simp only [handleResolved, hready, failOrSkip]
  cases cfg.admissionFailureMode <;> rfl

end Handle

end IdentityFederation
