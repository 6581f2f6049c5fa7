import IdentityFederation.Properties.PatchedPod
import IdentityFederation.Properties.Unmanaged

/-!
# What a Pod can do about the admission policy

Under the failure mode `Fail`, a Pod whose ServiceAccount has a resolved binding is injected,
denied, or met with an error, whatever else is in the Pod, unless it has a container of the agent's
name (`managed_pod_judged`).  That is how the handler knows that it has seen a Pod before, so it
admits every Pod with such a container as it is, also one that wrote the container itself
(`own_agent_admitted`).

The claims hold for a request that fails too, as long as the API does not answer that the resolved
binding does not exist.
-/

namespace IdentityFederation

open Interaction Program

/-- The request is answered, or fails with another error than that there is no such object. -/
def Fault.NotMissing : Fault → Prop
  | .none => True
  | .refused e | .unanswered e => e ≠ .notFound

/-- What may become of a Pod with this resolved binding: an error, a denial, or, if the binding is
`Ready`, the patch that injects the agent. -/
def Judged {Patch : Type} (diff : Pod → Pod → Patch) (cfg : WebhookConfig) (req : AdmissionRequest)
    (pod : Pod) (resolved : ResolvedCloudRoleBinding)
    (result : Except Error (AdmissionResponse Patch)) : Prop :=
  (∃ e, result = .error e) ∨
  (∃ message, result = .ok { uid := req.uid, allowed := false, message := some message }) ∨
  ∃ configHash aws patch, isReady resolved = true ∧
    resolved.status.bind (·.configHash) = some configHash ∧
    resolved.spec.providers.aws = some aws ∧
    buildPodPatch diff pod cfg.agentImage cfg.agentImagePullPolicy cfg.agentPort cfg.federationUrl
      pod.saName configHash aws = .ok patch ∧
    result = .ok { uid := req.uid, allowed := true, patch := some patch }

variable {Patch : Type} {diff : Pod → Pod → Patch} {cfg : WebhookConfig} {req : AdmissionRequest}
  {pod : Pod}

/-- With a resolved binding at hand, no request is needed to judge the Pod. -/
lemma handleResolved_judged (hmode : cfg.admissionFailureMode = .fail)
    (resolved : ResolvedCloudRoleBinding) :
    ∃ result, (handleResolved diff cfg req pod resolved).run = .ret result ∧
      Judged diff cfg req pod resolved result := by
  unfold handleResolved
  split
  · rw [failOrSkip, hmode]
    exact ⟨_, rfl, .inr (.inl ⟨_, rfl⟩)⟩
  rename_i hready
  split
  · exact ⟨_, rfl, .inl ⟨_, rfl⟩⟩
  rename_i configHash hhash
  split
  · exact ⟨_, rfl, .inl ⟨_, rfl⟩⟩
  rename_i aws haws
  cases hpatch : buildPodPatch diff pod cfg.agentImage cfg.agentImagePullPolicy cfg.agentPort
      cfg.federationUrl pod.saName configHash aws with
  | error e => exact ⟨_, rfl, .inl ⟨e, rfl⟩⟩
  | ok patch =>
      exact ⟨_, rfl, .inr (.inr ⟨configHash, aws, patch, not_not.mp hready, hhash, haws, hpatch, rfl⟩)⟩

/-- What a request about a Pod without the agent comes to, when it may fail. -/
lemma exec_handle_fault (hcreate : req.operation = .create) (hobject : req.object = some pod)
    (hagent : podHasContainer pod "kif-agent" = false) {s : Cluster} {r : StoredRcrb}
    (hr : s.rcrbs ⟨req.nsOrDefault, pod.saName⟩ = some r) {f : Fault} (hf : f.NotMissing) :
    (∃ e, (handle diff cfg ⟨some req⟩).run.exec (Cluster.serveWith f) s = (.error e, s)) ∨
    (handle diff cfg ⟨some req⟩).run.exec (Cluster.serveWith f) s =
      (handleResolved diff cfg req pod (r.object ⟨req.nsOrDefault, pod.saName⟩)).run.exec
        (Cluster.serveWith f) s := by
  simp only [handle, hcreate, ne_eq, not_true_eq_false, if_false, hobject, hagent]
  rw [if_neg Bool.false_ne_true, exec_run_bind]
  cases f with
  | none =>
      right
      simp [ApiM.sendOpt, Cluster.serveWith, Cluster.serve, hr, ApiM.opt]
  | refused e | unanswered e =>
      left
      cases e with
      | notFound => exact absurd rfl hf
      | _ => exact ⟨_, rfl⟩

/-- **The policy cannot be side-stepped** by a Pod without a container of the agent's name.  Under
the failure mode `Fail`, and with a resolved binding for its ServiceAccount, its creation ends with
an error, a denial or the patch that injects the agent; it is denied if the resolved binding is not
`Ready`.  A Pod that has a container of that name is admitted as it is. -/
theorem managed_pod_judged (hmode : cfg.admissionFailureMode = .fail)
    (hcreate : req.operation = .create) (hobject : req.object = some pod) {s : Cluster}
    {r : StoredRcrb} (hr : s.rcrbs ⟨req.nsOrDefault, pod.saName⟩ = some r) :
    (podHasContainer pod "kif-agent" = false →
      (∀ f : Fault, f.NotMissing →
        Judged diff cfg req pod (r.object ⟨req.nsOrDefault, pod.saName⟩)
          ((handle diff cfg ⟨some req⟩).run.exec (Cluster.serveWith f) s).1) ∧
      (isReady (r.object ⟨req.nsOrDefault, pod.saName⟩) = false →
        ∃ message, (handle diff cfg ⟨some req⟩).run.exec Cluster.serve s =
          (.ok { uid := req.uid, allowed := false, message := some message }, s))) ∧
    (podHasContainer pod "kif-agent" = true →
      (handle diff cfg ⟨some req⟩).run.exec Cluster.serve s =
        (.ok { uid := req.uid, allowed := true }, s)) := by
  refine ⟨fun hagent => ⟨fun f hf => ?_, fun hready => ?_⟩, fun hagent => ?_⟩
  · rcases exec_handle_fault hcreate hobject hagent hr hf with ⟨e, he⟩ | heq
    · rw [he]
      exact .inl ⟨e, rfl⟩
    · obtain ⟨result, hrun, hjudged⟩ := handleResolved_judged hmode
        (r.object ⟨req.nsOrDefault, pod.saName⟩)
      rw [heq, hrun]
      exact hjudged
  · obtain ⟨message, event, hexec⟩ := exec_handle_not_ready hcreate hobject hagent hr hready
    rw [hmode] at hexec
    exact ⟨message, hexec⟩
  · rw [handle_run_of_agent hcreate hobject hagent]
    rfl

/-! ### A Pod that brings an agent of its own -/

/-- What injection returns has init containers. -/
lemma mutatePod_initContainers {pod pod' : Pod} {agentImage agentImagePullPolicy : String}
    {agentPort : UInt16} {federationUrl serviceAccountName configHash : String}
    {aws : AwsProviderSpec}
    (h : mutatePod pod agentImage agentImagePullPolicy agentPort federationUrl serviceAccountName
      configHash aws = .ok pod') :
    ((pod'.spec.bind PodSpec.initContainers).isSome) = true := by
  unfold mutatePod at h
  split at h
  · cases h
  · obtain ⟨inits, -, h⟩ := Loop.bind_eq_ok.mp h
    obtain ⟨containers, -, h⟩ := Loop.bind_eq_ok.mp h
    obtain rfl := Except.ok.inj h
    rfl

/-- A Pod with a container of the agent's name, and no other. -/
def ownAgentPod : Pod where
  spec := some
    { containers := [{ name := "kif-agent", image := some "busybox:1.36" }]
      serviceAccountName := some "web" }

def ownAgentRequest : AdmissionRequest where
  uid := "1"
  operation := .create
  ns := some "apps"
  object := some ownAgentPod

/-- A resolved binding without a status. -/
def pendingBinding : StoredRcrb where
  spec := { subject := { serviceAccountName := "web" } }
  status := none

/-- The cluster with this resolved binding. -/
def pendingCluster : Cluster :=
  { Cluster.empty fun _ => none with
    rcrbs := Function.update (fun _ => none) ⟨"apps", "web"⟩ (some pendingBinding) }

lemma pendingCluster_rcrbs : pendingCluster.rcrbs ⟨"apps", "web"⟩ = some pendingBinding :=
  rfl

/-- A plain Pod of the ServiceAccount is denied. -/
theorem managed_pod_judged_plain :
    ∃ message, (handle replacePod (defaultConfig .fail) ⟨some (plainRequest ⟨"apps", "web"⟩)⟩).run.exec
        Cluster.serve pendingCluster =
      (.ok { uid := "", allowed := false, message := some message }, pendingCluster) :=
  ((managed_pod_judged rfl rfl rfl pendingCluster_rcrbs).1 rfl).2 rfl

/-- **A Pod with an agent of its own is admitted as it is**, under the failure mode `Fail`,
although the resolved binding of its ServiceAccount is not `Ready`, and although no injection leads
to this Pod. -/
theorem own_agent_admitted :
    pendingCluster.rcrbs ⟨ownAgentRequest.nsOrDefault, ownAgentPod.saName⟩ = some pendingBinding ∧
      (∀ k, isReady (pendingBinding.object k) = false) ∧
      (∀ pod image pullPolicy port url serviceAccount hash aws,
        mutatePod pod image pullPolicy port url serviceAccount hash aws ≠ .ok ownAgentPod) ∧
      (handle replacePod (defaultConfig .fail) ⟨some ownAgentRequest⟩).run.exec Cluster.serve
          pendingCluster =
        (.ok { uid := "1", allowed := true }, pendingCluster) := by
  refine ⟨pendingCluster_rcrbs, fun _ => rfl, fun pod image pullPolicy port url sa hash aws h => ?_, ?_⟩
  · cases mutatePod_initContainers h
  · have hagent : podHasContainer ownAgentPod "kif-agent" = true := by decide
    rw [handle_run_of_agent rfl rfl hagent]
    rfl

end IdentityFederation
