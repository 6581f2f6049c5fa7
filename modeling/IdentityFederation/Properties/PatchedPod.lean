import Mathlib.Data.List.Forall2
import IdentityFederation.Properties.Variables
import IdentityFederation.Webhook.Admission

/-!
# What a patch changes

Applied to the Pod it was made for, the patch of `build_pod_patch` gives a Pod that differs from it
in what injection is about, and in nothing else (`PodSpec.Injects`).  The agent is in it, so the
admission handler leaves the patched Pod alone, whatever has become of the resolved bindings
(`patched_pod`).

`json_patch` is a pair of functions of which this is assumed: the difference of two Pods, applied
to the first, is the second.
-/

namespace IdentityFederation

open Interaction Program

/-! ## What injection may change -/

/-- The container has other injected variables, and at most one mount more. -/
structure Container.Injects (aws : AwsProviderSpec) (c c' : Container) : Prop where
  fields : c' = { c with env := c'.env, volumeMounts := c'.volumeMounts }
  env : c'.envVars.filter (fun e => e.name ∉ injectedNames aws) =
    c.envVars.filter fun e => e.name ∉ injectedNames aws
  mounts : ∃ extra, extra.length ≤ 1 ∧ c'.mounts = c.mounts ++ extra

/-- The agent comes first, the other containers are as they were up to `Container.Injects`, and
the volumes are followed by others. -/
structure PodSpec.Injects (aws : AwsProviderSpec) (spec spec' : PodSpec) : Prop where
  fields : spec' = { spec with
    automountServiceAccountToken := spec'.automountServiceAccountToken
    volumes := spec'.volumes
    initContainers := spec'.initContainers
    containers := spec'.containers }
  automount : spec'.automountServiceAccountToken = some false
  volumes : spec.allVolumes <+: spec'.allVolumes
  initContainers : ∃ agent rest, spec'.initContainers = some (agent :: rest) ∧
    agent.name = "kif-agent" ∧
    List.Forall₂ (Container.Injects aws) (spec.initContainers.getD []) rest
  containers : List.Forall₂ (Container.Injects aws) spec.containers spec'.containers

variable {aws : AwsProviderSpec}

lemma Container.injects_injected (aws : AwsProviderSpec) (c : Container) :
    c.Injects aws (c.injected aws) where
  fields := rfl
  env := setVariables_others aws c.envVars
  mounts := Keyed.exists_ensure_eq_append VolumeMount.name awsVolumeMount c.mounts

lemma forall₂_injected (aws : AwsProviderSpec) (cs : List Container) :
    List.Forall₂ (Container.Injects aws) cs (cs.map (Container.injected aws)) :=
  List.forall₂_map_right_iff.mpr (List.forall₂_same.mpr fun c _ => c.injects_injected aws)

lemma volumes_prefix_withVolumes (volumes : List Volume) : volumes <+: withVolumes volumes := by
  obtain ⟨token, -, htoken⟩ := Keyed.exists_ensure_eq_append Volume.name saTokenVolume volumes
  obtain ⟨shared, -, hshared⟩ :=
    Keyed.exists_ensure_eq_append Volume.name awsVolume (volumes ++ token)
  refine ⟨token ++ shared, ?_⟩
  rw [← List.append_assoc, ← hshared, ← htoken]
  rfl

/-- The injected Pod spec is one that injection may lead to. -/
lemma PodSpec.injects_injected (agent : Container) (hagent : agent.name = "kif-agent")
    (aws : AwsProviderSpec) (spec : PodSpec) : spec.Injects aws (spec.injected agent aws) where
  fields := rfl
  automount := rfl
  volumes := volumes_prefix_withVolumes spec.allVolumes
  initContainers := ⟨agent, _, rfl, hagent, forall₂_injected aws _⟩
  containers := forall₂_injected aws spec.containers

lemma PodSpec.Injects.hasAgent {spec spec' : PodSpec} (h : spec.Injects aws spec') {pod : Pod}
    (hspec : pod.spec = some spec') : podHasContainer pod "kif-agent" = true := by
  obtain ⟨agent, rest, hinits, hagent, -⟩ := h.initContainers
  simp [podHasContainer, hspec, hinits, hagent]

/-- **What a patch changes**, for every Pod without the agent for which `build_pod_patch` returns
one: the agent is the first init container, the original containers follow in order with injected
variables and at most one mount more, the original volumes come first, the ServiceAccount token is
not mounted automatically, and every other field is as it was.  The handler admits the patched Pod
without a patch, in every state of the cluster. -/
theorem patched_pod {Patch : Type} (diff : Pod → Pod → Patch) (apply : Patch → Pod → Pod)
    (hdiff : ∀ a b, apply (diff a b) a = b) {pod : Pod} {agentImage agentImagePullPolicy : String}
    {agentPort : UInt16} {federationUrl serviceAccountName configHash : String} {patch : Patch}
    (hagent : podHasContainer pod "kif-agent" = false)
    (hok : buildPodPatch diff pod agentImage agentImagePullPolicy agentPort federationUrl
      serviceAccountName configHash aws = .ok patch) :
    (∃ spec spec', pod.spec = some spec ∧ apply patch pod = { pod with spec := some spec' } ∧
      spec.Injects aws spec') ∧
    ∀ (cfg : WebhookConfig) (req : AdmissionRequest) (s : Cluster), req.operation = .create →
      req.object = some (apply patch pod) →
      (handle diff cfg ⟨some req⟩).run.exec Cluster.serve s =
        (.ok { uid := req.uid, allowed := true }, s) := by
  obtain ⟨pod', hmutate, hpatch⟩ := Loop.bind_eq_ok.mp hok
  obtain rfl := Except.ok.inj hpatch
  obtain ⟨spec, hspec, rfl⟩ := mutatePod_ok hagent hmutate
  rw [hdiff]
  have hinjects := PodSpec.injects_injected (buildAgentContainer agentImage agentImagePullPolicy
    agentPort federationUrl serviceAccountName configHash) rfl aws spec
  refine ⟨⟨spec, _, hspec, rfl, hinjects⟩, fun cfg req s hcreate hobject => ?_⟩
  rw [handle_run_of_agent hcreate hobject (hinjects.hasAgent rfl)]
  rfl

/-! ### A Pod with an init container -/

/-- A Pod that prepares something before it serves. -/
def preparingPod : Pod where
  name := some "web-1"
  spec := some
    { containers := [ordinaryContainer]
      initContainers := some [{ name := "prepare", image := some "busybox:1.36" }]
      serviceAccountName := some "web" }

/-- The patch that puts the other Pod in the place of the one at hand. -/
def replacePod (_ pod' : Pod) : Pod := pod'

theorem patched_pod_preparing :
    ∃ patch, buildPodPatch replacePod preparingPod "kif-agent:latest" "IfNotPresent" 5004
        "http://kif-federation:5001" "web" "hash" shopRole = .ok patch ∧
      ∃ spec spec', preparingPod.spec = some spec ∧
        patch = { preparingPod with spec := some spec' } ∧ spec.Injects shopRole spec' := by
  have hagent : podHasContainer preparingPod "kif-agent" = false := by decide
  obtain ⟨patch, hok⟩ : ∃ patch, buildPodPatch replacePod preparingPod "kif-agent:latest"
      "IfNotPresent" 5004 "http://kif-federation:5001" "web" "hash" shopRole = .ok patch :=
    ⟨_, Loop.bind_eq_ok.mpr ⟨_, mutatePod_eq_ok rfl hagent (by decide), rfl⟩⟩
  exact ⟨patch, hok, (patched_pod replacePod (fun patch _ => patch) (fun _ _ => rfl) hagent hok).1⟩

end IdentityFederation
