import IdentityFederation.Framework.Keyed
import IdentityFederation.Framework.Loop
import IdentityFederation.Webhook.Mutate

/-!
# What injection comes to

`Container.injected` and `PodSpec.injected` are what `build_pod_patch` makes of a container and of
a Pod that has no agent yet, without its errors and its order of steps.  The code refines them:
what `mutatePod` returns is the Pod with `PodSpec.injected` (`mutatePod_ok`), and it returns it for
every role that is not blank (`mutatePod_eq_ok`).
-/

namespace IdentityFederation

/-! ## Containers -/

def Container.mounts (c : Container) : List VolumeMount := c.volumeMounts.getD []

def Container.envVars (c : Container) : List EnvVar := c.env.getD []

/-- The variables of an AWS block are set, one after the other. -/
def setVariables (aws : AwsProviderSpec) (env : List EnvVar) : List EnvVar :=
  (awsVariables aws).foldl (fun env p => upsertEnv env p.1 p.2) env

/-- The container with the mount and the variables. -/
def Container.injected (aws : AwsProviderSpec) (c : Container) : Container :=
  { c with
    volumeMounts := some (Keyed.ensure VolumeMount.name awsVolumeMount c.mounts)
    env := some (setVariables aws c.envVars) }

@[simp] lemma Container.injected_mounts (aws : AwsProviderSpec) (c : Container) :
    (c.injected aws).mounts = Keyed.ensure VolumeMount.name awsVolumeMount c.mounts := rfl

@[simp] lemma Container.injected_envVars (aws : AwsProviderSpec) (c : Container) :
    (c.injected aws).envVars = setVariables aws c.envVars := rfl

variable {aws : AwsProviderSpec} {c c' : Container}

lemma injectAwsIntoAppContainer_eq_ok (hrole : Text.trim aws.roleArn ≠ "") (c : Container) :
    injectAwsIntoAppContainer c aws = .ok (c.injected aws) := by
  rw [injectAwsIntoAppContainer, if_neg hrole]
  rfl

lemma injectAwsIntoAppContainer_ok (h : injectAwsIntoAppContainer c aws = .ok c') :
    c' = c.injected aws := by
  by_cases hrole : Text.trim aws.roleArn = ""
  · rw [injectAwsIntoAppContainer, if_pos hrole] at h
    cases h
  · rw [injectAwsIntoAppContainer_eq_ok hrole] at h
    exact (Except.ok.inj h).symm

/-! ## Pods -/

/-- The init containers, and the main ones. -/
def PodSpec.allContainers (spec : PodSpec) : List Container :=
  spec.initContainers.getD [] ++ spec.containers

def PodSpec.allVolumes (spec : PodSpec) : List Volume := spec.volumes.getD []

/-- Both volumes are there. -/
def withVolumes (volumes : List Volume) : List Volume :=
  ensureAwsEmptydirVolume (ensureSaProjectedTokenVolume volumes)

lemma entries_withVolumes_aws (volumes : List Volume) :
    Keyed.entries Volume.name (withVolumes volumes) "kif-aws" =
      if "kif-aws" ∈ volumes.map Volume.name then Keyed.entries Volume.name volumes "kif-aws"
      else [awsVolume] := by
  have hother : Keyed.entries Volume.name (ensureSaProjectedTokenVolume volumes) "kif-aws" =
      Keyed.entries Volume.name volumes "kif-aws" :=
    Keyed.entries_ensure_of_ne (a := saTokenVolume) (by decide)
  have hmem : "kif-aws" ∈ (ensureSaProjectedTokenVolume volumes).map Volume.name ↔
      "kif-aws" ∈ volumes.map Volume.name := by
    rw [← not_iff_not, ← Keyed.entries_eq_nil, ← Keyed.entries_eq_nil, hother]
  rw [← hother]
  simp only [← hmem]
  exact Keyed.entries_ensure_self Volume.name awsVolume _

lemma entries_withVolumes_saToken (volumes : List Volume) :
    Keyed.entries Volume.name (withVolumes volumes) "kif-sa-token" =
      if "kif-sa-token" ∈ volumes.map Volume.name then
        Keyed.entries Volume.name volumes "kif-sa-token"
      else [saTokenVolume] := by
  have hother : Keyed.entries Volume.name (withVolumes volumes) "kif-sa-token" =
      Keyed.entries Volume.name (ensureSaProjectedTokenVolume volumes) "kif-sa-token" :=
    Keyed.entries_ensure_of_ne (a := awsVolume) (by decide)
  rw [hother]
  exact Keyed.entries_ensure_self Volume.name saTokenVolume volumes

/-- The agent comes first, and the other containers have the mount and the variables. -/
def PodSpec.injected (agent : Container) (aws : AwsProviderSpec) (spec : PodSpec) : PodSpec :=
  { spec with
    automountServiceAccountToken := some false
    volumes := some (withVolumes spec.allVolumes)
    initContainers := some (agent :: (spec.initContainers.getD []).map (Container.injected aws))
    containers := spec.containers.map (Container.injected aws) }

@[simp] lemma PodSpec.injected_allContainers (agent : Container) (aws : AwsProviderSpec)
    (spec : PodSpec) :
    (spec.injected agent aws).allContainers =
      agent :: spec.allContainers.map (Container.injected aws) := by
  simp [allContainers, injected]

lemma podHasContainer_eq_false {pod : Pod} {spec : PodSpec} {name : String}
    (hspec : pod.spec = some spec) :
    podHasContainer pod name = false ↔ ∀ c ∈ spec.allContainers, c.name ≠ name := by
  simp only [podHasContainer, hspec, PodSpec.allContainers, Bool.or_eq_false_iff,
    List.any_eq_false, decide_eq_true_eq, List.mem_append]
  constructor
  · rintro ⟨hmain, hinit⟩ c (hc | hc)
    · exact hinit c hc
    · exact hmain c hc
  · exact fun h => ⟨fun c hc => h c (.inr hc), fun c hc => h c (.inl hc)⟩

section MutatePod

variable {pod pod' : Pod} {spec : PodSpec} {agentImage agentImagePullPolicy : String}
  {agentPort : UInt16} {federationUrl serviceAccountName configHash : String}

/-- The loop over the init containers begins with the agent, and leaves it as it is. -/
lemma mapM_initContainers {agent : Container} (hagent : agent.name = "kif-agent")
    (inits : List Container) :
    (agent :: inits).mapM (injectAwsIntoInitContainer · aws) =
      (inits.mapM (injectAwsIntoInitContainer · aws)).map (agent :: ·) := by
  have hskip : injectAwsIntoInitContainer agent aws = .ok agent := if_pos hagent
  rw [List.mapM_cons, hskip]
  cases inits.mapM (injectAwsIntoInitContainer · aws) <;> rfl

/-- **What `build_pod_patch` returns** for a Pod without the agent is the injected Pod. -/
lemma mutatePod_ok (hagent : podHasContainer pod "kif-agent" = false)
    (h : mutatePod pod agentImage agentImagePullPolicy agentPort federationUrl serviceAccountName
      configHash aws = .ok pod') :
    ∃ spec, pod.spec = some spec ∧ pod' = { pod with
      spec := some (spec.injected (buildAgentContainer agentImage agentImagePullPolicy agentPort
        federationUrl serviceAccountName configHash) aws) } := by
  unfold mutatePod at h
  cases hspec : pod.spec with
  | none =>
      rw [hspec] at h
      cases h
  | some spec =>
      rw [hspec] at h
      have hnames := (podHasContainer_eq_false hspec).mp hagent
      obtain ⟨inits, hinits, h⟩ := Loop.bind_eq_ok.mp h
      obtain ⟨containers, hcontainers, h⟩ := Loop.bind_eq_ok.mp h
      rw [mapM_initContainers rfl] at hinits
      cases hrest : (spec.initContainers.getD []).mapM (injectAwsIntoInitContainer · aws) with
      | error e =>
          rw [hrest] at hinits
          cases hinits
      | ok rest =>
          rw [hrest] at hinits
          obtain rfl := Except.ok.inj hinits
          have hrest := Loop.eq_map_of_mapM_ok (fun c hc c' hc' => by
            rw [injectAwsIntoInitContainer,
              if_neg (hnames c (List.mem_append_left _ hc))] at hc'
            exact injectAwsIntoAppContainer_ok hc') hrest
          have hcontainers :=
            Loop.eq_map_of_mapM_ok (fun c _ c' hc' => injectAwsIntoAppContainer_ok hc') hcontainers
          obtain rfl := Except.ok.inj h
          subst hrest hcontainers
          exact ⟨spec, rfl, rfl⟩

/-- It returns the injected Pod for every role that is not blank. -/
lemma mutatePod_eq_ok (hspec : pod.spec = some spec)
    (hagent : podHasContainer pod "kif-agent" = false) (hrole : Text.trim aws.roleArn ≠ "") :
    mutatePod pod agentImage agentImagePullPolicy agentPort federationUrl serviceAccountName
        configHash aws = .ok { pod with
      spec := some (spec.injected (buildAgentContainer agentImage agentImagePullPolicy agentPort
        federationUrl serviceAccountName configHash) aws) } := by
  have hnames := (podHasContainer_eq_false hspec).mp hagent
  have hinits : (spec.initContainers.getD []).mapM (injectAwsIntoInitContainer · aws) =
      .ok ((spec.initContainers.getD []).map (Container.injected aws)) := by
    refine Loop.mapM_ok fun c hc => ?_
    rw [injectAwsIntoInitContainer, if_neg (hnames c (List.mem_append_left _ hc))]
    exact injectAwsIntoAppContainer_eq_ok hrole c
  have hcontainers : spec.containers.mapM (injectAwsIntoAppContainer · aws) =
      .ok (spec.containers.map (Container.injected aws)) :=
    Loop.mapM_ok fun c _ => injectAwsIntoAppContainer_eq_ok hrole c
  have hagent : (buildAgentContainer agentImage agentImagePullPolicy agentPort federationUrl
    serviceAccountName configHash).name = "kif-agent" := rfl
  simp only [mutatePod, hspec, mapM_initContainers hagent, hinits, hcontainers]
  rfl

end MutatePod

end IdentityFederation
