import IdentityFederation.Webhook.Injection

/-!
# When injection keeps a Pod valid

Four rules of the API server relate the volumes, the containers and the mounts of a Pod
(`PodSpec.Valid`).  The names that injection adds are fresh or stay single, and what it mounts is
declared.  But the mount of the token is added by name: a container that mounts another volume at
the same path gets two mounts there.  Injection keeps a valid Pod valid exactly if no container
does that (`injection_keeps_valid_iff`).
-/

namespace IdentityFederation

/-- The rules of the API server. -/
structure PodSpec.Valid (spec : PodSpec) : Prop where
  volumes : (spec.allVolumes.map Volume.name).Nodup
  containers : (spec.allContainers.map Container.name).Nodup
  mountPaths : ∀ c ∈ spec.allContainers, (c.mounts.map VolumeMount.mountPath).Nodup
  declared : ∀ c ∈ spec.allContainers, ∀ m ∈ c.mounts, m.name ∈ spec.allVolumes.map Volume.name

def Pod.Valid (pod : Pod) : Prop := ∀ spec, pod.spec = some spec → spec.Valid

/-- The container has the mount already, or none at its path. -/
def Container.PathFree (c : Container) : Prop :=
  "kif-aws" ∈ c.mounts.map VolumeMount.name ∨
    "/var/run/kif/aws" ∉ c.mounts.map VolumeMount.mountPath

instance (c : Container) : Decidable c.PathFree := inferInstanceAs (Decidable (_ ∨ _))

variable {aws : AwsProviderSpec} {spec : PodSpec} {pod pod' : Pod}
  {volumes : List Volume}

/-! ## The four rules -/

lemma nodup_withVolumes (h : (volumes.map Volume.name).Nodup) :
    ((withVolumes volumes).map Volume.name).Nodup :=
  Keyed.nodup_ensure (Keyed.nodup_ensure h)

lemma name_mem_withVolumes {name : String} (h : name ∈ volumes.map Volume.name) :
    name ∈ (withVolumes volumes).map Volume.name := by
  obtain ⟨v, hv, rfl⟩ := List.mem_map.mp h
  exact List.mem_map_of_mem (Keyed.mem_ensure_of_mem (Keyed.mem_ensure_of_mem hv))

lemma saToken_mem_withVolumes (volumes : List Volume) :
    "kif-sa-token" ∈ (withVolumes volumes).map Volume.name := by
  obtain ⟨v, hv, hname⟩ :=
    List.mem_map.mp (Keyed.key_mem_ensure Volume.name saTokenVolume volumes)
  exact List.mem_map.mpr ⟨v, Keyed.mem_ensure_of_mem hv, hname⟩

lemma aws_mem_withVolumes (volumes : List Volume) :
    "kif-aws" ∈ (withVolumes volumes).map Volume.name :=
  Keyed.key_mem_ensure Volume.name awsVolume _

/-- The mounts of an injected container are at different paths, if the path of the token was
free. -/
lemma nodup_injected_iff {c : Container} (h : (c.mounts.map VolumeMount.mountPath).Nodup) :
    ((c.injected aws).mounts.map VolumeMount.mountPath).Nodup ↔ c.PathFree := by
  rw [Container.injected_mounts, Container.PathFree]
  by_cases hname : awsVolumeMount.name ∈ c.mounts.map VolumeMount.name
  · rw [Keyed.ensure_of_mem hname]
    exact ⟨fun _ => .inl hname, fun _ => h⟩
  · have hpaths : ((c.mounts ++ [awsVolumeMount]).map VolumeMount.mountPath).Nodup ↔
        "/var/run/kif/aws" ∉ c.mounts.map VolumeMount.mountPath := by
      rw [List.map_append, List.nodup_append']
      simp [h, awsVolumeMount]
    rw [Keyed.ensure_of_notMem hname, hpaths]
    exact ⟨.inr, fun hfree => hfree.resolve_left hname⟩

/-- What an injected container mounts is declared. -/
lemma declared_injected {c : Container}
    (h : ∀ m ∈ c.mounts, m.name ∈ volumes.map Volume.name) {m : VolumeMount}
    (hm : m ∈ (c.injected aws).mounts) : m.name ∈ (withVolumes volumes).map Volume.name := by
  rcases Keyed.mem_ensure.mp hm with hm | ⟨rfl, -⟩
  · exact name_mem_withVolumes (h m hm)
  · exact aws_mem_withVolumes volumes

/-- The rules for the injected Pod, for an agent that keeps them on its own. -/
lemma PodSpec.valid_injected_iff (aws : AwsProviderSpec) (agent : Container) (h : spec.Valid)
    (hfresh : ∀ c ∈ spec.allContainers, c.name ≠ agent.name)
    (hagent : (agent.mounts.map VolumeMount.mountPath).Nodup)
    (hmounts : ∀ m ∈ agent.mounts, m.name = "kif-sa-token" ∨ m.name = "kif-aws") :
    (spec.injected agent aws).Valid ↔ ∀ c ∈ spec.allContainers, c.PathFree := by
  have hall := PodSpec.injected_allContainers agent aws spec
  constructor
  · intro hvalid c hc
    have hmem : c.injected aws ∈ (spec.injected agent aws).allContainers := by
      rw [hall]
      exact List.mem_cons_of_mem _ (List.mem_map_of_mem hc)
    exact (nodup_injected_iff (h.mountPaths c hc)).mp (hvalid.mountPaths _ hmem)
  · intro hfree
    refine ⟨nodup_withVolumes h.volumes, ?_, fun c hc => ?_, fun c hc m hm => ?_⟩
    · rw [hall, List.map_cons, List.map_map]
      refine List.nodup_cons.mpr ⟨fun hname => ?_, h.containers⟩
      obtain ⟨c, hc, hname⟩ := List.mem_map.mp hname
      exact hfresh c hc hname
    · rw [hall] at hc
      rcases List.mem_cons.mp hc with rfl | hc
      · exact hagent
      · obtain ⟨c₀, hc₀, rfl⟩ := List.mem_map.mp hc
        exact (nodup_injected_iff (h.mountPaths c₀ hc₀)).mpr (hfree c₀ hc₀)
    · rw [hall] at hc
      rcases List.mem_cons.mp hc with rfl | hc
      · rcases hmounts m hm with hname | hname
        · rw [hname]
          exact saToken_mem_withVolumes spec.allVolumes
        · rw [hname]
          exact aws_mem_withVolumes spec.allVolumes
      · obtain ⟨c₀, hc₀, rfl⟩ := List.mem_map.mp hc
        exact declared_injected (h.declared c₀ hc₀) hm

/-- **When injection keeps a Pod valid.**  A valid Pod without the agent for which
`build_pod_patch` returns `Ok` stays valid exactly if each container that does not mount `kif-aws`
has no mount at its path. -/
theorem injection_keeps_valid_iff {agentImage agentImagePullPolicy : String} {agentPort : UInt16}
    {federationUrl serviceAccountName configHash : String} (hvalid : pod.Valid)
    (hagent : podHasContainer pod "kif-agent" = false)
    (hok : mutatePod pod agentImage agentImagePullPolicy agentPort federationUrl serviceAccountName
      configHash aws = .ok pod') :
    pod'.Valid ↔ ∀ spec, pod.spec = some spec → ∀ c ∈ spec.allContainers, c.PathFree := by
  obtain ⟨spec, hspec, rfl⟩ := mutatePod_ok hagent hok
  have hiff := PodSpec.valid_injected_iff aws
    (buildAgentContainer agentImage agentImagePullPolicy agentPort federationUrl serviceAccountName
      configHash)
    (hvalid spec hspec) ((podHasContainer_eq_false hspec).mp hagent)
    (by simp [Container.mounts, buildAgentContainer])
    (by simp [Container.mounts, buildAgentContainer])
  constructor
  · intro hvalid' spec' hspec'
    obtain rfl := Option.some.inj (hspec.symm.trans hspec')
    exact hiff.mp (hvalid' _ rfl)
  · intro hfree spec' hspec'
    obtain rfl := Option.some.inj hspec'
    exact hiff.mpr (hfree spec hspec)

/-! ### Two Pods with a volume of their own -/

/-- A Pod whose container mounts its volume at this path. -/
def dataPod (path : String) : Pod where
  spec := some
    { containers := [{ name := "app", volumeMounts := some [{ name := "data", mountPath := path }] }]
      volumes := some [{ name := "data", emptyDir := some {} }] }

lemma dataPod_valid (path : String) : (dataPod path).Valid := by
  intro spec hspec
  obtain rfl := Option.some.inj hspec
  constructor <;> simp [PodSpec.allVolumes, PodSpec.allContainers, Container.mounts]

/-- The AWS block of the Pods. -/
def dataRole : AwsProviderSpec where
  roleArn := "arn:aws:iam::123456789012:role/data"

/-- The Pod with the agent. -/
def injectedDataPod (path : String) : Except Error Pod :=
  mutatePod (dataPod path) "kif-agent:latest" "IfNotPresent" 5004 "http://kif-federation:5001"
    "default" "hash" dataRole

theorem injection_keeps_valid_elsewhere :
    ∃ pod', injectedDataPod "/data" = .ok pod' ∧ pod'.Valid := by
  obtain ⟨pod', hok⟩ : ∃ pod', injectedDataPod "/data" = .ok pod' :=
    ⟨_, mutatePod_eq_ok rfl rfl (by decide)⟩
  refine ⟨pod', hok, (injection_keeps_valid_iff (dataPod_valid _) rfl hok).mpr fun spec hspec => ?_⟩
  obtain rfl := Option.some.inj hspec
  decide

/-- **A mount at the path of the token**: the container ends up with two mounts at one path. -/
theorem path_taken_not_valid :
    (dataPod "/var/run/kif/aws").Valid ∧
      podHasContainer (dataPod "/var/run/kif/aws") "kif-agent" = false ∧
      ∃ pod', injectedDataPod "/var/run/kif/aws" = .ok pod' ∧ ¬ pod'.Valid := by
  refine ⟨dataPod_valid _, rfl, _, mutatePod_eq_ok rfl rfl (by decide), fun hvalid => ?_⟩
  have hpaths := (hvalid _ rfl).mountPaths _ (List.mem_cons_of_mem _ List.mem_cons_self)
  exact absurd hpaths (by decide)

end IdentityFederation
