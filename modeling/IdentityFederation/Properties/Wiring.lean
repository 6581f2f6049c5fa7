import IdentityFederation.Agent.Config
import IdentityFederation.Properties.Variables

/-!
# When the containers are wired to the agent's token

The agent writes the token to a volume that the other containers mount.  `Wired` says that the
volumes are the ones that are meant, that the mounts are there, and that the path in
`AWS_WEB_IDENTITY_TOKEN_FILE` leads each container to the file that the agent writes (`Finds`).

Injection goes by names: what has the name of a volume or a mount already stays as it is.  So
the Pod is wired exactly if what was there under these names was right, and nothing was in the way
of a mount that is added (`wired_iff`).
-/

namespace IdentityFederation

/-! ## Paths in a container -/

/-- The names on a path, as the file system follows them. -/
def pathParts (path : String) : List String :=
  (Text.split '/' path).foldl
    (fun parts name =>
      if name = "" ∨ name = "." then parts
      else if name = ".." then parts.dropLast
      else parts ++ [name]) []

/-- The mount shows the volume from its root. -/
def VolumeMount.whole (m : VolumeMount) : Bool :=
  m.other.all fun p => (p.1 ≠ "subPath" && p.1 ≠ "subPathExpr") || p.2 = "\"\""

/-- The path leads to a file of the volume: a mount of the volume is on the path, and deeper than
every other mount on it. -/
def Finds (mounts : List VolumeMount) (path volume : String) (file : List String) : Prop :=
  ∃ m ∈ mounts, m.name = volume ∧ m.whole = true ∧
    pathParts path = pathParts m.mountPath ++ file ∧
    ∀ m' ∈ mounts, m' ≠ m → pathParts m'.mountPath <+: pathParts path →
      (pathParts m'.mountPath).length < (pathParts m.mountPath).length

instance (mounts : List VolumeMount) (path volume : String) (file : List String) :
    Decidable (Finds mounts path volume file) :=
  inferInstanceAs (Decidable (∃ m ∈ mounts, _ ∧ _ ∧ _ ∧ ∀ m' ∈ mounts, _ → _ → _))

/-- The volume is mounted at the directory of the token. -/
def MountsAws (mounts : List VolumeMount) (readOnly : Bool) : Prop :=
  ∃ m ∈ mounts, m.name = "kif-aws" ∧ m.mountPath = "/var/run/kif/aws" ∧
    m.readOnly.getD false = readOnly

instance (mounts : List VolumeMount) (readOnly : Bool) : Decidable (MountsAws mounts readOnly) :=
  inferInstanceAs (Decidable (∃ m ∈ mounts, _ ∧ _ ∧ _))

/-! ## Wired Pods -/

/-- The volume has a ServiceAccount token under `token`. -/
def Volume.projectsToken (v : Volume) : Bool :=
  ((v.projected.bind ProjectedVolumeSource.sources).getD []).any fun source =>
    source.serviceAccountToken.any fun t => t.path = "token"

/-- The agent and the other containers share the token file. -/
structure Wired (aws : AwsProviderSpec) (spec : PodSpec) : Prop where
  awsVolume : ∃ v, Keyed.entries Volume.name spec.allVolumes "kif-aws" = [v] ∧
    v.emptyDir.isSome = true
  saTokenVolume : ∃ v, Keyed.entries Volume.name spec.allVolumes "kif-sa-token" = [v] ∧
    v.projectsToken = true
  /-- The agent writes to the token file of the volume, if it takes the path from its
  container. -/
  agent : ∃ c ∈ spec.allContainers, c.name = "kif-agent" ∧ MountsAws c.mounts false ∧
    ∀ env namespaceFile cfg,
      env "AWS_TOKEN_PATH" = (effective c.envVars "AWS_TOKEN_PATH").bind EnvVar.value →
      Agent.AgentConfig.fromEnv env namespaceFile = .ok cfg →
      Finds c.mounts cfg.awsTokenPath "kif-aws" ["token"]
  /-- The other containers read it. -/
  others : ∀ c ∈ spec.allContainers, c.name ≠ "kif-agent" → MountsAws c.mounts true ∧
    ∀ path, ("AWS_WEB_IDENTITY_TOKEN_FILE", path) ∈ awsVariables aws →
      Finds c.mounts path "kif-aws" ["token"]

/-! ## Pods that can be wired -/

/-- The container sees the token through a mount of its own. -/
def SeesToken (mounts : List VolumeMount) : Prop :=
  MountsAws mounts true ∧ Finds mounts "/var/run/kif/aws/token" "kif-aws" ["token"]

/-- There is no mount of the name, and none at the directory of the token or at its file. -/
def LeavesRoom (mounts : List VolumeMount) : Prop :=
  ∀ m ∈ mounts, m.name ≠ "kif-aws" ∧
    pathParts m.mountPath ≠ pathParts "/var/run/kif/aws" ∧
    pathParts m.mountPath ≠ pathParts "/var/run/kif/aws/token"

/-- The volumes that have the names already are the ones that are meant, and each container sees
the token or leaves room for the mount. -/
structure Wireable (spec : PodSpec) : Prop where
  awsVolume : Keyed.entries Volume.name spec.allVolumes "kif-aws" = [] ∨
    ∃ v, Keyed.entries Volume.name spec.allVolumes "kif-aws" = [v] ∧ v.emptyDir.isSome = true
  saTokenVolume : Keyed.entries Volume.name spec.allVolumes "kif-sa-token" = [] ∨
    ∃ v, Keyed.entries Volume.name spec.allVolumes "kif-sa-token" = [v] ∧ v.projectsToken = true
  containers : ∀ c ∈ spec.allContainers, SeesToken c.mounts ∨ LeavesRoom c.mounts

variable {aws : AwsProviderSpec} {spec : PodSpec} {pod : Pod} {agentImage : String}
  {agentImagePullPolicy : String} {agentPort : UInt16}
  {federationUrl serviceAccountName configHash : String}

/-! ### The volumes -/

/-- A volume that is added unless there is one of its name is the only one of that name and as it
is meant, exactly if the one that was there was. -/
lemma only_volume_iff {name : String} {volume : Volume} {good : Volume → Prop} (hgood : good volume)
    (volumes : List Volume) :
    (∃ v, (if name ∈ volumes.map Volume.name then Keyed.entries Volume.name volumes name
        else [volume]) = [v] ∧ good v) ↔
      Keyed.entries Volume.name volumes name = [] ∨
      ∃ v, Keyed.entries Volume.name volumes name = [v] ∧ good v := by
  split
  · rename_i hmem
    have hne : Keyed.entries Volume.name volumes name ≠ [] :=
      fun hnil => Keyed.entries_eq_nil.mp hnil hmem
    exact ⟨.inr, fun h => h.resolve_left hne⟩
  · rename_i hmem
    exact ⟨fun _ => .inl (Keyed.entries_eq_nil.mpr hmem), fun _ => ⟨volume, rfl, hgood⟩⟩

lemma only_awsVolume_iff (volumes : List Volume) :
    (∃ v, Keyed.entries Volume.name (withVolumes volumes) "kif-aws" = [v] ∧
      v.emptyDir.isSome = true) ↔
      Keyed.entries Volume.name volumes "kif-aws" = [] ∨
      ∃ v, Keyed.entries Volume.name volumes "kif-aws" = [v] ∧ v.emptyDir.isSome = true := by
  rw [entries_withVolumes_aws]
  exact @only_volume_iff _ awsVolume (fun v => v.emptyDir.isSome = true) rfl volumes

lemma only_saTokenVolume_iff (volumes : List Volume) :
    (∃ v, Keyed.entries Volume.name (withVolumes volumes) "kif-sa-token" = [v] ∧
      v.projectsToken = true) ↔
      Keyed.entries Volume.name volumes "kif-sa-token" = [] ∨
      ∃ v, Keyed.entries Volume.name volumes "kif-sa-token" = [v] ∧ v.projectsToken = true := by
  rw [entries_withVolumes_saToken]
  exact only_volume_iff (by decide) volumes

/-! ### The containers -/

/-- The agent's mounts lead it to the token file. -/
lemma finds_agent (c : Container)
    (hc : c = buildAgentContainer agentImage agentImagePullPolicy agentPort federationUrl
      serviceAccountName configHash) :
    MountsAws c.mounts false ∧ ∀ env namespaceFile cfg,
      env "AWS_TOKEN_PATH" = (effective c.envVars "AWS_TOKEN_PATH").bind EnvVar.value →
      Agent.AgentConfig.fromEnv env namespaceFile = .ok cfg →
      Finds c.mounts cfg.awsTokenPath "kif-aws" ["token"] := by
  subst hc
  have hmounts : MountsAws (buildAgentContainer "" "" 0 "" "" "").mounts false := by decide
  have hfinds : Finds (buildAgentContainer "" "" 0 "" "" "").mounts "/var/run/kif/aws/token"
      "kif-aws" ["token"] := by decide
  refine ⟨hmounts, fun env namespaceFile cfg henv hcfg => ?_⟩
  obtain ⟨-, -, -, -, hpath⟩ := Agent.fromEnv_ok hcfg
  rw [hpath, henv]
  exact hfinds

lemma pathParts_tokenFile :
    pathParts "/var/run/kif/aws/token" = ["var", "run", "kif", "aws", "token"] := by decide

lemma pathParts_tokenDirectory :
    pathParts "/var/run/kif/aws" = ["var", "run", "kif", "aws"] := by decide

/-- What is on the way to the token file and not above its directory is in the way of the
mount. -/
lemma length_lt_of_leavesRoom {mounts : List VolumeMount} (h : LeavesRoom mounts)
    {m : VolumeMount} (hm : m ∈ mounts)
    (hon : pathParts m.mountPath <+: pathParts "/var/run/kif/aws/token") :
    (pathParts m.mountPath).length < 4 := by
  obtain ⟨-, hdirectory, hfile⟩ := h m hm
  rw [pathParts_tokenFile] at hon hfile
  rw [pathParts_tokenDirectory] at hdirectory
  have hlength : (pathParts m.mountPath).length ≤ 5 := hon.length_le
  have htake := List.prefix_iff_eq_take.mp hon
  by_contra hlong
  have hcases : (pathParts m.mountPath).length = 4 ∨ (pathParts m.mountPath).length = 5 := by omega
  rcases hcases with hfour | hfive
  · rw [hfour] at htake
    exact hdirectory htake
  · rw [hfive] at htake
    exact hfile htake

/-- **A container sees the token** after the injection if it saw it before, or left room. -/
lemma seesToken_injected (c : Container) :
    SeesToken (c.injected aws).mounts ↔ SeesToken c.mounts ∨ LeavesRoom c.mounts := by
  rw [Container.injected_mounts]
  by_cases hname : awsVolumeMount.name ∈ c.mounts.map VolumeMount.name
  · -- The mount that is there stays.
    rw [Keyed.ensure_of_mem hname]
    refine ⟨.inl, fun h => h.resolve_right fun hroom => ?_⟩
    obtain ⟨m, hm, heq⟩ := List.mem_map.mp hname
    exact (hroom m hm).1 heq
  · rw [Keyed.ensure_of_notMem hname]
    have hother : ∀ m ∈ c.mounts, m.name ≠ "kif-aws" :=
      fun m hm heq => hname (List.mem_map.mpr ⟨m, hm, heq⟩)
    constructor
    · rintro ⟨-, m, hm, hvolume, -, -, hdeepest⟩
      refine .inr fun m' hm' => ⟨hother m' hm', ?_⟩
      have hne : m' ≠ m := fun heq => hother m' hm' (heq ▸ hvolume)
      -- The mount that leads to the file is the one that was added.
      have hadded : m = awsVolumeMount := by
        rcases List.mem_append.mp hm with hm | hm
        · exact absurd hvolume (hother m hm)
        · exact List.mem_singleton.mp hm
      have hdeepest := hdeepest m' (List.mem_append_left _ hm') hne
      have hdepth : (pathParts m.mountPath).length = 4 := by
        rw [hadded]
        decide
      rw [hdepth] at hdeepest
      constructor
      · intro heq
        rw [heq] at hdeepest
        exact absurd (hdeepest (by decide)) (by decide)
      · intro heq
        rw [heq] at hdeepest
        exact absurd (hdeepest (by decide)) (by decide)
    · rintro (⟨⟨m, hm, hvolume, -⟩, -⟩ | hroom)
      · exact absurd hvolume (hother m hm)
      · have hadded : awsVolumeMount ∈ c.mounts ++ [awsVolumeMount] := by simp
        refine ⟨⟨awsVolumeMount, hadded, rfl, rfl, rfl⟩, awsVolumeMount, hadded, rfl, rfl, by decide,
          fun m' hm' hne hon => ?_⟩
        rcases List.mem_append.mp hm' with hm' | hm'
        · exact length_lt_of_leavesRoom hroom hm' hon
        · exact absurd (List.mem_singleton.mp hm') hne

/-! ### The Pod -/

/-- The variable of the token file is the same in every AWS block. -/
lemma mem_awsVariables_tokenFile {path : String} :
    ("AWS_WEB_IDENTITY_TOKEN_FILE", path) ∈ awsVariables aws ↔ path = "/var/run/kif/aws/token" := by
  unfold awsVariables
  cases aws.region <;> cases aws.stsRegionalEndpoints <;> simp

/-- **When a Pod is wired.**  For a Pod without the agent and a role that is not blank, the Pod
that `build_pod_patch` arrives at is wired exactly if the volumes of the two names that the Pod
has are the ones that are meant, and each container sees the token already, or leaves room for the
mount that makes it see the token. -/
theorem wired_iff (hspec : pod.spec = some spec) (hagent : podHasContainer pod "kif-agent" = false)
    (hrole : Text.trim aws.roleArn ≠ "") (agentImage agentImagePullPolicy : String)
    (agentPort : UInt16) (federationUrl serviceAccountName configHash : String) :
    (∃ pod' spec', mutatePod pod agentImage agentImagePullPolicy agentPort federationUrl
        serviceAccountName configHash aws = .ok pod' ∧ pod'.spec = some spec' ∧ Wired aws spec') ↔
      Wireable spec := by
  rw [mutatePod_eq_ok hspec hagent hrole]
  have hnames := (podHasContainer_eq_false hspec).mp hagent
  constructor
  · rintro ⟨pod', spec', hok, hspec', hwired⟩
    obtain rfl := Except.ok.inj hok
    obtain rfl := Option.some.inj hspec'
    refine ⟨(only_awsVolume_iff _).mp hwired.awsVolume,
      (only_saTokenVolume_iff _).mp hwired.saTokenVolume, fun c hc => ?_⟩
    have hmem : c.injected aws ∈ (spec.injected (buildAgentContainer agentImage
        agentImagePullPolicy agentPort federationUrl serviceAccountName configHash)
        aws).allContainers := by
      rw [PodSpec.injected_allContainers]
      exact List.mem_cons_of_mem _ (List.mem_map_of_mem hc)
    obtain ⟨hmounts, hfinds⟩ := hwired.others _ hmem (hnames c hc)
    exact (seesToken_injected c).mp ⟨hmounts, hfinds _ (mem_awsVariables_tokenFile.mpr rfl)⟩
  · intro h
    refine ⟨_, _, rfl, rfl, (only_awsVolume_iff _).mpr h.awsVolume,
      (only_saTokenVolume_iff _).mpr h.saTokenVolume, ?_, fun c hc hname => ?_⟩
    · refine ⟨buildAgentContainer agentImage agentImagePullPolicy agentPort federationUrl
        serviceAccountName configHash, ?_, rfl, finds_agent _ rfl⟩
      rw [PodSpec.injected_allContainers]
      exact List.mem_cons_self
    · rw [PodSpec.injected_allContainers] at hc
      rcases List.mem_cons.mp hc with rfl | hc
      · exact absurd rfl hname
      · obtain ⟨c₀, hc₀, rfl⟩ := List.mem_map.mp hc
        obtain ⟨hmounts, hfinds⟩ := (seesToken_injected c₀).mpr (h.containers c₀ hc₀)
        refine ⟨hmounts, fun path hpath => ?_⟩
        rwa [mem_awsVariables_tokenFile.mp hpath]

/-! ### A Pod with a volume of its own, and one that has the name already -/

/-- A container with a mount of its own. -/
def shopContainer : Container where
  name := "app"
  volumeMounts := some [{ name := "cache", mountPath := "/var/cache" }]

/-- A Pod with one volume, and one container that mounts it. -/
def shopPod (volume : Volume) : Pod where
  spec := some { containers := [shopContainer], volumes := some [volume] }

theorem wired_iff_shop :
    ∃ pod' spec', mutatePod (shopPod { name := "cache", emptyDir := some {} }) "kif-agent:latest"
        "IfNotPresent" 5004 "http://kif-federation:5001" "app" "hash" shopRole = .ok pod' ∧
      pod'.spec = some spec' ∧ Wired shopRole spec' := by
  refine (wired_iff rfl (by decide) (by decide) _ _ _ _ _ _).mpr ⟨.inl (by decide), .inl (by decide),
    fun c hc => .inr ?_⟩
  obtain rfl := List.mem_singleton.mp hc
  unfold LeavesRoom
  decide

/-- A directory of the node. -/
def nodeVolume : Volume where
  name := "kif-aws"
  other := [("hostPath", "\x7b\"path\":\"/var/tmp\"\x7d")]

/-- **A volume that has the name already**: the token goes to a directory of the node. -/
theorem host_path_not_wired :
    ¬ ∃ pod' spec', mutatePod (shopPod nodeVolume) "kif-agent:latest" "IfNotPresent" 5004
        "http://kif-federation:5001" "app" "hash" shopRole = .ok pod' ∧
      pod'.spec = some spec' ∧ Wired shopRole spec' := by
  have hagent : podHasContainer (shopPod nodeVolume) "kif-agent" = false := by decide
  have hrole : Text.trim shopRole.roleArn ≠ "" := by decide
  rintro ⟨pod', spec', hok, hspec', hwired⟩
  rw [mutatePod_eq_ok rfl hagent hrole] at hok
  obtain rfl := Except.ok.inj hok
  obtain rfl := Option.some.inj hspec'
  obtain ⟨v, hv, hemptyDir⟩ := hwired.awsVolume
  obtain rfl : nodeVolume = v := List.singleton_inj.mp hv
  cases hemptyDir

end IdentityFederation
