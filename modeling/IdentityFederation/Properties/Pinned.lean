import IdentityFederation.Properties.Authority
import IdentityFederation.Properties.ConfigHash
import IdentityFederation.Properties.EndToEnd

/-!
# A Pod keeps the configuration it was admitted with

The webhook injects the role of a resolved binding into a Pod, and the hash of the resolved binding
into its agent.  From then on the agent asks with that hash.  Whatever happens to the bindings
afterwards, the agent gets tokens for the configuration of the admission or none
(`pod_keeps_configuration`): the federation service compares the hash with the stored one, and the
stored one is that of the stored specification.

That is so whenever the object is not half written, as long as no two upserts of one object overlap
(`Recorded.Exclusive`): whoever patches the status has patched the specification before, and nobody
has replaced it since.
-/

namespace IdentityFederation

open Interaction Program Story

variable {sha256 : String → String} {ι : Type} [DecidableEq ι] {s₀ : Cluster} {c c' : Recorded ι}

/-! ## Objects that are not half written -/

/-- The resolved binding whose specification the request patches. -/
def ApiRequest.patchedSpec : ApiRequest → Option ObjectKey
  | .patchRcrb ns name _ => some ⟨ns, name⟩
  | _ => none

/-- The resolved binding whose status the request patches. -/
def ApiRequest.patchedStatus : ApiRequest → Option ObjectKey
  | .patchRcrbStatus ns name _ => some ⟨ns, name⟩
  | _ => none

namespace Recorded

variable {s s' : Recorded ι}

/-- The specification of an object is not patched while another worker is about to patch its
status. -/
def Exclusive (s : Recorded ι) : ReplicaLabel ι → Prop
  | .call i fault => fault.executes = true →
      ∀ key ∈ (s.replicas.member i).next.bind ApiRequest.patchedSpec, ∀ j, j ≠ i →
        (s.replicas.member j).next.bind ApiRequest.patchedStatus ≠ some key
  | _ => True

/-- What holds in every state of a run without overlapping upserts. -/
structure Whole (sha256 : String → String) (s : Recorded ι) : Prop where
  objects : ∀ k r, s.replicas.shared.rcrbs k = some r → s.halfWritten k = false →
    Coherent sha256 r
  working : ∀ i, Working sha256 (fun _ _ => True) s.replicas.shared (s.reconciling i)
    (s.replicas.member i)

omit [DecidableEq ι] in
lemma whole_boot {lastList : Key → Option (List CloudRoleBinding)}
    (hstart : AllCoherent sha256 s₀) : (boot s₀ lastList : Recorded ι).Whole sha256 :=
  ⟨fun k r hr _ => hstart k r hr, fun _ => .returned _ _⟩

/-- **Every step leaves the objects that are not half written coherent.** -/
lemma Whole.step {l : ReplicaLabel ι} (hs : s.Whole sha256) (hexclusive : s.Exclusive l)
    (h : s.step sha256 l = some s') : s'.Whole sha256 := by
  cases step_effect hs.working h with
  | quiet hq hworking =>
      refine ⟨fun k r hr hhalf => hs.objects k r (hq.rcrbs ▸ hr) (hq.halfWritten ▸ hhalf), hworking⟩
  | call i heffect hkeys hmembers =>
      -- The others are where they were, if the specification that they have patched is still there.
      have hothers : (∀ j, j ≠ i → ∀ key all now r, s.reconciling j = some key →
          s.replicas.member j = statusPatch key (outcome sha256 key all now) →
          s.replicas.shared.rcrbs key.resolved = some r →
          r.spec = (outcome sha256 key all now).spec →
          ∃ r', s'.replicas.shared.rcrbs key.resolved = some r' ∧
            r'.spec = (outcome sha256 key all now).spec) →
          Working sha256 (fun _ _ => True) s'.replicas.shared (s.reconciling i)
            (s'.replicas.member i) →
          ∀ j, Working sha256 (fun _ _ => True) s'.replicas.shared (s'.reconciling j)
            (s'.replicas.member j) := by
        intro hspec hi j
        rw [hkeys]
        by_cases hji : j = i
        · rwa [hji]
        · rw [hmembers j hji]
          exact (hs.working j).mono (fun _ _ _ _ _ => trivial) fun key hkey all now r _ =>
            hspec j hji key all now r hkey
      cases heffect with
      | list key hkey hnext hshared hlast hhalf hu =>
          refine ⟨fun k r hr hwhole => hs.objects k r (hshared ▸ hr) (hhalf ▸ hwhole),
            hothers (fun j _ key all now r _ _ hr hspec => ⟨r, by rwa [hshared], hspec⟩) ?_⟩
          rw [hkey]
          exact .upserting key _ trivial hu
      | patch key all now hkey _ hf hnext hshared hlast hhalf hworking =>
          have hrcrbs : ∀ k, k ≠ key.resolved →
              s'.replicas.shared.rcrbs k = s.replicas.shared.rcrbs k := fun k hk => by
            rw [hshared]
            exact Function.update_of_ne hk ..
          refine ⟨fun k r hr hwhole => ?_, hothers ?_ (by rwa [hkey])⟩
          · have hk : k ≠ key.resolved := by
              rintro rfl
              rw [hhalf, Function.update_self] at hwhole
              cases hwhole
            rw [hhalf, Function.update_of_ne hk] at hwhole
            exact hs.objects k r ((hrcrbs k hk).symm.trans hr) hwhole
          · intro j hji key' all' now' r _ hmember hr hspec
            by_cases hk : key' = key
            · -- Nobody else is about to patch the status of this object.
              subst hk
              refine absurd ?_ (hexclusive hf key'.resolved (by rw [hnext]; rfl) j hji)
              rw [hmember]
              rfl
            · have hne : key'.resolved ≠ key.resolved := fun heq => hk (resolved_injective heq)
              exact ⟨r, (hrcrbs _ hne).trans hr, hspec⟩
      | finish key all now old res hkey _ _ hold hspec hrcrbs hlast hhalf hmember =>
          refine ⟨fun k r hr hwhole => ?_, hothers ?_ ?_⟩
          · rw [hrcrbs] at hr
            by_cases hk : k = key.resolved
            · subst hk
              rw [Function.update_self] at hr
              obtain rfl := Option.some.inj hr
              exact coherent_outcome sha256 key all now
            · rw [Function.update_of_ne hk] at hr
              rw [hhalf, Function.update_of_ne hk] at hwhole
              exact hs.objects k r hr hwhole
          · intro j _ key' all' now' r _ _ hr hspec'
            by_cases hk : key' = key
            · -- The status patch leaves the specification.
              subst hk
              obtain rfl := Option.some.inj (hold.symm.trans hr)
              exact ⟨_, by rw [hrcrbs, Function.update_self], hspec.symm.trans hspec'⟩
            · have hne : key'.resolved ≠ key.resolved := fun heq => hk (resolved_injective heq)
              exact ⟨r, by rw [hrcrbs, Function.update_of_ne hne, hr], hspec'⟩
          · rw [hmember]
            exact .returned _ _

lemma whole_of_reachable (hs : s.Whole sha256)
    (hreach : Transition.Reachable (Recorded.step sha256) Exclusive s s') : s'.Whole sha256 :=
  hreach.invariant hs fun _ _ _ hs hguard hstep => hs.step hguard hstep

end Recorded

/-! ## What the agent carries -/

/-- The hash that the injected agent carries. -/
lemma literal_configHash {pod pod' : Pod} {agentImage agentImagePullPolicy : String}
    {agentPort : UInt16} {federationUrl serviceAccountName configHash : String}
    {aws : AwsProviderSpec} (hagent : podHasContainer pod "kif-agent" = false)
    (h : mutatePod pod agentImage agentImagePullPolicy agentPort federationUrl serviceAccountName
      configHash aws = .ok pod') :
    ∃ agent, agentOf pod' = some agent ∧ Story.literal agent "CONFIG_HASH" = some configHash := by
  obtain ⟨spec, -, rfl⟩ := mutatePod_ok hagent h
  exact ⟨_, rfl, rfl⟩

/-- A grant compares the hash of the request with the stored one. -/
lemma mintAnswer_configHash {state : Federation.AppState} {clock : ℕ → Time} {s : Cluster}
    {authorization : Option String} {req : Federation.MintRequest}
    (h : (Federation.mintAnswer state clock s authorization req).status = 200) :
    ∃ r, s.rcrbs ⟨req.ns, req.serviceAccountName⟩ = some r ∧
      r.configHash = some req.configHash := by
  obtain ⟨bearer, username, r, -, -, -, hr, hexec⟩ := Federation.exec_mint_ok h
  rw [Federation.mintAnswer, hexec] at h
  obtain ⟨aws, token, -, hhash, -⟩ := Federation.mintResolved_ok h
  exact ⟨r, hr, hhash⟩

/-- A coherent object that has a hash has the hash of its specification. -/
lemma Coherent.configHash_eq {r : StoredRcrb} (h : Coherent sha256 r) {hash : String}
    (hhash : r.configHash = some hash) : hash = configHashOf sha256 r.spec := by
  have hready := h.hashed ⟨"", ""⟩ (by simp [hhash])
  exact Option.some.inj (hhash.symm.trans (h.ready _ hready).2)

/-- **A Pod keeps its configuration.**  Take a run in which no two upserts of one object overlap;
users change bindings, requests fail and workers stop as they like.  A Pod is admitted with a patch
while the object of its ServiceAccount is not half written, and at some later moment, when it is not
half written either, a mint request for the ServiceAccount with the hash that the agent of the Pod
carries is granted.  Then the stored specification has the hash of the one that the Pod was admitted
with.  Unless the digest collides on the two, they are one specification, so the token is signed
from the very configuration of the Pod: its AWS block is the injected one. -/
theorem pod_keeps_configuration {lastList : Key → Option (List CloudRoleBinding)}
    (hstart : AllCoherent sha256 s₀)
    (hadmission : Transition.Reachable (Recorded.step sha256) Recorded.Exclusive
      (Recorded.boot s₀ lastList) c)
    {Patch : Type} {diff : Pod → Pod → Patch} {cfg : WebhookConfig} {req : AdmissionRequest}
    {resp : AdmissionResponse Patch} {patch : Patch} {pod : Pod} (hobject : req.object = some pod)
    (hresp : ((handle diff cfg ⟨some req⟩).run.exec Cluster.serve c.replicas.shared).1 = .ok resp)
    (hpatch : resp.patch = some patch)
    (hwhole : c.halfWritten ⟨req.nsOrDefault, pod.saName⟩ = false)
    (hlater : Transition.Reachable (Recorded.step sha256) Recorded.Exclusive c c')
    (hwhole' : c'.halfWritten ⟨req.nsOrDefault, pod.saName⟩ = false) :
    ∃ pod' agent r aws, patch = diff pod pod' ∧ agentOf pod' = some agent ∧
      c.replicas.shared.rcrbs ⟨req.nsOrDefault, pod.saName⟩ = some r ∧
      r.spec.providers.aws = some aws ∧
      mutatePod pod cfg.agentImage cfg.agentImagePullPolicy cfg.agentPort cfg.federationUrl
        pod.saName (configHashOf sha256 r.spec) aws = .ok pod' ∧
      ∀ state clock authorization (mintReq : Federation.MintRequest),
        mintReq.ns = req.nsOrDefault → mintReq.serviceAccountName = pod.saName →
        Story.literal agent "CONFIG_HASH" = some mintReq.configHash →
        (Federation.mintAnswer state clock c'.replicas.shared authorization mintReq).status = 200 →
        ∃ r', c'.replicas.shared.rcrbs ⟨req.nsOrDefault, pod.saName⟩ = some r' ∧
          configHashOf sha256 r'.spec = configHashOf sha256 r.spec ∧
          (Distinguishes sha256 r'.spec r.spec → r'.spec = r.spec ∧
            TokenFrom state clock c'.replicas.shared authorization mintReq r.spec aws) := by
  obtain ⟨req', pod₀, r, hash, aws, hreq, hobject₀, hagent, hr, hhash, haws, hbuild⟩ :=
    handle_patch hresp hpatch
  obtain rfl := Option.some.inj hreq
  obtain rfl := Option.some.inj (hobject.symm.trans hobject₀)
  have hsound := Recorded.whole_of_reachable (Recorded.whole_boot hstart) hadmission
  have hhash := (hsound.objects _ r hr hwhole).configHash_eq hhash
  obtain ⟨pod', hmutate, hdiff⟩ := Loop.bind_eq_ok.mp hbuild
  obtain ⟨agent, hfound, hliteral⟩ := literal_configHash hagent hmutate
  refine ⟨pod', agent, r, aws, (Except.ok.inj hdiff).symm, hfound, hr, haws, hhash ▸ hmutate,
    fun state clock authorization mintReq hns hsa hcarried hok => ?_⟩
  -- The object that the token comes from has the hash of the admission.
  obtain ⟨username, r', aws', token, hauth, hparse, hr', haws', htoken, hanswer⟩ :=
    Federation.mintAnswer_ok hok
  obtain ⟨r'', hr'', hhash'⟩ := mintAnswer_configHash hok
  obtain rfl := Option.some.inj (hr'.symm.trans hr'')
  rw [hns, hsa] at hr'
  have hsound' := Recorded.whole_of_reachable hsound hlater
  have hhash' := (hsound'.objects _ r' hr' hwhole').configHash_eq hhash'
  have hsame : configHashOf sha256 r'.spec = configHashOf sha256 r.spec := by
    rw [← hhash', ← hhash]
    exact Option.some.inj (hcarried.symm.trans hliteral)
  refine ⟨r', hr', hsame, fun hdigest => ?_⟩
  have hspec : r'.spec = r.spec := hdigest.spec_eq hsame
  rw [hspec] at haws' htoken
  obtain rfl := Option.some.inj (haws.symm.trans haws')
  exact ⟨hspec, username, token, hauth, hparse, haws, htoken, by rw [hanswer]⟩

/-! ### A role that is replaced and restored -/

/-- A Pod of the ServiceAccount, without an agent. -/
def webPod : Pod where
  name := some "web-0"
  spec := some { containers := [{ name := "web" }], serviceAccountName := some "web" }

def webRequest : AdmissionRequest where
  uid := "1"
  operation := .create
  ns := some "apps"
  object := some webPod

/-- A patch is the Pod that it makes. -/
def webAdmission (s : Cluster) : Option Pod :=
  ((handle (fun _ pod => pod)
    ⟨.fail, "kif-agent:latest", "IfNotPresent", 5004, "http://kif-federation:5001"⟩
    ⟨some webRequest⟩).run.exec Cluster.serve s).1.toOption.bind AdmissionResponse.patch

lemma ok_of_toOption {ε α : Type} {res : Except ε α} {a : α} (h : res.toOption = some a) :
    res = .ok a := by
  cases res with
  | error e => cases h
  | ok a' => rw [Option.some.inj h]

/-- The request of the agent of the Pod. -/
def webMintRequest : Federation.MintRequest where
  ns := "apps"
  serviceAccountName := "web"
  configHash := "95dd7d6ac47faf5da85c074b1bd379701f985c64cec11416877fa8236ba06dd0"
  podName := some "web-0"

/-- The status of the answer to it. -/
def webMintStatus (s : Cluster) : ℕ :=
  (Federation.mintAnswer Federation.jsonState (fun _ => 0) s (some "Bearer token")
    webMintRequest).status

/-- A worker reconciles the ServiceAccount. -/
def webReconcile (i : Bool) : List (ReplicaLabel Bool) :=
  [.start i ⟨"apps", "web"⟩ fun _ => 0,
   .call i .none, .call i .none, .call i .none, .call i .none]

def roleCreated : List (ReplicaLabel Bool) :=
  .change (.create ⟨"apps", "role"⟩ (roleBinding "web" "arn:aws:iam::123456789012:role/web")) ::
    webReconcile true

def roleReplaced : List (ReplicaLabel Bool) :=
  .change (.edit ⟨"apps", "role"⟩ (roleBinding "web" "arn:aws:iam::123456789012:role/old")) ::
    webReconcile false

/-- The first reconcile after the last edit leaves the object half written. -/
def roleRestored : List (ReplicaLabel Bool) :=
  [.change (.edit ⟨"apps", "role"⟩ (roleBinding "web" "arn:aws:iam::123456789012:role/web")),
   .start true ⟨"apps", "web"⟩ fun _ => 0,
   .call true .none, .call true .none, .call true .none, .call true (.refused .unavailable)] ++
    webReconcile false

instance (s : Recorded Bool) (l : ReplicaLabel Bool) : Decidable (s.Exclusive l) :=
  match l with
  | .call .. => inferInstanceAs (Decidable (_ → ∀ key ∈ Option.bind _ _, ∀ _ : Bool, _ → _))
  | .change _ | .start .. | .stop _ => .isTrue trivial

/-- The cluster before the run, where a token of the ServiceAccount is known. -/
def webCluster : Cluster :=
  Cluster.empty fun _ =>
    some { authenticated := some true, user := some (some "system:serviceaccount:apps:web") }

def webBoot : Recorded Bool := Recorded.boot webCluster fun _ => none

/-- The hash that the agent of a Pod carries which is admitted now. -/
def webCarried (s : Cluster) : Option String :=
  ((webAdmission s).bind agentOf).bind fun agent => Story.literal agent "CONFIG_HASH"

/-- The object of the ServiceAccount is not half written and grants this role. -/
def HoldsRole (c : Recorded Bool) (roleArn : String) : Prop :=
  c.halfWritten ⟨"apps", "web"⟩ = false ∧
    (c.replicas.shared.rcrbs ⟨"apps", "web"⟩).map StoredRcrb.spec = some (webSpec roleArn)

instance (c : Recorded Bool) (roleArn : String) : Decidable (HoldsRole c roleArn) :=
  inferInstanceAs (Decidable (_ ∧ _))

/-- The role of the admission is replaced and restored.  While it is replaced the agent of the Pod
gets nothing, and when it is restored the agent gets a token for it. -/
theorem pod_keeps_configuration_restored : ∃ (c c₁ c' : Recorded Bool) (pod' : Pod)
    (agent : Container) (aws : AwsProviderSpec),
    Transition.run (Recorded.step roleDigest) webBoot roleCreated = some c ∧
    webAdmission c.replicas.shared = some pod' ∧ agentOf pod' = some agent ∧
    Transition.run (Recorded.step roleDigest) c roleReplaced = some c₁ ∧
    webMintStatus c₁.replicas.shared ≠ 200 ∧
    Transition.run (Recorded.step roleDigest) c₁ roleRestored = some c' ∧
    TokenFrom Federation.jsonState (fun _ => 0) c'.replicas.shared (some "Bearer token")
      webMintRequest (webSpec "arn:aws:iam::123456789012:role/web") aws := by
  have hruns : ((Transition.run (Recorded.step roleDigest) webBoot roleCreated).bind fun c =>
      (Transition.run (Recorded.step roleDigest) c roleReplaced).bind fun c₁ =>
      (Transition.run (Recorded.step roleDigest) c₁ roleRestored).map fun c' =>
        decide (webCarried c.replicas.shared = some webMintRequest.configHash ∧
          HoldsRole c "arn:aws:iam::123456789012:role/web" ∧
          webMintStatus c₁.replicas.shared ≠ 200 ∧
          HoldsRole c' "arn:aws:iam::123456789012:role/web" ∧
          webMintStatus c'.replicas.shared = 200 ∧
          Transition.Guarded (Recorded.step roleDigest) Recorded.Exclusive c roleReplaced ∧
          Transition.Guarded (Recorded.step roleDigest) Recorded.Exclusive c₁ roleRestored)) =
      some true := by decide +kernel
  obtain ⟨c, hrun, hruns⟩ := Option.bind_eq_some_iff.mp hruns
  obtain ⟨c₁, hrun₁, hruns⟩ := Option.bind_eq_some_iff.mp hruns
  obtain ⟨c', hrun', hfacts⟩ := Option.map_eq_some_iff.mp hruns
  obtain ⟨hcarried, ⟨hwhole, hspec⟩, hrefused, ⟨hwhole', hspec'⟩, hok, hguard₁, hguard'⟩ :=
    of_decide_eq_true hfacts
  obtain ⟨agent, hadmitted, hliteral⟩ := Option.bind_eq_some_iff.mp hcarried
  obtain ⟨pod', hpod', hagent⟩ := Option.bind_eq_some_iff.mp hadmitted
  obtain ⟨resp, hresp, hpatch⟩ := Option.bind_eq_some_iff.mp hpod'
  have hstart : AllCoherent roleDigest webCluster := fun k r hr => by cases hr
  have hobject : webRequest.object = some webPod := rfl
  have hguard : Transition.Guarded (Recorded.step roleDigest) Recorded.Exclusive webBoot
      roleCreated := by decide +kernel
  have hlater := (Transition.reachable_of_run hguard₁ hrun₁).trans
    (Transition.reachable_of_run hguard' hrun')
  obtain ⟨pod'', agent', r, aws, hpod'', hagent', hr, haws, -, htokens⟩ :=
    pod_keeps_configuration hstart (Transition.reachable_of_run hguard hrun) hobject
      (ok_of_toOption hresp) hpatch hwhole hlater hwhole'
  obtain rfl : pod' = pod'' := hpod''
  obtain rfl := Option.some.inj (hagent.symm.trans hagent')
  obtain ⟨r', hr', -, hkept⟩ :=
    htokens Federation.jsonState (fun _ => 0) (some "Bearer token") webMintRequest rfl rfl hliteral
      hok
  obtain ⟨r₁, hr₁, hspec⟩ := Option.map_eq_some_iff.mp hspec
  obtain ⟨r₁', hr₁', hspec'⟩ := Option.map_eq_some_iff.mp hspec'
  obtain rfl : r = r₁ := Option.some.inj (hr.symm.trans hr₁)
  obtain rfl : r' = r₁' := Option.some.inj (hr'.symm.trans hr₁')
  obtain ⟨-, htoken⟩ := hkept fun _ => by rw [hspec, hspec']
  rw [hspec] at htoken
  exact ⟨c, c₁, c', pod', agent, aws, hrun, hpod', hagent, hrun₁, hrefused, hrun', htoken⟩

end IdentityFederation
