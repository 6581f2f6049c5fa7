import IdentityFederation.Properties.Coherence
import IdentityFederation.Properties.Provenance
import IdentityFederation.Properties.Requests

/-!
# Where authority comes from

Reconciles run side by side, lose answers and stop half-way, and two of them may write one
resolved binding.  Still nothing is ever stored that is not the outcome of the bindings as they
were at one moment of the run (`stored_computed`): a reconcile lists once, and all that it writes
is computed from that list.

What users wrote is the only source of bindings, so what a resolved binding grants was written by
a user, in the same namespace and for the same ServiceAccount (`authority_from_users`).  This
holds of the stored objects, of the tokens that are minted from them and of the Pods that are
admitted with them.
-/

namespace IdentityFederation

open Interaction Program

variable {sha256 : String → String} {ι : Type} [DecidableEq ι] {s₀ : Cluster}

/-! ## What is stored was computed from one list -/

/-- The object is the outcome of the bindings at a moment of the run. -/
def Computed (sha256 : String → String) (s₀ : Cluster) (ls : List (ReplicaLabel ι)) (key : Key)
    (resolved : ResolvedCloudRoleBinding) : Prop :=
  ∃ t now, Transition.Visits (Replicas.step sha256) (Replicas.boot s₀) ls t ∧
    resolved = outcome sha256 key (t.shared.list key.ns) now

/-- Every patch carries such an object, of the key that it is stored under. -/
def CarriesComputed (sha256 : String → String) (s₀ : Cluster) (ls : List (ReplicaLabel ι)) :
    ApiRequest → Prop
  | .patchRcrb ns name resolved | .patchRcrbStatus ns name resolved =>
      Computed sha256 s₀ ls ⟨ns, name⟩ resolved
  | _ => True

/-- The specification of a stored object is that of such an object, and so is its status, maybe
of another one; or they are as they were before the run. -/
structure StoredComputed (sha256 : String → String) (s₀ : Cluster) (ls : List (ReplicaLabel ι))
    (key : ObjectKey) (r : StoredRcrb) : Prop where
  spec : (∃ old ∈ s₀.rcrbs key, r.spec = old.spec) ∨
    ∃ resolved, Computed sha256 s₀ ls ⟨key.ns, key.name⟩ resolved ∧ r.spec = resolved.spec
  status : r.status = none ∨ (∃ old ∈ s₀.rcrbs key, r.status = old.status) ∨
    ∃ resolved, Computed sha256 s₀ ls ⟨key.ns, key.name⟩ resolved ∧ r.status = resolved.status

section Longer

variable {ls : List (ReplicaLabel ι)} (more : List (ReplicaLabel ι))

lemma Computed.append {key : Key} {resolved : ResolvedCloudRoleBinding}
    (h : Computed sha256 s₀ ls key resolved) : Computed sha256 s₀ (ls ++ more) key resolved := by
  obtain ⟨t, now, hvisits, heq⟩ := h
  exact ⟨t, now, hvisits.append more, heq⟩

lemma CarriesComputed.append {q : ApiRequest} (h : CarriesComputed sha256 s₀ ls q) :
    CarriesComputed sha256 s₀ (ls ++ more) q := by
  cases q with
  | patchRcrb | patchRcrbStatus => exact Computed.append more h
  | _ => trivial

lemma StoredComputed.append {key : ObjectKey} {r : StoredRcrb}
    (h : StoredComputed sha256 s₀ ls key r) : StoredComputed sha256 s₀ (ls ++ more) key r where
  spec := h.spec.imp_right fun ⟨resolved, hc, heq⟩ => ⟨resolved, hc.append more, heq⟩
  status := h.status.imp_right fun h =>
    h.imp_right fun ⟨resolved, hc, heq⟩ => ⟨resolved, hc.append more, heq⟩

end Longer

variable {ls : List (ReplicaLabel ι)}

/-- A patch that carries a computed object stores computed parts. -/
lemma storedComputed_serve {s : Cluster} {q : ApiRequest}
    (hs : ∀ key r, s.rcrbs key = some r → StoredComputed sha256 s₀ ls key r)
    (hq : CarriesComputed sha256 s₀ ls q) {key : ObjectKey} {r : StoredRcrb}
    (hr : (s.serve q).2.rcrbs key = some r) : StoredComputed sha256 s₀ ls key r := by
  by_cases hw : Cluster.writes q = some key
  · cases q with
    | patchRcrb ns name resolved =>
        obtain rfl := Option.some.inj hw
        simp only [Cluster.serve, Cluster.patchRcrb, Function.update_self, Option.some.injEq] at hr
        subst hr
        refine ⟨.inr ⟨resolved, hq, rfl⟩, ?_⟩
        cases hold : s.rcrbs ⟨ns, name⟩ with
        | none => exact .inl rfl
        | some old => exact (hs _ old hold).status
    | patchRcrbStatus ns name resolved =>
        obtain rfl := Option.some.inj hw
        simp only [Cluster.serve, Cluster.patchRcrbStatus] at hr
        split at hr
        · rename_i hnone
          rw [hnone] at hr
          cases hr
        · rename_i old hold
          simp only [Function.update_self, Option.some.injEq] at hr
          subst hr
          exact ⟨(hs _ old hold).spec, .inr (.inr ⟨resolved, hq, rfl⟩)⟩
    | _ => cases hw
  · exact hs key r ((Cluster.rcrbs_serve s q hw).symm.trans hr)

/-- What a reconcile sends once it has listed. -/
lemma reconcileListed_sends_computed {key : Key} {all : List CloudRoleBinding}
    (hall : ∀ now, Computed sha256 s₀ ls key (outcome sha256 key all now)) (clock : ℕ → Time) :
    (reconcileListed sha256 clock key all).run.Sends (CarriesComputed sha256 s₀ ls) := by
  refine Sends.run_bind ((writeStatuses_sends ..).mono ?_) fun _ => ?_
  · rintro q ⟨name, crb, rfl⟩
    trivial
  · have hnamed : ∀ now, Computed sha256 s₀ ls
        ⟨key.ns, (outcome sha256 key all now).metadata.name.getD ""⟩ (outcome sha256 key all now) := by
      intro now
      rw [name_outcome]
      exact hall now
    simp only [upsertResolved]
    split
    · trivial
    · exact Sends.run_bind (sends_send (hnamed _)) fun _ => sends_send (hnamed _)

/-- Every worker is about to list, or has listed at a moment of the run. -/
structure ComputedReplicas (sha256 : String → String) (s₀ : Cluster) (ls : List (ReplicaLabel ι))
    (c : Replicas ι) : Prop where
  objects : ∀ key r, c.shared.rcrbs key = some r → StoredComputed sha256 s₀ ls key r
  workers : ∀ i, Informed sha256 (CarriesComputed sha256 s₀ ls) (c.member i)

lemma ComputedReplicas.append {c : Replicas ι} (h : ComputedReplicas sha256 s₀ ls c)
    (more : List (ReplicaLabel ι)) : ComputedReplicas sha256 s₀ (ls ++ more) c where
  objects key r hr := (h.objects key r hr).append more
  workers i := (h.workers i).mono fun _ hq => hq.append more

/-- **Every step stores only what was computed from one list.** -/
lemma ComputedReplicas.step {c c' : Replicas ι} {l : ReplicaLabel ι}
    (hrun : Transition.run (Replicas.step sha256) (Replicas.boot s₀) ls = some c)
    (hc : ComputedReplicas sha256 s₀ ls c) (h : Replicas.step sha256 c l = some c') :
    ComputedReplicas sha256 s₀ (ls ++ [l]) c' := by
  refine ComputedReplicas.append ?_ [l]
  have hlists : ListsInform sha256 (CarriesComputed sha256 s₀ ls) c.shared :=
    ⟨fun _ => trivial, fun key clock =>
      reconcileListed_sends_computed (fun now => ⟨c, now, Transition.visits_self hrun, rfl⟩) clock⟩
  obtain ⟨hshared, hworkers⟩ := informed_step hlists hc.workers h
  refine ⟨fun key r hr => ?_, hworkers⟩
  cases hshared with
  | change happly =>
      obtain ⟨effect⟩ := UserChange.apply_eq_some happly
      exact hc.objects key r (effect.rcrbs_eq ▸ hr)
  | serve hq heq => exact storedComputed_serve hc.objects hq (heq ▸ hr)
  | nothing heq => exact hc.objects key r (heq ▸ hr)

lemma computedReplicas_of_run {c : Replicas ι}
    (hrun : Transition.run (Replicas.step sha256) (Replicas.boot s₀) ls = some c) :
    ComputedReplicas sha256 s₀ ls c := by
  refine Transition.run_history hrun ⟨fun key r hr => ?_, fun _ => .inr trivial⟩
    fun _ _ _ _ hrun hI hstep => hI.step hrun hstep
  exact ⟨.inl ⟨r, hr, rfl⟩, .inr (.inl ⟨r, hr, rfl⟩)⟩

/-- **Every stored specification is the outcome of the bindings at one moment of the run**, and so
is every stored status, whatever other workers did meanwhile, whichever requests failed and
wherever workers stopped; what is not was stored before the run. -/
theorem stored_computed {c : Replicas ι}
    (hrun : Transition.run (Replicas.step sha256) (Replicas.boot s₀) ls = some c)
    {key : ObjectKey} {r : StoredRcrb} (hr : c.shared.rcrbs key = some r) :
    StoredComputed sha256 s₀ ls key r :=
  (computedReplicas_of_run hrun).objects key r hr

/-- The first reconcile of a ServiceAccount stores a role. -/
lemma run_firstConfiguration :
    ∃ c : Replicas Unit, Transition.run (Replicas.step webDigest)
        (Replicas.boot (Cluster.empty fun _ => none)) firstConfiguration = some c ∧
      ∃ r aws, c.shared.rcrbs ⟨"apps", "web"⟩ = some r ∧ r.spec.providers.aws = some aws := by
  obtain ⟨c, hrun, hrole⟩ : ∃ c, Transition.run (Replicas.step webDigest)
      (Replicas.boot (Cluster.empty fun _ => none)) firstConfiguration = some c ∧
      grantedRole c.shared ⟨"apps", "web"⟩ = some "arn:aws:iam::123456789012:role/web" :=
    Option.map_eq_some_iff.mp (by decide)
  obtain ⟨aws, haws, -⟩ := Option.map_eq_some_iff.mp hrole
  obtain ⟨r, hr, haws⟩ := Option.bind_eq_some_iff.mp haws
  exact ⟨c, hrun, r, aws, hr, haws⟩

theorem stored_computed_first : ∃ (c : Replicas Unit) (r : StoredRcrb),
    c.shared.rcrbs ⟨"apps", "web"⟩ = some r ∧
      StoredComputed webDigest (Cluster.empty fun _ => none) firstConfiguration ⟨"apps", "web"⟩
        r := by
  obtain ⟨c, hrun, r, -, hr, -⟩ := run_firstConfiguration
  exact ⟨c, r, hr, stored_computed hrun hr⟩

/-! ## What users wrote -/

/-- In the run, a user wrote the specification of a binding of the namespace, for the
ServiceAccount. -/
def WrittenFor (ls : List (ReplicaLabel ι)) (key : Key) (spec : CloudRoleBindingSpec) : Prop :=
  spec.subject.serviceAccountName = key.serviceAccountName ∧
    ∃ name, .change (.create ⟨key.ns, name⟩ spec) ∈ ls ∨ .change (.edit ⟨key.ns, name⟩ spec) ∈ ls

omit [DecidableEq ι] in
lemma WrittenFor.append {key : Key} {spec : CloudRoleBindingSpec} (h : WrittenFor ls key spec)
    (more : List (ReplicaLabel ι)) : WrittenFor (ls ++ more) key spec := by
  obtain ⟨hsa, name, hwrote⟩ := h
  exact ⟨hsa, name, hwrote.imp (List.mem_append_left _) (List.mem_append_left _)⟩

variable {authenticator : String → Option TokenReviewStatus}

/-- **Every binding was written by a user.** -/
lemma written_of_run {c : Replicas ι}
    (hrun : Transition.run (Replicas.step sha256) (Replicas.boot (Cluster.empty authenticator)) ls =
      some c) {k : ObjectKey} {b : StoredCrb} (hb : c.shared.crbs[k]? = some b) :
    WrittenFor ls ⟨k.ns, b.spec.subject.serviceAccountName⟩ b.spec := by
  refine Transition.run_history (I := fun ls (c : Replicas ι) => ∀ (k : ObjectKey) b,
    c.shared.crbs[k]? = some b → WrittenFor ls ⟨k.ns, b.spec.subject.serviceAccountName⟩ b.spec)
    hrun ?_ ?_ k b hb
  · intro k b hb
    simp [Replicas.boot, Cluster.empty] at hb
  rintro ls c l c' - hI hstep k b hb
  by_cases hl : ∃ change, l = .change change
  · obtain ⟨change, rfl⟩ := hl
    obtain ⟨cluster, happly, rfl⟩ := Option.map_eq_some_iff.mp hstep
    by_cases hk : k = change.key
    · subst hk
      refine ⟨rfl, change.key.name, ?_⟩
      rcases change.stored_of_apply happly hb with ⟨hcreate, -⟩ | ⟨hedit, -⟩
      · exact .inl (by rw [← hcreate]; simp)
      · exact .inr (by rw [← hedit]; simp)
    · obtain ⟨effect⟩ := UserChange.apply_eq_some happly
      exact (hI k b ((effect.others k hk).symm.trans hb)).append _
  · have hmem := Cluster.mem_bindings.mpr ⟨b, hb, rfl, rfl⟩
    rw [bindings_step (fun change heq => hl ⟨change, heq⟩) hstep] at hmem
    obtain ⟨old, hold, -, hspec⟩ := Cluster.mem_bindings.mp hmem
    rw [← hspec]
    exact (hI k old hold).append _

/-! ## What a resolved binding grants -/

/-- The extra attributes that a binding, or a resolved one, sets. -/
def extraOf (attributes : Option AttributesSpec) : BTreeMap String String :=
  (attributes.bind AttributesSpec.extra).getD ∅

/-- All that the specification grants was written: its AWS block, each of its extra attributes,
and that provenance is left out of the tokens. -/
structure GrantedBy (wrote : CloudRoleBindingSpec → Prop) (spec : ResolvedCloudRoleBindingSpec) :
    Prop where
  aws : ∀ aws, spec.providers.aws = some aws → ∃ w, wrote w ∧ w.providers.aws = some aws
  azure : spec.providers.azure = none
  gcp : spec.providers.gcp = none
  extra : ∀ k v : String, (extraOf spec.attributes)[k]? = some v →
    ∃ w, wrote w ∧ (extraOf w.attributes)[k]? = some v
  provenance : Federation.includesProvenance spec = false →
    ∃ w, wrote w ∧ w.attributes.bind AttributesSpec.includeProvenance = some false

variable {key : Key} {all : List CloudRoleBinding}

/-- The merge grants what its inputs grant. -/
lemma grantedBy_merge {wrote : CloudRoleBindingSpec → Prop} {sa : String}
    {inputs : List CloudRoleBinding} {spec : ResolvedCloudRoleBindingSpec}
    (h : IsDisjointMerge sa inputs spec) (hwrote : ∀ crb ∈ inputs, wrote crb.spec) :
    GrantedBy wrote spec := by
  obtain ⟨v, u, hattributes, hexplicit, hdefault, hextra⟩ := h.attributes
  constructor
  case aws =>
    intro aws haws
    obtain ⟨crb, hmem, -, heq⟩ := h.aws
    exact ⟨crb.spec, hwrote crb hmem, by rw [← heq, haws]⟩
  case azure => exact h.azure
  case gcp => exact h.gcp
  case extra =>
    intro k w hw
    have hu : u[k]? = some w := by
      rw [hattributes] at hw
      by_cases hempty : u.isEmpty
      · simp [extraOf, hempty] at hw
      · simpa [extraOf, hempty] using hw
    obtain ⟨crb, hmem, hcrb⟩ := (hextra k w).mp hu
    exact ⟨crb.spec, hwrote crb hmem, hcrb⟩
  case provenance =>
    intro hfalse
    have hv : v = false := by simpa [Federation.includesProvenance, hattributes] using hfalse
    by_contra hnone
    refine absurd (hdefault fun crb hmem => ?_) (by simp [hv])
    refine Option.eq_none_iff_forall_ne_some.mpr fun v' hv' => hnone ⟨crb.spec, hwrote crb hmem, ?_⟩
    rw [← hv, hexplicit crb hmem v' hv']
    exact hv'

lemma grantedBy_outcome {wrote : CloudRoleBindingSpec → Prop}
    (hwrote : ∀ crb ∈ relevantCrbs key.serviceAccountName all, wrote crb.spec) (now : Time) :
    (outcome sha256 key all now).spec.subject.serviceAccountName = key.serviceAccountName ∧
      GrantedBy wrote (outcome sha256 key all now).spec := by
  unfold outcome resolvedFor
  cases hv : verdictOn key all with
  | error issue =>
      refine ⟨rfl, ⟨fun aws haws => ?_, rfl, rfl, fun k v hv => ?_, fun hfalse => ?_⟩⟩
      · cases haws
      · simp [buildFailedResolved, extraOf] at hv
      · cases hfalse
  | ok merged =>
      have hmerge := (mergeInputs_ok hv).2
      exact ⟨congrArg SubjectRef.serviceAccountName hmerge.subject, grantedBy_merge hmerge hwrote⟩

/-- What is stored in a run that began with an empty cluster. -/
lemma grantedBy_stored {c : Replicas ι}
    (hrun : Transition.run (Replicas.step sha256) (Replicas.boot (Cluster.empty authenticator)) ls =
      some c) {k : ObjectKey} {r : StoredRcrb} (hr : c.shared.rcrbs k = some r) :
    r.spec.subject.serviceAccountName = k.name ∧
      GrantedBy (WrittenFor ls ⟨k.ns, k.name⟩) r.spec := by
  rcases ((computedReplicas_of_run hrun).objects k r hr).spec with ⟨old, hold, -⟩ | hcomputed
  · cases hold
  obtain ⟨resolved, ⟨t, now, ⟨earlier, later, rfl, hearlier⟩, rfl⟩, hspec⟩ := hcomputed
  rw [hspec]
  refine grantedBy_outcome (fun crb hcrb => ?_) now
  obtain ⟨name, b, hb, rfl, hsa⟩ := mem_relevantCrbs.mp hcrb
  have hwritten := (written_of_run hearlier hb).append later
  rwa [hsa] at hwritten

/-! ## Tokens and Pods -/

/-- A token that the answer carries: it was signed for the authenticated ServiceAccount, from a
resolved binding whose AWS block `aws` is. -/
def TokenFrom (state : Federation.AppState) (clock : ℕ → Time) (s : Cluster)
    (authorization : Option String) (req : Federation.MintRequest)
    (spec : ResolvedCloudRoleBindingSpec) (aws : AwsProviderSpec) : Prop :=
  ∃ username token, Federation.Authenticates s authorization username ∧
    parseServiceAccountUsername username = some (req.ns, req.serviceAccountName) ∧
    spec.providers.aws = some aws ∧
    signRs256 state.crypto state.signing
      (Federation.claimsFor state clock username req spec aws) = .ok token ∧
    (Federation.mintAnswer state clock s authorization req).body =
      .json (Federation.MintResponse.toJson
        { aws := some
            { token := token
              expiresInSeconds := aws.maxSessionDurationSeconds.getD 3600 } })

section Patches

variable {Patch : Type} {diff : Pod → Pod → Patch} {cfg : WebhookConfig}
  {review : AdmissionReview} {s : Cluster} {resp : AdmissionResponse Patch} {patch : Patch}

lemma failOrSkip_patch (req : AdmissionRequest) (podName message : String) :
    ∃ resp, ((failOrSkip cfg req podName message : ApiM (AdmissionResponse Patch)).run.exec
      Cluster.serve s).1 = .ok resp ∧ resp.patch = none := by
  unfold failOrSkip
  cases cfg.admissionFailureMode with
  | fail => exact ⟨_, rfl, rfl⟩
  | ignore => exact ⟨_, rfl, rfl⟩

/-- A patch is the injection of the AWS block of the resolved binding, with its hash. -/
lemma handleResolved_patch {req : AdmissionRequest} {pod : Pod}
    {resolved : ResolvedCloudRoleBinding}
    (h : ((handleResolved diff cfg req pod resolved).run.exec Cluster.serve s).1 = .ok resp)
    (hpatch : resp.patch = some patch) :
    ∃ hash aws, resolved.status.bind (·.configHash) = some hash ∧
      resolved.spec.providers.aws = some aws ∧
      buildPodPatch diff pod cfg.agentImage cfg.agentImagePullPolicy cfg.agentPort
        cfg.federationUrl pod.saName hash aws = .ok patch := by
  simp only [handleResolved] at h
  split at h
  · obtain ⟨resp', hresp', hnone⟩ := @failOrSkip_patch Patch cfg s req (pod.name.getD "unknown")
      ("ResolvedCloudRoleBinding not Ready for " ++ req.nsOrDefault ++ "/" ++ pod.saName)
    rw [hresp'] at h
    obtain rfl := Except.ok.inj h
    rw [hnone] at hpatch
    cases hpatch
  split at h
  · cases h
  rename_i hash hhash
  split at h
  · cases h
  rename_i aws haws
  split at h
  · cases h
  rename_i patch' hbuild
  obtain rfl := Except.ok.inj h
  obtain rfl := Option.some.inj hpatch
  exact ⟨hash, aws, hhash, haws, hbuild⟩

/-- A patch is the injection of the AWS block of a stored resolved binding. -/
lemma handle_patch (h : ((handle diff cfg review).run.exec Cluster.serve s).1 = .ok resp)
    (hpatch : resp.patch = some patch) :
    ∃ req pod r hash aws, review.request = some req ∧ req.object = some pod ∧
      podHasContainer pod "kif-agent" = false ∧ s.rcrbs ⟨req.nsOrDefault, pod.saName⟩ = some r ∧
      r.configHash = some hash ∧ r.spec.providers.aws = some aws ∧
      buildPodPatch diff pod cfg.agentImage cfg.agentImagePullPolicy cfg.agentPort
        cfg.federationUrl pod.saName hash aws = .ok patch := by
  have hadmitted : ∀ req : AdmissionRequest,
      resp ≠ { AdmissionResponse.ofRequest req with allowed := true } := by
    rintro req rfl
    cases hpatch
  obtain ⟨_ | req⟩ := review
  · cases h
  by_cases hcreate : req.operation = .create
  case neg =>
    simp only [handle, ne_eq, hcreate, not_false_eq_true, if_true] at h
    exact absurd (Except.ok.inj h).symm (hadmitted req)
  cases hobject : req.object with
  | none =>
      simp only [handle, hcreate, ne_eq, not_true_eq_false, if_false, hobject] at h
      cases h
  | some pod =>
      by_cases hagent : podHasContainer pod "kif-agent" = true
      · rw [handle_run_of_agent hcreate hobject hagent] at h
        exact absurd (Except.ok.inj h).symm (hadmitted req)
      have hagent : podHasContainer pod "kif-agent" = false := by simpa using hagent
      rw [exec_handle hcreate hobject hagent] at h
      split at h
      · exact absurd (Except.ok.inj h).symm (hadmitted req)
      rename_i r hr
      obtain ⟨hash, aws, hhash, haws, hbuild⟩ := handleResolved_patch h hpatch
      exact ⟨req, pod, r, hash, aws, rfl, hobject, hagent, hr, hhash, haws, hbuild⟩

end Patches

/-- **Authority comes from users, of the same namespace and for the same ServiceAccount.**  In
every run of any number of workers from an empty cluster, with failing requests and with workers
that stop anywhere, whatever a stored resolved binding grants was written by a user in a binding of
its namespace that names its ServiceAccount.  So was the AWS block behind every token, which is
granted only to that ServiceAccount, and the AWS block that is injected into a Pod. -/
theorem authority_from_users {c : Replicas ι}
    (hrun : Transition.run (Replicas.step sha256) (Replicas.boot (Cluster.empty authenticator)) ls =
      some c) :
    (∀ k r, c.shared.rcrbs k = some r → r.spec.subject.serviceAccountName = k.name ∧
      GrantedBy (WrittenFor ls ⟨k.ns, k.name⟩) r.spec) ∧
    (∀ state clock authorization req,
      (Federation.mintAnswer state clock c.shared authorization req).status = 200 →
      ∃ spec aws w, TokenFrom state clock c.shared authorization req spec aws ∧
        GrantedBy (WrittenFor ls ⟨req.ns, req.serviceAccountName⟩) spec ∧
        WrittenFor ls ⟨req.ns, req.serviceAccountName⟩ w ∧ w.providers.aws = some aws) ∧
    ∀ (Patch : Type) (diff : Pod → Pod → Patch) cfg review resp patch,
      ((handle diff cfg review).run.exec Cluster.serve c.shared).1 = .ok resp →
      resp.patch = some patch →
      ∃ req pod hash aws w, review.request = some req ∧ req.object = some pod ∧
        WrittenFor ls ⟨req.nsOrDefault, pod.saName⟩ w ∧ w.providers.aws = some aws ∧
        buildPodPatch diff pod cfg.agentImage cfg.agentImagePullPolicy cfg.agentPort
          cfg.federationUrl pod.saName hash aws = .ok patch := by
  refine ⟨fun k r => grantedBy_stored hrun, fun state clock authorization req hok => ?_,
    fun Patch diff cfg review resp patch hexec hpatch => ?_⟩
  · obtain ⟨username, r, aws, token, hauth, hparse, hr, haws, htoken, hanswer⟩ :=
      Federation.mintAnswer_ok hok
    have hgranted := (grantedBy_stored hrun hr).2
    obtain ⟨w, hwritten, hw⟩ := hgranted.aws aws haws
    exact ⟨r.spec, aws, w, ⟨username, token, hauth, hparse, haws, htoken, by rw [hanswer]⟩, hgranted,
      hwritten, hw⟩
  · obtain ⟨req, pod, r, hash, aws, hreq, hobject, -, hr, -, haws, hbuild⟩ :=
      handle_patch hexec hpatch
    obtain ⟨w, hwritten, hw⟩ := (grantedBy_stored hrun hr).2.aws aws haws
    exact ⟨req, pod, hash, aws, w, hreq, hobject, hwritten, hw, hbuild⟩

theorem authority_from_users_first : ∃ w aws,
    WrittenFor firstConfiguration ⟨"apps", "web"⟩ w ∧ w.providers.aws = some aws := by
  obtain ⟨c, hrun, r, aws, hr, haws⟩ := run_firstConfiguration
  obtain ⟨w, hwritten, hw⟩ := ((authority_from_users hrun).1 _ r hr).2.aws aws haws
  exact ⟨w, aws, hwritten, hw⟩

end IdentityFederation
