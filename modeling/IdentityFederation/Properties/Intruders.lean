import IdentityFederation.Properties.Authority
import IdentityFederation.Properties.Isolation
import IdentityFederation.Properties.LeastPrivilege

/-!
# Intruders

Programs that are not the components' own run beside the reconciles of the webhook, under the roles
of the federation service or of the issuer, and send whatever requests of `ApiRequest` those roles
allow.  No namespace can tell that they are there (`intruders_confined`): its bindings with their
statuses and its resolved bindings are as in a run without them, so are the answers to mint requests
and admission reviews about it, and what is granted in it was still written by a user.
-/

namespace IdentityFederation

open AccessControl Interaction Program

/-! ## Reconciles beside intruders -/

/-- The workers of the webhook, and the intruders, on one cluster. -/
structure Intruded (ι κ α : Type) where
  replicas : Replicas ι
  intruder : κ → ApiProgram α

inductive IntrudedLabel (ι κ : Type) where
  | replica (l : ReplicaLabel ι)
  | intruder (j : κ) (fault : Fault)

namespace Intruded

variable {ι κ α : Type} [DecidableEq ι] [DecidableEq κ]

/-- The intruders have the programs at hand; nothing exists and no worker has started. -/
def boot (authenticator : String → Option TokenReviewStatus) (intruder : κ → ApiProgram α) :
    Intruded ι κ α where
  replicas := Replicas.boot (Cluster.empty authenticator)
  intruder := intruder

/-- `role j` is the component whose roles the intruder `j` has. -/
def step (sha256 : String → String) (release : String) (role : κ → Component)
    (s : Intruded ι κ α) : IntrudedLabel ι κ → Option (Intruded ι κ α)
  | .replica l => (Replicas.step sha256 s.replicas l).map fun replicas =>
      { s with replicas := replicas }
  | .intruder j fault =>
      (actAs ((role j).grants release) ⟨s.replicas.shared, s.intruder⟩ (j, fault)).map fun crew =>
        { replicas := { s.replicas with shared := crew.shared }, intruder := crew.member }

end Intruded

/-- The steps of the workers and the users. -/
def withoutIntruders {ι κ : Type} (ls : List (IntrudedLabel ι κ)) : List (ReplicaLabel ι) :=
  ls.filterMap fun
    | .replica l => some l
    | .intruder .. => none

/-! ## A step of an intruder -/

/-- The requests that write a status of a binding or a resolved binding. -/
def WritesBindings : ApiRequest → Prop
  | .replaceCrbStatus .. | .patchRcrb .. | .patchRcrbStatus .. => True
  | _ => False

/-- No roles but the webhook's allow them. -/
lemma not_authorized_writesBindings {component : Component} (h : component ≠ .webhook)
    {q : ApiRequest} (hq : WritesBindings q) (release : String) (s : Cluster) :
    authorized (component.grants release) s q = false := by
  cases component with
  | webhook => exact absurd rfl h
  | federation =>
      cases q with
      | replaceCrbStatus | patchRcrb | patchRcrbStatus =>
          simp [authorized, accesses, applyAccesses, Policy.allows, Grant.allows, Component.grants,
            federationGrants, Rule.allows, covers]
      | _ => exact hq.elim
  | issuer =>
      cases q with
      | replaceCrbStatus | patchRcrb | patchRcrbStatus =>
          simp [authorized, accesses, applyAccesses, Policy.allows, Grant.allows, Component.grants,
            issuerGrants, Rule.allows, covers]
      | _ => exact hq.elim

lemma untouched_serve {q : ApiRequest} (hq : ¬ WritesBindings q) (ns : String) (s : Cluster) :
    Untouched ns s (s.serve q).2 := by
  cases q with
  | replaceCrbStatus | patchRcrb | patchRcrbStatus => exact absurd trivial hq
  | applySecret => exact ⟨fun _ => rfl, fun _ => rfl, rfl, Nat.le_succ _⟩
  | _ => exact ⟨fun _ => rfl, fun _ => rfl, rfl, le_rfl⟩

/-- **A step of an intruder changes no binding, no status and no resolved binding.** -/
lemma untouched_intruder {component : Component} (h : component ≠ .webhook) (ns release : String)
    (fault : Fault) (s : Cluster) (q : ApiRequest) :
    Untouched ns s (Cluster.serveAs (component.grants release) fault s q).2 := by
  have hrefl : Untouched ns s s := ⟨fun _ => rfl, fun _ => rfl, rfl, le_rfl⟩
  unfold Cluster.serveAs guarded
  split
  · rename_i hallowed
    have hq : ¬ WritesBindings q := fun hq => by
      rw [not_authorized_writesBindings h hq] at hallowed
      cases hallowed
    cases fault with
    | refused e => exact hrefl
    | none | unanswered e => exact untouched_serve hq ns s
  · exact hrefl

/-! ## Whole runs -/

variable {ι κ α : Type} [DecidableEq ι] [DecidableEq κ] {sha256 : String → String}
  {release ns : String} {role : κ → Component}

lemma intruder_step {s s' : Intruded ι κ α} {j : κ} {fault : Fault}
    (h : s.step sha256 release role (.intruder j fault) = some s') (hrole : role j ≠ .webhook) :
    Untouched ns s.replicas.shared s'.replicas.shared ∧
      s'.replicas.member = s.replicas.member := by
  obtain ⟨crew, hact, rfl⟩ := Option.map_eq_some_iff.mp h
  obtain ⟨q, k, -, hshared, -⟩ := Crew.act_eq_some _ hact
  rw [hshared]
  exact ⟨untouched_intruder hrole ns release fault _ q, rfl⟩

/-- The run without the intruders and without what is not about the namespace, beside the whole
run. -/
lemma sameRun_withoutIntruders (hrole : ∀ j, role j ≠ .webhook) {x : Versions} {on : ι → Bool}
    {s s₁ : Intruded ι κ α} {c' : Replicas ι} (h : SameRun ns x on s.replicas c')
    {ls : List (IntrudedLabel ι κ)}
    (hrun : Transition.run (Intruded.step sha256 release role) s ls = some s₁) :
    ∃ c₁' y on', Transition.run (Replicas.step sha256) c'
        (erase ns on (withoutIntruders ls)) = some c₁' ∧
      SameRun ns y on' s₁.replicas c₁' := by
  induction ls generalizing s c' x on with
  | nil =>
      obtain rfl := Option.some.inj hrun
      exact ⟨c', x, on, rfl, h⟩
  | cons l ls ih =>
      obtain ⟨s₂, hstep, hrest⟩ := Option.bind_eq_some_iff.mp hrun
      cases l with
      | replica l =>
          obtain ⟨replicas, hreplica, rfl⟩ := Option.map_eq_some_iff.mp hstep
          obtain ⟨c₂', y, hrun₂, hsame⟩ := h.step hreplica
          obtain ⟨c₁', z, on', hrun', hend⟩ := ih hsame hrest
          refine ⟨c₁', z, on', ?_, hend⟩
          have hls : withoutIntruders (.replica l :: ls) = l :: withoutIntruders ls := rfl
          rw [hls, erase_cons, Transition.run_append, hrun₂]
          exact hrun'
      | intruder j fault =>
          obtain ⟨huntouched, hmember⟩ := intruder_step hstep (hrole j)
          refine ih ⟨h.shared.untouched huntouched, ?_, ?_⟩ hrest
          · rw [hmember]
            exact h.inside
          · rw [hmember]
            exact h.outside

/-- What is left of a run was in it. -/
lemma erase_subset (on : ι → Bool) (ls : List (ReplicaLabel ι)) : erase ns on ls ⊆ ls := by
  induction ls generalizing on with
  | nil => exact List.Subset.refl _
  | cons l ls ih =>
      rw [erase_cons]
      refine List.append_subset.mpr ⟨?_, List.subset_cons_of_subset l (ih _)⟩
      cases l <;> simp only [erase] <;> split <;> simp

omit [DecidableEq ι] in
lemma WrittenFor.mono {ls ls' : List (ReplicaLabel ι)} {key : Key} {spec : CloudRoleBindingSpec}
    (h : WrittenFor ls key spec) (hsub : ls ⊆ ls') : WrittenFor ls' key spec := by
  obtain ⟨hsa, name, hwrote⟩ := h
  exact ⟨hsa, name, hwrote.imp (fun hmem => hsub hmem) fun hmem => hsub hmem⟩

lemma GrantedBy.mono {wrote wrote' : CloudRoleBindingSpec → Prop}
    {spec : ResolvedCloudRoleBindingSpec} (h : GrantedBy wrote spec)
    (himp : ∀ w, wrote w → wrote' w) : GrantedBy wrote' spec where
  aws aws haws := (h.aws aws haws).imp fun w hw => ⟨himp w hw.1, hw.2⟩
  azure := h.azure
  gcp := h.gcp
  extra k v hv := (h.extra k v hv).imp fun w hw => ⟨himp w hw.1, hw.2⟩
  provenance hfalse := (h.provenance hfalse).imp fun w hw => ⟨himp w hw.1, hw.2⟩

variable {authenticator : String → Option TokenReviewStatus}

/-- **Intruders cannot be told from a namespace.**  Take any run of any number of workers and users,
beside any programs that send the requests of `ApiRequest` and have the roles of the federation
service or of the issuer.  Without those, and without what is not about a namespace, the labels are
a run of the workers and the users alone, and the namespace cannot tell the two apart; what a
resolved binding grants in it was written by a user. -/
theorem intruders_confined (ns : String) (hrole : ∀ j, role j ≠ .webhook)
    {intruder : κ → ApiProgram α} {ls : List (IntrudedLabel ι κ)} {s : Intruded ι κ α}
    (hrun : Transition.run (Intruded.step sha256 release role)
      (Intruded.boot authenticator intruder) ls = some s) :
    (∃ c', Transition.run (Replicas.step sha256) (Replicas.boot (Cluster.empty authenticator))
        (erase ns (fun _ => false) (withoutIntruders ls)) = some c' ∧
      SameView ns s.replicas.shared c'.shared ∧
      (∀ state clock authorization (req : Federation.MintRequest), req.ns = ns →
        Federation.mintAnswer state clock s.replicas.shared authorization req =
          Federation.mintAnswer state clock c'.shared authorization req) ∧
      ∀ (Patch : Type) (diff : Pod → Pod → Patch) cfg (req : AdmissionRequest),
        req.nsOrDefault = ns →
        ((handle diff cfg ⟨some req⟩).run.exec Cluster.serve s.replicas.shared).1 =
          ((handle diff cfg ⟨some req⟩).run.exec Cluster.serve c'.shared).1) ∧
    ∀ name r, s.replicas.shared.rcrbs ⟨ns, name⟩ = some r →
      GrantedBy (WrittenFor (withoutIntruders ls) ⟨ns, name⟩) r.spec := by
  obtain ⟨c', x, on, hrun', hsame⟩ :=
    sameRun_withoutIntruders hrole (sameRun_boot ns authenticator) hrun
  refine ⟨⟨c', hrun', hsame.shared.view, hsame.shared.answers⟩, fun name r hr => ?_⟩
  rw [hsame.shared.rcrbs name] at hr
  exact (grantedBy_stored hrun' hr).2.mono fun w hw => hw.mono (erase_subset _ _)

/-! ### One intruder -/

/-- A program that would store another role for the ServiceAccount, and its attempt, during the first
reconcile. -/
def roleThief : Unit → ApiProgram (Except ApiError Unit) := fun _ =>
  .call (.patchRcrb "apps" "web"
    { spec :=
        { subject := { serviceAccountName := "web" }
          providers := { aws := some { roleArn := "arn:aws:iam::123456789012:role/admin" } } } })
    .ret

def attempt : List (IntrudedLabel Unit Unit) :=
  firstConfiguration.map .replica ++ [.intruder () .none]

/-- With the roles of the federation service it stores nothing. -/
theorem intruders_confined_role : ∃ (s : Intruded Unit Unit (Except ApiError Unit)) (c' : Replicas Unit),
    Transition.run (Intruded.step webDigest "kif" fun _ => .federation)
      (Intruded.boot (fun _ => none) roleThief) attempt = some s ∧
    grantedRole s.replicas.shared ⟨"apps", "web"⟩ =
      some "arn:aws:iam::123456789012:role/web" ∧
    Transition.run (Replicas.step webDigest) (Replicas.boot (Cluster.empty fun _ => none))
      firstConfiguration = some c' ∧
    SameView "apps" s.replicas.shared c'.shared := by
  obtain ⟨s, hrun, hrole⟩ : ∃ s : Intruded Unit Unit (Except ApiError Unit),
      Transition.run (Intruded.step webDigest "kif" fun _ => .federation)
        (Intruded.boot (fun _ => none) roleThief) attempt = some s ∧
      grantedRole s.replicas.shared ⟨"apps", "web"⟩ =
        some "arn:aws:iam::123456789012:role/web" :=
    Option.map_eq_some_iff.mp (by decide)
  obtain ⟨⟨c', hrun', hview, -⟩, -⟩ :=
    intruders_confined "apps" (fun _ : Unit => by decide) hrun
  exact ⟨s, c', hrun, hrole, hrun', hview⟩

end IdentityFederation
