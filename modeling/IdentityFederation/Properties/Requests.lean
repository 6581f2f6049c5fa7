import IdentityFederation.Federation.Http
import IdentityFederation.Properties.ReconcileAlone
import IdentityFederation.Webhook.Admission
import IdentityFederation.Webhook.Replicas

/-!
# What each component asks of the API server

For each program of the two components that call the API, the requests it may ever send, whatever
it is answered: which kind of object, in which namespace and under which name.

What a reconcile writes depends on what it has listed.  `Informed` says so of a worker: it is about
to list, or sends only what the list makes it send.
-/

namespace IdentityFederation

open Interaction Program

/-- The requests of a reconcile: it lists the namespace of its key, writes statuses there, and
patches the resolved binding of the key. -/
def ReconcileRequest (key : Key) : ApiRequest → Prop
  | .listCrbs ns | .replaceCrbStatus ns _ _ => ns = key.ns
  | .patchRcrb ns name _ | .patchRcrbStatus ns name _ => (⟨ns, name⟩ : ObjectKey) = key.resolved
  | _ => False

/-- The requests about one resolved binding: the bearer token is reviewed, and the binding read. -/
def MintApiRequest (key : ObjectKey) : ApiRequest → Prop
  | .createTokenReview _ => True
  | .getRcrb ns name => (⟨ns, name⟩ : ObjectKey) = key
  | _ => False

/-- The requests of the admission handler, about a Pod of a namespace: a resolved binding is read,
and an Event may be posted. -/
def AdmissionApiRequest (ns : String) : ApiRequest → Prop
  | .getRcrb ns' _ => ns' = ns
  | .createPodEvent event => event.ns = ns
  | _ => False

/-- The requests of a federation replica that starts: the signing Secret is read and written, the
JWKS Secret is written. -/
def StartupRequest (ns signingSecretName jwksSecretName : String) : ApiRequest → Prop
  | .getSecret ns' name => ns' = ns ∧ name = signingSecretName
  | .applySecret ns' name _ => ns' = ns ∧ (name = signingSecretName ∨ name = jwksSecretName)
  | _ => False

lemma reconcileListed_requests (sha256 : String → String) (clock : ℕ → Time) (key : Key)
    (all : List CloudRoleBinding) :
    (reconcileListed sha256 clock key all).run.Sends (ReconcileRequest key) := by
  refine Sends.run_bind ((writeStatuses_sends ..).mono ?_) fun _ => ?_
  · rintro q ⟨name, crb, rfl⟩
    rfl
  · have hnamed : ∀ now,
        (⟨key.ns, (outcome sha256 key all now).metadata.name.getD ""⟩ : ObjectKey) =
          key.resolved := fun now => by rw [name_outcome]; rfl
    simp only [upsertResolved]
    split
    · trivial
    · exact Sends.run_bind (sends_send (hnamed _)) fun _ => sends_send (hnamed _)

lemma reconcile_requests (sha256 : String → String) (clock : ℕ → Time) (key : Key) :
    (reconcile sha256 clock key).run.Sends (ReconcileRequest key) :=
  Sends.run_bind (sends_send rfl) fun all => reconcileListed_requests sha256 clock key all

lemma tokenReview_requests {P : ApiRequest → Prop} {bearer : String}
    (h : P (.createTokenReview bearer)) : (tokenReview bearer).run.Sends P := by
  refine Sends.run_bind (sends_send h) fun status => ?_
  repeat' split
  all_goals trivial

lemma mint_requests (state : Federation.AppState) (clock : ℕ → Time)
    (authorization : Option String) (req : Federation.MintRequest) :
    (Federation.mint state clock authorization req).Sends
      (MintApiRequest ⟨req.ns, req.serviceAccountName⟩) := by
  unfold Federation.mint
  split
  · trivial
  refine (tokenReview_requests trivial).bind fun res => ?_
  cases res with
  | error e => trivial
  | ok username =>
      simp only [Federation.mintFor]
      split
      · trivial
      split
      · trivial
      refine Sends.bind (sends_send rfl) fun res => ?_
      cases res <;> trivial

/-- The route adds no request: it deserializes the body. -/
lemma mintRoute_requests (state : Federation.AppState) (clock : ℕ → Time)
    (request : HttpRequest) :
    ∃ key, (Federation.mintRoute state clock request).Sends (MintApiRequest key) := by
  unfold Federation.mintRoute
  split
  · exact ⟨⟨"", ""⟩, trivial⟩
  split
  · exact ⟨⟨"", ""⟩, trivial⟩
  · rename_i req _
    exact ⟨_, mint_requests state clock request.authorization req⟩

section Admission

variable {Patch : Type} {diff : Pod → Pod → Patch} {cfg : WebhookConfig} {req : AdmissionRequest}

lemma failOrSkip_requests (podName message : String) :
    (failOrSkip cfg req podName message : ApiM (AdmissionResponse Patch)).run.Sends
      (AdmissionApiRequest req.nsOrDefault) := by
  unfold failOrSkip
  cases cfg.admissionFailureMode with
  | fail => trivial
  | ignore => exact ⟨rfl, fun _ => trivial⟩

lemma handleResolved_requests {pod : Pod} {resolved : ResolvedCloudRoleBinding} :
    (handleResolved diff cfg req pod resolved).run.Sends
      (AdmissionApiRequest req.nsOrDefault) := by
  simp only [handleResolved]
  split
  · exact failOrSkip_requests _ _
  repeat' split
  all_goals trivial

lemma handle_requests (diff : Pod → Pod → Patch) (cfg : WebhookConfig)
    (req : AdmissionRequest) :
    (handle diff cfg ⟨some req⟩).run.Sends (AdmissionApiRequest req.nsOrDefault) := by
  simp only [handle]
  split
  · trivial
  split
  · trivial
  split
  · trivial
  refine Sends.run_bind ⟨rfl, fun _ => trivial⟩ fun found => ?_
  cases found with
  | none => trivial
  | some resolved => exact handleResolved_requests

end Admission

section Startup

variable {crypto : Crypto} {ns signingSecretName jwksSecretName : String}

lemma liftText_requests {α : Type} {P : ApiRequest → Prop} (res : Except String α) :
    (liftText res).run.Sends P := by
  cases res <;> trivial

lemma context_requests {α : Type} {P : ApiRequest → Prop} (text : String) (o : Option α) :
    (context text o).run.Sends P := by
  cases o <;> trivial

lemma readSigningSecret_requests {P : ApiRequest → Prop} (existing : Secret) :
    (readSigningSecret crypto existing).run.Sends P := by
  unfold readSigningSecret
  refine (context_requests _ _).run_bind fun data => ?_
  refine (context_requests _ _).run_bind fun pem => ?_
  refine (context_requests _ _).run_bind fun kid => ?_
  refine (liftText_requests _).run_bind fun pem => ?_
  exact (liftText_requests _).run_bind fun kid => trivial

lemma publishJwks_requests (material : SigningMaterial) :
    (publishJwks crypto ns jwksSecretName material).run.Sends
      (StartupRequest ns signingSecretName jwksSecretName) := by
  unfold publishJwks
  refine (liftText_requests _).run_bind fun jwksJson => ?_
  exact Sends.run_bind (sends_send ⟨rfl, .inr rfl⟩) fun _ => trivial

lemma ensureSigningAndJwks_requests (crypto : Crypto) (now : Time) (entropy : ℕ)
    (ns signingSecretName jwksSecretName : String) (rsaBits : ℕ) :
    (ensureSigningAndJwks crypto now entropy ns signingSecretName jwksSecretName rsaBits).run.Sends
      (StartupRequest ns signingSecretName jwksSecretName) := by
  unfold ensureSigningAndJwks
  refine Sends.run_bind ⟨⟨rfl, rfl⟩, fun _ => trivial⟩ fun found => ?_
  cases found with
  | some existing =>
      exact Sends.run_bind (readSigningSecret_requests existing) fun material =>
        publishJwks_requests material
  | none =>
      refine Sends.run_bind ?_ fun material => ?_
      · obtain ⟨res, hres⟩ := newSigningMaterial_run crypto now entropy rsaBits
        rw [hres]
        trivial
      · exact Sends.run_bind (sends_send ⟨rfl, .inl rfl⟩) fun _ => publishJwks_requests material

end Startup

/-! ## Workers that have listed -/

section Informed

variable {sha256 : String → String} {P : ApiRequest → Prop}

/-- A worker is about to list, or all that it sends meets `P`. -/
def Informed (sha256 : String → String) (P : ApiRequest → Prop)
    (program : ApiProgram (Except Error Unit)) : Prop :=
  (∃ key clock, program = (reconcile sha256 clock key).run) ∨ program.Sends P

lemma Informed.mono {P' : ApiRequest → Prop} {program : ApiProgram (Except Error Unit)}
    (h : Informed sha256 P program) (himp : ∀ q, P q → P' q) : Informed sha256 P' program :=
  h.imp_right fun hsends => hsends.mono himp

/-- Whoever lists here sends only what meets `P` from then on. -/
def ListsInform (sha256 : String → String) (P : ApiRequest → Prop) (s : Cluster) : Prop :=
  (∀ ns, P (.listCrbs ns)) ∧ ∀ key clock,
    (reconcileListed sha256 clock key (s.list key.ns)).run.Sends P

/-- What a worker sends next, and what it is from then on. -/
lemma Informed.call {s : Cluster} (hlists : ListsInform sha256 P s) {q : ApiRequest}
    {k : ApiResponse q → ApiProgram (Except Error Unit)} (h : Informed sha256 P (.call q k))
    (fault : Fault) : P q ∧ Informed sha256 P (k (Cluster.serveWith fault s q).1) := by
  rcases h with ⟨key, clock, hprogram⟩ | hsends
  · -- The list is taken now.
    obtain ⟨rfl, hk⟩ := Program.call.inj hprogram
    obtain rfl := eq_of_heq hk
    refine ⟨hlists.1 key.ns, .inr ?_⟩
    cases fault with
    | none => exact hlists.2 key clock
    | refused e | unanswered e => trivial
  · exact ⟨hsends.1, .inr (hsends.2 _)⟩

/-- What a step does to the cluster: a user changes a binding, a request that meets `P` is served,
or nothing. -/
inductive SharedStep {ι : Type} (P : ApiRequest → Prop) (s s' : Cluster) :
    ReplicaLabel ι → Prop where
  | change {change : UserChange} : change.apply s = some s' → SharedStep P s s' (.change change)
  | serve {l : ReplicaLabel ι} {q : ApiRequest} : P q → s' = (s.serve q).2 → SharedStep P s s' l
  | nothing {l : ReplicaLabel ι} : s' = s → SharedStep P s s' l

variable {ι : Type} [DecidableEq ι] {c c' : Replicas ι} {l : ReplicaLabel ι}

lemma forall_member_setWorker {W : ApiProgram (Except Error Unit) → Prop}
    {program : ApiProgram (Except Error Unit)} (hworkers : ∀ i, W (c.member i))
    (hprogram : W program) (i j : ι) : W ((c.setWorker i program).member j) := by
  by_cases hji : j = i
  · subst hji
    rwa [Replicas.member_setWorker_self]
  · rw [Replicas.member_setWorker_of_ne c hji]
    exact hworkers j

/-- **A step of the workers.**  What is true of a reconcile that starts and of a worker that has
returned, and stays true of a worker whose request is served, stays true of every worker; the
cluster changes only by the requests that such a worker sends. -/
lemma workers_step {W : ApiProgram (Except Error Unit) → Prop}
    (hstart : ∀ key clock, W (reconcile sha256 clock key).run) (hstop : W (.ret (.ok ())))
    (hcall : ∀ {q} {k : ApiResponse q → ApiProgram (Except Error Unit)} (fault : Fault),
      W (.call q k) → P q ∧ W (k (Cluster.serveWith fault c.shared q).1))
    (hworkers : ∀ i, W (c.member i)) (h : Replicas.step sha256 c l = some c') :
    SharedStep P c.shared c'.shared l ∧ ∀ i, W (c'.member i) := by
  cases l with
  | change change =>
      obtain ⟨cluster, happly, rfl⟩ := Option.map_eq_some_iff.mp h
      exact ⟨.change happly, hworkers⟩
  | start i key clock =>
      simp only [Replicas.step] at h
      split at h
      · obtain rfl := Option.some.inj h
        exact ⟨.nothing rfl, forall_member_setWorker hworkers (hstart key clock) i⟩
      · cases h
  | stop i =>
      obtain rfl := Option.some.inj h
      exact ⟨.nothing rfl, forall_member_setWorker hworkers hstop i⟩
  | call i fault =>
      obtain ⟨q, k, hi, hshared, hmember, hothers⟩ := Crew.act_eq_some Cluster.serveWith h
      obtain ⟨hq, hnext⟩ := hcall fault (hi ▸ hworkers i)
      constructor
      · cases fault with
        | refused e => exact .nothing hshared
        | none | unanswered e => exact .serve hq hshared
      · intro j
        by_cases hji : j = i
        · subst hji
          rwa [hmember]
        · rw [hothers j hji]
          exact hworkers j

/-- **A step of informed workers** leaves them informed, and changes the cluster only by what they
may send. -/
lemma informed_step (hlists : ListsInform sha256 P c.shared)
    (hworkers : ∀ i, Informed sha256 P (c.member i)) (h : Replicas.step sha256 c l = some c') :
    SharedStep P c.shared c'.shared l ∧ ∀ i, Informed sha256 P (c'.member i) :=
  workers_step (fun key clock => .inl ⟨key, clock, rfl⟩) (.inr trivial)
    (fun fault hworker => hworker.call hlists fault) hworkers h

/-- A step that is no change of a user leaves what users wrote. -/
lemma bindings_step (hl : ∀ change, l ≠ .change change) (h : Replicas.step sha256 c l = some c') :
    c'.shared.bindings = c.shared.bindings := by
  have hshared : SharedStep (fun _ => True) c.shared c'.shared l :=
    (workers_step (W := fun _ => True) (fun _ _ => trivial) trivial (fun _ _ => ⟨trivial, trivial⟩)
      (fun _ => trivial) h).1
  cases hshared with
  | change => exact absurd rfl (hl _)
  | serve _ hserved => rw [hserved, Cluster.bindings_serve]
  | nothing hsame => rw [hsame]

end Informed

end IdentityFederation
