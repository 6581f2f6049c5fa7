import IdentityFederation.Deploy.Rbac
import IdentityFederation.Properties.Requests
import IdentityFederation.Webhook.Replicas

/-!
# The chart's roles suffice, and confine

The roles of the chart let every component do what it does: with the checks of the API server in
front, each of its programs runs as without them (`grants_suffice`).

They let it do little else.  Whatever programs run under the roles of a component, its own or
others, the Secrets that it has nothing to do with are neither read nor written
(`secrets_hidden`).  A program sends requests of `ApiRequest`, those that some component sends.
-/

namespace IdentityFederation

open AccessControl Interaction Program

/-! ## The roles suffice -/

section Suffice

variable {s : Cluster} {q : ApiRequest}

lemma authorized_of_reconcileRequest {key : Key} (h : ReconcileRequest key q) (s : Cluster) :
    authorized webhookGrants s q = true := by
  cases q with
  | listCrbs | replaceCrbStatus | patchRcrbStatus => rfl
  | patchRcrb ns name resolved =>
      simp only [authorized, accesses, applyAccesses]
      split <;> rfl
  | _ => cases h

lemma authorized_of_admissionApiRequest {ns : String} (h : AdmissionApiRequest ns q)
    (s : Cluster) : authorized webhookGrants s q = true := by
  cases q with
  | getRcrb | createPodEvent => rfl
  | _ => cases h

lemma authorized_of_mintApiRequest {key : ObjectKey} (release : String)
    (h : MintApiRequest key q) (s : Cluster) :
    authorized (federationGrants release) s q = true := by
  cases q with
  | getRcrb | createTokenReview =>
      simp [authorized, accesses, Policy.allows, Grant.allows, federationGrants, Rule.allows, covers]
  | _ => cases h

lemma allows_secrets {release verb : String} (h : verb ∈ ["get", "create", "patch"]) :
    (federationGrants release).allows ⟨verb, "", "secrets", some release⟩ = true := by
  rw [Policy.allows_iff]
  refine ⟨_, List.mem_cons_self, .inr rfl, _, List.mem_singleton_self _, ?_⟩
  simpa [Rule.allows, covers] using h

lemma authorized_of_startupRequest {release signing jwks : String}
    (h : StartupRequest release signing jwks q) (s : Cluster) :
    authorized (federationGrants release) s q = true := by
  cases q with
  | getSecret ns name =>
      obtain ⟨rfl, -⟩ := h
      simp [authorized, accesses, allows_secrets]
  | applySecret ns name data =>
      obtain ⟨rfl, -⟩ := h
      simp only [authorized, accesses, applyAccesses]
      split <;> simp [allows_secrets]
  | _ => cases h

end Suffice

variable {ι : Type} [DecidableEq ι] {sha256 : String → String} {s₀ : Cluster} {c : Replicas ι}

/-- Every worker is in the middle of a reconcile, or has returned. -/
lemma replicas_requests
    (hc : Transition.Reachable (Replicas.step sha256) Transition.Always (Replicas.boot s₀) c)
    (i : ι) : ∃ key, (c.member i).Sends (ReconcileRequest key) := by
  let W (program : ApiProgram (Except Error Unit)) := ∃ key, program.Sends (ReconcileRequest key)
  have hreturned : W (.ret (.ok ())) := ⟨⟨"", ""⟩, trivial⟩
  refine hc.invariant (I := fun c : Replicas ι => ∀ i, W (c.member i)) (fun _ => hreturned)
    (fun c l c' hI _ hstep => ?_) i
  refine (workers_step (P := fun _ => True) (W := W)
    (fun key clock => ⟨key, reconcile_requests sha256 clock key⟩) hreturned ?_ hI hstep).2
  rintro q k fault ⟨key, hsends⟩
  exact ⟨trivial, key, hsends.2 _⟩

/-- **The roles suffice.**  In every state that the reconciles of any number of workers can reach,
the next request of each worker is served with the chart's checks as without them; so are the
admission handler, the mint route and the start of a federation replica, from any cluster and under
any faults; and both watchers may list and watch what they watch. -/
theorem grants_suffice
    (hc : Transition.Reachable (Replicas.step sha256) Transition.Always (Replicas.boot s₀) c)
    (release : String) :
    (∀ i fault, c.act (Cluster.serveAs webhookGrants) i fault = c.act Cluster.serveWith i fault) ∧
    (∀ (Patch : Type) (diff : Pod → Pod → Patch) cfg review s,
      (handle diff cfg review).run.exec (Cluster.serveFaultyAs webhookGrants) s =
        (handle diff cfg review).run.exec Cluster.serveFaulty s) ∧
    (∀ state clock request s,
      (Federation.mintRoute state clock request).exec
          (Cluster.serveFaultyAs (federationGrants release)) s =
        (Federation.mintRoute state clock request).exec Cluster.serveFaulty s) ∧
    (∀ crypto now entropy signing jwks bits s,
      (ensureSigningAndJwks crypto now entropy release signing jwks bits).run.exec
          (Cluster.serveFaultyAs (federationGrants release)) s =
        (ensureSigningAndJwks crypto now entropy release signing jwks bits).run.exec
          Cluster.serveFaulty s) ∧
    (∀ access ∈ watchAccesses "64f.dev" "cloudrolebindings" none,
      webhookGrants.allows access = true) ∧
    ∀ access ∈ watchAccesses "" "secrets" (some release),
      (issuerGrants release).allows access = true := by
  refine ⟨fun i fault => ?_, fun Patch diff cfg review s => ?_, fun state clock request s => ?_,
    fun crypto now entropy signing jwks bits s => ?_, by decide, fun access haccess => ?_⟩
  · obtain ⟨key, hsends⟩ := replicas_requests hc i
    refine Crew.act_guarded fun q k hi => ?_
    rw [hi] at hsends
    exact authorized_of_reconcileRequest hsends.1 c.shared
  · obtain ⟨_ | req⟩ := review
    · rfl
    · exact exec_guarded_of_sends (fun s q hq => authorized_of_admissionApiRequest hq s.1)
        (handle_requests diff cfg req) () s
  · obtain ⟨key, hsends⟩ := mintRoute_requests state clock request
    exact exec_guarded_of_sends (fun s q hq => authorized_of_mintApiRequest release hq s.1) hsends () s
  · exact exec_guarded_of_sends (fun s q hq => authorized_of_startupRequest hq s.1)
      (ensureSigningAndJwks_requests crypto now entropy release signing jwks bits) () s
  · simp only [watchAccesses, List.mem_cons, List.not_mem_nil, or_false] at haccess
    rcases haccess with rfl | rfl <;>
      simp [Policy.allows, Grant.allows, issuerGrants, Rule.allows, covers]

/-- The first request of the first reconcile. -/
theorem grants_suffice_list : ∃ c c' : Replicas Unit,
    Transition.Reachable (Replicas.step id) Transition.Always
      (Replicas.boot (Cluster.empty fun _ => none)) c ∧
    c.act Cluster.serveWith () .none = some c' ∧
    c.act (Cluster.serveAs webhookGrants) () .none = some c' := by
  obtain ⟨c, hstep, c', hact⟩ : ∃ c : Replicas Unit,
      Replicas.step id (Replicas.boot (Cluster.empty fun _ => none))
        (.start () ⟨"apps", "web"⟩ fun _ => 0) = some c ∧
      ∃ c', c.act Cluster.serveWith () .none = some c' := ⟨_, rfl, _, rfl⟩
  have hc : Transition.Reachable (Replicas.step id) Transition.Always
      (Replicas.boot (Cluster.empty fun _ => none)) c := .step .start trivial hstep
  exact ⟨c, c', hc, hact, ((grants_suffice hc "kif").1 () .none).trans hact⟩

/-! ## What a component does not see -/

section Secrets

variable {component : Component} {release : String}

/-- The Secrets that the roles of a component keep from it: all of them, or those outside the
release namespace. -/
def Component.hidden (release : String) : Component → ObjectKey → Prop
  | .webhook, _ => True
  | .federation, key | .issuer, key => key.ns ≠ release

/-- The roles of a component say nothing of the Secrets that are hidden from it. -/
lemma not_allows_hidden {key : ObjectKey} (h : component.hidden release key) (verb : String) :
    (component.grants release).allows ⟨verb, "", "secrets", some key.ns⟩ = false := by
  refine Policy.not_allows_of_resource ?_
  cases component with
  | webhook =>
      intro grant hgrant _ rule hrule
      simp only [Component.grants, webhookGrants, List.mem_singleton] at hgrant
      subst hgrant
      simp only [List.mem_cons, List.not_mem_nil, or_false] at hrule
      rcases hrule with rfl | rfl | rfl <;> rfl
  | federation =>
      intro grant hgrant hscope rule hrule
      simp only [Component.grants, federationGrants, List.mem_cons, List.not_mem_nil,
        or_false] at hgrant
      rcases hgrant with rfl | rfl
      · rcases hscope with hscope | hscope
        · cases hscope
        · exact absurd (Option.some.inj hscope).symm h
      · simp only [List.mem_cons, List.not_mem_nil, or_false] at hrule
        rcases hrule with rfl | rfl <;> rfl
  | issuer =>
      intro grant hgrant hscope rule hrule
      simp only [Component.grants, issuerGrants, List.mem_singleton] at hgrant
      subst hgrant
      rcases hscope with hscope | hscope
      · cases hscope
      · exact absurd (Option.some.inj hscope).symm h

/-- The Secret that a request is about. -/
def ApiRequest.secret : ApiRequest → Option ObjectKey
  | .getSecret ns name | .applySecret ns name _ => some ⟨ns, name⟩
  | _ => none

lemma not_authorized_hidden {q : ApiRequest} {key : ObjectKey} (hq : q.secret = some key)
    (h : component.hidden release key) (s : Cluster) :
    authorized (component.grants release) s q = false := by
  cases q with
  | getSecret ns name =>
      obtain rfl := Option.some.inj hq
      simp [authorized, accesses, not_allows_hidden h]
  | applySecret ns name data =>
      obtain rfl := Option.some.inj hq
      simp [authorized, accesses, applyAccesses, not_allows_hidden h]
  | _ => cases hq

/-- A request that is about no Secret does the same whatever the Secrets are, and leaves them. -/
lemma serve_of_secret_eq_none {q : ApiRequest} (hq : q.secret = none) (s : Cluster)
    (secrets : ObjectKey → Option Secret) :
    Cluster.serve { s with secrets := secrets } q =
      ((s.serve q).1, { (s.serve q).2 with secrets := secrets }) ∧
    (s.serve q).2.secrets = s.secrets := by
  cases q with
  | getSecret | applySecret => cases hq
  | replaceCrbStatus ns name crb =>
      simp only [Cluster.serve, Cluster.replaceCrbStatus]
      cases s.crbs[ObjectKey.mk ns name]? with
      | none => exact ⟨rfl, rfl⟩
      | some c =>
          dsimp only
          split
          · exact ⟨rfl, rfl⟩
          split
          · exact ⟨rfl, rfl⟩
          · exact ⟨rfl, rfl⟩
  | patchRcrbStatus ns name resolved =>
      simp only [Cluster.serve, Cluster.patchRcrbStatus]
      cases s.rcrbs ⟨ns, name⟩ <;> exact ⟨rfl, rfl⟩
  | _ => exact ⟨rfl, rfl⟩

/-- The two clusters differ in hidden Secrets only. -/
structure SameBut (hidden : ObjectKey → Prop) (s s' : Cluster) : Prop where
  rest : s' = { s with secrets := s'.secrets }
  seen : ∀ key, ¬ hidden key → s'.secrets key = s.secrets key

/-- A request that the roles allow is answered in the same way, and leaves the clusters different in
hidden Secrets only. -/
lemma SameBut.serve {s s' : Cluster} {q : ApiRequest}
    (h : SameBut (component.hidden release) s s')
    (hq : authorized (component.grants release) s q = true) :
    (s'.serve q).1 = (s.serve q).1 ∧
      SameBut (component.hidden release) (s.serve q).2 (s'.serve q).2 := by
  obtain ⟨secrets, rfl⟩ : ∃ secrets, s' = { s with secrets := secrets } := ⟨_, h.rest⟩
  have hseen : ∀ key, ¬ component.hidden release key → secrets key = s.secrets key := h.seen
  cases hsecret : q.secret with
  | none =>
      obtain ⟨hserve, hkept⟩ := serve_of_secret_eq_none hsecret s secrets
      rw [hserve]
      exact ⟨rfl, rfl, fun key hkey => (hseen key hkey).trans (congrFun hkept key).symm⟩
  | some key =>
      have hkey : ¬ component.hidden release key := fun hkey => by
        rw [not_authorized_hidden hsecret hkey s] at hq
        cases hq
      cases q with
      | getSecret ns name =>
          obtain rfl := Option.some.inj hsecret
          simp only [Cluster.serve, hseen _ hkey]
          exact ⟨trivial, h⟩
      | applySecret ns name data =>
          obtain rfl := Option.some.inj hsecret
          refine ⟨rfl, rfl, fun key' hkey' => ?_⟩
          simp only [Cluster.serve, Cluster.applySecret, hseen _ hkey]
          by_cases heq : key' = ⟨ns, name⟩
          · subst heq
            simp only [Function.update_self]
          · simpa only [Function.update_of_ne heq] using hseen key' hkey'
      | _ => cases hsecret

/-- The roles allow the same on both. -/
lemma SameBut.authorized {s s' : Cluster} (h : SameBut (component.hidden release) s s')
    (q : ApiRequest) :
    authorized (component.grants release) s' q = authorized (component.grants release) s q := by
  obtain ⟨secrets, rfl⟩ : ∃ secrets, s' = { s with secrets := secrets } := ⟨_, h.rest⟩
  cases q with
  | applySecret ns name data =>
      by_cases hkey : component.hidden release ⟨ns, name⟩
      · rw [not_authorized_hidden rfl hkey, not_authorized_hidden rfl hkey]
      · have hseen : secrets ⟨ns, name⟩ = s.secrets ⟨ns, name⟩ := h.seen _ hkey
        simp only [IdentityFederation.authorized, accesses, hseen]
  | _ => rfl

/-- The roles let no request change a hidden Secret. -/
lemma hidden_serve {s : Cluster} {q : ApiRequest}
    (hq : IdentityFederation.authorized (component.grants release) s q = true) :
    (fun (key : {key // component.hidden release key}) => (s.serve q).2.secrets key) =
      fun (key : {key // component.hidden release key}) => s.secrets key := by
  funext ⟨key, hkey⟩
  cases hsecret : q.secret with
  | none => exact congrFun (serve_of_secret_eq_none hsecret s s.secrets).2 key
  | some key' =>
      have hne : key ≠ key' := fun heq => by
        rw [not_authorized_hidden hsecret (heq ▸ hkey) s] at hq
        cases hq
      cases q with
      | getSecret ns name => rfl
      | applySecret ns name data =>
          obtain rfl := Option.some.inj hsecret
          exact Function.update_of_ne hne ..
      | _ => cases hsecret

/-- One request of a program that runs under the roles of a component. -/
def actAs {κ : Type} [DecidableEq κ] {α : Type} (policy : Policy)
    (crew : Crew ApiRequest ApiResponse κ Cluster α) (l : κ × Fault) :
    Option (Crew ApiRequest ApiResponse κ Cluster α) :=
  crew.act (Cluster.serveAs policy) l.1 l.2

variable {κ : Type} [DecidableEq κ] {α : Type}

/-- **Hidden Secrets stay hidden.**  Any programs under the roles of a component that send the
requests of `ApiRequest`, however they interleave and whatever fails, leave the Secrets alone that
are hidden from it; and they do, return and leave behind the same when those Secrets are others.
All Secrets are hidden from the webhook, and those outside the release namespace from the federation
service and the issuer. -/
theorem secrets_hidden {crew crew' crew₁ : Crew ApiRequest ApiResponse κ Cluster α}
    (hmember : crew'.member = crew.member)
    (hsame : SameBut (component.hidden release) crew.shared crew'.shared)
    {ls : List (κ × Fault)}
    (hrun : Transition.run (actAs (component.grants release)) crew ls = some crew₁) :
    (∀ key, component.hidden release key →
      crew₁.shared.secrets key = crew.shared.secrets key) ∧
    ∃ crew₁', Transition.run (actAs (component.grants release)) crew' ls = some crew₁' ∧
      crew₁'.member = crew₁.member ∧
      SameBut (component.hidden release) crew₁.shared crew₁'.shared := by
  have hframe : ∀ (fault : Fault) (s : Cluster) (q : ApiRequest),
      authorized (component.grants release) s q = true →
      (fun key : {key // component.hidden release key} =>
        (Cluster.serveWith fault s q).2.secrets key) =
      fun key : {key // component.hidden release key} => s.secrets key := by
    intro fault s q hq
    cases fault with
    | refused e => rfl
    | none | unanswered e => exact hidden_serve hq
  have hblind : ∀ (fault : Fault) (s s' : Cluster) (q : ApiRequest),
      SameBut (component.hidden release) s s' →
      authorized (component.grants release) s' q = authorized (component.grants release) s q ∧
      (authorized (component.grants release) s q = true →
        (Cluster.serveWith fault s' q).1 = (Cluster.serveWith fault s q).1 ∧
        SameBut (component.hidden release) (Cluster.serveWith fault s q).2
          (Cluster.serveWith fault s' q).2) := by
    intro fault s s' q hs
    refine ⟨hs.authorized q, fun hq => ?_⟩
    cases fault with
    | refused e => exact ⟨rfl, hs⟩
    | none => exact hs.serve hq
    | unanswered e => exact ⟨rfl, (hs.serve hq).2⟩
  constructor
  · intro key hkey
    have hsecrets := Crew.run_guarded_frame (fun (s : Cluster)
      (key : {key // component.hidden release key}) => s.secrets key) hframe hrun
    exact congrFun hsecrets ⟨key, hkey⟩
  · obtain ⟨crew₁', hrun', hend⟩ := Crew.run_guarded_same hblind ⟨hsame, hmember⟩ hrun
    exact ⟨crew₁', hrun', hend.member, hend.shared⟩

/-- A program that asks for the signing Secret, on a cluster with these Secrets. -/
def askingForKey (secrets : ObjectKey → Option Secret) :
    Crew ApiRequest ApiResponse Unit Cluster (Except ApiError Secret) where
  shared := { Cluster.empty (fun _ => none) with secrets := secrets }
  member := fun _ => .call (.getSecret "kif" "kif-signing") .ret

/-- Under the roles of the webhook it is answered the same whether the Secret exists or not. -/
theorem secrets_hidden_signing : ∃ crew₁ crew₁',
    Transition.run (actAs (Component.webhook.grants "kif")) (askingForKey fun _ => none)
      [((), .none)] = some crew₁ ∧
    Transition.run (actAs (Component.webhook.grants "kif")) (askingForKey fun _ => some ⟨none⟩)
      [((), .none)] = some crew₁' ∧
    crew₁'.member = crew₁.member := by
  obtain ⟨crew₁, hrun⟩ : ∃ crew₁, Transition.run (actAs (Component.webhook.grants "kif"))
      (askingForKey fun _ => none) [((), .none)] = some crew₁ := ⟨_, rfl⟩
  have hmember : (askingForKey fun _ => some ⟨none⟩).member = (askingForKey fun _ => none).member :=
    rfl
  have hsame : SameBut (Component.webhook.hidden "kif") (askingForKey fun _ => none).shared
      (askingForKey fun _ => some ⟨none⟩).shared := ⟨rfl, fun _ hseen => absurd trivial hseen⟩
  obtain ⟨crew₁', hrun', heq, -⟩ := (secrets_hidden hmember hsame hrun).2
  exact ⟨crew₁, crew₁', hrun, hrun', heq⟩

end Secrets

end IdentityFederation
