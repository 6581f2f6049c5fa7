import IdentityFederation.Properties.Mirror
import IdentityFederation.Webhook.Admission

/-!
# Which ServiceAccounts are unmanaged

A Pod is left alone when the admission handler finds no resolved binding for its ServiceAccount.
Nothing removes a resolved binding, so the ServiceAccounts that are left alone are those that no
binding *ever* named; one whose last binding was deleted keeps a resolved binding that is not
`Ready`, and its Pods go through the admission failure mode.
-/

namespace IdentityFederation

open Interaction Program

variable {sha256 : String → String} {key : Key} {s s' : Cluster}

/-! ## The handler -/

/-- Under this configuration, every Pod created with the ServiceAccount is admitted unchanged,
and nothing else happens: no denial, and no Event of the failure mode. -/
def Unmanaged (cfg : WebhookConfig) (s : Cluster) (key : Key) : Prop :=
  ∀ (Patch : Type) (diff : Pod → Pod → Patch) (req : AdmissionRequest) (pod : Pod),
    req.operation = .create → req.object = some pod → req.nsOrDefault = key.ns →
    pod.saName = key.serviceAccountName →
    (handle diff cfg ⟨some req⟩).run.exec Cluster.serve s =
      (.ok { uid := req.uid, allowed := true }, s)

lemma unmanaged_of_rcrbs {cfg : WebhookConfig} (h : s.rcrbs key.resolved = none) :
    Unmanaged cfg s key := by
  intro Patch diff req pod hcreate hobject hns hsa
  by_cases hagent : podHasContainer pod "kif-agent" = true
  · rw [handle_run_of_agent hcreate hobject hagent]
    rfl
  · rw [exec_handle hcreate hobject (Bool.not_eq_true _ ▸ hagent), hns, hsa]
    rw [Key.resolved] at h
    rw [h]
    rfl

/-- The resolved binding of a ServiceAccount that nobody names is not `Ready`. -/
lemma isReady_of_not_names (h : Mirrors sha256 s key) (hn : ¬ s.Names key) {r : StoredRcrb}
    (hr : s.rcrbs key.resolved = some r) (k : ObjectKey) : isReady (r.object k) = false := by
  obtain ⟨r', now, hr', -, hready, -⟩ := h
  obtain rfl := Option.some.inj (hr'.symm.trans hr)
  rw [outcome, verdictOn, relevantCrbs_eq_nil hn] at hready
  cases hstatus : r'.status with
  | none => simp [isReady, StoredRcrb.object, hstatus]
  | some status =>
      rw [hstatus] at hready
      have hconditions := Option.some.inj hready
      simp [isReady, StoredRcrb.object, hstatus, hconditions]

/-- A Pod without containers, which runs under the ServiceAccount. -/
def plainPod (saName : String) : Pod where
  spec := some { containers := [], serviceAccountName := some saName }

/-- The request that creates it. -/
def plainRequest (key : Key) : AdmissionRequest where
  uid := ""
  operation := .create
  ns := some key.ns
  object := some (plainPod key.serviceAccountName)

lemma not_unmanaged_of_not_ready {cfg : WebhookConfig} {r : StoredRcrb}
    (hr : s.rcrbs key.resolved = some r) (hready : ∀ k, isReady (r.object k) = false) :
    ¬ Unmanaged cfg s key := by
  intro h
  have hplain := h Unit (fun _ _ => ()) (plainRequest key) (plainPod key.serviceAccountName) rfl rfl
    rfl rfl
  obtain ⟨message, event, hexec⟩ := @exec_handle_not_ready Unit (fun _ _ => ()) cfg
    (plainRequest key) (plainPod key.serviceAccountName) s rfl rfl rfl r hr (hready _)
  rw [hexec] at hplain
  -- A denial is no admission, and an Event is a change of the cluster.
  cases hmode : cfg.admissionFailureMode with
  | fail => simp [hmode] at hplain
  | ignore =>
      simp only [hmode, Prod.mk.injEq, true_and] at hplain
      have hevents := congrArg (List.length ∘ Cluster.podEvents) hplain
      simp at hevents

/-- **Which ServiceAccounts are unmanaged.**  Once every enqueued key has been reconciled, a
ServiceAccount that no binding names is unmanaged if and only if no binding ever named it. -/
theorem unmanaged_iff_never_named (sha256 : String → String)
    (authenticator : String → Option TokenReviewStatus) (cfg : WebhookConfig)
    {history : List Action} {rounds : List (Key × (ℕ → Time))} {s s' : Cluster}
    (hhistory : Transition.run (act sha256) (Cluster.empty authenticator) history = some s)
    (hrounds : reconcileAll sha256 rounds s = some s') (hcover : CoversEnqueued rounds s)
    {key : Key} (hunnamed : ¬ s'.Names key) :
    Unmanaged cfg s' key ↔ ¬ EverNamed sha256 (Cluster.empty authenticator) history key := by
  constructor
  · intro hunmanaged hnamed
    have hmirrors := mirrors_of_everNamed hhistory hrounds hcover hnamed
    obtain ⟨r, -, hr, -⟩ := id hmirrors
    exact not_unmanaged_of_not_ready hr (isReady_of_not_names hmirrors hunnamed hr) hunmanaged
  · intro hnever
    have hkey : ¬ Enqueued s key := fun hkey =>
      hnever ((enqueued_iff_everNamed hhistory).mp hkey)
    have hnone : s.rcrbs key.resolved = none := by
      by_contra hr
      exact hkey (enqueued_of_rcrbs hhistory hr)
    refine unmanaged_of_rcrbs ?_
    rw [rcrbs_reconcileAll_of_not_mem hrounds fun clock hmem => hkey ((hcover key).mp ⟨clock, hmem⟩),
      hnone]

/-! ### A binding that was deleted -/

/-- A binding is created and deleted. -/
def deletedBinding : List Action :=
  [.change (.create ⟨"apps", "role"⟩ (roleBinding "web" "arn:aws:iam::123456789012:role/web")),
   .change (.delete ⟨"apps", "role"⟩)]

/-- The webhook's defaults. -/
def defaultConfig (mode : AdmissionFailureMode) : WebhookConfig where
  admissionFailureMode := mode
  agentImage := "kif-agent:latest"
  agentImagePullPolicy := "IfNotPresent"
  agentPort := 5004
  federationUrl := "http://kif-federation:5001"

lemma run_deletedBinding :
    ∃ s s', Transition.run (act webDigest) (Cluster.empty fun _ => none) deletedBinding = some s ∧
      reconcileAll webDigest (roundsOf (fun _ => 0) s) s = some s' ∧
      watchKeys s = [⟨"apps", "web"⟩, ⟨"apps", "web"⟩] ∧ s'.bindings = [] := by
  obtain ⟨s, hs, hkeys⟩ : ∃ s, Transition.run (act webDigest) (Cluster.empty fun _ => none)
      deletedBinding = some s ∧
        (watchKeys s, s.bindings) = ([⟨"apps", "web"⟩, ⟨"apps", "web"⟩], []) :=
    Option.map_eq_some_iff.mp (by decide)
  obtain ⟨hkeys, hbindings⟩ := Prod.mk.inj hkeys
  obtain ⟨s', hs'⟩ := exists_reconcileAll webDigest (roundsOf (fun _ => 0) s) s
    (by simp [roundsOf, hkeys])
  exact ⟨s, s', hs, hs', hkeys, by rw [bindings_reconcileAll hs', hbindings]⟩

lemma not_names_of_bindings_nil (h : s.bindings = []) : ¬ s.Names key := by
  rw [names_iff_bindings, h]
  simp

/-- A ServiceAccount that no binding ever named, next to one that lost its binding. -/
theorem unmanaged_iff_never_named_other :
    ∃ s s', Transition.run (act webDigest) (Cluster.empty fun _ => none) deletedBinding = some s ∧
      reconcileAll webDigest (roundsOf (fun _ => 0) s) s = some s' ∧
      (Unmanaged (defaultConfig .fail) s' ⟨"apps", "default"⟩ ↔
        ¬ EverNamed webDigest (Cluster.empty fun _ => none) deletedBinding ⟨"apps", "default"⟩) := by
  obtain ⟨s, s', hs, hs', -, hbindings⟩ := run_deletedBinding
  exact ⟨s, s', hs, hs', unmanaged_iff_never_named webDigest _ (defaultConfig .fail) hs hs'
    (coversEnqueued_roundsOf _ s) (not_names_of_bindings_nil hbindings)⟩

/-- **A ServiceAccount whose binding was deleted is still managed**: no binding names it, every
enqueued key has been reconciled, and its Pods are not left alone in either failure mode. -/
theorem deleted_binding_still_managed :
    ∃ s s', Transition.run (act webDigest) (Cluster.empty fun _ => none) deletedBinding = some s ∧
      reconcileAll webDigest (roundsOf (fun _ => 0) s) s = some s' ∧
      CoversEnqueued (roundsOf (fun _ => 0) s) s ∧ ¬ s'.Names ⟨"apps", "web"⟩ ∧
      ¬ Unmanaged (defaultConfig .fail) s' ⟨"apps", "web"⟩ ∧
      ¬ Unmanaged (defaultConfig .ignore) s' ⟨"apps", "web"⟩ := by
  obtain ⟨s, s', hs, hs', hkeys, hbindings⟩ := run_deletedBinding
  have hunnamed : ¬ s'.Names ⟨"apps", "web"⟩ := not_names_of_bindings_nil hbindings
  have hmirrors : Mirrors webDigest s' ⟨"apps", "web"⟩ :=
    mirrors_of_everNamed hs hs' (coversEnqueued_roundsOf _ s)
      ((enqueued_iff_everNamed hs).mp (mem_watchKeys.mp (by simp [hkeys])))
  obtain ⟨r, -, hr, -⟩ := id hmirrors
  have hready := isReady_of_not_names hmirrors hunnamed hr
  exact ⟨s, s', hs, hs', coversEnqueued_roundsOf _ s, hunnamed,
    not_unmanaged_of_not_ready hr hready, not_unmanaged_of_not_ready hr hready⟩

end IdentityFederation
