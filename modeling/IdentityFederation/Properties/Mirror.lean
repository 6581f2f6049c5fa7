import IdentityFederation.Properties.DisjointMerge
import IdentityFederation.Properties.History

/-!
# Resolved bindings mirror the bindings

What the webhook is for: the resolved binding of a ServiceAccount says what the bindings that
name it say now.  `Mirrors s key` is that relation, up to the reading of the clock.

Once every enqueued key has been reconciled after the last change, every ServiceAccount that a
binding ever named is mirrored (`resolved_mirrors_bindings`), and so is every one that has a
resolved binding (`converged_of_rounds`).
-/

namespace IdentityFederation

open Interaction Program

variable {sha256 : String → String} {key : Key} {s s' : Cluster}

/-! ## The relation -/

/-- The stored resolved binding has the specification, the `Ready` condition (its only one) and
the config hash that a reconcile computes from the bindings. -/
def Mirrors (sha256 : String → String) (s : Cluster) (key : Key) : Prop :=
  ∃ r now, s.rcrbs key.resolved = some r ∧
    r.spec = (outcome sha256 key (s.list key.ns) now).spec ∧
    r.status.map (·.conditions) =
      (outcome sha256 key (s.list key.ns) now).status.map (·.conditions) ∧
    r.status.bind (·.configHash) =
      (outcome sha256 key (s.list key.ns) now).status.bind (·.configHash)

lemma Mirrors.of_bindings (h : Mirrors sha256 s key) (hb : s'.bindings = s.bindings)
    (hr : s'.rcrbs key.resolved = s.rcrbs key.resolved) : Mirrors sha256 s' key := by
  obtain ⟨r, now, hstored, hspec, hready, hhash⟩ := h
  refine ⟨r, now, hr.trans hstored, ?_⟩
  rw [outcome_of_bindings sha256 hb]
  exact ⟨hspec, hready, hhash⟩

/-- Two clusters in which nobody names the ServiceAccount have the same outcome for it. -/
lemma outcome_of_not_names (h : ¬ s.Names key) (h' : ¬ s'.Names key) (now : Time) :
    outcome sha256 key (s.list key.ns) now = outcome sha256 key (s'.list key.ns) now := by
  simp only [outcome, verdictOn, relevantCrbs_eq_nil h, relevantCrbs_eq_nil h']

lemma Mirrors.of_not_names (h : Mirrors sha256 s key) (hn : ¬ s.Names key) (hn' : ¬ s'.Names key)
    (hr : s'.rcrbs key.resolved = s.rcrbs key.resolved) : Mirrors sha256 s' key := by
  obtain ⟨r, now, hstored, hspec, hready, hhash⟩ := h
  refine ⟨r, now, hr.trans hstored, ?_⟩
  rw [outcome_of_not_names hn' hn]
  exact ⟨hspec, hready, hhash⟩

/-- The role in a mirrored resolved binding is the role of a binding that exists. -/
lemma Mirrors.aws_current (h : Mirrors sha256 s key) {r : StoredRcrb} {p : AwsProviderSpec}
    (hr : s.rcrbs key.resolved = some r) (hp : r.spec.providers.aws = some p) :
    ∃ name c, s.crbs[ObjectKey.mk key.ns name]? = some c ∧
      c.spec.subject.serviceAccountName = key.serviceAccountName ∧
      c.spec.providers.aws = some p := by
  obtain ⟨r', now, hr', hspec, -⟩ := h
  obtain rfl := Option.some.inj (hr.symm.trans hr')
  rw [hspec, outcome] at hp
  cases hv : verdictOn key (s.list key.ns) with
  | error issue =>
      rw [hv] at hp
      cases hp
  | ok merged =>
      rw [hv] at hp
      have hp : merged.providers.aws = some p := hp
      obtain ⟨crb, hcrb, -, haws⟩ := (mergeInputs_ok hv).2.aws
      obtain ⟨name, c, hc, rfl, hsa⟩ := mem_relevantCrbs.mp hcrb
      exact ⟨name, c, hc, hsa, haws.symm.trans hp⟩

/-! ## Whole reconciles -/

/-- **A reconcile that returns `Ok` leaves its key mirrored.** -/
lemma mirrors_of_reconcile {clock : ℕ → Time}
    (h : (reconcile sha256 clock key).run.exec Cluster.serve s = (.ok (), s')) :
    Mirrors sha256 s' key := by
  obtain ⟨hb, now, hr⟩ := reconcile_stores h
  refine ⟨_, now, by rw [hr, Function.update_self], ?_⟩
  rw [outcome_of_bindings sha256 hb]
  exact ⟨rfl, rfl, rfl⟩

lemma rcrbs_reconcile_of_ne {clock : ℕ → Time} {key' : Key}
    (h : (reconcile sha256 clock key').run.exec Cluster.serve s = (.ok (), s'))
    (hne : key ≠ key') : s'.rcrbs key.resolved = s.rcrbs key.resolved := by
  obtain ⟨-, now, hr⟩ := reconcile_stores h
  rw [hr, Function.update_of_ne fun heq => hne (resolved_injective heq)]

/-- Reconcile keys one after the other, each successfully. -/
def reconcileAll (sha256 : String → String) : List (Key × (ℕ → Time)) → Cluster → Option Cluster
  | [], s => some s
  | (key, clock) :: rounds, s =>
      match (reconcile sha256 clock key).run.exec Cluster.serve s with
      | (.ok (), s') => reconcileAll sha256 rounds s'
      | (.error _, _) => none

variable {rounds : List (Key × (ℕ → Time))}

lemma reconcileAll_cons {key' : Key} {clock : ℕ → Time}
    (h : reconcileAll sha256 ((key', clock) :: rounds) s = some s') :
    ∃ s₁, (reconcile sha256 clock key').run.exec Cluster.serve s = (.ok (), s₁) ∧
      reconcileAll sha256 rounds s₁ = some s' := by
  simp only [reconcileAll] at h
  split at h
  · exact ⟨_, ‹_›, h⟩
  · cases h

lemma bindings_reconcileAll (h : reconcileAll sha256 rounds s = some s') :
    s'.bindings = s.bindings := by
  induction rounds generalizing s with
  | nil =>
      obtain rfl := Option.some.inj h
      rfl
  | cons p rounds ih =>
      obtain ⟨s₁, hrec, hrest⟩ := reconcileAll_cons h
      rw [ih hrest, (reconcile_stores hrec).1]

lemma rcrbs_reconcileAll_of_not_mem (h : reconcileAll sha256 rounds s = some s')
    (hkey : ∀ clock, (key, clock) ∉ rounds) : s'.rcrbs key.resolved = s.rcrbs key.resolved := by
  induction rounds generalizing s with
  | nil =>
      obtain rfl := Option.some.inj h
      rfl
  | cons p rounds ih =>
      obtain ⟨key', clock⟩ := p
      obtain ⟨s₁, hrec, hrest⟩ := reconcileAll_cons h
      rw [ih hrest fun clock' hmem => hkey clock' (List.mem_cons_of_mem _ hmem)]
      refine rcrbs_reconcile_of_ne hrec ?_
      rintro rfl
      exact hkey clock List.mem_cons_self

/-- **Every key that is reconciled is mirrored at the end.** -/
lemma mirrors_of_reconcileAll {clock : ℕ → Time} (h : reconcileAll sha256 rounds s = some s')
    (hkey : (key, clock) ∈ rounds) : Mirrors sha256 s' key := by
  induction rounds generalizing s clock with
  | nil => simp at hkey
  | cons p rounds ih =>
      obtain ⟨s₁, hrec, hrest⟩ := reconcileAll_cons h
      by_cases hlater : ∃ clock, (key, clock) ∈ rounds
      · obtain ⟨clock', hmem⟩ := hlater
        exact ih hrest hmem
      · -- This is the last reconcile of the key; the later ones leave its object alone.
        rcases List.mem_cons.mp hkey with rfl | hmem
        · exact (mirrors_of_reconcile hrec).of_bindings (bindings_reconcileAll hrest)
            (rcrbs_reconcileAll_of_not_mem hrest (not_exists.mp hlater))
        · exact absurd ⟨clock, hmem⟩ hlater

/-- Keys that have a name are all reconciled. -/
lemma exists_reconcileAll (sha256 : String → String) (rounds : List (Key × (ℕ → Time)))
    (s : Cluster) (hnames : ∀ p ∈ rounds, p.1.serviceAccountName ≠ "") :
    ∃ s', reconcileAll sha256 rounds s = some s' := by
  induction rounds generalizing s with
  | nil => exact ⟨s, rfl⟩
  | cons p rounds ih =>
      obtain ⟨key', clock⟩ := p
      obtain ⟨s₁, hrec⟩ := reconcile_succeeds sha256 clock s (hnames _ List.mem_cons_self)
      obtain ⟨s', hrest⟩ := ih s₁ fun p hp => hnames p (List.mem_cons_of_mem _ hp)
      exact ⟨s', by rw [reconcileAll, hrec]; exact hrest⟩

/-! ## After a history -/

/-- Exactly the keys that the log makes the watcher enqueue are reconciled. -/
def CoversEnqueued (rounds : List (Key × (ℕ → Time))) (s : Cluster) : Prop :=
  ∀ key, (∃ clock, (key, clock) ∈ rounds) ↔ Enqueued s key

/-- One reconcile for each event of the log, in order. -/
def roundsOf (clock : ℕ → Time) (s : Cluster) : List (Key × (ℕ → Time)) :=
  (watchKeys s).map fun key => (key, clock)

lemma coversEnqueued_roundsOf (clock : ℕ → Time) (s : Cluster) :
    CoversEnqueued (roundsOf clock s) s := by
  intro key
  rw [← mem_watchKeys]
  simp only [roundsOf, List.mem_map, Prod.mk.injEq]
  constructor
  · rintro ⟨clock', key', hkey, rfl, -⟩
    exact hkey
  · exact fun hkey => ⟨clock, key, hkey, rfl, rfl⟩

variable {authenticator : String → Option TokenReviewStatus} {history : List Action}

/-- Whoever was ever named is mirrored once every enqueued key has been reconciled. -/
lemma mirrors_of_everNamed
    (hhistory : Transition.run (act sha256) (Cluster.empty authenticator) history = some s)
    (hrounds : reconcileAll sha256 rounds s = some s') (hcover : CoversEnqueued rounds s)
    (hnamed : EverNamed sha256 (Cluster.empty authenticator) history key) :
    Mirrors sha256 s' key := by
  obtain ⟨clock, hmem⟩ := (hcover key).mpr (enqueued_of_everNamed hhistory hnamed)
  exact mirrors_of_reconcileAll hrounds hmem

/-- Every ServiceAccount that is named or has a resolved binding is mirrored. -/
def Converged (sha256 : String → String) (s : Cluster) : Prop :=
  ∀ key, s.Names key ∨ s.rcrbs key.resolved ≠ none → Mirrors sha256 s key

/-- A cluster has converged once every enqueued key has been reconciled. -/
lemma converged_of_rounds
    (hhistory : Transition.run (act sha256) (Cluster.empty authenticator) history = some s)
    (hrounds : reconcileAll sha256 rounds s = some s') (hcover : CoversEnqueued rounds s) :
    Converged sha256 s' := by
  intro key hkey
  have henqueued : Enqueued s key := by
    by_contra hnot
    rcases hkey with hnames | hr
    · have hnames := (names_of_bindings (bindings_reconcileAll hrounds)).mp hnames
      exact hnot (enqueued_of_everNamed hhistory (everNamed_of_names hhistory hnames))
    · rw [rcrbs_reconcileAll_of_not_mem hrounds fun clock hmem =>
        hnot ((hcover key).mp ⟨clock, hmem⟩)] at hr
      exact hnot (enqueued_of_rcrbs hhistory hr)
  obtain ⟨clock, hmem⟩ := (hcover key).mpr henqueued
  exact mirrors_of_reconcileAll hrounds hmem

/-- **Resolved bindings mirror the bindings.**  After any history, once every key that the
watcher enqueued has been reconciled successfully, every ServiceAccount that a binding ever
named is mirrored; the role in its resolved binding is that of a binding that names it now. -/
theorem resolved_mirrors_bindings (sha256 : String → String)
    (authenticator : String → Option TokenReviewStatus) {history : List Action}
    {rounds : List (Key × (ℕ → Time))} {s s' : Cluster}
    (hhistory : Transition.run (act sha256) (Cluster.empty authenticator) history = some s)
    (hrounds : reconcileAll sha256 rounds s = some s') (hcover : CoversEnqueued rounds s)
    {key : Key} (hnamed : EverNamed sha256 (Cluster.empty authenticator) history key) :
    Mirrors sha256 s' key ∧
      ∀ r p, s'.rcrbs key.resolved = some r → r.spec.providers.aws = some p →
        ∃ name c, s'.crbs[ObjectKey.mk key.ns name]? = some c ∧
          c.spec.subject.serviceAccountName = key.serviceAccountName ∧
          c.spec.providers.aws = some p := by
  have hmirrors := mirrors_of_everNamed hhistory hrounds hcover hnamed
  exact ⟨hmirrors, fun _ _ hr hp => hmirrors.aws_current hr hp⟩

/-! ### A binding that moves -/

/-- A binding of one role, with everything else left to the defaults. -/
def roleBinding (saName roleArn : String) : CloudRoleBindingSpec where
  subject := { serviceAccountName := saName }
  providers := { aws := some { roleArn := roleArn } }

/-- The specification that `roleBinding "web" roleArn` resolves to. -/
def webSpec (roleArn : String) : ResolvedCloudRoleBindingSpec where
  subject := { serviceAccountName := "web" }
  attributes := some { includeProvenance := some true }
  providers := { aws := some { roleArn := roleArn } }

/-- The digest of `webSpec "arn:aws:iam::123456789012:role/web"`, for the examples that hash no
other specification. -/
def webDigest : String → String := fun _ =>
  "95dd7d6ac47faf5da85c074b1bd379701f985c64cec11416877fa8236ba06dd0"

/-- The digests of two specifications, for the examples in which the role of a ServiceAccount is
replaced. -/
def roleDigest (text : String) : String :=
  if text = (webSpec "arn:aws:iam::123456789012:role/old").toJson.text then
    "a1c2bfa3b63a0c003666659ca67a43007bd1c5c1922ad361301915b3b9085d45"
  else webDigest text

/-- A binding is created for one ServiceAccount and then moved to another. -/
def movedBinding : List Action :=
  [.change (.create ⟨"apps", "role"⟩ (roleBinding "api" "arn:aws:iam::123456789012:role/web")),
   .change (.edit ⟨"apps", "role"⟩ (roleBinding "web" "arn:aws:iam::123456789012:role/web"))]

/-- The ServiceAccount that lost the binding is mirrored too. -/
theorem resolved_mirrors_bindings_moved :
    ∃ s s', Transition.run (act webDigest) (Cluster.empty fun _ => none) movedBinding = some s ∧
      reconcileAll webDigest (roundsOf (fun _ => 0) s) s = some s' ∧
      Mirrors webDigest s' ⟨"apps", "api"⟩ ∧
      ∀ r p, s'.rcrbs ⟨"apps", "api"⟩ = some r → r.spec.providers.aws = some p →
        ∃ name c, s'.crbs[ObjectKey.mk "apps" name]? = some c ∧
          c.spec.subject.serviceAccountName = "api" ∧ c.spec.providers.aws = some p := by
  obtain ⟨s, hs, hkeys⟩ : ∃ s, Transition.run (act webDigest) (Cluster.empty fun _ => none)
      movedBinding = some s ∧ watchKeys s = [⟨"apps", "api"⟩, ⟨"apps", "web"⟩] :=
    Option.map_eq_some_iff.mp (by decide)
  obtain ⟨s', hs'⟩ := exists_reconcileAll webDigest (roundsOf (fun _ => 0) s) s
    (by simp [roundsOf, hkeys])
  have hnamed : EverNamed webDigest (Cluster.empty fun _ => none) movedBinding ⟨"apps", "api"⟩ :=
    (enqueued_iff_everNamed hs).mp (mem_watchKeys.mp (by simp [hkeys]))
  exact ⟨s, s', hs, hs', resolved_mirrors_bindings webDigest _ hs hs'
    (coversEnqueued_roundsOf _ s) hnamed⟩

end IdentityFederation
