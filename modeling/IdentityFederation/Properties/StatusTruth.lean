import IdentityFederation.Properties.Mirror
import IdentityFederation.Webhook.Admission

/-!
# What the status of a binding tells

A reconcile writes the status of the bindings it marks: all of them when the merge succeeds,
and only those the issue names when it fails.  A binding that is not named keeps the status of
the last reconcile that did mark it, so its status tells the truth about *that* reconcile.

`Marked` adds to the cluster the verdict of the last reconcile that marked each binding;
`Tells` relates a status to a verdict, and `status_tells_last_verdict` says that every status
tells the last verdict, which is the current one for every binding the current verdict marks.
-/

namespace IdentityFederation

open Interaction Program

variable {sha256 : String → String} {key : Key}

/-! ## Statuses and verdicts -/

/-- The status carries a condition of the type with status `True`. -/
def hasTrue (type : ConditionType) (status : Option CloudRoleBindingStatus) : Bool :=
  match status with
  | none => false
  | some status => status.conditions.any fun c => c.type = type && c.status = .true

/-- The status says of the verdict what it is: `Ready` for a merge that succeeded, and the
condition of the issue for one that failed. -/
structure Tells (status : Option CloudRoleBindingStatus) (verdict : Option Verdict) : Prop where
  ready : hasTrue .ready status ↔ ∃ merged, verdict = some (.ok merged)
  issue : ∀ type, type ≠ .ready →
    (hasTrue type status ↔ ∃ issue, verdict = some (.error issue) ∧ issue.conditionType = type)

lemma tells_none : Tells none none where
  ready := by simp [hasTrue]
  issue := by simp [hasTrue]

lemma tells_crbStatusFor (verdict : Verdict) (crb : CloudRoleBinding) (now : Time) :
    Tells (some (crbStatusFor verdict crb now)) (some verdict) := by
  cases verdict with
  | ok merged =>
      refine ⟨?_, fun type htype => ?_⟩
      · simp [hasTrue, crbStatusFor, buildCrbStatus, crbReadyCondition]
      · cases type <;>
          simp [hasTrue, crbStatusFor, buildCrbStatus, crbReadyCondition, crbClearedConditions]
            at htype ⊢
  | error issue =>
      obtain ⟨conditionType, reason, message, affected⟩ := issue
      refine ⟨?_, fun type htype => ?_⟩
      · cases conditionType <;>
          simp [hasTrue, crbStatusFor, buildCrbStatus, crbReadyCondition, crbIssueCondition]
      · cases conditionType <;> cases type <;>
          simp [hasTrue, crbStatusFor, buildCrbStatus, crbReadyCondition, crbIssueCondition]
            at htype ⊢

/-! ## Edits, each followed by a reconcile -/

/-- A cluster with the verdict of the last reconcile that marked each binding. -/
structure Marked where
  cluster : Cluster
  lastVerdict : ObjectKey → Option Verdict

/-- No binding exists, and none was marked. -/
def Marked.empty (authenticator : String → Option TokenReviewStatus) : Marked where
  cluster := Cluster.empty authenticator
  lastVerdict := fun _ => none

/-- The reconcile of a key marks the binding. -/
def marksBinding (key : Key) (s : Cluster) (k : ObjectKey) : Bool :=
  (relevantCrbs key.serviceAccountName (s.list key.ns)).any fun crb =>
    crb.nameOrDefault ≠ "" && marks (verdictOn key (s.list key.ns)) crb.nameOrDefault &&
      k = ⟨key.ns, crb.nameOrDefault⟩

/-- A change by a user and then a reconcile that succeeds.  The verdict of a binding that no
longer exists is forgotten. -/
def round (sha256 : String → String) (key : Key) (m : Marked) (l : UserChange × (ℕ → Time)) :
    Option Marked :=
  match l.1.apply m.cluster with
  | none => none
  | some s =>
      match (reconcile sha256 l.2 key).run.exec Cluster.serve s with
      | (.error _, _) => none
      | (.ok (), s') => some
          { cluster := s'
            lastVerdict := fun k =>
              if marksBinding key s k then some (verdictOn key (s.list key.ns))
              else if s.crbs[k]?.isSome then m.lastVerdict k
              else none }

/-- Every status tells the last verdict. -/
def Truthful (m : Marked) : Prop := ∀ k, Tells (m.cluster.crbStatus k) (m.lastVerdict k)

lemma truthful_empty (authenticator : String → Option TokenReviewStatus) :
    Truthful (.empty authenticator) := fun _ => tells_none

lemma isSome_crbs_of_bindings {s s' : Cluster} (h : s.bindings = s'.bindings) (k : ObjectKey) :
    s.crbs[k]?.isSome = s'.crbs[k]?.isSome := by
  have key : ∀ t : Cluster, t.crbs[k]?.isSome ↔ ∃ g spec, (k, g, spec) ∈ t.bindings := by
    intro t
    simp only [Cluster.mem_bindings, Option.isSome_iff_exists]
    constructor
    · rintro ⟨c, hc⟩
      exact ⟨_, _, c, hc, rfl, rfl⟩
    · rintro ⟨g, spec, c, hc, -, -⟩
      exact ⟨c, hc⟩
  rw [Bool.eq_iff_iff, key, key, h]

/-- **Inversion of a round.** -/
lemma round_eq_some {m m' : Marked} {change : UserChange} {clock : ℕ → Time}
    (h : round sha256 key m (change, clock) = some m') :
    ∃ s, change.apply m.cluster = some s ∧
      (reconcile sha256 clock key).run.exec Cluster.serve s = (.ok (), m'.cluster) ∧
      ∀ k, m'.lastVerdict k =
        if marksBinding key s k then some (verdictOn key (s.list key.ns))
        else if s.crbs[k]?.isSome then m.lastVerdict k
        else none := by
  simp only [round] at h
  split at h
  · cases h
  rename_i s hs
  split at h
  · cases h
  rename_i s' hrec
  obtain rfl := Option.some.inj h
  exact ⟨s, hs, hrec, fun _ => rfl⟩

/-- What the change of a round leaves true before the reconcile. -/
lemma Truthful.change {m : Marked} {change : UserChange} {s : Cluster} (hm : Truthful m)
    (h : change.apply m.cluster = some s) (k : ObjectKey) :
    Tells (s.crbStatus k) (if s.crbs[k]?.isSome then m.lastVerdict k else none) := by
  obtain ⟨effect⟩ := UserChange.apply_eq_some h
  cases hc : s.crbs[k]? with
  | none =>
      rw [Cluster.crbStatus, hc]
      exact tells_none
  | some c =>
      rw [Cluster.crbStatus, hc, Option.bind_some, effect.crbStatus_eq hc]
      exact hm k

lemma marksBinding_iff {s : Cluster} {k : ObjectKey} :
    marksBinding key s k ↔ ∃ crb ∈ relevantCrbs key.serviceAccountName (s.list key.ns),
      crb.nameOrDefault ≠ "" ∧ marks (verdictOn key (s.list key.ns)) crb.nameOrDefault ∧
        k = ⟨key.ns, crb.nameOrDefault⟩ := by
  simp only [marksBinding, List.any_eq_true, Bool.and_eq_true, decide_eq_true_eq, and_assoc]

/-- A relevant binding that has a name is marked when the verdict marks its name. -/
lemma marksBinding_iff_marks {s : Cluster} {name : String}
    (hrelevant : ∃ g spec, (⟨key.ns, name⟩, g, spec) ∈ s.bindings ∧
      spec.subject.serviceAccountName = key.serviceAccountName) (hname : name ≠ "") :
    marksBinding key s ⟨key.ns, name⟩ ↔ marks (verdictOn key (s.list key.ns)) name := by
  rw [marksBinding_iff]
  constructor
  · rintro ⟨crb, -, -, hmark, heq⟩
    rwa [show name = crb.nameOrDefault from congrArg ObjectKey.name heq]
  · intro hmark
    obtain ⟨g, spec, hmem, hsa⟩ := hrelevant
    obtain ⟨c, hc, -, rfl⟩ := Cluster.mem_bindings.mp hmem
    exact ⟨c.object ⟨key.ns, name⟩, mem_relevantCrbs.mpr ⟨name, c, hc, rfl, hsa⟩, hname, hmark, rfl⟩

/-- The reconcile keeps the status of a binding that it does not mark. -/
lemma crbStatus_of_unmarked {s s' : Cluster} {clock : ℕ → Time} {k : ObjectKey}
    (hrec : (reconcile sha256 clock key).run.exec Cluster.serve s = (.ok (), s'))
    (hk : ¬ marksBinding key s k) : s'.crbStatus k = s.crbStatus k :=
  reconcile_keeps hrec fun crb hcrb hname hmark heq =>
    hk (marksBinding_iff.mpr ⟨crb, hcrb, hname, hmark, heq⟩)

/-- **A whole round keeps the status of a binding that it does not mark**: the change before the
reconcile writes no status. -/
lemma crbStatus_round_of_unmarked {change : UserChange} {clock : ℕ → Time} {s₀ s s' : Cluster}
    {k : ObjectKey} (happly : change.apply s₀ = some s)
    (hrec : (reconcile sha256 clock key).run.exec Cluster.serve s = (.ok (), s'))
    (hk : ¬ marksBinding key s k) (hsome : s.crbs[k]?.isSome) :
    s'.crbStatus k = s₀.crbStatus k := by
  obtain ⟨effect⟩ := UserChange.apply_eq_some happly
  obtain ⟨c, hc⟩ := Option.isSome_iff_exists.mp hsome
  rw [crbStatus_of_unmarked hrec hk, Cluster.crbStatus, hc, Option.bind_some,
    effect.crbStatus_eq hc]

/-- **One round keeps the statuses truthful.** -/
lemma Truthful.round {m m' : Marked} {l : UserChange × (ℕ → Time)} (hm : Truthful m)
    (h : IdentityFederation.round sha256 key m l = some m') : Truthful m' := by
  obtain ⟨change, clock⟩ := l
  obtain ⟨s, happly, hrec, hlast⟩ := round_eq_some h
  intro k
  rw [hlast]
  by_cases hk : marksBinding key s k
  · obtain ⟨crb, hcrb, hname, hmark, rfl⟩ := marksBinding_iff.mp hk
    obtain ⟨now, hstatus⟩ := reconcile_marks hrec hcrb hname hmark
    rw [hstatus, if_pos hk]
    exact tells_crbStatusFor ..
  · rw [if_neg hk, crbStatus_of_unmarked hrec hk]
    exact hm.change happly k

lemma truthful_of_run {authenticator : String → Option TokenReviewStatus}
    {history : List (UserChange × (ℕ → Time))} {m : Marked}
    (h : Transition.run (round sha256 key) (.empty authenticator) history = some m) :
    Truthful m :=
  Transition.run_invariant h (truthful_empty authenticator) fun _ _ _ hm hs => hm.round hs

/-- The resolved binding is `Ready` exactly when the merge succeeded. -/
lemma isReady_outcome (sha256 : String → String) (key : Key) (all : List CloudRoleBinding)
    (now : Time) :
    isReady (outcome sha256 key all now) ↔ ∃ merged, verdictOn key all = .ok merged := by
  unfold outcome resolvedFor
  split <;> rename_i heq
  · simp [heq, isReady, buildResolvedFromSpec]
  · simp [heq, isReady, buildFailedResolved]

/-- **What the status of a binding tells.**  After every round, the status of a relevant binding
tells the verdict of the last reconcile that marked the binding.  That is the current verdict if
it marks the binding; otherwise both the verdict and the status are what they were before the
round.  The resolved binding is `Ready` exactly when the current verdict is a success. -/
theorem status_tells_last_verdict (sha256 : String → String)
    (authenticator : String → Option TokenReviewStatus) (key : Key)
    {history : List (UserChange × (ℕ → Time))} {l : UserChange × (ℕ → Time)} {m m' : Marked}
    (hhistory : Transition.run (round sha256 key) (.empty authenticator) history = some m)
    (hround : round sha256 key m l = some m') :
    (∀ crb ∈ relevantCrbs key.serviceAccountName (m'.cluster.list key.ns),
      crb.nameOrDefault ≠ "" →
      Tells crb.status (m'.lastVerdict ⟨key.ns, crb.nameOrDefault⟩) ∧
      (marks (verdictOn key (m'.cluster.list key.ns)) crb.nameOrDefault →
        m'.lastVerdict ⟨key.ns, crb.nameOrDefault⟩ =
          some (verdictOn key (m'.cluster.list key.ns))) ∧
      (¬ marks (verdictOn key (m'.cluster.list key.ns)) crb.nameOrDefault →
        m'.lastVerdict ⟨key.ns, crb.nameOrDefault⟩ =
          m.lastVerdict ⟨key.ns, crb.nameOrDefault⟩ ∧
        crb.status = m.cluster.crbStatus ⟨key.ns, crb.nameOrDefault⟩)) ∧
    ∃ r, m'.cluster.rcrbs key.resolved = some r ∧
      (isReady (r.object key.resolved) ↔
        ∃ merged, verdictOn key (m'.cluster.list key.ns) = .ok merged) := by
  have hm := truthful_of_run hhistory
  have hm' := hm.round hround
  obtain ⟨change, clock⟩ := l
  obtain ⟨s, happly, hrec, hlast⟩ := round_eq_some hround
  obtain ⟨hbindings, now, hrcrbs⟩ := reconcile_stores hrec
  have hverdict := verdictOn_of_bindings hbindings key
  constructor
  · intro crb hcrb hname
    obtain ⟨name, c, hc, rfl, hsa⟩ := mem_relevantCrbs.mp hcrb
    have hstatus : Tells c.status (m'.lastVerdict ⟨key.ns, name⟩) := by
      have := hm' ⟨key.ns, name⟩
      rwa [Cluster.crbStatus, hc] at this
    have hmark : marksBinding key s ⟨key.ns, name⟩ ↔
        marks (verdictOn key (s.list key.ns)) name :=
      marksBinding_iff_marks
        ⟨_, _, hbindings ▸ Cluster.mem_bindings.mpr ⟨c, hc, rfl, rfl⟩, hsa⟩ hname
    have hlast := hlast ⟨key.ns, name⟩
    rw [hverdict]
    refine ⟨hstatus, fun hmarked => ?_, fun hunmarked => ?_⟩
    · rw [if_pos (hmark.mpr hmarked)] at hlast
      exact hlast
    · have hunmarked : ¬ marksBinding key s ⟨key.ns, name⟩ := fun h => hunmarked (hmark.mp h)
      have hsome : s.crbs[(⟨key.ns, name⟩ : ObjectKey)]?.isSome := by
        rw [← isSome_crbs_of_bindings hbindings, hc]
        rfl
      rw [if_neg hunmarked, if_pos hsome] at hlast
      have hkept := crbStatus_round_of_unmarked happly hrec hunmarked hsome
      rw [Cluster.crbStatus, hc] at hkept
      exact ⟨hlast, hkept⟩
  · refine ⟨_, by rw [hrcrbs, Function.update_self], ?_⟩
    rw [hverdict]
    exact isReady_outcome sha256 key (s.list key.ns) now

/-! ### A binding that is not named -/

/-- A binding of the AWS provider for the ServiceAccount `web`. -/
def awsBinding (name : String) : UserChange :=
  .create ⟨"apps", name⟩ (roleBinding "web" "arn:aws:iam::123456789012:role/web")

/-- A binding of the Azure provider for the same ServiceAccount. -/
def azureBinding : UserChange :=
  .create ⟨"apps", "azure"⟩
    { subject := { serviceAccountName := "web" }
      providers :=
        { azure := some
            { tenantId := "72f988bf-86f1-41af-91ab-2d7cd011db47"
              clientId := "1d3c2f7e-5c7b-4f0e-9a53-6b1f0f0c2b11" } } }

/-- Two bindings merge, and then a third one conflicts with the first: the round of the third
marks the two that conflict, and the binding of the Azure provider keeps its status. -/
theorem status_tells_last_verdict_conflict :
    ∃ m m', Transition.run (round webDigest ⟨"apps", "web"⟩) (.empty fun _ => none)
        [(awsBinding "aws", fun _ => 0), (azureBinding, fun _ => 0)] = some m ∧
      round webDigest ⟨"apps", "web"⟩ m (awsBinding "more", fun _ => 1) = some m' ∧
      ((relevantCrbs "web" (m'.cluster.list "apps")).map fun crb =>
        (crb.nameOrDefault,
          marks (verdictOn ⟨"apps", "web"⟩ (m'.cluster.list "apps")) crb.nameOrDefault)) =
        [("aws", true), ("azure", false), ("more", true)] ∧
      (∀ crb ∈ relevantCrbs "web" (m'.cluster.list "apps"), crb.nameOrDefault ≠ "" →
        Tells crb.status (m'.lastVerdict ⟨"apps", crb.nameOrDefault⟩) ∧
        (marks (verdictOn ⟨"apps", "web"⟩ (m'.cluster.list "apps")) crb.nameOrDefault →
          m'.lastVerdict ⟨"apps", crb.nameOrDefault⟩ =
            some (verdictOn ⟨"apps", "web"⟩ (m'.cluster.list "apps"))) ∧
        (¬ marks (verdictOn ⟨"apps", "web"⟩ (m'.cluster.list "apps")) crb.nameOrDefault →
          m'.lastVerdict ⟨"apps", crb.nameOrDefault⟩ =
            m.lastVerdict ⟨"apps", crb.nameOrDefault⟩ ∧
          crb.status = m.cluster.crbStatus ⟨"apps", crb.nameOrDefault⟩)) ∧
      ∃ r, m'.cluster.rcrbs ⟨"apps", "web"⟩ = some r ∧
        (isReady (r.object ⟨"apps", "web"⟩) ↔
          ∃ merged, verdictOn ⟨"apps", "web"⟩ (m'.cluster.list "apps") = .ok merged) := by
  obtain ⟨m', hm', hmarks⟩ := Option.map_eq_some_iff.mp (show ((Transition.run
    (round webDigest ⟨"apps", "web"⟩) (.empty fun _ => none)
      [(awsBinding "aws", fun _ => 0), (azureBinding, fun _ => 0)]).bind fun m =>
        round webDigest ⟨"apps", "web"⟩ m (awsBinding "more", fun _ => 1)).map (fun m' =>
          (relevantCrbs "web" (m'.cluster.list "apps")).map fun crb =>
            (crb.nameOrDefault,
              marks (verdictOn ⟨"apps", "web"⟩ (m'.cluster.list "apps")) crb.nameOrDefault)) =
    some [("aws", true), ("azure", false), ("more", true)] by decide)
  obtain ⟨m, hm, hround⟩ := Option.bind_eq_some_iff.mp hm'
  exact ⟨m, m', hm, hround, hmarks,
    status_tells_last_verdict webDigest _ ⟨"apps", "web"⟩ hm hround⟩

/-- **A binding that the issue does not name stays `Ready`** while the merge fails: a second AWS
binding conflicts with the first one, and the Azure binding is not told. -/
theorem azure_binding_stays_ready :
    ∃ m, Transition.run (round webDigest ⟨"apps", "web"⟩) (.empty fun _ => none)
        [(awsBinding "aws", fun _ => 0), (azureBinding, fun _ => 0),
          (awsBinding "more", fun _ => 0)] = some m ∧
      ((verdictOn ⟨"apps", "web"⟩ (m.cluster.list "apps")).isOk,
        ((relevantCrbs "web" (m.cluster.list "apps")).map fun crb =>
          (crb.nameOrDefault, hasTrue .ready crb.status, hasTrue .conflict crb.status))) =
        (false, [("aws", false, true), ("azure", true, false), ("more", false, true)]) :=
  Option.map_eq_some_iff.mp (by decide)

end IdentityFederation
