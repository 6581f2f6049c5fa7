import Mathlib.Algebra.Order.Group.Int
import IdentityFederation.Properties.Mirror

/-!
# What a restarted webhook recovers

A webhook session begins with the list of the bindings that exist.  It therefore enqueues the
ServiceAccounts that are named when it starts, and no others: a ServiceAccount whose last
binding went away while nobody watched is enqueued by nothing, and its resolved binding stays as
the earlier session left it.  A deletion that is watched does enqueue its key.

`restart_mirrors_iff` states this as an equivalence.  The direction from left to right rests on
the `observedGeneration` of the `Ready` condition, which is positive as long as a source exists.
-/

namespace IdentityFederation

variable {sha256 : String → String} {key : Key} {s s' : Cluster}

/-! ## The generation a resolved binding reports -/

lemma observedGeneration_outcome (sha256 : String → String) (key : Key)
    (all : List CloudRoleBinding) (now : Time) :
    (outcome sha256 key all now).status.map (·.conditions.map Condition.observedGeneration) =
      some [sourcesGeneration (sourcesOf (relevantCrbs key.serviceAccountName all))] := by
  unfold outcome resolvedFor
  split <;> rfl

lemma sourcesGeneration_nil : sourcesGeneration (sourcesOf []) = 0 := rfl

lemma sourcesGeneration_pos (h : s.Names key) :
    0 < sourcesGeneration (sourcesOf (relevantCrbs key.serviceAccountName (s.list key.ns))) := by
  have hpos : ∀ g ∈ (sourcesOf (relevantCrbs key.serviceAccountName (s.list key.ns))).filterMap
      CloudRoleBindingRef.generation, 0 < g := by
    intro g hg
    simp only [sourcesOf, List.filterMap_map, List.mem_filterMap, mem_relevantCrbs] at hg
    obtain ⟨crb, ⟨name, c, -, rfl, -⟩, hgen⟩ := hg
    obtain rfl : (c.generation : ℤ) = g := Option.some.inj hgen
    exact Int.natCast_pos.mpr c.generation_pos
  obtain ⟨name, c, hc, hsa⟩ := h
  have hmem : (c.generation : ℤ) ∈
      (sourcesOf (relevantCrbs key.serviceAccountName (s.list key.ns))).filterMap
        CloudRoleBindingRef.generation := by
    simp only [sourcesOf, List.filterMap_map, List.mem_filterMap]
    exact ⟨c.object ⟨key.ns, name⟩, mem_relevantCrbs.mpr ⟨name, c, hc, rfl, hsa⟩, rfl⟩
  unfold sourcesGeneration
  cases hmax : ((sourcesOf (relevantCrbs key.serviceAccountName (s.list key.ns))).filterMap
      fun s => s.generation).max? with
  | none =>
      rw [List.max?_eq_none_iff.mp hmax] at hmem
      cases hmem
  | some g => exact hpos g (List.max?_mem hmax)

/-- A resolved binding cannot mirror both a cluster that names its ServiceAccount and one that
does not. -/
lemma not_mirrors_of_unnamed (h : Mirrors sha256 s key) (hn : s.Names key) (hn' : ¬ s'.Names key)
    (hr : s'.rcrbs key.resolved = s.rcrbs key.resolved) : ¬ Mirrors sha256 s' key := by
  rintro ⟨r', now', hr', -, hready', -⟩
  obtain ⟨r, now, hr₀, -, hready, -⟩ := h
  obtain rfl : r' = r := Option.some.inj (hr'.symm.trans (hr.trans hr₀))
  have hgen := observedGeneration_outcome sha256 key (s.list key.ns) now
  have hgen' := observedGeneration_outcome sha256 key (s'.list key.ns) now'
  rw [relevantCrbs_eq_nil hn', sourcesGeneration_nil] at hgen'
  have hsame := congrArg (Option.map (List.map Condition.observedGeneration))
    (hready'.symm.trans hready)
  rw [Option.map_map, Option.map_map] at hsame
  have hzero := (hgen'.symm.trans hsame).trans hgen
  have hpos := sourcesGeneration_pos hn
  simp only [Option.some.injEq, List.cons.injEq, and_true] at hzero
  omega

/-! ## The restarted session -/

/-- The keys that the initial list makes the watcher enqueue. -/
def initialKeys (s : Cluster) : List Key := s.initialEvents.filterMap watchKey

lemma mem_initialKeys : key ∈ initialKeys s ↔ s.Names key := by
  simp only [initialKeys, Cluster.initialEvents, List.filterMap_append, List.filterMap_map,
    List.mem_append, List.mem_filterMap, Prod.exists,
    Std.ExtTreeMap.mem_toList_iff_getElem?_eq_some]
  constructor
  · rintro ((⟨_, hmem, h⟩ | ⟨⟨ns, name⟩, c, hc, h⟩) | ⟨_, hmem, h⟩)
    · obtain rfl := List.mem_singleton.mp hmem
      cases h
    · obtain rfl := Option.some.inj h
      exact ⟨name, c, hc, rfl⟩
    · obtain rfl := List.mem_singleton.mp hmem
      cases h
  · rintro ⟨name, c, hc, hsa⟩
    refine .inl (.inr ⟨⟨key.ns, name⟩, c, hc, ?_⟩)
    obtain ⟨ns, sa⟩ := key
    obtain rfl : c.spec.subject.serviceAccountName = sa := hsa
    rfl

lemma rcrbs_run_changes {changes : List UserChange}
    (h : Transition.run UserChange.apply s changes = some s') : s'.rcrbs = s.rcrbs := by
  refine (Transition.run_preorder (fun s s' : Cluster => s.rcrbs = s'.rcrbs) (fun _ => rfl)
    (fun _ _ _ => Eq.trans) (fun s change s' hs => ?_) h).symm
  obtain ⟨effect⟩ := UserChange.apply_eq_some hs
  exact effect.rcrbs_eq.symm

/-- **What a restart repairs.**  After an outage, a new session that reconciles every key of its
initial list leaves every resolved binding mirrored if and only if no ServiceAccount lost its
last binding during the outage. -/
theorem restart_mirrors_iff (sha256 : String → String) {s₀ s₁ s₂ : Cluster}
    {outage : List UserChange} {rounds : List (Key × (ℕ → Time))}
    (hconverged : Converged sha256 s₀)
    (houtage : Transition.run UserChange.apply s₀ outage = some s₁)
    (hrounds : reconcileAll sha256 rounds s₁ = some s₂)
    (hcover : ∀ key, (∃ clock, (key, clock) ∈ rounds) ↔ key ∈ initialKeys s₁) :
    (∀ key, s₂.rcrbs key.resolved ≠ none → Mirrors sha256 s₂ key) ↔
      ∀ key, s₀.Names key → s₁.Names key := by
  have hbindings := bindings_reconcileAll hrounds
  have hrcrbs := rcrbs_run_changes houtage
  -- A ServiceAccount that nobody names is not reconciled.
  have hkept : ∀ key, ¬ s₁.Names key → s₂.rcrbs key.resolved = s₀.rcrbs key.resolved := by
    intro key hn
    rw [← hrcrbs]
    refine rcrbs_reconcileAll_of_not_mem hrounds fun clock hmem => hn ?_
    exact mem_initialKeys.mp ((hcover key).mp ⟨clock, hmem⟩)
  constructor
  · intro hall key hn
    by_contra hn₁
    have hn₂ : ¬ s₂.Names key := fun h => hn₁ ((names_of_bindings hbindings).mp h)
    have hmirrors := hconverged key (.inl hn)
    obtain ⟨r, -, hr, -⟩ := id hmirrors
    refine not_mirrors_of_unnamed hmirrors hn hn₂ (hkept key hn₁) (hall key ?_)
    simp [hkept key hn₁, hr]
  · intro hnamed key hr
    by_cases hn₁ : s₁.Names key
    · obtain ⟨clock, hmem⟩ := (hcover key).mpr (mem_initialKeys.mpr hn₁)
      exact mirrors_of_reconcileAll hrounds hmem
    · have hn₂ : ¬ s₂.Names key := fun h => hn₁ ((names_of_bindings hbindings).mp h)
      have hn₀ : ¬ s₀.Names key := fun h => hn₁ (hnamed key h)
      rw [hkept key hn₁] at hr
      exact (hconverged key (.inr hr)).of_not_names hn₀ hn₂ (hkept key hn₁)

/-! ### An outage -/

/-- The binding that exists before the outage. -/
def singleBinding : List Action :=
  [.change (.create ⟨"apps", "role"⟩ (roleBinding "web" "arn:aws:iam::123456789012:role/web"))]

/-- The role of a stored resolved binding. -/
def grantedRole (s : Cluster) (key : Key) : Option String :=
  ((s.rcrbs key.resolved).bind fun r => r.spec.providers.aws).map AwsProviderSpec.roleArn

/-- A converged cluster with one binding. -/
lemma exists_converged :
    ∃ s₀, Converged webDigest s₀ ∧
      s₀.bindings =
        [(⟨"apps", "role"⟩, 1, roleBinding "web" "arn:aws:iam::123456789012:role/web")] ∧
      grantedRole s₀ ⟨"apps", "web"⟩ = some "arn:aws:iam::123456789012:role/web" := by
  obtain ⟨s₀, hruns, hs₀⟩ : ∃ s₀, ((Transition.run (act webDigest)
      (Cluster.empty fun _ => none) singleBinding).bind fun s =>
        reconcileAll webDigest (roundsOf (fun _ => 0) s) s) = some s₀ ∧
      (s₀.bindings, grantedRole s₀ ⟨"apps", "web"⟩) =
        ([(⟨"apps", "role"⟩, 1, roleBinding "web" "arn:aws:iam::123456789012:role/web")],
          some "arn:aws:iam::123456789012:role/web") :=
    Option.map_eq_some_iff.mp (by decide)
  obtain ⟨s, hs, hrounds⟩ := Option.bind_eq_some_iff.mp hruns
  obtain ⟨hbindings, hrole⟩ := Prod.mk.inj hs₀
  exact ⟨s₀, converged_of_rounds hs hrounds (coversEnqueued_roundsOf _ s), hbindings, hrole⟩

/-- The outage in which the binding is deleted. -/
lemma exists_outage :
    ∃ s₀ s₁, Converged webDigest s₀ ∧
      Transition.run UserChange.apply s₀ [.delete ⟨"apps", "role"⟩] = some s₁ ∧
      s₀.Names ⟨"apps", "web"⟩ ∧ (∀ key, ¬ s₁.Names key) ∧
      grantedRole s₀ ⟨"apps", "web"⟩ = some "arn:aws:iam::123456789012:role/web" := by
  obtain ⟨s₀, hconverged, hbindings, hrole⟩ := exists_converged
  have hmem : (⟨"apps", "role"⟩, 1, roleBinding "web" "arn:aws:iam::123456789012:role/web") ∈
      s₀.bindings := by simp [hbindings]
  obtain ⟨c, hc, -, -⟩ := Cluster.mem_bindings.mp hmem
  obtain ⟨s₁, hdelete⟩ : ∃ s₁, (UserChange.delete ⟨"apps", "role"⟩).apply s₀ = some s₁ := by
    simp [UserChange.apply, hc]
  have hnone : s₁.crbs[ObjectKey.mk "apps" "role"]? = none := by
    simp only [UserChange.apply, hc, Option.some.injEq] at hdelete
    rw [← hdelete]
    exact Std.ExtTreeMap.getElem?_erase_self
  obtain ⟨effect⟩ := UserChange.apply_eq_some hdelete
  refine ⟨s₀, s₁, hconverged, by simp [Transition.run, hdelete],
    names_iff_bindings.mpr ⟨_, _, _, hmem, rfl, rfl⟩, ?_, hrole⟩
  rintro key ⟨name, c', hc', -⟩
  by_cases hk : (⟨key.ns, name⟩ : ObjectKey) = ⟨"apps", "role"⟩
  · rw [hk, hnone] at hc'
    cases hc'
  · rw [effect.others _ hk] at hc'
    have hother := Cluster.mem_bindings.mpr ⟨c', hc', rfl, rfl⟩
    rw [hbindings, List.mem_singleton] at hother
    exact hk (congrArg Prod.fst hother)

/-- With one binding, one ServiceAccount is named. -/
lemma names_iff_single {k : ObjectKey} {spec : CloudRoleBindingSpec}
    (h : (s.bindings.map fun b => (b.1, b.2.2)) = [(k, spec)]) :
    s.Names key ↔ k.ns = key.ns ∧ spec.subject.serviceAccountName = key.serviceAccountName := by
  rw [names_iff_bindings]
  constructor
  · rintro ⟨k', g, spec', hmem, hnames⟩
    have hsingle : (k', spec') ∈ s.bindings.map fun b => (b.1, b.2.2) := List.mem_map_of_mem hmem
    rw [h, List.mem_singleton] at hsingle
    obtain ⟨rfl, rfl⟩ := Prod.mk.inj hsingle
    exact hnames
  · intro hnames
    have hmem : (k, spec) ∈ s.bindings.map fun b => (b.1, b.2.2) := by simp [h]
    obtain ⟨⟨k', g, spec'⟩, hstored, heq⟩ := List.mem_map.mp hmem
    obtain ⟨rfl, rfl⟩ := Prod.mk.inj heq
    exact ⟨k', g, spec', hstored, hnames⟩

/-- One reconcile for each key of the initial list. -/
def initialRounds (clock : ℕ → Time) (s : Cluster) : List (Key × (ℕ → Time)) :=
  (initialKeys s).map fun key => (key, clock)

lemma mem_initialRounds (clock : ℕ → Time) (s : Cluster) (key : Key) :
    (∃ clock', (key, clock') ∈ initialRounds clock s) ↔ key ∈ initialKeys s := by
  constructor
  · rintro ⟨clock', hmem⟩
    obtain ⟨key', hkey', heq⟩ := List.mem_map.mp hmem
    rwa [← (Prod.mk.inj heq).1]
  · exact fun hkey => ⟨clock, List.mem_map_of_mem hkey⟩

/-- The binding gets another role during an outage.  The session that starts after it reconciles the
ServiceAccount, and all is mirrored. -/
theorem restart_mirrors_iff_edited :
    ∃ s₀ s₁ s₂, Transition.run UserChange.apply s₀
        [.edit ⟨"apps", "role"⟩ (roleBinding "web" "arn:aws:iam::123456789012:role/old")] =
          some s₁ ∧
      reconcileAll roleDigest (initialRounds (fun _ => 0) s₁) s₁ = some s₂ ∧
      grantedRole s₁ ⟨"apps", "web"⟩ = some "arn:aws:iam::123456789012:role/web" ∧
      grantedRole s₂ ⟨"apps", "web"⟩ = some "arn:aws:iam::123456789012:role/old" ∧
      ∀ key, s₂.rcrbs key.resolved ≠ none → Mirrors roleDigest s₂ key := by
  have hruns : ((Transition.run (act roleDigest) (Cluster.empty fun _ => none) singleBinding).bind
      fun s => (reconcileAll roleDigest (roundsOf (fun _ => 0) s) s).bind
      fun s₀ => (Transition.run UserChange.apply s₀
        [.edit ⟨"apps", "role"⟩ (roleBinding "web" "arn:aws:iam::123456789012:role/old")]).bind
      fun s₁ => (reconcileAll roleDigest (initialRounds (fun _ => 0) s₁) s₁).map
      fun s₂ => (s₀.bindings.map fun b => (b.1, b.2.2), s₁.bindings.map fun b => (b.1, b.2.2),
        grantedRole s₁ ⟨"apps", "web"⟩, grantedRole s₂ ⟨"apps", "web"⟩)) =
      some ([(⟨"apps", "role"⟩, roleBinding "web" "arn:aws:iam::123456789012:role/web")],
        [(⟨"apps", "role"⟩, roleBinding "web" "arn:aws:iam::123456789012:role/old")],
        some "arn:aws:iam::123456789012:role/web", some "arn:aws:iam::123456789012:role/old") := by
    decide +kernel
  obtain ⟨s, hs, hruns⟩ := Option.bind_eq_some_iff.mp hruns
  obtain ⟨s₀, hs₀, hruns⟩ := Option.bind_eq_some_iff.mp hruns
  obtain ⟨s₁, houtage, hruns⟩ := Option.bind_eq_some_iff.mp hruns
  obtain ⟨s₂, hrounds, hfacts⟩ := Option.map_eq_some_iff.mp hruns
  simp only [Prod.mk.injEq] at hfacts
  obtain ⟨hbindings, hbindings₁, hrole₁, hrole₂⟩ := hfacts
  have hconverged := converged_of_rounds hs hs₀ (coversEnqueued_roundsOf _ s)
  refine ⟨s₀, s₁, s₂, houtage, hrounds, hrole₁, hrole₂, ?_⟩
  refine (restart_mirrors_iff roleDigest hconverged houtage hrounds
    (mem_initialRounds _ s₁)).mpr fun key hkey => ?_
  exact (names_iff_single hbindings₁).mpr ((names_iff_single hbindings).mp hkey)

/-- **A binding deleted during an outage still grants its role**: the restarted session has
nothing to reconcile, and the resolved binding that it leaves does not mirror the bindings. -/
theorem deleted_binding_survives_restart :
    ∃ s₀ s₁, Converged webDigest s₀ ∧
      Transition.run UserChange.apply s₀ [.delete ⟨"apps", "role"⟩] = some s₁ ∧
      initialKeys s₁ = [] ∧ ¬ s₁.Names ⟨"apps", "web"⟩ ∧
      grantedRole s₁ ⟨"apps", "web"⟩ = some "arn:aws:iam::123456789012:role/web" ∧
      ¬ Mirrors webDigest s₁ ⟨"apps", "web"⟩ := by
  obtain ⟨s₀, s₁, hconverged, houtage, hnamed, hunnamed, hrole⟩ := exists_outage
  have hr := rcrbs_run_changes houtage
  refine ⟨s₀, s₁, hconverged, houtage, ?_, hunnamed _, by rwa [grantedRole, hr],
    not_mirrors_of_unnamed (hconverged _ (.inl hnamed)) hnamed (hunnamed _) (congrFun hr _)⟩
  exact List.eq_nil_iff_forall_not_mem.mpr fun key hkey => hunnamed key (mem_initialKeys.mp hkey)

end IdentityFederation
