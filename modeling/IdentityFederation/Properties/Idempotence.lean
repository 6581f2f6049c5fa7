import IdentityFederation.Properties.Mirror

/-!
# Reconciling twice

Every reconcile rebuilds its conditions from scratch and stamps each of them with the clock, also
those whose status has not changed.  So a second reconcile of the same bindings finds the same
verdict and writes the same statuses and the same resolved binding, but for the timestamps.  These
are written with whole seconds: it leaves everything as it was exactly when it reads the clock
within the same seconds again (`reconcile_twice_iff`).

A write that changes a status is an event for the watcher, and one that changes nothing is not.
So the second reconcile gives the watcher nothing to see exactly when its status writes fall into
the same seconds as those of the first one; otherwise it enqueues its own key again.
-/

namespace IdentityFederation

open Interaction Program

/-! ## What the clock decides -/

/-- The two readings of the clock are written in the same way. -/
def SameSecond (now now' : Time) : Prop := now.wholeSeconds = now'.wholeSeconds

instance (now now' : Time) : Decidable (SameSecond now now') := inferInstanceAs (Decidable (_ = _))

lemma crbStatusFor_inj {verdict : Verdict} {crb : CloudRoleBinding} {now now' : Time} :
    crbStatusFor verdict crb now = crbStatusFor verdict crb now' ↔ SameSecond now now' := by
  unfold SameSecond
  constructor
  · intro h
    have hconditions := congrArg (fun status => status.conditions.head?) h
    cases verdict <;>
      simpa [crbStatusFor, buildCrbStatus, crbReadyCondition] using hconditions
  · intro h
    cases verdict <;>
      simp only [crbStatusFor, buildCrbStatus, crbReadyCondition, crbIssueCondition,
        crbClearedConditions, h]

/-- The status of a binding is a function of what users wrote, the verdict and the clock. -/
lemma crbStatusFor_bare (verdict : Verdict) (crb : CloudRoleBinding) (now : Time) :
    crbStatusFor verdict crb.bare now = crbStatusFor verdict crb now := rfl

lemma outcomeAt_inj {sha256 : String → String} {key : Key} {s : Cluster} {now now' : Time} :
    outcomeAt sha256 key s now = outcomeAt sha256 key s now' ↔ SameSecond now now' := by
  unfold SameSecond
  constructor
  · intro h
    have hconditions := congrArg (fun r => r.status.map fun status => status.conditions) h
    unfold outcomeAt outcome resolvedFor at hconditions
    cases hv : verdictOn key (s.list key.ns) <;>
      simpa [hv, buildResolvedFromSpec, buildFailedResolved] using hconditions
  · intro h
    unfold outcomeAt outcome resolvedFor
    cases hv : verdictOn key (s.list key.ns) <;>
      simp only [buildResolvedFromSpec, buildFailedResolved, h]

/-! ## The bindings between two reconciles -/

/-- The second reconcile starts from what the first one has left of the custom resources; the
rest of the cluster may have changed. -/
structure Unchanged (s s' : Cluster) : Prop where
  bindings : s'.bindings = s.bindings
  status : ∀ k, s'.crbStatus k = s.crbStatus k
  rcrbs : s'.rcrbs = s.rcrbs

/-- The relevant bindings, but for what the webhook and the server write to them. -/
lemma relevantCrbs_bare_of_bindings {s s' : Cluster} (h : s'.bindings = s.bindings) (key : Key) :
    (relevantCrbs key.serviceAccountName (s'.list key.ns)).map CloudRoleBinding.bare =
      (relevantCrbs key.serviceAccountName (s.list key.ns)).map CloudRoleBinding.bare := by
  rw [← relevantCrbs_map_bare, ← relevantCrbs_map_bare, map_bare_list, map_bare_list, h]

lemma markedCrbs_map_bare (verdict : Verdict) (l : List CloudRoleBinding) :
    markedCrbs verdict (l.map CloudRoleBinding.bare) =
      (markedCrbs verdict l).map CloudRoleBinding.bare := by
  simp only [markedCrbs, List.filter_map]
  rfl

lemma markedOn_bare_of_bindings {s s' : Cluster} (h : s'.bindings = s.bindings) (key : Key) :
    (markedOn key s').map CloudRoleBinding.bare = (markedOn key s).map CloudRoleBinding.bare := by
  rw [markedOn, markedOn, ← markedCrbs_map_bare, ← markedCrbs_map_bare,
    relevantCrbs_bare_of_bindings h, verdictOn_of_bindings h]

lemma length_markedOn {s s' : Cluster} (h : s'.bindings = s.bindings) (key : Key) :
    (markedOn key s').length = (markedOn key s).length := by
  have hlength := congrArg List.length (markedOn_bare_of_bindings h key)
  rwa [List.length_map, List.length_map] at hlength

/-- The same binding stands at the same place in both reconciles. -/
lemma exists_markedOn {s s' : Cluster} (h : s'.bindings = s.bindings) {key : Key} {i : ℕ}
    {crb : CloudRoleBinding} (hi : (markedOn key s)[i]? = some crb) :
    ∃ crb', (markedOn key s')[i]? = some crb' ∧ crb'.bare = crb.bare := by
  have hbare : ((markedOn key s').map CloudRoleBinding.bare)[i]? = some crb.bare := by
    rw [markedOn_bare_of_bindings h, List.getElem?_map, hi, Option.map_some]
  rw [List.getElem?_map] at hbare
  exact Option.map_eq_some_iff.mp hbare

/-! ## What the watcher sees of the writes -/

lemma replaceCrbStatus_log_iff {s s' : Cluster} {ns name : String} {crb : CloudRoleBinding}
    (h : s.replaceCrbStatus ns name crb = (.ok (), s')) :
    s'.log = s.log ↔ s.crbStatus ⟨ns, name⟩ = crb.status := by
  unfold Cluster.replaceCrbStatus at h
  split at h
  · cases h
  rename_i c hc
  have hstatus : s.crbStatus ⟨ns, name⟩ = c.status := by rw [Cluster.crbStatus, hc]; rfl
  split at h
  · cases h
  split at h
  · rename_i hsame
    obtain rfl : s = s' := congrArg Prod.snd h
    simp [hstatus, hsame]
  · rename_i hother
    obtain rfl := congrArg Prod.snd h
    simp [hstatus, Ne.symm hother]

/-- **The loop is quiet exactly when every status it writes is there already.** -/
lemma writeStatuses_quiet_iff {ns : String} {verdict : Verdict} {clock : ℕ → Time}
    {s s' : Cluster} {l : List CloudRoleBinding}
    (h : (writeStatuses ns verdict clock l).run.exec Cluster.serve s = (.ok (), s'))
    (hmarked : ∀ crb ∈ l, crb.nameOrDefault ≠ "" ∧ marks verdict crb.nameOrDefault)
    (hdistinct : l.Pairwise fun c c' => c.nameOrDefault ≠ c'.nameOrDefault) :
    s'.log = s.log ↔ ∀ i crb, l[i]? = some crb →
      s.crbStatus ⟨ns, crb.nameOrDefault⟩ = some (crbStatusFor verdict crb (clock i)) := by
  induction l generalizing clock s with
  | nil =>
      obtain rfl : s = s' := congrArg Prod.snd h
      simp
  | cons c rest ih =>
      obtain ⟨hhead, htail⟩ := List.pairwise_cons.mp hdistinct
      obtain ⟨hname, hmark⟩ := hmarked c List.mem_cons_self
      obtain ⟨s₁, hwrite, h⟩ := writeStatuses_cons_ok hname hmark h
      have hquiet := ih h (fun c' hc' => hmarked c' (List.mem_cons_of_mem _ hc')) htail
      have hfirst := replaceCrbStatus_log_iff hwrite
      have hgrows : Cluster.LogGrows false s s₁ := by
        have := Cluster.logGrows_replaceCrbStatus s ns c.nameOrDefault
          { c with status := some (crbStatusFor verdict c (clock 0)) }
        rwa [hwrite] at this
      have hgrows' : Cluster.LogGrows false s₁ s' := by
        have := exec_preorder Cluster.serve (Cluster.LogGrows false)
          (Cluster.LogGrows.refl false) (fun _ _ _ => Cluster.LogGrows.trans)
          Cluster.logGrows_serve (writeStatuses ns verdict (fun i => clock (i + 1)) rest).run s₁
        rwa [h] at this
      have hrest : ∀ crb ∈ rest,
          s₁.crbStatus ⟨ns, crb.nameOrDefault⟩ = s.crbStatus ⟨ns, crb.nameOrDefault⟩ :=
        fun crb hcrb => Cluster.crbStatus_replaceCrbStatus_of_ne hwrite fun heq =>
          hhead crb hcrb (congrArg ObjectKey.name heq).symm
      -- The log only grows, so a quiet run is quiet at every write.
      rw [hgrows.log_eq_iff hgrows', hfirst, hquiet]
      constructor
      · rintro ⟨hc, hall⟩ i crb hi
        cases i with
        | zero =>
            obtain rfl : c = crb := by simpa using hi
            exact hc
        | succ i =>
            have hi : rest[i]? = some crb := by simpa using hi
            rw [← hrest crb (List.mem_of_getElem? hi)]
            exact hall i crb hi
      · intro hall
        refine ⟨hall 0 c rfl, fun i crb hi => ?_⟩
        rw [hrest crb (List.mem_of_getElem? hi)]
        exact hall (i + 1) crb (by simpa using hi)

/-! ## One reconcile, write by write -/

section Writes

variable {sha256 : String → String} {clock : ℕ → Time} {key : Key} {s s' : Cluster}

/-- The statuses that a reconcile writes, each with its own reading of the clock. -/
lemma reconcile_marks_at
    (h : (reconcile sha256 clock key).run.exec Cluster.serve s = (.ok (), s')) {i : ℕ}
    {crb : CloudRoleBinding} (hi : (markedOn key s)[i]? = some crb) :
    s'.crbStatus ⟨key.ns, crb.nameOrDefault⟩ =
      some (crbStatusFor (verdictOn key (s.list key.ns)) crb (clock i)) := by
  obtain ⟨s₁, hloop, -, rfl⟩ := reconcile_ok h
  have hmarked := crbStatus_writeStatuses_at hloop (relevantCrbs_names_distinct s key) hi
  exact hmarked

/-- It writes no other status. -/
lemma reconcile_keeps_unmarked
    (h : (reconcile sha256 clock key).run.exec Cluster.serve s = (.ok (), s')) {k : ObjectKey}
    (hk : ∀ crb ∈ markedOn key s, k ≠ ⟨key.ns, crb.nameOrDefault⟩) :
    s'.crbStatus k = s.crbStatus k :=
  reconcile_keeps h fun crb hmem hname hmark => hk crb (mem_markedCrbs.mpr ⟨hmem, hname, hmark⟩)

/-- The number of the reading of the clock that is stored with the resolved binding. -/
def lastReading (key : Key) (s : Cluster) : ℕ :=
  (relevantCrbs key.serviceAccountName (s.list key.ns)).length

lemma lastReading_of_bindings {s s' : Cluster} (h : s'.bindings = s.bindings) (key : Key) :
    lastReading key s' = lastReading key s := by
  have hlength := congrArg List.length (relevantCrbs_bare_of_bindings h key)
  rwa [List.length_map, List.length_map] at hlength

lemma reconcile_stores_at
    (h : (reconcile sha256 clock key).run.exec Cluster.serve s = (.ok (), s')) :
    s'.rcrbs = Function.update s.rcrbs key.resolved
      (some (outcomeAt sha256 key s (clock (lastReading key s)))) := by
  obtain ⟨s₁, hloop, -, rfl⟩ := reconcile_ok h
  have hrcrbs := @rcrbs_writeStatuses key.ns (verdictOn key (s.list key.ns)) clock s
    (relevantCrbs key.serviceAccountName (s.list key.ns))
  rw [hloop] at hrcrbs
  exact congrArg (Function.update · key.resolved _) hrcrbs

/-- A reconcile is quiet when its status loop is. -/
lemma reconcile_quiet_iff
    (h : (reconcile sha256 clock key).run.exec Cluster.serve s = (.ok (), s')) :
    s'.log = s.log ↔ ∀ i crb, (markedOn key s)[i]? = some crb →
      s.crbStatus ⟨key.ns, crb.nameOrDefault⟩ =
        some (crbStatusFor (verdictOn key (s.list key.ns)) crb (clock i)) := by
  obtain ⟨s₁, hloop, -, rfl⟩ := reconcile_ok h
  rw [← writeStatuses_markedCrbs] at hloop
  have hquiet := writeStatuses_quiet_iff hloop (fun crb hcrb => (mem_markedCrbs.mp hcrb).2)
    (markedOn_names_distinct s key)
  exact hquiet

lemma reconcile_bindings
    (h : (reconcile sha256 clock key).run.exec Cluster.serve s = (.ok (), s')) :
    s'.bindings = s.bindings :=
  (reconcile_stores h).1

end Writes

/-! ## Two reconciles -/

section Twice

variable {sha256 : String → String} {clock₁ clock₂ : ℕ → Time} {key : Key}
  {s s₁ s₁' s₂ : Cluster}

/-- What the second reconcile writes at a place, against what the first one wrote there. -/
lemma marked_twice (clock₂ : ℕ → Time)
    (h₁ : (reconcile sha256 clock₁ key).run.exec Cluster.serve s = (.ok (), s₁))
    (hmid : Unchanged s₁ s₁') {i : ℕ} {crb : CloudRoleBinding}
    (hi : (markedOn key s)[i]? = some crb) :
    ∃ crb', (markedOn key s₁')[i]? = some crb' ∧ crb'.nameOrDefault = crb.nameOrDefault ∧
      (s₁'.crbStatus ⟨key.ns, crb.nameOrDefault⟩ =
          some (crbStatusFor (verdictOn key (s₁'.list key.ns)) crb' (clock₂ i)) ↔
        SameSecond (clock₂ i) (clock₁ i)) := by
  have hbindings : s₁'.bindings = s.bindings := hmid.bindings.trans (reconcile_bindings h₁)
  obtain ⟨crb', hi', hbare⟩ := exists_markedOn hbindings hi
  have hname : crb'.nameOrDefault = crb.nameOrDefault := by
    have hbarename := congrArg CloudRoleBinding.nameOrDefault hbare
    exact hbarename
  refine ⟨crb', hi', hname, ?_⟩
  have hsame : ∀ now, crbStatusFor (verdictOn key (s₁'.list key.ns)) crb' now =
      crbStatusFor (verdictOn key (s.list key.ns)) crb now := by
    intro now
    rw [verdictOn_of_bindings hbindings, ← crbStatusFor_bare, hbare, crbStatusFor_bare]
  rw [hmid.status, reconcile_marks_at h₁ hi, hsame, Option.some.injEq, crbStatusFor_inj]
  exact eq_comm

/-- The same, from the place in the list of the second one. -/
lemma marked_again (clock₂ : ℕ → Time)
    (h₁ : (reconcile sha256 clock₁ key).run.exec Cluster.serve s = (.ok (), s₁))
    (hmid : Unchanged s₁ s₁') {i : ℕ} {crb' : CloudRoleBinding}
    (hi : (markedOn key s₁')[i]? = some crb') :
    i < (markedOn key s).length ∧
      (s₁'.crbStatus ⟨key.ns, crb'.nameOrDefault⟩ =
          some (crbStatusFor (verdictOn key (s₁'.list key.ns)) crb' (clock₂ i)) ↔
        SameSecond (clock₂ i) (clock₁ i)) := by
  have hbindings : s₁'.bindings = s.bindings := hmid.bindings.trans (reconcile_bindings h₁)
  have hlt : i < (markedOn key s).length := by
    rw [← length_markedOn hbindings]
    exact (List.getElem?_eq_some_iff.mp hi).1
  obtain ⟨crb'', hi', hname, htwice⟩ :=
    marked_twice clock₂ h₁ hmid (List.getElem?_eq_getElem hlt)
  obtain rfl := Option.some.inj (hi.symm.trans hi')
  rw [← hname] at htwice
  exact ⟨hlt, htwice⟩

/-- The second reconcile leaves the statuses alone exactly when it reads the same seconds. -/
lemma statuses_twice_iff
    (h₁ : (reconcile sha256 clock₁ key).run.exec Cluster.serve s = (.ok (), s₁))
    (hmid : Unchanged s₁ s₁')
    (h₂ : (reconcile sha256 clock₂ key).run.exec Cluster.serve s₁' = (.ok (), s₂)) :
    (∀ k, s₂.crbStatus k = s₁.crbStatus k) ↔
      ∀ i < (markedOn key s).length, SameSecond (clock₂ i) (clock₁ i) := by
  constructor
  · intro hsame i hlt
    obtain ⟨crb', hi', hname, htwice⟩ :=
      marked_twice clock₂ h₁ hmid (List.getElem?_eq_getElem hlt)
    rw [← htwice, ← hname, ← reconcile_marks_at h₂ hi', hsame, hmid.status]
  · intro hclock k
    rw [← hmid.status]
    by_cases hk : ∃ crb' ∈ markedOn key s₁', k = ⟨key.ns, crb'.nameOrDefault⟩
    · obtain ⟨crb', hmem, rfl⟩ := hk
      obtain ⟨i, hi'⟩ := List.mem_iff_getElem?.mp hmem
      obtain ⟨hlt, htwice⟩ := marked_again clock₂ h₁ hmid hi'
      rw [reconcile_marks_at h₂ hi', htwice.mpr (hclock i hlt)]
    · exact reconcile_keeps_unmarked h₂ fun crb hcrb heq => hk ⟨crb, hcrb, heq⟩

/-- It stores the same resolved binding exactly when it reads the same second for it. -/
lemma rcrbs_twice_iff
    (h₁ : (reconcile sha256 clock₁ key).run.exec Cluster.serve s = (.ok (), s₁))
    (hmid : Unchanged s₁ s₁')
    (h₂ : (reconcile sha256 clock₂ key).run.exec Cluster.serve s₁' = (.ok (), s₂)) :
    s₂.rcrbs = s₁.rcrbs ↔ SameSecond (clock₂ (lastReading key s)) (clock₁ (lastReading key s)) := by
  have hbindings : s₁'.bindings = s.bindings := hmid.bindings.trans (reconcile_bindings h₁)
  have houtcome : ∀ now, outcomeAt sha256 key s₁' now = outcomeAt sha256 key s now := by
    intro now
    simp only [outcomeAt, outcome_of_bindings sha256 hbindings]
  rw [reconcile_stores_at h₂, hmid.rcrbs, reconcile_stores_at h₁, Function.update_idem,
    houtcome, lastReading_of_bindings hbindings]
  constructor
  · intro h
    have hvalue := congrFun h key.resolved
    rw [Function.update_self, Function.update_self, Option.some.injEq] at hvalue
    exact outcomeAt_inj.mp hvalue
  · intro h
    rw [outcomeAt_inj.mpr h]

/-- The second reconcile shows the watcher nothing exactly when it changes no status. -/
lemma quiet_twice_iff
    (h₁ : (reconcile sha256 clock₁ key).run.exec Cluster.serve s = (.ok (), s₁))
    (hmid : Unchanged s₁ s₁')
    (h₂ : (reconcile sha256 clock₂ key).run.exec Cluster.serve s₁' = (.ok (), s₂)) :
    s₂.log = s₁'.log ↔ ∀ i < (markedOn key s).length, SameSecond (clock₂ i) (clock₁ i) := by
  rw [reconcile_quiet_iff h₂]
  constructor
  · intro hquiet i hlt
    obtain ⟨crb', hi', hname, htwice⟩ :=
      marked_twice clock₂ h₁ hmid (List.getElem?_eq_getElem hlt)
    rw [← htwice, ← hname]
    exact hquiet i crb' hi'
  · intro hclock i crb' hi'
    obtain ⟨hlt, htwice⟩ := marked_again clock₂ h₁ hmid hi'
    exact htwice.mpr (hclock i hlt)

/-- **A second reconcile leaves everything as it was exactly when it reads the same seconds.**  The
first reconcile has returned `Ok`, the custom resources have not changed since, and the second
one returns `Ok` too.  It leaves every status and every resolved binding as the first one left
them if and only if each of its readings of the clock is in the same second as that of the first
one; and the watcher sees nothing of it if and only if that is so for the statuses. -/
theorem reconcile_twice_iff
    (h₁ : (reconcile sha256 clock₁ key).run.exec Cluster.serve s = (.ok (), s₁))
    (hmid : Unchanged s₁ s₁')
    (h₂ : (reconcile sha256 clock₂ key).run.exec Cluster.serve s₁' = (.ok (), s₂)) :
    ((∀ k, s₂.crbStatus k = s₁.crbStatus k) ∧ s₂.rcrbs = s₁.rcrbs ↔
      (∀ i < (markedOn key s).length, SameSecond (clock₂ i) (clock₁ i)) ∧
        SameSecond (clock₂ (lastReading key s)) (clock₁ (lastReading key s))) ∧
    (s₂.log = s₁'.log ↔ ∀ i < (markedOn key s).length, SameSecond (clock₂ i) (clock₁ i)) :=
  ⟨and_congr (statuses_twice_iff h₁ hmid h₂) (rcrbs_twice_iff h₁ hmid h₂),
    quiet_twice_iff h₁ hmid h₂⟩

end Twice

/-! ## A second later -/

/-- A cluster in which a user has just created a binding. -/
def oneBinding : Cluster :=
  ((UserChange.create ⟨"apps", "role"⟩
    (roleBinding "web" "arn:aws:iam::123456789012:role/web")).apply
      (Cluster.empty fun _ => none)).getD (Cluster.empty fun _ => none)

/-- The clusters after a first and after a second reconcile of the binding. -/
def reconciledTwice (first second : Time) : Option (Cluster × Cluster) :=
  match (reconcile webDigest (fun _ => first) ⟨"apps", "web"⟩).run.exec Cluster.serve oneBinding with
  | (.error _, _) => none
  | (.ok (), s₁) =>
      match (reconcile webDigest (fun _ => second) ⟨"apps", "web"⟩).run.exec Cluster.serve s₁ with
      | (.error _, _) => none
      | (.ok (), s₂) => some (s₁, s₂)

lemma reconciledTwice_eq_some {first second : Time} {s₁ s₂ : Cluster}
    (h : reconciledTwice first second = some (s₁, s₂)) :
    (reconcile webDigest (fun _ => first) ⟨"apps", "web"⟩).run.exec Cluster.serve oneBinding =
        (.ok (), s₁) ∧
      (reconcile webDigest (fun _ => second) ⟨"apps", "web"⟩).run.exec Cluster.serve s₁ =
        (.ok (), s₂) := by
  unfold reconciledTwice at h
  split at h
  · cases h
  rename_i s₁' hfirst
  split at h
  · cases h
  rename_i s₂' hsecond
  obtain ⟨rfl, rfl⟩ := Prod.mk.inj (Option.some.inj h)
  exact ⟨hfirst, hsecond⟩

/-- Within one second, the second reconcile changes nothing and shows nothing. -/
theorem reconcile_twice_within_second :
    ∃ s₁ s₂, reconciledTwice 0 999999999 = some (s₁, s₂) ∧
      (∀ k, s₂.crbStatus k = s₁.crbStatus k) ∧ s₂.rcrbs = s₁.rcrbs ∧ s₂.log = s₁.log := by
  obtain ⟨⟨s₁, s₂⟩, h⟩ := Option.isSome_iff_exists.mp
    (show (reconciledTwice 0 999999999).isSome = true by decide)
  obtain ⟨h₁, h₂⟩ := reconciledTwice_eq_some h
  have hsame : SameSecond 999999999 0 := by decide
  have htwice := reconcile_twice_iff h₁ ⟨rfl, fun _ => rfl, rfl⟩ h₂
  obtain ⟨hstatus, hrcrbs⟩ := htwice.1.mpr ⟨fun _ _ => hsame, hsame⟩
  exact ⟨s₁, s₂, h, hstatus, hrcrbs, htwice.2.mpr fun _ _ => hsame⟩

/-- A second later, the second reconcile changes the status of the binding and the resolved
binding, and the watcher sees a third event for the key: after the creation of the binding and
the status that the first reconcile wrote, the status that the second one wrote. -/
theorem reconcile_twice_second_later :
    ∃ s₁ s₂, reconciledTwice 0 1000000000 = some (s₁, s₂) ∧
      s₂.crbStatus ⟨"apps", "role"⟩ ≠ s₁.crbStatus ⟨"apps", "role"⟩ ∧
      s₂.rcrbs ⟨"apps", "web"⟩ ≠ s₁.rcrbs ⟨"apps", "web"⟩ ∧
      s₁.log.map (fun e => watchKey e.event) = [some ⟨"apps", "web"⟩, some ⟨"apps", "web"⟩] ∧
      s₂.log.map (fun e => watchKey e.event) =
        [some ⟨"apps", "web"⟩, some ⟨"apps", "web"⟩, some ⟨"apps", "web"⟩] := by
  obtain ⟨⟨s₁, s₂⟩, h, hview⟩ : ∃ r, reconciledTwice 0 1000000000 = some r ∧
      (decide (r.2.crbStatus ⟨"apps", "role"⟩ = r.1.crbStatus ⟨"apps", "role"⟩),
        decide (r.2.rcrbs ⟨"apps", "web"⟩ = r.1.rcrbs ⟨"apps", "web"⟩),
        r.1.log.map (fun e => watchKey e.event), r.2.log.map fun e => watchKey e.event) =
      (false, false, [some ⟨"apps", "web"⟩, some ⟨"apps", "web"⟩],
        [some ⟨"apps", "web"⟩, some ⟨"apps", "web"⟩, some ⟨"apps", "web"⟩]) :=
    Option.map_eq_some_iff.mp (by decide)
  simp only [Prod.mk.injEq, decide_eq_false_iff_not] at hview
  exact ⟨s₁, s₂, h, hview⟩

end IdentityFederation
