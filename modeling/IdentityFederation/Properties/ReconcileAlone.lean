import IdentityFederation.Api.Frame
import IdentityFederation.Webhook.Reconcile

/-!
# A reconcile that runs alone

What a whole `reconcile` does to the cluster when nobody else writes to it meanwhile.

* `outcome_of_bindings`: the object it stores is a function of what users wrote; statuses and
  resource versions do not matter.
* `reconcile_stores`: a reconcile that returns `Ok` has stored that object under its key, and
  changed neither another resolved binding nor what users wrote.
* `reconcile_marks` and `reconcile_keeps`: it has written the status of the bindings its verdict
  marks and of no others.
* `reconcile_succeeds`: it does return `Ok`, for every key with a name.
-/

namespace IdentityFederation

open Interaction Program

/-! ## The outcome is a function of the bindings -/

/-- A binding without what the webhook and the server write to it. -/
def CloudRoleBinding.bare (crb : CloudRoleBinding) : CloudRoleBinding :=
  { crb with status := none, metadata := { crb.metadata with resourceVersion := none } }

lemma relevantCrbs_map_bare (sa : String) (all : List CloudRoleBinding) :
    relevantCrbs sa (all.map CloudRoleBinding.bare) = (relevantCrbs sa all).map CloudRoleBinding.bare := by
  simp only [relevantCrbs, List.filter_map]
  rfl

lemma verdictOn_map_bare (key : Key) (all : List CloudRoleBinding) :
    verdictOn key (all.map CloudRoleBinding.bare) = verdictOn key all := by
  rw [verdictOn, relevantCrbs_map_bare]
  exact @mergeInputs_map CloudRoleBinding.bare (fun _ => rfl) (fun _ => rfl) ..

lemma outcome_map_bare (sha256 : String → String) (key : Key) (all : List CloudRoleBinding)
    (now : Time) : outcome sha256 key (all.map CloudRoleBinding.bare) now = outcome sha256 key all now := by
  rw [outcome, verdictOn_map_bare, relevantCrbs_map_bare, sourcesOf, List.map_map]
  rfl

/-- The bare object of a binding. -/
def bareObject (b : ObjectKey × ℕ × CloudRoleBindingSpec) : CloudRoleBinding where
  metadata := { name := some b.1.name, ns := some b.1.ns, generation := some b.2.1 }
  spec := b.2.2

/-- The bare objects of a namespace, read off the bindings. -/
lemma map_bare_list (s : Cluster) (ns : String) :
    (s.list ns).map CloudRoleBinding.bare = s.bindings.filterMap fun b =>
      if b.1.ns = ns then some (bareObject b) else none := by
  simp only [Cluster.list, Cluster.bindings, List.filterMap_map, List.map_filterMap]
  refine List.filterMap_congr fun p _ => ?_
  by_cases hns : p.1.ns = ns <;>
    simp [hns, StoredCrb.object, CloudRoleBinding.bare, bareObject]

lemma verdictOn_of_bindings {s s' : Cluster} (h : s.bindings = s'.bindings) (key : Key) :
    verdictOn key (s.list key.ns) = verdictOn key (s'.list key.ns) := by
  rw [← verdictOn_map_bare, map_bare_list, h, ← map_bare_list, verdictOn_map_bare]

/-- **The object a reconcile stores is a function of what users wrote.** -/
lemma outcome_of_bindings (sha256 : String → String) {s s' : Cluster}
    (h : s.bindings = s'.bindings) (key : Key) (now : Time) :
    outcome sha256 key (s.list key.ns) now = outcome sha256 key (s'.list key.ns) now := by
  rw [← outcome_map_bare, map_bare_list, h, ← map_bare_list, outcome_map_bare]

/-! ## Requests one by one -/

/-- One request that is served, followed by `?`. -/
lemma exec_send (q : ApiRequest) (s : Cluster) :
    (ApiM.send q).run.exec Cluster.serve s =
      ((s.serve q).1.mapError Error.api, (s.serve q).2) := rfl

lemma exec_send_ok {q : ApiRequest} {s s' : Cluster} {a : q.Answer}
    (h : (ApiM.send q).run.exec Cluster.serve s = (.ok a, s')) : s.serve q = (.ok a, s') := by
  rw [exec_send] at h
  rcases hs : s.serve q with ⟨res, t⟩
  rw [hs] at h
  cases res with
  | error e => simp [Except.mapError] at h
  | ok b => simpa [Except.mapError] using h

/-- No program of a component touches what users wrote. -/
lemma bindings_exec {α : Type} (p : ApiProgram α) (s : Cluster) :
    (p.exec Cluster.serve s).2.bindings = s.bindings :=
  exec_frame Cluster.serve Cluster.bindings Cluster.bindings_serve p s

/-- The requests of the status loop are writes to statuses. -/
lemma writeStatuses_sends (ns : String) (verdict : Verdict) (clock : ℕ → Time)
    (l : List CloudRoleBinding) :
    (writeStatuses ns verdict clock l).run.Sends fun q =>
      ∃ name crb, q = .replaceCrbStatus ns name crb := by
  induction l generalizing clock with
  | nil => trivial
  | cons crb rest ih =>
      simp only [writeStatuses]
      split
      · exact ih clock
      split
      · refine Sends.run_bind ⟨⟨_, _, rfl⟩, fun _ => trivial⟩ fun _ => ih _
      · exact ih clock

lemma sends_send {P : ApiRequest → Prop} {q : ApiRequest} (h : P q) :
    (ApiM.send q).run.Sends P := ⟨h, fun _ => trivial⟩

lemma name_outcome (sha256 : String → String) (key : Key) (all : List CloudRoleBinding)
    (now : Time) :
    (outcome sha256 key all now).metadata.name.getD "" = key.serviceAccountName := by
  unfold outcome resolvedFor
  split <;> rfl

/-- Once it has listed, a reconcile does not list again and writes the resolved binding of its
key and no other. -/
lemma reconcileListed_sends (sha256 : String → String) (clock : ℕ → Time) (key : Key)
    (all : List CloudRoleBinding) :
    (reconcileListed sha256 clock key all).run.Sends fun q =>
      (∀ ns, q ≠ .listCrbs ns) ∧ ∀ k, Cluster.writes q = some k → k = key.resolved := by
  refine Sends.run_bind ((writeStatuses_sends ..).mono ?_) fun _ => ?_
  · rintro q ⟨name, crb, rfl⟩
    exact ⟨nofun, nofun⟩
  · simp only [upsertResolved]
    split
    · trivial
    · refine Sends.run_bind (sends_send ⟨nofun, ?_⟩) fun _ =>
        sends_send ⟨nofun, ?_⟩
      all_goals
        intro k hk
        rw [← Option.some.inj hk, name_outcome]
        rfl

lemma reconcile_writes (sha256 : String → String) (clock : ℕ → Time) (key : Key) :
    (reconcile sha256 clock key).run.Sends fun q =>
      ∀ k, Cluster.writes q = some k → k = key.resolved := by
  refine Sends.run_bind (sends_send (by simp [Cluster.writes])) fun all => ?_
  exact (reconcileListed_sends sha256 clock key all).mono fun q h => h.2

/-! ## The status loop -/

section Loop

variable {ns : String} {verdict : Verdict} {clock : ℕ → Time} {s s' : Cluster}
  {l : List CloudRoleBinding}

lemma rcrbs_writeStatuses :
    ((writeStatuses ns verdict clock l).run.exec Cluster.serve s).2.rcrbs = s.rcrbs := by
  refine exec_frame_of_sends Cluster.rcrbs ?_ (writeStatuses_sends ns verdict clock l) s
  rintro s q ⟨name, crb, rfl⟩
  exact Cluster.rcrbs_replaceCrbStatus s ns name crb

lemma writeStatuses_cons_marked {crb : CloudRoleBinding} {rest : List CloudRoleBinding}
    (hname : crb.nameOrDefault ≠ "") (hmark : marks verdict crb.nameOrDefault) :
    writeStatuses ns verdict clock (crb :: rest) = (do
      ApiM.send (.replaceCrbStatus ns crb.nameOrDefault
        { crb with status := some (crbStatusFor verdict crb (clock 0)) })
      writeStatuses ns verdict (fun i => clock (i + 1)) rest) := by
  simp only [writeStatuses, hname, hmark, if_true, if_false]

/-- One iteration of the loop that marks its binding. -/
lemma writeStatuses_cons_ok {crb : CloudRoleBinding} {rest : List CloudRoleBinding}
    (hname : crb.nameOrDefault ≠ "") (hmark : marks verdict crb.nameOrDefault)
    (h : (writeStatuses ns verdict clock (crb :: rest)).run.exec Cluster.serve s = (.ok (), s')) :
    ∃ s₁, s.replaceCrbStatus ns crb.nameOrDefault
        { crb with status := some (crbStatusFor verdict crb (clock 0)) } = (.ok (), s₁) ∧
      (writeStatuses ns verdict (fun i => clock (i + 1)) rest).run.exec Cluster.serve s₁ =
        (.ok (), s') := by
  rw [writeStatuses_cons_marked hname hmark] at h
  obtain ⟨⟨⟩, s₁, hsend, hrest⟩ := exec_run_bind_ok Cluster.serve h
  exact ⟨s₁, exec_send_ok hsend, hrest⟩

lemma writeStatuses_cons_skip {crb : CloudRoleBinding} {rest : List CloudRoleBinding}
    (hskip : ¬ (crb.nameOrDefault ≠ "" ∧ marks verdict crb.nameOrDefault)) :
    writeStatuses ns verdict clock (crb :: rest) = writeStatuses ns verdict clock rest := by
  by_cases hname : crb.nameOrDefault = ""
  · simp [writeStatuses, hname]
  · have hmark : ¬ marks verdict crb.nameOrDefault := fun hmark => hskip ⟨hname, hmark⟩
    simp [writeStatuses, hname, hmark]

/-- A binding that the loop does not mark keeps its status. -/
lemma crbStatus_writeStatuses_of_unmarked {key : ObjectKey}
    (h : (writeStatuses ns verdict clock l).run.exec Cluster.serve s = (.ok (), s'))
    (hkey : ∀ crb ∈ l, crb.nameOrDefault ≠ "" → marks verdict crb.nameOrDefault →
      key ≠ ⟨ns, crb.nameOrDefault⟩) :
    s'.crbStatus key = s.crbStatus key := by
  induction l generalizing clock s with
  | nil =>
      obtain rfl : s = s' := congrArg Prod.snd h
      rfl
  | cons crb rest ih =>
      have hrest := fun c hc => hkey c (List.mem_cons_of_mem _ hc)
      by_cases hmark : crb.nameOrDefault ≠ "" ∧ marks verdict crb.nameOrDefault
      · obtain ⟨s₁, hwrite, h⟩ := writeStatuses_cons_ok hmark.1 hmark.2 h
        have hne := hkey crb List.mem_cons_self hmark.1 hmark.2
        rw [ih h hrest, Cluster.crbStatus_replaceCrbStatus_of_ne hwrite hne]
      · rw [writeStatuses_cons_skip hmark] at h
        exact ih h hrest

/-- The bindings that the loop marks, in order. -/
def markedCrbs (verdict : Verdict) (l : List CloudRoleBinding) : List CloudRoleBinding :=
  l.filter fun crb => crb.nameOrDefault ≠ "" ∧ marks verdict crb.nameOrDefault

lemma mem_markedCrbs {crb : CloudRoleBinding} :
    crb ∈ markedCrbs verdict l ↔
      crb ∈ l ∧ crb.nameOrDefault ≠ "" ∧ marks verdict crb.nameOrDefault := by
  simp [markedCrbs]

/-- The loop sends no request for the others. -/
lemma writeStatuses_markedCrbs (ns : String) (verdict : Verdict) (clock : ℕ → Time)
    (l : List CloudRoleBinding) :
    writeStatuses ns verdict clock (markedCrbs verdict l) = writeStatuses ns verdict clock l := by
  induction l generalizing clock with
  | nil => rfl
  | cons crb rest ih =>
      by_cases hmark : crb.nameOrDefault ≠ "" ∧ marks verdict crb.nameOrDefault
      · have hcons : markedCrbs verdict (crb :: rest) = crb :: markedCrbs verdict rest :=
          List.filter_cons_of_pos (by simpa using hmark)
        rw [hcons, writeStatuses_cons_marked hmark.1 hmark.2,
          writeStatuses_cons_marked hmark.1 hmark.2, ih]
      · have hcons : markedCrbs verdict (crb :: rest) = markedCrbs verdict rest :=
          List.filter_cons_of_neg (by simpa using hmark)
        rw [hcons, ih, writeStatuses_cons_skip hmark]

/-- Each of the marked bindings has the status of the verdict, with the reading of the clock of
its own iteration. -/
lemma crbStatus_writeStatuses_at {crb : CloudRoleBinding} {i : ℕ}
    (h : (writeStatuses ns verdict clock l).run.exec Cluster.serve s = (.ok (), s'))
    (hdistinct : l.Pairwise fun c c' => c.nameOrDefault ≠ c'.nameOrDefault)
    (hi : (markedCrbs verdict l)[i]? = some crb) :
    s'.crbStatus ⟨ns, crb.nameOrDefault⟩ = some (crbStatusFor verdict crb (clock i)) := by
  rw [← writeStatuses_markedCrbs] at h
  replace hdistinct : (markedCrbs verdict l).Pairwise
      fun c c' => c.nameOrDefault ≠ c'.nameOrDefault := hdistinct.filter _
  have hmarked : ∀ c ∈ markedCrbs verdict l, c.nameOrDefault ≠ "" ∧
      marks verdict c.nameOrDefault := fun c hc => (mem_markedCrbs.mp hc).2
  generalize markedCrbs verdict l = l at *
  induction l generalizing clock s i with
  | nil => simp at hi
  | cons c rest ih =>
      obtain ⟨hhead, htail⟩ := List.pairwise_cons.mp hdistinct
      obtain ⟨hname, hmark⟩ := hmarked c List.mem_cons_self
      obtain ⟨s₁, hwrite, h⟩ := writeStatuses_cons_ok hname hmark h
      cases i with
      | zero =>
          -- The later iterations are about bindings with other names.
          obtain rfl : c = crb := by simpa using hi
          obtain ⟨⟨old, rv, -, hnew⟩, -⟩ := Cluster.replaceCrbStatus_ok hwrite
          rw [crbStatus_writeStatuses_of_unmarked h fun c' hc' _ _ heq =>
            hhead c' hc' (congrArg ObjectKey.name heq)]
          simp [Cluster.crbStatus, hnew]
      | succ i =>
          have hstatus := ih h (by simpa using hi) htail
            fun c' hc' => hmarked c' (List.mem_cons_of_mem _ hc')
          exact hstatus

/-- A binding that the loop marks has the status of the verdict. -/
lemma crbStatus_writeStatuses_of_marked {crb : CloudRoleBinding}
    (h : (writeStatuses ns verdict clock l).run.exec Cluster.serve s = (.ok (), s'))
    (hdistinct : l.Pairwise fun c c' => c.nameOrDefault ≠ c'.nameOrDefault) (hmem : crb ∈ l)
    (hname : crb.nameOrDefault ≠ "") (hmark : marks verdict crb.nameOrDefault) :
    ∃ now, s'.crbStatus ⟨ns, crb.nameOrDefault⟩ = some (crbStatusFor verdict crb now) := by
  obtain ⟨i, hi⟩ := List.mem_iff_getElem?.mp (mem_markedCrbs.mpr ⟨hmem, hname, hmark⟩)
  exact ⟨clock i, crbStatus_writeStatuses_at h hdistinct hi⟩

/-- The listed objects are still the stored ones. -/
def Current (ns : String) (l : List CloudRoleBinding) (s : Cluster) : Prop :=
  ∀ crb ∈ l, ∃ c, s.crbs[ObjectKey.mk ns crb.nameOrDefault]? = some c ∧
    crb.metadata.resourceVersion = some c.resourceVersion

/-- The write of the first one succeeds, and the others are still the stored ones after it. -/
lemma Current.replaceCrbStatus {crb : CloudRoleBinding} {rest : List CloudRoleBinding}
    (h : Current ns (crb :: rest) s) (hhead : ∀ c ∈ rest, crb.nameOrDefault ≠ c.nameOrDefault)
    (status : Option CloudRoleBindingStatus) :
    ∃ s₁, s.replaceCrbStatus ns crb.nameOrDefault { crb with status := status } = (.ok (), s₁) ∧
      Current ns rest s₁ := by
  obtain ⟨c, hc, hrv⟩ := h crb List.mem_cons_self
  obtain ⟨s₁, hwrite⟩ : ∃ s₁, s.replaceCrbStatus ns crb.nameOrDefault
      { crb with status := status } = (.ok (), s₁) := Cluster.exists_replaceCrbStatus_ok hc hrv
  refine ⟨s₁, hwrite, fun c' hc' => ?_⟩
  obtain ⟨c₁, hc₁, hrv₁⟩ := h c' (List.mem_cons_of_mem _ hc')
  refine ⟨c₁, ?_, hrv₁⟩
  rw [(Cluster.replaceCrbStatus_ok hwrite).2 _ fun heq =>
    hhead c' hc' (congrArg ObjectKey.name heq).symm, hc₁]

/-- The loop runs through when it is given the stored objects: nobody else writes to them. -/
lemma writeStatuses_succeeds (hcurrent : Current ns l s)
    (hdistinct : l.Pairwise fun c c' => c.nameOrDefault ≠ c'.nameOrDefault) :
    ∃ s', (writeStatuses ns verdict clock l).run.exec Cluster.serve s = (.ok (), s') := by
  induction l generalizing clock s with
  | nil => exact ⟨s, rfl⟩
  | cons crb rest ih =>
      obtain ⟨hhead, htail⟩ := List.pairwise_cons.mp hdistinct
      by_cases hmark : crb.nameOrDefault ≠ "" ∧ marks verdict crb.nameOrDefault
      · obtain ⟨s₁, hwrite, hcurrent⟩ :=
          hcurrent.replaceCrbStatus hhead (some (crbStatusFor verdict crb (clock 0)))
        obtain ⟨s', hrest⟩ := @ih (fun i => clock (i + 1)) s₁ hcurrent htail
        refine ⟨s', ?_⟩
        rw [writeStatuses_cons_marked hmark.1 hmark.2, exec_run_bind, exec_send]
        simp only [Cluster.serve, hwrite, Except.mapError, hrest]
      · rw [writeStatuses_cons_skip hmark]
        exact ih (fun c hc => hcurrent c (List.mem_cons_of_mem _ hc)) htail

end Loop

/-! ## The whole reconcile -/

/-- Storing a resolved binding that has a name. -/
lemma exec_upsertResolved (ns : String) (resolved : ResolvedCloudRoleBinding)
    (hname : resolved.metadata.name.getD "" ≠ "") (s : Cluster) :
    (upsertResolved ns resolved).run.exec Cluster.serve s =
      (.ok (),
        { s with
          rcrbs := Function.update s.rcrbs ⟨ns, resolved.metadata.name.getD ""⟩
            (some { spec := resolved.spec, status := resolved.status })
          revision := s.revision + 1 + 1 }) := by
  simp only [upsertResolved, hname, if_false]
  rw [exec_run_bind, exec_send]
  simp only [Cluster.serve, Except.mapError]
  rw [exec_send]
  simp only [Cluster.serve, Except.mapError, Cluster.patchRcrbStatus_patchRcrb]

variable {sha256 : String → String} {clock : ℕ → Time} {key : Key} {s s' : Cluster}

/-- A reconcile starts by listing. -/
lemma exec_reconcile (sha256 : String → String) (clock : ℕ → Time) (key : Key) (s : Cluster) :
    (reconcile sha256 clock key).run.exec Cluster.serve s =
      (reconcileListed sha256 clock key (s.list key.ns)).run.exec Cluster.serve s := rfl

/-- The outcome for the bindings of a cluster, as it is stored. -/
def outcomeAt (sha256 : String → String) (key : Key) (s : Cluster) (now : Time) : StoredRcrb where
  spec := (outcome sha256 key (s.list key.ns) now).spec
  status := (outcome sha256 key (s.list key.ns) now).status

/-- The two parts of a reconcile that returned `Ok`. -/
lemma reconcile_ok (h : (reconcile sha256 clock key).run.exec Cluster.serve s = (.ok (), s')) :
    ∃ s₁,
      (writeStatuses key.ns (verdictOn key (s.list key.ns)) clock
        (relevantCrbs key.serviceAccountName (s.list key.ns))).run.exec Cluster.serve s =
          (.ok (), s₁) ∧
      key.serviceAccountName ≠ "" ∧
      s' = { s₁ with
        rcrbs := Function.update s₁.rcrbs key.resolved
          (some (outcomeAt sha256 key s (clock
            (relevantCrbs key.serviceAccountName (s.list key.ns)).length)))
        revision := s₁.revision + 1 + 1 } := by
  rw [exec_reconcile] at h
  obtain ⟨⟨⟩, s₁, hloop, h⟩ := exec_run_bind_ok Cluster.serve h
  refine ⟨s₁, hloop, ?_⟩
  have hne : key.serviceAccountName ≠ "" := by
    intro heq
    simp only [upsertResolved, name_outcome, heq, if_true] at h
    cases h
  rw [exec_upsertResolved _ _ (by rwa [name_outcome]), name_outcome] at h
  exact ⟨hne, (congrArg Prod.snd h).symm⟩

/-- **A reconcile that returns `Ok` has stored the outcome**, and changed neither another
resolved binding nor what users wrote. -/
theorem reconcile_stores
    (h : (reconcile sha256 clock key).run.exec Cluster.serve s = (.ok (), s')) :
    s'.bindings = s.bindings ∧
    ∃ now, s'.rcrbs = Function.update s.rcrbs key.resolved
      (some
        { spec := (outcome sha256 key (s.list key.ns) now).spec
          status := (outcome sha256 key (s.list key.ns) now).status }) := by
  obtain ⟨s₁, hloop, -, rfl⟩ := reconcile_ok h
  have hcrbs := bindings_exec (writeStatuses key.ns (verdictOn key (s.list key.ns)) clock
    (relevantCrbs key.serviceAccountName (s.list key.ns))).run s
  have hrcrbs := @rcrbs_writeStatuses key.ns (verdictOn key (s.list key.ns)) clock s
    (relevantCrbs key.serviceAccountName (s.list key.ns))
  rw [hloop] at hcrbs hrcrbs
  exact ⟨hcrbs, _, congrArg (Function.update · key.resolved _) hrcrbs⟩

/-- The relevant bindings have different names. -/
lemma relevantCrbs_names_distinct (s : Cluster) (key : Key) :
    (relevantCrbs key.serviceAccountName (s.list key.ns)).Pairwise
      fun c c' => c.nameOrDefault ≠ c'.nameOrDefault := by
  refine ((s.list_names_distinct key.ns).filter _).imp_of_mem fun {c c'} hc hc' hne => ?_
  obtain ⟨name, stored, -, rfl⟩ := Cluster.mem_list.mp (List.mem_of_mem_filter hc)
  obtain ⟨name', stored', -, rfl⟩ := Cluster.mem_list.mp (List.mem_of_mem_filter hc')
  exact fun heq => hne (congrArg some heq)

lemma relevantCrbs_current (s : Cluster) (key : Key) :
    Current key.ns (relevantCrbs key.serviceAccountName (s.list key.ns)) s := by
  intro crb hcrb
  obtain ⟨name, c, hc, rfl⟩ := Cluster.mem_list.mp (List.mem_of_mem_filter hcrb)
  exact ⟨c, hc, rfl⟩

/-- The bindings that a reconcile of the key marks, in the order of its writes. -/
def markedOn (key : Key) (s : Cluster) : List CloudRoleBinding :=
  markedCrbs (verdictOn key (s.list key.ns))
    (relevantCrbs key.serviceAccountName (s.list key.ns))

lemma markedOn_names_distinct (s : Cluster) (key : Key) :
    (markedOn key s).Pairwise fun c c' => c.nameOrDefault ≠ c'.nameOrDefault :=
  (relevantCrbs_names_distinct s key).filter _

lemma markedOn_current (s : Cluster) (key : Key) : Current key.ns (markedOn key s) s :=
  fun crb hcrb => relevantCrbs_current s key crb (List.mem_of_mem_filter hcrb)

/-- **A reconcile that returns `Ok` has written the status of the bindings it marks.** -/
theorem reconcile_marks
    (h : (reconcile sha256 clock key).run.exec Cluster.serve s = (.ok (), s'))
    {crb : CloudRoleBinding} (hmem : crb ∈ relevantCrbs key.serviceAccountName (s.list key.ns))
    (hname : crb.nameOrDefault ≠ "")
    (hmark : marks (verdictOn key (s.list key.ns)) crb.nameOrDefault) :
    ∃ now, s'.crbStatus ⟨key.ns, crb.nameOrDefault⟩ =
      some (crbStatusFor (verdictOn key (s.list key.ns)) crb now) := by
  obtain ⟨s₁, hloop, -, rfl⟩ := reconcile_ok h
  have hmarked := crbStatus_writeStatuses_of_marked hloop (relevantCrbs_names_distinct s key) hmem
    hname hmark
  exact hmarked

/-- **It has left the status of every other binding alone.** -/
theorem reconcile_keeps
    (h : (reconcile sha256 clock key).run.exec Cluster.serve s = (.ok (), s'))
    {k : ObjectKey}
    (hk : ∀ crb ∈ relevantCrbs key.serviceAccountName (s.list key.ns), crb.nameOrDefault ≠ "" →
      marks (verdictOn key (s.list key.ns)) crb.nameOrDefault → k ≠ ⟨key.ns, crb.nameOrDefault⟩) :
    s'.crbStatus k = s.crbStatus k := by
  obtain ⟨s₁, hloop, -, rfl⟩ := reconcile_ok h
  have hkept := crbStatus_writeStatuses_of_unmarked hloop hk
  exact hkept

/-- **A reconcile that runs alone returns `Ok`**, for every key with a name. -/
theorem reconcile_succeeds (sha256 : String → String) (clock : ℕ → Time) (s : Cluster)
    (hname : key.serviceAccountName ≠ "") :
    ∃ s', (reconcile sha256 clock key).run.exec Cluster.serve s = (.ok (), s') := by
  obtain ⟨s₁, hloop⟩ := @writeStatuses_succeeds key.ns (verdictOn key (s.list key.ns)) clock s
    (relevantCrbs key.serviceAccountName (s.list key.ns)) (relevantCrbs_current s key)
    (relevantCrbs_names_distinct s key)
  obtain ⟨s', hstore⟩ : ∃ s', (upsertResolved key.ns (outcome sha256 key (s.list key.ns)
      (clock (relevantCrbs key.serviceAccountName (s.list key.ns)).length))).run.exec
        Cluster.serve s₁ = (.ok (), s') :=
    ⟨_, exec_upsertResolved _ _ (by rwa [name_outcome]) s₁⟩
  refine ⟨s', ?_⟩
  rw [exec_reconcile, reconcileListed, exec_run_bind, hloop]
  exact hstore

end IdentityFederation
