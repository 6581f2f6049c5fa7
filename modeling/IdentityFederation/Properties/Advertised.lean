import IdentityFederation.Properties.Idempotence
import IdentityFederation.Webhook.Admission

/-!
# What a failed reconcile advertises

A binding that says `Ready` at a generation is **in force** when the resolved binding of its
ServiceAccount is `Ready` too and names the binding among its sources, with that generation
(`InForce`).  A reconcile writes the statuses of the bindings first and the resolved binding
last, and returns at the first request that fails, so a failure in between can leave bindings
that say `Ready` ahead of the resolved binding.

A failing request is one that the server never sees, or one that it executes and whose answer is
lost; `served` counts the requests that took effect.  `failed_reconcile_inForce_iff` goes through
all of them and says exactly when every `Ready` binding is still in force.  Before the last
request it is so when the merge has failed, or when the bindings that were marked are listed
already.  With the last request executed, it is so when every `Ready` binding that the run did not
mark is one of the sources of a merge that succeeded.
-/

namespace IdentityFederation

open Interaction Program

/-! ## Statuses and sources -/

/-- The status says `Ready` at this generation. -/
def ReadyAt (status : Option CloudRoleBindingStatus) (g : ℤ) : Prop :=
  ∃ st ∈ status, ∃ c ∈ st.conditions, c.type = .ready ∧ c.status = .true ∧
    c.observedGeneration = g

/-- The stored resolved binding is `Ready` and has this source. -/
def Lists (s : Cluster) (key : ObjectKey) (ref : CloudRoleBindingRef) : Prop :=
  ∃ r status, s.rcrbs key = some r ∧ isReady (r.object key) = true ∧ r.status = some status ∧
    ref ∈ status.sources

/-- Every binding that says `Ready` is listed, at the generation it says, by the resolved binding
of its ServiceAccount. -/
def InForce (s : Cluster) : Prop :=
  ∀ (key : ObjectKey) (c : StoredCrb) (g : ℤ), s.crbs[key]? = some c → ReadyAt c.status g →
    Lists s ⟨key.ns, c.spec.subject.serviceAccountName⟩ { name := key.name, generation := some g }

/-- A binding as a source. -/
def CloudRoleBinding.ref (crb : CloudRoleBinding) : CloudRoleBindingRef where
  name := crb.nameOrDefault
  generation := crb.metadata.generation

/-- The status of a verdict says `Ready` when the verdict is `Ok`, at the generation listed. -/
lemma readyAt_crbStatusFor {verdict : Verdict} {crb : CloudRoleBinding} {now : Time} {g : ℤ} :
    ReadyAt (some (crbStatusFor verdict crb now)) g ↔
      verdict.isOk ∧ g = crb.metadata.generation.getD 0 := by
  cases verdict with
  | ok merged =>
      simp [ReadyAt, crbStatusFor, buildCrbStatus, crbReadyCondition, crbClearedConditions,
        Except.isOk, Except.toBool, eq_comm]
  | error issue =>
      obtain ⟨conditionType, reason, message, affected⟩ := issue
      cases conditionType <;>
        simp [ReadyAt, crbStatusFor, buildCrbStatus, crbReadyCondition, crbIssueCondition,
          Except.isOk, Except.toBool]

/-- What is listed is a matter of the statuses of the resolved bindings. -/
lemma lists_congr {s s' : Cluster} {key : ObjectKey}
    (h : (s'.rcrbs key).bind StoredRcrb.status = (s.rcrbs key).bind StoredRcrb.status)
    (ref : CloudRoleBindingRef) : Lists s' key ref ↔ Lists s key ref := by
  have hstatus : ∀ t : Cluster, Lists t key ref ↔
      ∃ status, (t.rcrbs key).bind StoredRcrb.status = some status ∧
        (status.conditions.any fun c => c.type = .ready && c.status = .true) = true ∧
        ref ∈ status.sources := by
    intro t
    constructor
    · rintro ⟨r, status, hr, hready, hstatus, href⟩
      refine ⟨status, by rw [hr, Option.bind_some, hstatus], ?_, href⟩
      simpa [isReady, StoredRcrb.object, hstatus] using hready
    · rintro ⟨status, hbind, hready, href⟩
      obtain ⟨r, hr, hstatus⟩ := Option.bind_eq_some_iff.mp hbind
      refine ⟨r, status, hr, ?_, hstatus, href⟩
      simpa [isReady, StoredRcrb.object, hstatus] using hready
  rw [hstatus, hstatus, h]

/-- The outcome of a reconcile lists the bindings it was made of, if the merge succeeded. -/
lemma lists_outcomeAt {sha256 : String → String} {key : Key} {s s' : Cluster} {now : Time}
    (h : s'.rcrbs key.resolved = some (outcomeAt sha256 key s now)) (ref : CloudRoleBindingRef) :
    Lists s' key.resolved ref ↔ (verdictOn key (s.list key.ns)).isOk ∧
      ∃ crb ∈ relevantCrbs key.serviceAccountName (s.list key.ns), crb.ref = ref := by
  have hsources : sourcesOf (relevantCrbs key.serviceAccountName (s.list key.ns)) =
      (relevantCrbs key.serviceAccountName (s.list key.ns)).map CloudRoleBinding.ref := rfl
  unfold Lists
  rw [h]
  unfold outcomeAt outcome resolvedFor
  cases hv : verdictOn key (s.list key.ns) with
  | ok merged =>
      simp [hsources, isReady, StoredRcrb.object, buildResolvedFromSpec, Except.isOk,
        Except.toBool]
  | error issue =>
      simp [isReady, StoredRcrb.object, buildFailedResolved, Except.isOk, Except.toBool]

/-! ## A run whose last request fails -/

/-- How many requests take effect when the first `i` are answered and the next one meets `f`. -/
def served (i : ℕ) (f : Fault) : ℕ :=
  i + if f.executes then 1 else 0

/-- The faults of such a run. -/
def failsAt (i : ℕ) (f : Fault) (later : List Fault) : List Fault :=
  List.replicate i .none ++ f :: later

lemma served_succ (i : ℕ) (f : Fault) : served (i + 1) f = served i f + 1 := by
  unfold served
  omega

lemma failsAt_succ (i : ℕ) (f : Fault) (later : List Fault) :
    failsAt (i + 1) f later = .none :: failsAt i f later := rfl

/-! ## The status loop -/

/-- The statuses of the bindings in `l` have been written, and no others. -/
structure Written (ns : String) (verdict : Verdict) (l : List CloudRoleBinding) (s s' : Cluster) :
    Prop where
  marked : ∀ crb ∈ l, ∃ now,
    s'.crbStatus ⟨ns, crb.nameOrDefault⟩ = some (crbStatusFor verdict crb now)
  kept : ∀ k, (∀ crb ∈ l, k ≠ ⟨ns, crb.nameOrDefault⟩) → s'.crbStatus k = s.crbStatus k
  bindings : s'.bindings = s.bindings

section Loop

variable {ns : String} {verdict : Verdict} {clock : ℕ → Time} {s s₁ s' : Cluster}
  {c : CloudRoleBinding} {l : List CloudRoleBinding}

lemma written_nil (s : Cluster) : Written ns verdict [] s s where
  marked := by simp
  kept := fun _ _ => rfl
  bindings := rfl

/-- One more write in front. -/
lemma Written.cons {now : Time}
    (hwrite : s.replaceCrbStatus ns c.nameOrDefault
      { c with status := some (crbStatusFor verdict c now) } = (.ok (), s₁))
    (h : Written ns verdict l s₁ s') (hhead : ∀ c' ∈ l, c.nameOrDefault ≠ c'.nameOrDefault) :
    Written ns verdict (c :: l) s s' := by
  obtain ⟨⟨old, rv, -, hnew⟩, -⟩ := Cluster.replaceCrbStatus_ok hwrite
  have hbindings := Cluster.bindings_replaceCrbStatus s ns c.nameOrDefault
    { c with status := some (crbStatusFor verdict c now) }
  rw [hwrite] at hbindings
  constructor
  case marked =>
    intro crb hcrb
    rcases List.mem_cons.mp hcrb with rfl | hcrb
    · refine ⟨now, ?_⟩
      rw [h.kept _ fun c' hc' heq => hhead c' hc' (congrArg ObjectKey.name heq)]
      simp [Cluster.crbStatus, hnew]
    · exact h.marked crb hcrb
  case kept =>
    intro k hk
    rw [h.kept k fun crb hcrb => hk crb (List.mem_cons_of_mem _ hcrb)]
    exact Cluster.crbStatus_replaceCrbStatus_of_ne hwrite (hk c List.mem_cons_self)
  case bindings => exact h.bindings.trans hbindings

/-- Statuses are written to the bindings, so the rest of the cluster does not matter. -/
lemma Written.congr {s₂ : Cluster} (h : Written ns verdict l s s₁) (hcrbs : s₂.crbs = s₁.crbs) :
    Written ns verdict l s s₂ where
  marked := by simpa only [Cluster.crbStatus, hcrbs] using h.marked
  kept := by simpa only [Cluster.crbStatus, hcrbs] using h.kept
  bindings := by simpa only [Cluster.bindings, hcrbs] using h.bindings

/-- **The loop under a failing request**: the bindings whose write took effect are a first part
of the list, and the loop fails if the failing request is one of its own. -/
lemma exec_writeStatuses_failsAt
    (hmarked : ∀ crb ∈ l, crb.nameOrDefault ≠ "" ∧ marks verdict crb.nameOrDefault)
    (hcurrent : Current ns l s)
    (hdistinct : l.Pairwise fun c c' => c.nameOrDefault ≠ c'.nameOrDefault) {f : Fault}
    (hf : f ≠ .none) (later : List Fault) (j : ℕ) :
    ∃ s', Written ns verdict (l.take (served j f)) s s' ∧ s'.rcrbs = s.rcrbs ∧
      (j < l.length → ∃ e, (writeStatuses ns verdict clock l).run.exec Cluster.serveFaulty
        (s, failsAt j f later) = (.error e, s', later)) ∧
      (l.length ≤ j → (writeStatuses ns verdict clock l).run.exec Cluster.serveFaulty
        (s, failsAt j f later) = (.ok (), s', failsAt (j - l.length) f later)) := by
  induction l generalizing clock s j with
  | nil => exact ⟨s, by simpa using written_nil s, rfl, by simp, fun _ => rfl⟩
  | cons c rest ih =>
      obtain ⟨hhead, htail⟩ := List.pairwise_cons.mp hdistinct
      obtain ⟨hname, hmark⟩ := hmarked c List.mem_cons_self
      obtain ⟨s₁, hwrite, hcurrent⟩ :=
        hcurrent.replaceCrbStatus hhead (some (crbStatusFor verdict c (clock 0)))
      have hrcrbs := Cluster.rcrbs_replaceCrbStatus s ns c.nameOrDefault
        { c with status := some (crbStatusFor verdict c (clock 0)) }
      rw [hwrite] at hrcrbs
      rw [writeStatuses_cons_marked hname hmark]
      cases j with
      | zero =>
          -- The write of this binding fails, and it may have taken effect.
          obtain ⟨e, hfails⟩ := exec_send_fails hf (.replaceCrbStatus ns c.nameOrDefault
            { c with status := some (crbStatusFor verdict c (clock 0)) }) s later
          cases hexec : f.executes with
          | true =>
              simp only [Cluster.serve, hwrite, hexec, if_true] at hfails
              refine ⟨s₁, ?_, hrcrbs, fun _ => ⟨e, exec_run_bind_error hfails⟩, by simp⟩
              simp only [served, hexec, if_true]
              exact (written_nil s₁).cons hwrite (by simp)
          | false =>
              simp only [hexec, Bool.false_eq_true, if_false] at hfails
              refine ⟨s, ?_, rfl, fun _ => ⟨e, exec_run_bind_error hfails⟩, by simp⟩
              simp only [served, hexec]
              exact written_nil s
      | succ j =>
          obtain ⟨s', hwritten, hrest, herror, hok⟩ := @ih (fun i => clock (i + 1)) s₁
            (fun c' hc' => hmarked c' (List.mem_cons_of_mem _ hc')) hcurrent htail j
          have hsend := exec_send_answered (.replaceCrbStatus ns c.nameOrDefault
            { c with status := some (crbStatusFor verdict c (clock 0)) }) s (failsAt j f later)
          simp only [Cluster.serve, hwrite, Except.mapError] at hsend
          refine ⟨s', ?_, hrest.trans hrcrbs, fun hlt => ?_, fun hle => ?_⟩
          · rw [served_succ, List.take_succ_cons]
            exact hwritten.cons hwrite fun c' hc' => hhead c' (List.mem_of_mem_take hc')
          · obtain ⟨e, he⟩ := herror (by simpa using hlt)
            exact ⟨e, (exec_run_bind_of_ok hsend).trans he⟩
          · have hle : rest.length ≤ j := by simpa using hle
            rw [failsAt_succ, exec_run_bind_of_ok hsend, hok hle, List.length_cons,
              Nat.add_sub_add_right]

end Loop

/-! ## The whole reconcile -/

/-- Storing the resolved binding, when one of the two requests fails: its status is what was
stored before, unless the last request took effect. -/
lemma exec_upsertResolved_failsAt (ns : String) (resolved : ResolvedCloudRoleBinding)
    (hname : resolved.metadata.name.getD "" ≠ "") {f : Fault} (hf : f ≠ .none)
    (later : List Fault) {j : ℕ} (hj : j < 2) (s : Cluster) :
    ∃ e s', (upsertResolved ns resolved).run.exec Cluster.serveFaulty (s, failsAt j f later) =
        (.error e, s', later) ∧ s'.crbs = s.crbs ∧
      (served j f = 2 → s'.rcrbs = Function.update s.rcrbs ⟨ns, resolved.metadata.name.getD ""⟩
        (some { spec := resolved.spec, status := resolved.status })) ∧
      (served j f ≠ 2 → ∀ k,
        (s'.rcrbs k).bind StoredRcrb.status = (s.rcrbs k).bind StoredRcrb.status) := by
  have hpatch := s.rcrbStatus_patchRcrb ns (resolved.metadata.name.getD "") resolved
  simp only [upsertResolved, hname, if_false]
  obtain rfl | rfl : j = 0 ∨ j = 1 := by omega
  · obtain ⟨e, hfails⟩ := exec_send_fails hf
      (.patchRcrb ns (resolved.metadata.name.getD "") resolved) s later
    refine ⟨e, _, exec_run_bind_error hfails, ?_, fun h => ?_, fun _ k => ?_⟩
    · cases f.executes <;> rfl
    · unfold served at h
      split at h <;> omega
    · cases f.executes
      · rfl
      · exact hpatch k
  · have hsend := exec_send_answered (.patchRcrb ns (resolved.metadata.name.getD "") resolved) s
      (f :: later)
    obtain ⟨e, hfails⟩ := exec_send_fails hf
      (.patchRcrbStatus ns (resolved.metadata.name.getD "") resolved)
      (s.patchRcrb ns (resolved.metadata.name.getD "") resolved) later
    refine ⟨e, _, (exec_run_bind_of_ok hsend).trans hfails, ?_⟩
    cases hexec : f.executes with
    | false =>
        refine ⟨rfl, fun h => ?_, fun _ => hpatch⟩
        simp [served, hexec] at h
    | true =>
        simp only [Cluster.serve, if_true, Cluster.patchRcrbStatus_patchRcrb]
        refine ⟨trivial, fun _ => trivial, fun h => ?_⟩
        simp [served, hexec] at h

/-- The number of requests a reconcile of the key sends: to list, for each binding it marks, and
two for the resolved binding, if it has a name. -/
def requestCount (key : Key) (s : Cluster) : ℕ :=
  1 + (markedOn key s).length + if key.serviceAccountName = "" then 0 else 2

/-- What a reconcile leaves behind when its last request fails: `n` of its requests took effect. -/
structure LeftBehind (sha256 : String → String) (key : Key) (n : ℕ) (s s' : Cluster) : Prop where
  written : Written key.ns (verdictOn key (s.list key.ns)) ((markedOn key s).take (n - 1)) s s'
  /-- All of them. -/
  whole : n = (markedOn key s).length + 3 → ∃ now, s'.rcrbs =
    Function.update s.rcrbs key.resolved (some (outcomeAt sha256 key s now))
  part : n ≠ (markedOn key s).length + 3 → ∀ k,
    (s'.rcrbs k).bind StoredRcrb.status = (s.rcrbs k).bind StoredRcrb.status

/-- **A reconcile whose last request fails** returns an error. -/
lemma exec_reconcile_failsAt (sha256 : String → String) (clock : ℕ → Time) (key : Key)
    (s : Cluster) {f : Fault} (hf : f ≠ .none) (later : List Fault) {i : ℕ}
    (hi : i < requestCount key s) :
    ∃ e s', (reconcile sha256 clock key).run.exec Cluster.serveFaulty (s, failsAt i f later) =
        (.error e, s', later) ∧ LeftBehind sha256 key (served i f) s s' := by
  have hle : served i f ≤ i + 1 := by
    unfold served
    split <;> omega
  cases i with
  | zero =>
      -- Nothing was written.
      obtain ⟨e, hfails⟩ := exec_send_fails hf (.listCrbs key.ns) s later
      have hstate : (if f.executes then (s.serve (.listCrbs key.ns)).2 else s) = s := ite_self s
      rw [hstate] at hfails
      refine ⟨e, s, exec_run_bind_error hfails, ?_, fun h => ?_, fun _ _ => rfl⟩
      · have hzero : served 0 f - 1 = 0 := by omega
        rw [hzero]
        exact written_nil s
      · omega
  | succ j =>
      have hlist := exec_send_answered (.listCrbs key.ns) s (failsAt j f later)
      obtain ⟨s₁, hwritten, hrcrbs, herror, hok⟩ := exec_writeStatuses_failsAt
        (l := markedOn key s) (fun crb hcrb => (mem_markedCrbs.mp hcrb).2)
        (markedOn_current s key) (markedOn_names_distinct s key) hf later j
      have hloop : writeStatuses key.ns (verdictOn key (s.list key.ns)) clock (markedOn key s) =
          writeStatuses key.ns (verdictOn key (s.list key.ns)) clock
            (relevantCrbs key.serviceAccountName (s.list key.ns)) := writeStatuses_markedCrbs ..
      rw [hloop] at herror hok
      rw [served_succ]
      by_cases hlt : j < (markedOn key s).length
      · -- One of the status writes fails.
        obtain ⟨e, he⟩ := herror hlt
        refine ⟨e, s₁, (exec_run_bind_of_ok hlist).trans (exec_run_bind_error he), hwritten,
          fun h => ?_, fun _ k => by rw [hrcrbs]⟩
        rw [served_succ] at hle
        omega
      · -- One of the requests for the resolved binding fails.
        have hle' : (markedOn key s).length ≤ j := not_lt.mp hlt
        unfold requestCount at hi
        have hname : key.serviceAccountName ≠ "" := by
          intro h
          simp only [h, if_true] at hi
          omega
        simp only [hname, if_false] at hi
        obtain ⟨e, s', hupsert, hcrbs, hwhole, hpart⟩ :=
          exec_upsertResolved_failsAt key.ns
            (outcome sha256 key (s.list key.ns)
              (clock (relevantCrbs key.serviceAccountName (s.list key.ns)).length))
            (by rwa [name_outcome]) hf later
            (show j - (markedOn key s).length < 2 by omega) s₁
        have hserved : served j f =
            served (j - (markedOn key s).length) f + (markedOn key s).length := by
          unfold served
          omega
        refine ⟨e, s', (exec_run_bind_of_ok hlist).trans
          ((exec_run_bind_of_ok (hok hle')).trans hupsert), hwritten.congr hcrbs, fun h => ?_,
          fun h k => ?_⟩
        · rw [hwhole (by omega), hrcrbs, name_outcome]
          exact ⟨_, rfl⟩
        · rw [hpart (by omega) k, hrcrbs]

/-! ## When the bindings are in force -/

/-- A binding that exists after a run existed before it, with the same generation and
specification. -/
lemma exists_stored_of_bindings {s s' : Cluster} (h : s'.bindings = s.bindings) {k : ObjectKey}
    {c : StoredCrb} (hc : s.crbs[k]? = some c) :
    ∃ c', s'.crbs[k]? = some c' ∧ c'.generation = c.generation ∧ c'.spec = c.spec := by
  have hmem : (k, c.generation, c.spec) ∈ s'.bindings :=
    h ▸ Cluster.mem_bindings.mpr ⟨c, hc, rfl, rfl⟩
  exact Cluster.mem_bindings.mp hmem

section InForce

variable {sha256 : String → String} {key : Key} {n : ℕ} {s s' : Cluster}
  {verdict : Verdict} {l : List CloudRoleBinding}

lemma Written.status_marked {ns : String} (h : Written ns verdict l s s')
    {crb : CloudRoleBinding} (hcrb : crb ∈ l) {c' : StoredCrb}
    (hc' : s'.crbs[ObjectKey.mk ns crb.nameOrDefault]? = some c') :
    ∃ now, c'.status = some (crbStatusFor verdict crb now) := by
  obtain ⟨now, hnow⟩ := h.marked crb hcrb
  rw [Cluster.crbStatus, hc', Option.bind_some] at hnow
  exact ⟨now, hnow⟩

lemma Written.status_kept {ns : String} (h : Written ns verdict l s s') {k : ObjectKey}
    (hk : ¬ ∃ crb ∈ l, k = ⟨ns, crb.nameOrDefault⟩) {c c' : StoredCrb}
    (hc : s.crbs[k]? = some c) (hc' : s'.crbs[k]? = some c') : c'.status = c.status := by
  have hkept := h.kept k fun crb hcrb heq => hk ⟨crb, hcrb, heq⟩
  rwa [Cluster.crbStatus, Cluster.crbStatus, hc, hc', Option.bind_some, Option.bind_some] at hkept

/-- The bindings a reconcile marks are relevant ones. -/
lemma relevant_of_marked {crb : CloudRoleBinding} (h : crb ∈ markedOn key s) :
    crb ∈ relevantCrbs key.serviceAccountName (s.list key.ns) :=
  List.mem_of_mem_filter h

/-- **Before the last request**: what is listed has not changed, so the bindings that were marked
`Ready` have to be listed already. -/
lemma LeftBehind.inForce_part (h : LeftBehind sha256 key n s s') (hs : InForce s)
    (hn : n ≠ (markedOn key s).length + 3) :
    InForce s' ↔ ((verdictOn key (s.list key.ns)).isOk → ∀ crb ∈ (markedOn key s).take (n - 1),
      Lists s key.resolved crb.ref) := by
  have hlists := fun k ref => lists_congr (h.part hn k) ref
  constructor
  · intro hforce hok crb hcrb
    obtain ⟨name, c, hc, rfl, hsa⟩ :=
      mem_relevantCrbs.mp (relevant_of_marked (List.mem_of_mem_take hcrb))
    obtain ⟨c', hc', hgeneration, hspec⟩ := exists_stored_of_bindings h.written.bindings hc
    obtain ⟨now, hstatus⟩ := h.written.status_marked hcrb hc'
    have hready : ReadyAt c'.status c.generation := by
      rw [hstatus]
      exact readyAt_crbStatusFor.mpr ⟨hok, rfl⟩
    have hlisted := hforce ⟨key.ns, name⟩ c' c.generation hc' hready
    rw [hlists, hspec, hsa] at hlisted
    exact hlisted
  · intro hcond k c' g hc' hready
    obtain ⟨c, hc, hgeneration, hspec⟩ := exists_stored_of_bindings h.written.bindings.symm hc'
    rw [hlists, ← hspec]
    by_cases hwritten : ∃ crb ∈ (markedOn key s).take (n - 1), k = ⟨key.ns, crb.nameOrDefault⟩
    · obtain ⟨crb, hcrb, rfl⟩ := hwritten
      obtain ⟨now, hstatus⟩ := h.written.status_marked hcrb hc'
      rw [hstatus] at hready
      obtain ⟨hok, hg⟩ := readyAt_crbStatusFor.mp hready
      have hlisted := hcond hok crb hcrb
      obtain ⟨name, c₀, hc₀, rfl, hsa⟩ :=
        mem_relevantCrbs.mp (relevant_of_marked (List.mem_of_mem_take hcrb))
      obtain rfl : c₀ = c := Option.some.inj (hc₀.symm.trans hc)
      rw [hg, hsa]
      exact hlisted
    · rw [h.written.status_kept hwritten hc hc'] at hready
      exact hs k c g hc hready

/-- With the last request executed, all the bindings of the run are marked. -/
lemma LeftBehind.written_all (h : LeftBehind sha256 key n s s')
    (hn : n = (markedOn key s).length + 3) :
    Written key.ns (verdictOn key (s.list key.ns)) (markedOn key s) s s' := by
  have hwritten := h.written
  rwa [List.take_of_length_le (by omega)] at hwritten

/-- The resolved binding of the key lists what the run has merged. -/
lemma LeftBehind.lists_resolved (h : LeftBehind sha256 key n s s')
    (hn : n = (markedOn key s).length + 3) (ref : CloudRoleBindingRef) :
    Lists s' key.resolved ref ↔ (verdictOn key (s.list key.ns)).isOk ∧
      ∃ crb ∈ relevantCrbs key.serviceAccountName (s.list key.ns), crb.ref = ref := by
  obtain ⟨now, hrcrbs⟩ := h.whole hn
  have hstored : s'.rcrbs key.resolved = some (outcomeAt sha256 key s now) := by
    rw [hrcrbs, Function.update_self]
  exact lists_outcomeAt hstored ref

/-- The others list what they did. -/
lemma LeftBehind.lists_other (h : LeftBehind sha256 key n s s')
    (hn : n = (markedOn key s).length + 3) {k : ObjectKey} (hk : k ≠ key.resolved)
    (ref : CloudRoleBindingRef) : Lists s' k ref ↔ Lists s k ref := by
  obtain ⟨now, hrcrbs⟩ := h.whole hn
  refine lists_congr ?_ ref
  rw [hrcrbs, Function.update_of_ne hk]

/-- A binding that is not marked keeps its status. -/
lemma Written.status_unmarked
    (h : Written key.ns (verdictOn key (s.list key.ns)) (markedOn key s) s s') {k : ObjectKey}
    {c c' : StoredCrb} (hc : s.crbs[k]? = some c) (hc' : s'.crbs[k]? = some c')
    (hunmarked : k.ns = key.ns → c.object k ∉ markedOn key s) : c'.status = c.status := by
  refine h.status_kept ?_ hc hc'
  rintro ⟨crb, hcrb, rfl⟩
  -- The marked binding with this name is the stored one.
  obtain ⟨name, c₁, hc₁, rfl, -⟩ := mem_relevantCrbs.mp (relevant_of_marked hcrb)
  obtain rfl := Option.some.inj (hc₁.symm.trans hc)
  exact hunmarked rfl hcrb

/-- If every `Ready` binding is in force, those that the run did not mark are sources of a merge
that succeeded. -/
lemma LeftBehind.unmarked_sources (h : LeftBehind sha256 key n s s')
    (hn : n = (markedOn key s).length + 3) (hforce : InForce s') {crb : CloudRoleBinding}
    (hcrb : crb ∈ relevantCrbs key.serviceAccountName (s.list key.ns))
    (hunmarked : crb ∉ markedOn key s) {g : ℤ} (hready : ReadyAt crb.status g) :
    (verdictOn key (s.list key.ns)).isOk ∧ crb.metadata.generation = some g := by
  have hwritten := h.written_all hn
  obtain ⟨name, c, hc, rfl, hsa⟩ := mem_relevantCrbs.mp hcrb
  obtain ⟨c', hc', -, hspec⟩ := exists_stored_of_bindings hwritten.bindings hc
  have hkept : c'.status = c.status := hwritten.status_unmarked hc hc' fun _ => hunmarked
  have hlisted := hforce ⟨key.ns, name⟩ c' g hc' (hkept ▸ hready)
  rw [hspec, hsa] at hlisted
  obtain ⟨hok, crb', hcrb', href⟩ := (h.lists_resolved hn _).mp hlisted
  obtain ⟨hname, hgen⟩ := CloudRoleBindingRef.mk.inj href
  -- Among the relevant bindings the name says which one it is.
  obtain ⟨name', c₁, hc₁, rfl, -⟩ := mem_relevantCrbs.mp hcrb'
  obtain rfl : name' = name := hname
  obtain rfl := Option.some.inj (hc₁.symm.trans hc)
  exact ⟨hok, hgen⟩

/-- If the bindings that the run did not mark are such sources, every `Ready` binding is in
force. -/
lemma LeftBehind.inForce_of_sources (h : LeftBehind sha256 key n s s')
    (hn : n = (markedOn key s).length + 3) (hs : InForce s)
    (hsources : ∀ crb ∈ relevantCrbs key.serviceAccountName (s.list key.ns),
      crb ∉ markedOn key s → ∀ g, ReadyAt crb.status g →
        (verdictOn key (s.list key.ns)).isOk ∧ crb.metadata.generation = some g) : InForce s' := by
  have hwritten := h.written_all hn
  intro k c' g hc' hready
  obtain ⟨c, hc, -, hspec⟩ := exists_stored_of_bindings hwritten.bindings.symm hc'
  rw [← hspec]
  by_cases hrelevant : k.ns = key.ns ∧ c.spec.subject.serviceAccountName = key.serviceAccountName
  · obtain ⟨ns, name⟩ := k
    obtain ⟨rfl, hsa⟩ := hrelevant
    have hcrb : c.object ⟨key.ns, name⟩ ∈
        relevantCrbs key.serviceAccountName (s.list key.ns) :=
      mem_relevantCrbs.mpr ⟨name, c, hc, rfl, hsa⟩
    rw [hsa]
    refine (h.lists_resolved hn _).mpr ?_
    by_cases hmarked : c.object ⟨key.ns, name⟩ ∈ markedOn key s
    · obtain ⟨now, hstatus⟩ := hwritten.status_marked hmarked hc'
      rw [hstatus] at hready
      obtain ⟨hok, hg⟩ := readyAt_crbStatusFor.mp hready
      exact ⟨hok, _, hcrb, by rw [hg]; rfl⟩
    · rw [hwritten.status_unmarked hc hc' fun _ => hmarked] at hready
      obtain ⟨hok, hgen⟩ := hsources _ hcrb hmarked g hready
      exact ⟨hok, _, hcrb, by rw [← hgen]; rfl⟩
  · -- Bindings of other ServiceAccounts, and what lists them, are as they were.
    have hkept : c'.status = c.status := by
      refine hwritten.status_unmarked hc hc' fun hns hmarked => hrelevant ⟨hns, ?_⟩
      obtain ⟨name, c₁, hc₁, heq, hsa⟩ := mem_relevantCrbs.mp (relevant_of_marked hmarked)
      exact (congrArg (fun crb => crb.spec.subject.serviceAccountName) heq).trans hsa
    have hother : ObjectKey.mk k.ns c.spec.subject.serviceAccountName ≠ key.resolved := by
      intro heq
      exact hrelevant ⟨congrArg ObjectKey.ns heq, congrArg ObjectKey.name heq⟩
    exact (h.lists_other hn hother _).mpr (hs k c g hc (hkept ▸ hready))

/-- **With the last request executed**: the sources are those of this run, so what counts is the
bindings that the run did not mark. -/
lemma LeftBehind.inForce_whole (h : LeftBehind sha256 key n s s') (hs : InForce s)
    (hn : n = (markedOn key s).length + 3) :
    InForce s' ↔ ∀ crb ∈ relevantCrbs key.serviceAccountName (s.list key.ns),
      crb ∉ markedOn key s → ∀ g, ReadyAt crb.status g →
        (verdictOn key (s.list key.ns)).isOk ∧ crb.metadata.generation = some g :=
  ⟨fun hforce _ hcrb hunmarked _ hready => h.unmarked_sources hn hforce hcrb hunmarked hready,
    h.inForce_of_sources hn hs⟩

end InForce

/-! ## The theorem -/

/-- The condition under which every `Ready` binding is in force when `n` requests of a reconcile
took effect. -/
def StaysInForce (key : Key) (s : Cluster) (n : ℕ) : Prop :=
  if n = (markedOn key s).length + 3 then
    ∀ crb ∈ relevantCrbs key.serviceAccountName (s.list key.ns), crb ∉ markedOn key s →
      ∀ g, ReadyAt crb.status g →
        (verdictOn key (s.list key.ns)).isOk ∧ crb.metadata.generation = some g
  else
    (verdictOn key (s.list key.ns)).isOk → ∀ crb ∈ (markedOn key s).take (n - 1),
      Lists s key.resolved crb.ref

/-- **What a failed reconcile leaves in force.**  Every `Ready` binding is in force before the
reconcile, whose request number `i` fails, seen by the server or not.  The reconcile returns an
error, and afterwards every `Ready` binding is in force if and only if the requests that took
effect kept it so: the last one of them by listing all that is `Ready`, the others by marking
`Ready` only what is listed already. -/
theorem failed_reconcile_inForce_iff (sha256 : String → String) (clock : ℕ → Time) {key : Key}
    {s : Cluster} (hs : InForce s) {f : Fault} (hf : f ≠ .none) (later : List Fault) {i : ℕ}
    (hi : i < requestCount key s) :
    ∃ e s', (reconcile sha256 clock key).run.exec Cluster.serveFaulty (s, failsAt i f later) =
        (.error e, s', later) ∧
      (InForce s' ↔ StaysInForce key s (served i f)) := by
  obtain ⟨e, s', hexec, hleft⟩ := exec_reconcile_failsAt sha256 clock key s hf later hi
  refine ⟨e, s', hexec, ?_⟩
  unfold StaysInForce
  by_cases hn : served i f = (markedOn key s).length + 3
  · rw [if_pos hn]
    exact hleft.inForce_whole hs hn
  · rw [if_neg hn]
    exact hleft.inForce_part hs hn

/-! ## A new binding -/

/-- A binding without a status does not say that it is `Ready`. -/
lemma inForce_oneBinding : InForce oneBinding := by
  intro key c g hc hready
  have hstatus : c.status = none := by
    have hinsert : oneBinding.crbs = (∅ : BTreeMap ObjectKey StoredCrb).insert ⟨"apps", "role"⟩
        ⟨1, 1, roleBinding "web" "arn:aws:iam::123456789012:role/web", none, Nat.one_pos⟩ := rfl
    rw [hinsert, Std.ExtTreeMap.getElem?_insert] at hc
    split at hc
    · rw [← Option.some.inj hc]
    · simp at hc
  obtain ⟨st, hst, -⟩ := hready
  rw [hstatus] at hst
  cases hst

/-- A reconcile that returns `Ok` has sent all its requests. -/
lemma leftBehind_of_ok {sha256 : String → String} {clock : ℕ → Time} {key : Key} {s s' : Cluster}
    (h : (reconcile sha256 clock key).run.exec Cluster.serve s = (.ok (), s')) :
    LeftBehind sha256 key ((markedOn key s).length + 3) s s' where
  written := by
    rw [List.take_of_length_le (by omega)]
    refine ⟨fun crb hcrb => ?_, fun k hk => reconcile_keeps_unmarked h hk, reconcile_bindings h⟩
    obtain ⟨i, hi⟩ := List.mem_iff_getElem?.mp hcrb
    exact ⟨clock i, reconcile_marks_at h hi⟩
  whole _ := ⟨_, reconcile_stores_at h⟩
  part hn := absurd rfl hn

/-- The cluster in which the binding has been reconciled. -/
def reconciledOnce : Cluster :=
  ((reconcile webDigest (fun _ => 0) ⟨"apps", "web"⟩).run.exec Cluster.serve oneBinding).2

lemma exec_reconciledOnce :
    (reconcile webDigest (fun _ => 0) ⟨"apps", "web"⟩).run.exec Cluster.serve oneBinding =
      (.ok (), reconciledOnce) := by
  obtain ⟨s', h⟩ := @reconcile_succeeds ⟨"apps", "web"⟩ webDigest (fun _ => 0) oneBinding
    (by decide)
  rw [reconciledOnce, h]

lemma inForce_reconciledOnce : InForce reconciledOnce := by
  have hmarked : ∀ crb ∈ relevantCrbs "web" (oneBinding.list "apps"),
      crb ∈ markedOn ⟨"apps", "web"⟩ oneBinding := by decide
  refine ((leftBehind_of_ok exec_reconciledOnce).inForce_whole inForce_oneBinding rfl).mpr ?_
  exact fun crb hcrb hunmarked => absurd (hmarked crb hcrb) hunmarked

/-- A second later the binding, which is `Ready` and listed, is reconciled again: its status is
written with the new time, the resolved binding is refused, and everything stays in force. -/
theorem failed_reconcile_inForce_iff_again :
    ReadyAt (reconciledOnce.crbStatus ⟨"apps", "role"⟩) 1 ∧
    Lists reconciledOnce ⟨"apps", "web"⟩ { name := "role", generation := some 1 } ∧
    ∃ e s', (reconcile webDigest (fun _ => 1000000000) ⟨"apps", "web"⟩).run.exec
        Cluster.serveFaulty (reconciledOnce, failsAt 2 (.refused .unavailable) []) =
          (.error e, s', []) ∧
      s'.crbStatus ⟨"apps", "role"⟩ ≠ reconciledOnce.crbStatus ⟨"apps", "role"⟩ ∧ InForce s' := by
  obtain ⟨c, hc, hsa, hstatus⟩ : ∃ c, reconciledOnce.crbs[ObjectKey.mk "apps" "role"]? = some c ∧
      c.spec.subject.serviceAccountName = "web" ∧
      c.status = reconciledOnce.crbStatus ⟨"apps", "role"⟩ := by
    obtain ⟨c, hc, hsa⟩ := Option.map_eq_some_iff.mp
      (show (reconciledOnce.crbs[ObjectKey.mk "apps" "role"]?).map
        (·.spec.subject.serviceAccountName) = some "web" by decide)
    exact ⟨c, hc, hsa, by rw [Cluster.crbStatus, hc]; rfl⟩
  have hready : ReadyAt (reconciledOnce.crbStatus ⟨"apps", "role"⟩) 1 := by
    unfold ReadyAt
    decide
  have hlists : Lists reconciledOnce ⟨"apps", "web"⟩ { name := "role", generation := some 1 } :=
    hsa ▸ inForce_reconciledOnce ⟨"apps", "role"⟩ c 1 hc (hstatus ▸ hready)
  have hlength : (markedOn ⟨"apps", "web"⟩ reconciledOnce).length = 1 := by decide
  have hcount : 2 < requestCount ⟨"apps", "web"⟩ reconciledOnce := by
    rw [requestCount, hlength, if_neg (by decide)]
    omega
  have hfault : Fault.refused .unavailable ≠ .none := by decide
  obtain ⟨e, s', hexec, hiff⟩ := failed_reconcile_inForce_iff webDigest (fun _ => 1000000000)
    inForce_reconciledOnce hfault [] hcount
  refine ⟨hready, hlists, e, s', hexec, ?_, hiff.mpr ?_⟩
  · have hwritten : ((reconcile webDigest (fun _ => 1000000000) ⟨"apps", "web"⟩).run.exec
        Cluster.serveFaulty (reconciledOnce, failsAt 2 (.refused .unavailable) [])).2.1.crbStatus
          ⟨"apps", "role"⟩ ≠ reconciledOnce.crbStatus ⟨"apps", "role"⟩ := by decide
    rwa [hexec] at hwritten
  · have hserved : served 2 (.refused .unavailable) = 2 := rfl
    rw [hserved, StaysInForce, if_neg (by omega)]
    intro _ crb hcrb
    have href : ∀ crb ∈ (markedOn ⟨"apps", "web"⟩ reconciledOnce).take (2 - 1),
        crb.ref = { name := "role", generation := some 1 } := by decide
    rw [href crb hcrb]
    exact hlists

/-- The binding has been marked `Ready` and the resolved binding is refused: the reconcile returns
an error, and the status advertises what does not exist. -/
theorem failed_reconcile_advertises :
    InForce oneBinding ∧
    ∃ e s', (reconcile webDigest (fun _ => 0) ⟨"apps", "web"⟩).run.exec Cluster.serveFaulty
        (oneBinding, failsAt 2 (.refused .unavailable) []) = (.error e, s', []) ∧ ¬ InForce s' := by
  refine ⟨inForce_oneBinding, ?_⟩
  have hlength : (markedOn ⟨"apps", "web"⟩ oneBinding).length = 1 := by decide
  have hok : (verdictOn ⟨"apps", "web"⟩ (oneBinding.list "apps")).isOk = true := by decide
  have hcount : 2 < requestCount ⟨"apps", "web"⟩ oneBinding := by
    rw [requestCount, hlength, if_neg (by decide)]
    omega
  obtain ⟨e, s', hexec, hleft⟩ := exec_reconcile_failsAt webDigest (fun _ => 0)
    ⟨"apps", "web"⟩ oneBinding (f := .refused .unavailable) nofun [] hcount
  have hserved : served 2 (.refused .unavailable) = 2 := rfl
  rw [hserved] at hleft
  refine ⟨e, s', hexec, fun hforce => ?_⟩
  have hlisted := (hleft.inForce_part inForce_oneBinding (by omega)).mp hforce hok
  obtain ⟨crb, hcrb⟩ : ∃ crb, crb ∈ (markedOn ⟨"apps", "web"⟩ oneBinding).take (2 - 1) :=
    List.exists_mem_of_length_pos (by rw [List.length_take, hlength]; decide)
  obtain ⟨r, status, hr, -⟩ := hlisted crb hcrb
  cases hr

end IdentityFederation
