import IdentityFederation.Properties.Delivery
import IdentityFederation.Properties.Idempotence

/-!
# What a webhook that is ready has done

The webhook answers its startup probe with 200 from the moment in which the watcher has taken
`InitDone`.  By then it has taken the event of every binding that existed when the watch began, and
none of these is lost: the ServiceAccount that a binding names waits for its reconcile, or a worker
has it, or its last reconcile either failed or listed the bindings after the start
(`ready_has_initial`).

So an answer of 200 says that the work is on its way, not that it is done.
-/

namespace IdentityFederation

open Interaction Program

/-! ## What is added to the log -/

/-- Only changes of objects are added to the log. -/
def Cluster.LogsChanges (s s' : Cluster) : Prop :=
  ∃ new, s'.log = s.log ++ new ∧ ∀ entry ∈ new, entry.event ≠ .initDone

namespace Cluster

lemma LogsChanges.refl (s : Cluster) : s.LogsChanges s := ⟨[], by simp⟩

lemma LogsChanges.trans {s₁ s₂ s₃ : Cluster} (h : s₁.LogsChanges s₂) (h' : s₂.LogsChanges s₃) :
    s₁.LogsChanges s₃ := by
  obtain ⟨new, hlog, hnew⟩ := h
  obtain ⟨new', hlog', hnew'⟩ := h'
  refine ⟨new ++ new', by rw [hlog', hlog, List.append_assoc], fun entry hentry => ?_⟩
  rcases List.mem_append.mp hentry with hentry | hentry
  · exact hnew entry hentry
  · exact hnew' entry hentry

lemma logsChanges_replaceCrbStatus (s : Cluster) (ns name : String) (crb : CloudRoleBinding) :
    s.LogsChanges (s.replaceCrbStatus ns name crb).2 := by
  unfold replaceCrbStatus
  split
  · exact .refl s
  split
  · exact .refl s
  split
  · exact .refl s
  · exact ⟨_, rfl, by simp⟩

lemma logsChanges_serve (s : Cluster) (q : ApiRequest) : s.LogsChanges (s.serve q).2 := by
  cases q with
  | replaceCrbStatus ns name crb => exact logsChanges_replaceCrbStatus s ns name crb
  | patchRcrbStatus ns name resolved =>
      simp only [serve, patchRcrbStatus]
      split <;> exact ⟨[], by simp⟩
  | _ => exact ⟨[], by simp [serve, patchRcrb, applySecret]⟩

lemma logsChanges_serveWith (f : Fault) (s : Cluster) (q : ApiRequest) :
    s.LogsChanges (serveWith f s q).2 := by
  cases f with
  | refused e => exact .refl s
  | none | unanswered e => exact logsChanges_serve s q

/-- The events that a watch begins with end with `InitDone`. -/
lemma initDone_last {s : Cluster} {n : ℕ} (h : s.initialEvents[n]? = some .initDone) :
    n + 1 = s.initialEvents.length := by
  unfold initialEvents at h ⊢
  rw [List.getElem?_append] at h
  split at h
  · rcases List.mem_append.mp (List.mem_of_getElem? h) with hmem | hmem
    · cases List.mem_singleton.mp hmem
    · obtain ⟨p, -, hp⟩ := List.mem_map.mp hmem
      cases hp
  · have hlt := (List.getElem?_eq_some_iff.mp h).1
    rename_i hbegin
    rw [List.length_singleton] at hlt
    rw [List.length_append, List.length_singleton]
    omega

end Cluster

namespace Controller

variable {N : ℕ} {sha256 : String → String} {s s' : Controller N} {l : Label N} {key : Key}

lemma logsChanges_step (h : step sha256 s l = some s') : s.cluster.LogsChanges s'.cluster := by
  cases l with
  | change change =>
      obtain ⟨cluster, happly, rfl⟩ := step_change h
      obtain ⟨effect⟩ := UserChange.apply_eq_some happly
      refine ⟨_, effect.log_eq, fun entry hentry => ?_⟩
      obtain rfl := List.mem_singleton.mp hentry
      rcases effect.event_eq with ⟨hevent, -⟩ | ⟨hevent, -⟩ <;> simp [hevent]
  | deliver =>
      obtain ⟨-, entry, -, ⟨-, rfl⟩ | ⟨key, -, rfl⟩⟩ := step_deliver h <;> exact .refl _
  | send key =>
      obtain ⟨queue, -, rfl⟩ := step_send h
      exact .refl _
  | recv i clock =>
      obtain ⟨-, key, queue, -, rfl⟩ := step_recv h
      exact .refl _
  | call i fault =>
      obtain ⟨task, q, k, -, -, rfl⟩ := step_call h
      exact Cluster.logsChanges_serveWith fault s.cluster q
  | done i =>
      obtain ⟨task, result, -, -, rfl⟩ := step_done h
      exact .refl _

/-! ## Tasks since the start -/

/-- The task is about to list, or its list has failed, or it has listed at the revision or later. -/
def ListsSince (sha256 : String → String) (revision : ℕ) (task : Task) : Prop :=
  (∃ clock, task.program = (reconcile sha256 clock task.key).run) ∨
    (∃ e, task.program = .ret (.error e)) ∨
    ∃ listing, task.listed = some listing ∧ revision ≤ listing.revision

/-- The reconcile has failed, or has listed at the revision or later. -/
def ListedSince (revision : ℕ) (a : Attempt) : Prop :=
  (∃ e, a.result = .error e) ∨ ∃ listing, a.listed = some listing ∧ revision ≤ listing.revision

/-- A request of such a task. -/
lemma ListsSince.call {revision : ℕ} {task : Task} {q : ApiRequest}
    {k : ApiResponse q → ApiProgram (Except Error Unit)} (h : ListsSince sha256 revision task)
    (hprogram : task.program = .call q k) {cluster : Cluster}
    (hrevision : revision ≤ cluster.revision) (fault : Fault) :
    ListsSince sha256 revision
      { task with
        program := k (Cluster.serveWith fault cluster q).1
        listed := (listingOf fault cluster q).or task.listed } := by
  rcases h with ⟨clock, hstart⟩ | ⟨e, hfailed⟩ | ⟨listing, hlisted, hle⟩
  · -- The request is the list.
    rw [hprogram] at hstart
    obtain ⟨rfl, hk⟩ := Program.call.inj hstart
    obtain rfl := eq_of_heq hk
    cases fault with
    | none =>
        exact .inr (.inr ⟨{ revision := cluster.revision, bindings := cluster.list task.key.ns },
          by simp [listingOf], hrevision⟩)
    | refused e | unanswered e => exact .inr (.inl ⟨.api e, rfl⟩)
  · rw [hprogram] at hfailed
    cases hfailed
  · cases hnew : listingOf fault cluster q with
    | none => exact .inr (.inr ⟨listing, by simpa using hlisted, hle⟩)
    | some listing' =>
        refine .inr (.inr ⟨listing', by simp, ?_⟩)
        rwa [listingOf_revision hnew]

lemma ListsSince.done {revision : ℕ} {task : Task} {result : Except Error Unit}
    (h : ListsSince sha256 revision task) (hprogram : task.program = .ret result) :
    ListedSince revision (task.attempt result) := by
  rcases h with ⟨clock, hstart⟩ | ⟨e, hfailed⟩ | hlisted
  · rw [hprogram] at hstart
    cases hstart
  · rw [hprogram] at hfailed
    exact .inl ⟨e, Program.ret.inj hfailed⟩
  · exact .inr hlisted

/-! ## Since the start -/

/-- What holds since the webhook has started on the cluster. -/
structure SinceStart (sha256 : String → String) (cluster : Cluster) (s : Controller N) :
    Prop where
  places : s.places.Inv
  log : s.LogInv
  revision : cluster.revision ≤ s.cluster.revision
  changes : (boot N 0 cluster).cluster.LogsChanges s.cluster
  tasks : ∀ i task, s.workers i = some task → ListsSince sha256 cluster.revision task
  covered : ∀ n < s.cursor, ∀ entry, s.cluster.log[n]? = some entry →
    ∀ key, watchKey entry.event = some key →
      Covered (fun _ => True) (ListedSince cluster.revision) s key

lemma sinceStart_boot (sha256 : String → String) (capacity : ℕ) (cluster : Cluster) :
    SinceStart sha256 cluster (boot N capacity cluster) where
  places := QueueSystem.inv_start capacity
  log := ⟨Nat.zero_le _, by simp [boot]⟩
  revision := le_rfl
  changes := .refl _
  tasks := by simp [boot]
  covered := by simp [boot]

lemma SinceStart.step {cluster : Cluster} (hs : SinceStart sha256 cluster s)
    (h : Controller.step sha256 s l = some s') : SinceStart sha256 cluster s' := by
  obtain ⟨byUser, hgrows⟩ := logGrows_step h
  refine ⟨inv_places_step hs.places h, hs.log.step h, hs.revision.trans hgrows.revision,
    hs.changes.trans (logsChanges_step h), ?_, ?_⟩
  · intro j task hj
    rcases workers_step h hj with ⟨clock, key, -, rfl⟩ |
      ⟨fault, task', q, k, -, hj', hprogram, rfl, -⟩ | ⟨hj', -⟩
    · exact .inl ⟨clock, rfl⟩
    · exact (hs.tasks j task' hj').call hprogram hs.revision fault
    · exact hs.tasks j task hj'
  · intro n hn entry hentry key hkey
    by_cases hold : n < s.cursor
    · rw [getElem?_log_step hs.log h hold] at hentry
      refine (hs.covered n hold entry hentry key hkey).step hs.places h (fun _ => trivial)
        (fun _ _ _ _ _ _ _ _ _ _ => trivial) ?_
      intro i task result hi _ hprogram _
      exact (hs.tasks i task hi).done hprogram
    · exact covered_taken hs.places h hn hold hentry hkey fun _ _ _ _ _ _ => trivial

/-! ## `startupz` -/

lemma isInitDone_iff {event : Event} : isInitDone event = true ↔ event = .initDone := by
  cases event <;> simp [isInitDone]

lemma ready_iff : s.ready = true ↔
    ∃ n < s.cursor, ∃ entry, s.cluster.log[n]? = some entry ∧ entry.event = .initDone := by
  simp only [ready, List.any_eq_true, List.mem_take_iff_getElem, isInitDone_iff]
  constructor
  · rintro ⟨entry, ⟨n, hn, rfl⟩, hdone⟩
    exact ⟨n, by omega, _, List.getElem?_eq_getElem (by omega), hdone⟩
  · rintro ⟨n, hn, entry, hentry, hdone⟩
    obtain ⟨hlt, rfl⟩ := List.getElem?_eq_some_iff.mp hentry
    exact ⟨_, ⟨n, by omega, rfl⟩, hdone⟩

/-- The flag is never taken back. -/
lemma ready_step (hs : s.LogInv) (h : step sha256 s l = some s') (hready : s.ready = true) :
    s'.ready = true := by
  obtain ⟨n, hn, entry, hentry, hevent⟩ := ready_iff.mp hready
  have hcursor : s.cursor ≤ s'.cursor := by
    rcases cursor_step h with heq | ⟨-, heq⟩ <;> omega
  exact ready_iff.mpr ⟨n, by omega, entry, by rwa [getElem?_log_step hs h hn], hevent⟩

/-- An event of the beginning of the watch is taken before `InitDone`. -/
lemma SinceStart.taken {cluster : Cluster} (hs : SinceStart sha256 cluster s)
    (hready : s.ready = true) (hkey : key ∈ initialKeys cluster) :
    ∃ n < s.cursor, ∃ entry, s.cluster.log[n]? = some entry ∧ watchKey entry.event = some key := by
  obtain ⟨later, hlog, hlater⟩ := hs.changes
  obtain ⟨n, hn, entry, hentry, hdone⟩ := ready_iff.mp hready
  obtain ⟨event, hevent, hkey⟩ := List.mem_filterMap.mp hkey
  obtain ⟨m, hm⟩ := List.mem_iff_getElem?.mp hevent
  have hlt := (List.getElem?_eq_some_iff.mp hm).1
  -- The entry of `InitDone` is the last one of the beginning.
  have hlast : n + 1 = cluster.initialEvents.length := by
    rw [hlog, boot] at hentry
    by_cases hbegin : n < cluster.initialEvents.length
    · rw [List.getElem?_append_left (by simpa using hbegin), List.getElem?_map] at hentry
      obtain ⟨event', hevent', rfl⟩ := Option.map_eq_some_iff.mp hentry
      exact Cluster.initDone_last (hdone ▸ hevent')
    · rw [List.getElem?_append_right (by simpa using hbegin)] at hentry
      exact absurd hdone (hlater entry (List.mem_of_getElem? hentry))
  refine ⟨m, by omega, ⟨event, cluster.revision, false⟩, ?_, hkey⟩
  rw [hlog, boot, List.getElem?_append_left (by simpa using hlt), List.getElem?_map, hm]
  rfl

lemma startupz_eq : s.startupz = 200 ↔ s.ready = true := by
  unfold startupz
  split <;> simp [*]

/-- **A webhook that is ready has lost nothing of what there was at its start.**  In every run of
the watcher and any number of workers, with failing requests and with changes of users: once the
startup probe is answered with 200 it always is, and for every ServiceAccount that a binding named
at the start, its key waits, or a worker has it, or its last reconcile has failed or has listed the
bindings since the start. -/
theorem ready_has_initial {capacity : ℕ} {cluster : Cluster}
    (hreach : Transition.Reachable (step sha256) Transition.Always (boot N capacity cluster) s)
    (hready : s.startupz = 200) :
    (∀ s', Transition.Reachable (step sha256) Transition.Always s s' → s'.startupz = 200) ∧
      ∀ key, cluster.Names key →
        s.queue.Waiting key ∨ (∃ i task, s.workers i = some task ∧ task.key = key) ∨
          ∃ a, s.lastAttempt key = some a ∧ ListedSince cluster.revision a := by
  have hstart := sinceStart_boot (N := N) sha256 capacity cluster
  have hs : SinceStart sha256 cluster s :=
    hreach.invariant hstart fun _ _ _ hI _ hstep => hI.step hstep
  refine ⟨fun s' hs' => ?_, fun key hnames => ?_⟩
  · refine (hs'.invariant (I := fun s => SinceStart sha256 cluster s ∧ s.startupz = 200)
      ⟨hs, hready⟩ fun s l s' hI _ hstep => ⟨hI.1.step hstep, ?_⟩).2
    exact startupz_eq.mpr (ready_step hI.1.log hstep (startupz_eq.mp hI.2))
  · obtain ⟨n, hn, entry, hentry, hkey⟩ :=
      hs.taken (startupz_eq.mp hready) (mem_initialKeys.mpr hnames)
    rcases hs.covered n hn entry hentry key hkey with hwait | ⟨i, task, hi, htask, -⟩ | ⟨-, hlast⟩
    · exact .inl hwait
    · exact .inr (.inl ⟨i, task, hi, htask⟩)
    · exact .inr (.inr hlast)

/-- The watch begins with one binding; its key is sent before `InitDone` is taken. -/
def watchedBinding : List (Label 1) :=
  [.deliver, .deliver, .send ⟨"apps", "web"⟩, .deliver]

/-- A webhook is ready while the first key still waits. -/
theorem ready_has_initial_waiting : ∃ s : Controller 1,
    Transition.run (step webDigest) (boot 1 2048 oneBinding) watchedBinding = some s ∧
      s.attempts = [] ∧ s.startupz = 200 ∧
      (s.queue.Waiting ⟨"apps", "web"⟩ ∨
        (∃ i task, s.workers i = some task ∧ task.key = ⟨"apps", "web"⟩) ∨
        ∃ a, s.lastAttempt ⟨"apps", "web"⟩ = some a ∧ ListedSince oneBinding.revision a) := by
  obtain ⟨s, hrun, hfacts⟩ : ∃ s, Transition.run (step webDigest) (boot 1 2048 oneBinding)
      watchedBinding = some s ∧ (s.attempts.length, s.startupz) = (0, 200) :=
    Option.map_eq_some_iff.mp (by decide)
  obtain ⟨hattempts, hready⟩ := Prod.mk.inj hfacts
  have hnames : oneBinding.Names ⟨"apps", "web"⟩ := by
    obtain ⟨c, hc, hsa⟩ : ∃ c, oneBinding.crbs[ObjectKey.mk "apps" "role"]? = some c ∧
        c.spec.subject.serviceAccountName = "web" := Option.map_eq_some_iff.mp (by decide)
    exact ⟨"role", c, hc, hsa⟩
  have hreach := Transition.reachable_of_run (Transition.guarded_always watchedBinding _) hrun
  exact ⟨s, hrun, List.length_eq_zero_iff.mp hattempts, hready,
    (ready_has_initial hreach hready).2 ⟨"apps", "web"⟩ hnames⟩

end Controller

end IdentityFederation
