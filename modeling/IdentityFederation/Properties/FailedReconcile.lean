import IdentityFederation.Properties.Delivery

/-!
# What becomes of a reconcile that fails

A worker logs the error of a reconcile and goes on; nothing puts the key back.  What a key can
count on, even if any request may fail, is one reconcile for each of its events: if no event is
taken while a worker holds its key, the last reconcile of a key began after its last event, and
if it returned `Ok` then the stored resolved binding is the outcome of a listing that is as
young as every one of these events (`reconcile_follows_events`).  There are at most as many
reconciles of a key as events, so one that failed is followed by another only if another event
comes, and a key can end with a failure (`failure_is_final`).
-/

namespace IdentityFederation

open Interaction Program

namespace Controller

variable {N : ℕ} {sha256 : String → String} {s s' : Controller N} {l : Label N} {key : Key}

/-- No event is taken while a worker holds its key. -/
def Undisturbed (s : Controller N) (l : Label N) : Prop :=
  l = .deliver → ∀ entry, s.cluster.log[s.cursor]? = some entry →
    ∀ key, watchKey entry.event = some key → ¬ s.places.Held key

/-! ## What a task is about to store -/

/-- The stored resolved binding is the outcome of the listing. -/
def Stored (sha256 : String → String) (key : Key) (listing : Listing) (cluster : Cluster) :
    Prop :=
  ∃ now, cluster.rcrbs key.resolved = some
    { spec := (outcome sha256 key listing.bindings now).spec
      status := (outcome sha256 key listing.bindings now).status }

/-- The others leave the resolved binding of a key alone. -/
def Keeps (key : Key) (cluster cluster' : Cluster) : Prop :=
  cluster'.rcrbs key.resolved = cluster.rcrbs key.resolved

lemma Keeps.refl (key : Key) (cluster : Cluster) : Keeps key cluster cluster := rfl

lemma Keeps.trans {c₁ c₂ c₃ : Cluster} (h : Keeps key c₁ c₂) (h' : Keeps key c₂ c₃) :
    Keeps key c₁ c₃ := Eq.trans h' h

lemma Stored.keeps {listing : Listing} {cluster cluster' : Cluster}
    (h : Stored sha256 key listing cluster) (hk : Keeps key cluster cluster') :
    Stored sha256 key listing cluster' := by
  obtain ⟨now, hstored⟩ := h
  exact ⟨now, Eq.trans hk hstored⟩

/-- What holds when a reconcile that has listed returns. -/
def Finished (sha256 : String → String) (key : Key) (listing : Listing)
    (res : Except Error Unit) (cluster : Cluster) : Prop :=
  ∀ u, res = .ok u → Stored sha256 key listing cluster

/-- Whatever its requests meet, an upsert that returns `Ok` has stored the object. -/
lemma upsertResolved_establishes {resolved : ResolvedCloudRoleBinding}
    (hname : resolved.metadata.name.getD "" = key.serviceAccountName) (cluster : Cluster) :
    (upsertResolved key.ns resolved).run.Establishes Cluster.serveWith (Keeps key)
      (fun res c => ∀ u, res = .ok u →
        c.rcrbs key.resolved = some { spec := resolved.spec, status := resolved.status })
      cluster := by
  unfold upsertResolved
  rw [hname]
  dsimp only
  split
  · exact fun c _ u hu => nomatch hu
  · -- The spec patch, then the status patch; a request that fails ends the upsert.
    intro c₁ _ fault₁
    rcases fault₁ with _ | e | e
    case refused | unanswered => exact fun c _ u hu => nomatch hu
    intro c₂ hkeep fault₂
    rcases fault₂ with _ | e | e
    case refused | unanswered => exact fun c _ u hu => nomatch hu
    have hspec : c₂.rcrbs key.resolved = some
        { spec := resolved.spec, status := (c₁.rcrbs key.resolved).bind StoredRcrb.status } :=
      Eq.trans hkeep (Function.update_self ..)
    have hserve : c₂.patchRcrbStatus key.ns key.serviceAccountName resolved =
        (.ok (), { c₂ with
          rcrbs := Function.update c₂.rcrbs key.resolved
            (some { spec := resolved.spec, status := resolved.status })
          revision := c₂.revision + 1 }) := by
      simp only [Cluster.patchRcrbStatus]
      rw [show c₂.rcrbs ⟨key.ns, key.serviceAccountName⟩ = _ from hspec]
      rfl
    intro c₃ hkeep₃ u _
    refine Eq.trans hkeep₃ ?_
    simp only [Cluster.serveWith, Cluster.serve, hserve]
    exact Function.update_self ..

/-- **A reconcile that has listed stores the outcome of its listing**, if it returns `Ok`. -/
lemma reconcileListed_establishes (sha256 : String → String) (clock : ℕ → Time) (key : Key)
    (listing : Listing) (cluster : Cluster) :
    (reconcileListed sha256 clock key listing.bindings).run.Establishes Cluster.serveWith
      (Keeps key) (Finished sha256 key listing) cluster := by
  unfold reconcileListed Finished
  refine Establishes.run_bind (Keeps.refl key) (Establishes.of_forall (fun res c u _ => ?_) _ _)
  refine (upsertResolved_establishes (name_outcome ..) c).mono fun res c hres u hu => ?_
  exact ⟨_, hres u hu⟩

/-- A task is where a reconcile of its key can be: at the start, at the end of one whose listing
failed, or on the way to store the outcome of what it has listed. -/
def Sound (sha256 : String → String) (task : Task) (cluster : Cluster) : Prop :=
  match task.listed with
  | none => (∃ clock, task.program = (reconcile sha256 clock task.key).run) ∨
      ∃ e, task.program = .ret (.error e)
  | some listing =>
      (task.program.Sends fun q =>
        (∀ ns, q ≠ .listCrbs ns) ∧ ∀ k, Cluster.writes q = some k → k = task.key.resolved) ∧
      task.program.Establishes Cluster.serveWith (Keeps task.key)
        (Finished sha256 task.key listing) cluster

lemma Sound.keeps {task : Task} {cluster cluster' : Cluster} (h : Sound sha256 task cluster)
    (hk : Keeps task.key cluster cluster') : Sound sha256 task cluster' := by
  unfold Sound at h ⊢
  split at h
  · exact h
  · exact ⟨h.1, h.2.interfere (fun _ _ _ => Keeps.trans) hk⟩

/-- The next request of a task writes no other resolved binding than that of its key. -/
lemma Sound.writes {task : Task} {cluster : Cluster} (h : Sound sha256 task cluster)
    {q : ApiRequest} {k : ApiResponse q → ApiProgram (Except Error Unit)}
    (hprogram : task.program = .call q k) :
    ∀ k', Cluster.writes q = some k' → k' = task.key.resolved := by
  unfold Sound at h
  split at h
  · rcases h with ⟨clock, hstart⟩ | ⟨e, hend⟩
    · rw [hprogram] at hstart
      have hsends := reconcile_writes sha256 clock task.key
      rw [← hstart] at hsends
      exact hsends.1
    · rw [hprogram] at hend
      cases hend
  · rw [hprogram] at h
    exact h.1.1.2

/-- **One request of a task.** -/
lemma Sound.call {task : Task} {cluster : Cluster} (h : Sound sha256 task cluster)
    {q : ApiRequest} {k : ApiResponse q → ApiProgram (Except Error Unit)}
    (hprogram : task.program = .call q k) (fault : Fault) :
    Sound sha256
      { task with
        program := k (Cluster.serveWith fault cluster q).1
        listed := (listingOf fault cluster q).or task.listed }
      (Cluster.serveWith fault cluster q).2 := by
  obtain ⟨key, program, begun, listed⟩ := task
  obtain rfl : program = .call q k := hprogram
  cases listed with
  | none =>
      rcases h with ⟨clock, hstart⟩ | ⟨e, hend⟩
      · -- The request is the `list`.
        have hstart : Program.call q k = (reconcile sha256 clock key).run := hstart
        obtain ⟨rfl, hk⟩ := Program.call.inj hstart
        obtain rfl := eq_of_heq hk
        rcases fault with _ | e | e
        · exact ⟨reconcileListed_sends sha256 clock key _,
            reconcileListed_establishes sha256 clock key ⟨cluster.revision, cluster.list key.ns⟩ _⟩
        · exact .inr ⟨_, rfl⟩
        · exact .inr ⟨_, rfl⟩
      · cases hend
  | some listing =>
      obtain ⟨⟨hq, hsends⟩, hestablishes⟩ := h
      have hlisting : listingOf fault cluster q = none := by
        cases q with
        | listCrbs ns => exact absurd rfl (hq.1 ns)
        | _ => rfl
      rw [hlisting]
      exact ⟨hsends _, hestablishes cluster rfl fault⟩

/-! ## The invariant -/

/-- The number of reconciles of the key that have returned. -/
def reconcilesOf (s : Controller N) (key : Key) : ℕ :=
  s.attempts.countP fun a => a.key = key

/-- The number of events of the key that were taken. -/
def eventsOf (s : Controller N) (key : Key) : ℕ :=
  (s.cluster.log.take s.cursor).countP fun entry => watchKey entry.event = some key

/-- The task began after the event, and has listed it or is going to. -/
def Answers (n : ℕ) (entry : LogEntry) (task : Task) : Prop :=
  n < task.begun ∧ WillSee entry.revision task

/-- The reconcile began after the event, and did not list before it. -/
def HasAnswered (n : ℕ) (entry : LogEntry) (a : Attempt) : Prop :=
  n < a.begun ∧ ∀ listing, a.listed = some listing → entry.revision ≤ listing.revision

structure Accountable (sha256 : String → String) (s : Controller N) : Prop where
  places : s.places.Inv
  log : s.LogInv
  tasks : ∀ i task, s.workers i = some task → Sound sha256 task s.cluster
  /-- A key that nobody holds is as its last reconcile left it. -/
  settled : ∀ key, ¬ s.places.Held key → ∀ a, s.lastAttempt key = some a → a.result = .ok () →
    ∃ listing, a.listed = some listing ∧ Stored sha256 key listing s.cluster
  covered : ∀ n < s.cursor, ∀ entry, s.cluster.log[n]? = some entry →
    ∀ key, watchKey entry.event = some key →
      Covered (Answers n entry) (HasAnswered n entry) s key
  /-- Each reconcile has an event of its own. -/
  counted : ∀ key, s.reconcilesOf key + (if key ∈ s.queue.inFlight then 1 else 0) ≤ s.eventsOf key

lemma accountable_boot (sha256 : String → String) (capacity : ℕ) (cluster : Cluster) :
    Accountable sha256 (boot N capacity cluster) where
  places := QueueSystem.inv_start capacity
  log := ⟨Nat.zero_le _, by simp [boot]⟩
  tasks := by simp [boot]
  settled := by simp [boot, lastAttempt]
  covered := by simp [boot]
  counted := by simp [boot, reconcilesOf, eventsOf, Queue.new]

/-- What one step does to the resolved binding of a key that its worker does not hold. -/
lemma keeps_step (hs : Accountable sha256 s) (h : step sha256 s l = some s')
    (hother : ∀ i task, s.workers i = some task → task.key = key → ∀ fault, l ≠ .call i fault) :
    Keeps key s.cluster s'.cluster := by
  cases l with
  | change change =>
      obtain ⟨cluster, happly, rfl⟩ := step_change h
      obtain ⟨effect⟩ := UserChange.apply_eq_some happly
      exact congrFun effect.rcrbs_eq _
  | deliver =>
      obtain ⟨-, entry, -, ⟨-, rfl⟩ | ⟨key', -, rfl⟩⟩ := step_deliver h <;> rfl
  | send key' =>
      obtain ⟨queue, -, rfl⟩ := step_send h
      rfl
  | recv i clock =>
      obtain ⟨-, key', queue, -, rfl⟩ := step_recv h
      rfl
  | call i fault =>
      obtain ⟨task, q, k, hi, hprogram, rfl⟩ := step_call h
      refine Cluster.rcrbs_serveWith fault s.cluster q fun hw => ?_
      have hkey := (hs.tasks i task hi).writes hprogram _ hw
      exact hother i task hi (resolved_injective hkey).symm fault rfl
  | done i =>
      obtain ⟨task, result, -, -, rfl⟩ := step_done h
      rfl

lemma tasks_step (hs : Accountable sha256 s) (h : step sha256 s l = some s') :
    ∀ i task, s'.workers i = some task → Sound sha256 task s'.cluster := by
  intro j task hj
  rcases workers_step h hj with ⟨clock, key', -, rfl⟩ |
    ⟨fault, task', q, k, -, hi, hprogram, rfl, hcluster⟩ | ⟨hj, hother⟩
  · exact .inl ⟨clock, rfl⟩
  · rw [hcluster]
    exact (hs.tasks j task' hi).call hprogram fault
  · -- A task that takes no step is not disturbed by the others.
    refine (hs.tasks j task hj).keeps (keeps_step hs h ?_)
    intro i task' hi hkey fault heq
    obtain rfl := hs.places.unique i j task.key (by simp [places, hi, hkey])
      (by simp [places, hj])
    exact hother fault heq

/-- A step either finishes a reconcile of the key, or leaves its last reconcile and a worker that
holds it where they are. -/
lemma lastAttempt_step (h : step sha256 s l = some s') :
    (∃ i task result, s.workers i = some task ∧ task.program = .ret result ∧ task.key = key ∧
      s'.lastAttempt key = some (task.attempt result) ∧ s'.cluster = s.cluster) ∨
    (s'.lastAttempt key = s.lastAttempt key ∧ (s.places.Held key → s'.places.Held key)) := by
  cases l with
  | change change =>
      obtain ⟨cluster, -, rfl⟩ := step_change h
      exact .inr ⟨rfl, id⟩
  | deliver =>
      obtain ⟨-, entry, -, ⟨-, rfl⟩ | ⟨key', -, rfl⟩⟩ := step_deliver h <;> exact .inr ⟨rfl, id⟩
  | send key' =>
      obtain ⟨queue, -, rfl⟩ := step_send h
      exact .inr ⟨rfl, id⟩
  | recv i clock =>
      obtain ⟨hi, key', queue, -, rfl⟩ := step_recv h
      refine .inr ⟨rfl, fun hheld => ?_⟩
      obtain ⟨j, task, hj, hkey⟩ := held_iff.mp hheld
      have hji : j ≠ i := by
        rintro rfl
        rw [hi] at hj
        cases hj
      exact held_iff.mpr ⟨j, task, (workers_setWorker_of_ne hji).trans hj, hkey⟩
  | call i fault =>
      obtain ⟨task, q, k, hi, -, rfl⟩ := step_call h
      refine .inr ⟨rfl, fun hheld => ?_⟩
      obtain ⟨j, task', hj, hkey⟩ := held_iff.mp hheld
      by_cases hji : j = i
      · subst hji
        obtain rfl := Option.some.inj (hi.symm.trans hj)
        exact held_iff.mpr ⟨j, _, Function.update_self .., hkey⟩
      · exact held_iff.mpr ⟨j, task', (workers_setWorker_of_ne hji).trans hj, hkey⟩
  | done i =>
      obtain ⟨task, result, hi, hprogram, rfl⟩ := step_done h
      by_cases hkey : task.key = key
      · subst hkey
        exact .inl ⟨i, task, result, hi, hprogram, rfl,
          lastAttempt_append_self s.attempts (task.attempt result), rfl⟩
      · refine .inr ⟨lastAttempt_append_of_ne (a := task.attempt result) hkey, fun hheld => ?_⟩
        obtain ⟨j, task', hj, hkey'⟩ := held_iff.mp hheld
        have hji : j ≠ i := by
          rintro rfl
          exact hkey (Option.some.inj (hi.symm.trans hj) ▸ hkey')
        exact held_iff.mpr ⟨j, task', (workers_setWorker_of_ne hji).trans hj, hkey'⟩

lemma settled_step (hs : Accountable sha256 s) (h : step sha256 s l = some s') :
    ∀ key, ¬ s'.places.Held key → ∀ a, s'.lastAttempt key = some a → a.result = .ok () →
      ∃ listing, a.listed = some listing ∧ Stored sha256 key listing s'.cluster := by
  intro key hfree a ha hok
  rcases @lastAttempt_step _ _ _ _ _ key h with
    ⟨i, task, result, hi, hprogram, rfl, hlast, hcluster⟩ | ⟨hlast, hheld⟩
  · -- A task that returns `Ok` has listed, and has stored the outcome.
    obtain rfl := Option.some.inj (hlast.symm.trans ha)
    obtain rfl : result = .ok () := hok
    have hsound := hs.tasks i task hi
    rw [hcluster]
    cases hlisted : task.listed with
    | none =>
        simp only [Sound, hlisted, hprogram] at hsound
        rcases hsound with ⟨clock, hstart⟩ | ⟨e, hend⟩
        · cases hstart
        · cases hend
    | some listing =>
        simp only [Sound, hlisted, hprogram] at hsound
        exact ⟨listing, hlisted, hsound.2 s.cluster (Keeps.refl _ _) () rfl⟩
  · have hfree : ¬ s.places.Held key := fun hk => hfree (hheld hk)
    obtain ⟨listing, hlisted, hstored⟩ := hs.settled key hfree a (hlast ▸ ha) hok
    refine ⟨listing, hlisted, hstored.keeps (keeps_step hs h fun i task hi hkey => ?_)⟩
    exact absurd (held_iff.mpr ⟨i, task, hi, hkey⟩) hfree

/-- Delivered events stay covered, whether or not requests fail. -/
lemma answered_step (hs : Accountable sha256 s) (hfree : Undisturbed s l)
    (h : step sha256 s l = some s') :
    ∀ n < s'.cursor, ∀ entry, s'.cluster.log[n]? = some entry →
      ∀ key, watchKey entry.event = some key →
        Covered (Answers n entry) (HasAnswered n entry) s' key := by
  intro n hn entry hentry key hkey
  by_cases hold : n < s.cursor
  · rw [getElem?_log_step hs.log h hold] at hentry
    refine (hs.covered n hold entry hentry key hkey).step hs.places h
      (fun _ => ⟨hold, fun _ hnone => nomatch hnone⟩) ?_ ?_
    · intro i fault task q k _ _ _ _ hP
      exact ⟨hP.1, hP.2.call (hs.log.revision entry (List.mem_of_getElem? hentry)) _⟩
    · intro i task result _ _ _ hP
      exact hP
  · refine covered_taken hs.places h hn hold hentry hkey fun hl hnext i task hi htask => ?_
    exact absurd (held_iff.mpr ⟨i, task, hi, htask⟩) (hfree hl entry hnext key hkey)

/-- Nothing but a `deliver` changes which events were taken. -/
lemma eventsOf_step (hs : s.LogInv) (h : step sha256 s l = some s') (hl : l ≠ .deliver)
    (key : Key) : s'.eventsOf key = s.eventsOf key := by
  obtain ⟨byUser, hgrows⟩ := logGrows_step h
  obtain ⟨new, hlog, -⟩ := hgrows.log
  have hcursor : s'.cursor = s.cursor := (cursor_step h).resolve_right fun hd => hl hd.1
  rw [eventsOf, eventsOf, hcursor, hlog, List.take_append_of_le_length hs.cursor]

lemma mem_inFlight_enqueue {q : Queue} {key key' : Key} :
    key ∈ (q.enqueue key').inFlight ↔ key = key' ∨ key ∈ q.inFlight := by
  unfold Queue.enqueue
  split
  · rename_i hmem
    exact ⟨.inr, fun h => h.elim (fun heq => heq ▸ hmem) id⟩
  · exact Finset.mem_insert

/-- The event that a `deliver` takes pays for the reconcile of a key that was not in flight. -/
lemma counted_deliver (hs : Accountable sha256 s) (h : step sha256 s .deliver = some s')
    (key : Key) :
    s'.reconcilesOf key + (if key ∈ s'.queue.inFlight then 1 else 0) ≤ s'.eventsOf key := by
  have hcounted := hs.counted key
  obtain ⟨-, entry, hentry, hcase⟩ := step_deliver h
  have hevents : (s.cluster.log.take (s.cursor + 1)).countP
      (fun entry => watchKey entry.event = some key) =
        s.eventsOf key + if watchKey entry.event = some key then 1 else 0 := by
    rw [List.take_add_one, hentry, List.countP_append]
    simp [eventsOf, List.countP_cons]
  rcases hcase with ⟨hnone, rfl⟩ | ⟨key', hkey', rfl⟩
  · simp only [hnone, reduceCtorEq, if_false] at hevents
    simp only [eventsOf, reconcilesOf] at hcounted hevents ⊢
    omega
  · simp only [eventsOf, reconcilesOf, mem_inFlight_enqueue] at hcounted hevents ⊢
    rw [hevents, hkey']
    by_cases heq : key = key'
    · subst heq
      split at hcounted <;> simp <;> omega
    · simp only [heq, false_or, Option.some.injEq, Ne.symm heq, if_false]
      omega

lemma counted_step (hs : Accountable sha256 s) (h : step sha256 s l = some s') :
    ∀ key, s'.reconcilesOf key + (if key ∈ s'.queue.inFlight then 1 else 0) ≤
      s'.eventsOf key := by
  intro key
  have hcounted := hs.counted key
  by_cases hl : l = .deliver
  · subst hl
    exact counted_deliver hs h key
  rw [eventsOf_step hs.log h hl]
  cases l with
  | deliver => exact absurd rfl hl
  | change change =>
      obtain ⟨cluster, -, rfl⟩ := step_change h
      exact hcounted
  | send key' =>
      obtain ⟨queue, hsend, rfl⟩ := step_send h
      obtain ⟨-, -, rfl⟩ := QueueSystem.send_eq_some hs.places.isOpen hsend
      exact hcounted
  | recv i clock =>
      obtain ⟨-, key', queue, hrecv, rfl⟩ := step_recv h
      obtain ⟨-, -, hinFlight, -⟩ := QueueSystem.recv_eq_some hrecv
      simp only [setWorker, hinFlight]
      exact hcounted
  | call i fault =>
      obtain ⟨task, q, k, -, -, rfl⟩ := step_call h
      exact hcounted
  | done i =>
      obtain ⟨task, result, hi, -, rfl⟩ := step_done h
      have hmem : task.key ∈ s.queue.inFlight :=
        (hs.places.inFlight _).mpr (.inr (held_iff.mpr ⟨i, task, hi, rfl⟩))
      have hcount : (s.attempts ++ [task.attempt result]).countP (fun a => a.key = key) =
          s.reconcilesOf key + if task.key = key then 1 else 0 := by
        rw [List.countP_append]
        simp [reconcilesOf, Task.attempt, List.countP_cons]
      simp only [setWorker, Queue.done, Finset.mem_erase, reconcilesOf] at hcount ⊢
      rw [hcount]
      by_cases hkey : task.key = key
      · -- The reconcile that has returned takes the place of the key in flight.
        subst hkey
        simpa [hmem, reconcilesOf] using hcounted
      · simpa [hkey, Ne.symm hkey, reconcilesOf] using hcounted

/-- **Every step keeps the account**, whatever its request meets. -/
lemma Accountable.step (hs : Accountable sha256 s) (hfree : Undisturbed s l)
    (h : Controller.step sha256 s l = some s') : Accountable sha256 s' where
  places := inv_places_step hs.places h
  log := hs.log.step h
  tasks := tasks_step hs h
  settled := settled_step hs h
  covered := answered_step hs hfree h
  counted := counted_step hs h

/-- **What a key can count on.**  In every run in which no event is taken while a worker holds
its key, and in which any request may fail: in a quiescent state, no key was reconciled more
often than it had events, and the last reconcile of a key began after its last event; if it
returned `Ok`, then the stored resolved binding is the outcome of a listing that is as young as
every event of the key. -/
theorem reconcile_follows_events (sha256 : String → String) {capacity : ℕ} {cluster : Cluster}
    (hreach : Transition.Reachable (step sha256) Undisturbed (boot N capacity cluster) s)
    (hquiet : s.Quiescent) (key : Key) :
    s.reconcilesOf key ≤ s.eventsOf key ∧
    ∀ n entry, n < s.cursor → s.cluster.log[n]? = some entry →
      watchKey entry.event = some key →
      ∃ a, s.lastAttempt key = some a ∧ n < a.begun ∧
        (a.result = .ok () → ∃ listing, a.listed = some listing ∧
          entry.revision ≤ listing.revision ∧ Stored sha256 key listing s.cluster) := by
  have hinv : Accountable sha256 s :=
    hreach.invariant (accountable_boot sha256 capacity cluster)
      fun _ _ _ hs hguard hstep => hs.step hguard hstep
  refine ⟨(Nat.le_add_right _ _).trans (hinv.counted key), fun n entry hn hentry hkey => ?_⟩
  obtain ⟨a, hlast, hbegun, hlisting⟩ := (hinv.covered n hn entry hentry key hkey).of_quiescent
    hquiet
  refine ⟨a, hlast, hbegun, fun hok => ?_⟩
  have hfree : ¬ s.places.Held key := by
    rw [held_iff]
    rintro ⟨i, task, hi, -⟩
    rw [hquiet.2.2 i] at hi
    cases hi
  obtain ⟨listing, hlisted, hstored⟩ := hinv.settled key hfree a hlast hok
  exact ⟨listing, hlisted, hlisting listing hlisted, hstored⟩

/-! ### A reconcile that succeeds, and one that fails -/

instance (s : QueueSystem (Fin N)) (key : Key) : Decidable (s.Held key) :=
  inferInstanceAs (Decidable (∃ i, s.held i = some key))

instance (s : Controller N) : ∀ l, Decidable (s.Undisturbed l)
  | .deliver => decidable_of_iff
      (∀ entry ∈ s.cluster.log[s.cursor]?, ∀ key ∈ watchKey entry.event, ¬ s.places.Held key)
      ⟨fun h _ entry hentry key hkey => h entry hentry key hkey,
        fun h entry hentry key hkey => h rfl entry hentry key hkey⟩
  | .change _ | .send _ | .recv .. | .call .. | .done _ => .isTrue nofun

/-- The first request of the reconcile fails. -/
def failedKey : List (Label 1) := attempted ⟨"apps", "web"⟩ [.refused .unavailable]

/-- The binding gets another role, and the reconcile succeeds. -/
def editedKey : List (Label 1) :=
  [.change (.edit ⟨"apps", "role"⟩ (roleBinding "web" "arn:aws:iam::123456789012:role/shop")),
   .deliver] ++ attempted ⟨"apps", "web"⟩ [.none, .none, .none, .none]

/-- The first reconcile of the binding fails; that of its next event stores the outcome. -/
theorem reconcile_follows_events_edited :
    ∃ s : Controller 1, s.Quiescent ∧ (∃ a ∈ s.attempts, a.result ≠ .ok ()) ∧
      s.reconcilesOf ⟨"apps", "web"⟩ ≤ s.eventsOf ⟨"apps", "web"⟩ ∧
      ∀ n entry, n < s.cursor → s.cluster.log[n]? = some entry →
        watchKey entry.event = some ⟨"apps", "web"⟩ →
        ∃ a, s.lastAttempt ⟨"apps", "web"⟩ = some a ∧ n < a.begun ∧
          (a.result = .ok () → ∃ listing, a.listed = some listing ∧
            entry.revision ≤ listing.revision ∧
            Stored webDigest ⟨"apps", "web"⟩ listing s.cluster) := by
  obtain ⟨s, hrun, hsummary⟩ : ∃ s, Transition.run (step webDigest) oneWorker
      (createdBinding ++ failedKey ++ editedKey) = some s ∧
      ((summary s).sending, (summary s).channel, (summary s).free,
        s.attempts.map fun a => a.result.isOk) = ([], [], true, [false, true]) :=
    Option.map_eq_some_iff.mp (by decide)
  obtain ⟨hsending, hchannel, hfree, hresults⟩ : _ ∧ _ ∧ _ ∧ _ := by
    simpa only [Prod.mk.injEq] using hsummary
  have hguard : Transition.Guarded (step webDigest) Undisturbed oneWorker
      (createdBinding ++ failedKey ++ editedKey) := by decide
  have hreach := Transition.reachable_of_run hguard hrun
  have hquiet := quiescent_of_summary hsending hchannel hfree
  refine ⟨s, hquiet, ?_, reconcile_follows_events webDigest hreach hquiet _⟩
  obtain ⟨a, ha, hfailed⟩ := List.mem_map.mp
    (show false ∈ s.attempts.map fun a => a.result.isOk by simp [hresults])
  refine ⟨a, ha, fun hok => ?_⟩
  rw [hok] at hfailed
  cases hfailed

/-- **A failure is final**: the event of the new binding has been taken and its key reconciled
once, without success.  Nothing is left to do, and no resolved binding is stored. -/
theorem failure_is_final :
    ∃ s : Controller 1,
      Transition.Reachable (step webDigest) Undisturbed
        (boot 1 2048 (Cluster.empty fun _ => none)) s ∧
      s.Quiescent ∧ s.cursor = s.cluster.log.length ∧
      s.cluster.bindings =
        [(⟨"apps", "role"⟩, 1, roleBinding "web" "arn:aws:iam::123456789012:role/web")] ∧
      (∃ entry ∈ s.cluster.log, watchKey entry.event = some ⟨"apps", "web"⟩) ∧
      (∀ a ∈ s.attempts, a.result ≠ .ok ()) ∧
      s.cluster.rcrbs (Key.resolved ⟨"apps", "web"⟩) = none := by
  obtain ⟨s, hrun, hfacts⟩ : ∃ s, Transition.run (step webDigest)
      (boot 1 2048 (Cluster.empty fun _ => none)) (createdBinding ++ failedKey) = some s ∧
      (summary s, s.cluster.bindings,
        (s.cluster.rcrbs (Key.resolved ⟨"apps", "web"⟩)).isNone) =
      ({ sending := [], channel := [], free := true, cursor := 3
         log := [(0, false, none), (0, false, none), (1, true, some ⟨"apps", "web"⟩)]
         attempts := [(⟨"apps", "web"⟩, none, false)] },
        [(⟨"apps", "role"⟩, 1, roleBinding "web" "arn:aws:iam::123456789012:role/web")],
        true) :=
    Option.map_eq_some_iff.mp (by decide)
  obtain ⟨hsummary, hbindings, hnone⟩ : _ ∧ _ ∧ _ := by
    simpa only [Prod.mk.injEq] using hfacts
  have hlog : s.cluster.log.map (fun e => (e.revision, e.byUser, watchKey e.event)) =
      [(0, false, none), (0, false, none), (1, true, some ⟨"apps", "web"⟩)] :=
    congrArg Summary.log hsummary
  have hcursor : s.cursor = 3 := congrArg Summary.cursor hsummary
  have hattempts : s.attempts.map (fun a => (a.key, a.listed.map Listing.revision,
      a.result.isOk)) = [(⟨"apps", "web"⟩, none, false)] := congrArg Summary.attempts hsummary
  refine ⟨s, Transition.reachable_of_run (by decide) hrun,
    quiescent_of_summary (by rw [hsummary]) (by rw [hsummary]) (by rw [hsummary]), ?_, hbindings,
    ?_, fun a ha hok => ?_, Option.isNone_iff_eq_none.mp hnone⟩
  · simpa [hcursor] using (congrArg List.length hlog).symm
  · have hlast : (1, true, some (⟨"apps", "web"⟩ : Key)) ∈
        s.cluster.log.map fun e => (e.revision, e.byUser, watchKey e.event) := by simp [hlog]
    obtain ⟨entry, hmem, hentry⟩ := List.mem_map.mp hlast
    exact ⟨entry, hmem, congrArg (fun t => t.2.2) hentry⟩
  · have hmem := List.mem_map_of_mem (f := fun a : Attempt =>
      (a.key, a.listed.map Listing.revision, a.result.isOk)) ha
    rw [hattempts, List.mem_singleton, hok] at hmem
    simp [Except.isOk, Except.toBool] at hmem

end Controller

end IdentityFederation
