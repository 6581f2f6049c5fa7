import IdentityFederation.Framework.Transition
import IdentityFederation.Properties.Restart
import IdentityFederation.Properties.WorkQueue
import IdentityFederation.Webhook.Controller

/-!
# Which changes the controller's reconciles see

An event whose key is in flight is dropped, because a reconcile of the key is still to come or
under way.  That is harmless while the key waits, and while the worker that holds it has not
listed the bindings yet; it loses the event when the worker has listed them already.

The argument is one coverage invariant (`Covered`): a delivered event is covered as long as its
key waits, or a worker holds the key and its task is good enough, or the key is free and its
last reconcile was.  What "good enough" means is a parameter, and `Covered.step` says which
three facts about it a step needs.  For lost updates a task is good enough if it has not listed,
or has listed at the revision of the event or later (`no_lost_update`).

An edit that gives a binding to another ServiceAccount is a change for both, but its event carries
the new name only.  It is seen by the old one if a reconcile of that is going to list anyway.
-/

namespace IdentityFederation

open Interaction Program

namespace Controller

variable {N : ℕ} {sha256 : String → String} {s s' : Controller N} {l : Label N} {key : Key}

/-! ## The controller as a queue system -/

/-- Where the keys are. -/
def places (s : Controller N) : QueueSystem (Fin N) where
  queue := s.queue
  held i := (s.workers i).map Task.key

lemma held_iff : s.places.Held key ↔ ∃ i task, s.workers i = some task ∧ task.key = key := by
  simp [QueueSystem.Held, places]

lemma keys_update (workers : Fin N → Option Task) (i : Fin N) (task : Option Task) :
    (fun j => (Function.update workers i task j).map Task.key) =
      Function.update (fun j => (workers j).map Task.key) i (task.map Task.key) := by
  funext j
  by_cases hj : j = i
  · subst hj
    simp
  · simp [Function.update_of_ne hj]

/-- **The controller refines the queue system**: each of its steps is a step of the queue, or
leaves the keys where they are. -/
theorem places_step (h : step sha256 s l = some s') :
    s'.places = s.places ∨ ∃ ql, s.places.step ql = some s'.places := by
  cases l with
  | change change =>
      obtain ⟨cluster, -, rfl⟩ := step_change h
      exact .inl rfl
  | deliver =>
      obtain ⟨-, entry, -, ⟨-, rfl⟩ | ⟨key, -, rfl⟩⟩ := step_deliver h
      · exact .inl rfl
      · exact .inr ⟨.enqueue key, rfl⟩
  | send key =>
      obtain ⟨queue, hsend, rfl⟩ := step_send h
      refine .inr ⟨.send key, ?_⟩
      rw [QueueSystem.step, show s.places.queue = s.queue from rfl, hsend]
      rfl
  | recv i clock =>
      obtain ⟨hi, key, queue, hrecv, rfl⟩ := step_recv h
      refine .inr ⟨.recv i, ?_⟩
      have hheld : s.places.held i = none := by simp [places, hi]
      simp only [QueueSystem.step, hheld, show s.places.queue = s.queue from rfl, hrecv]
      refine congrArg some (congrArg (QueueSystem.mk queue) (Eq.symm ?_))
      exact keys_update s.workers i _
  | call i fault =>
      obtain ⟨task, q, k, hi, -, rfl⟩ := step_call h
      refine .inl (congrArg (QueueSystem.mk s.queue) ((keys_update s.workers i _).trans ?_))
      refine Function.update_eq_self_iff.mpr ?_
      simp [hi]
  | done i =>
      obtain ⟨task, result, hi, -, rfl⟩ := step_done h
      refine .inr ⟨.done i, ?_⟩
      have hheld : s.places.held i = some task.key := by simp [places, hi]
      simp only [QueueSystem.step, hheld]
      exact congrArg some
        (congrArg (QueueSystem.mk (s.queue.done task.key)) (keys_update s.workers i none).symm)

lemma inv_places_step (hs : s.places.Inv) (h : step sha256 s l = some s') : s'.places.Inv := by
  rcases places_step h with heq | ⟨ql, hql⟩
  · rwa [heq]
  · exact QueueSystem.inv_step hs hql

/-! ## The log -/

/-- A step of the controller only adds to the log. -/
lemma logGrows_step (h : step sha256 s l = some s') :
    ∃ byUser, s.cluster.LogGrows byUser s'.cluster := by
  cases l with
  | change change =>
      obtain ⟨cluster, happly, rfl⟩ := step_change h
      obtain ⟨effect⟩ := UserChange.apply_eq_some happly
      exact ⟨true, by simp [effect.revision_eq], _, effect.log_eq, by simp [effect.revision_eq]⟩
  | deliver =>
      obtain ⟨-, entry, -, ⟨-, rfl⟩ | ⟨key, -, rfl⟩⟩ := step_deliver h <;> exact ⟨false, .refl _ _⟩
  | send key =>
      obtain ⟨queue, -, rfl⟩ := step_send h
      exact ⟨false, .refl _ _⟩
  | recv i clock =>
      obtain ⟨-, key, queue, -, rfl⟩ := step_recv h
      exact ⟨false, .refl _ _⟩
  | call i fault =>
      obtain ⟨task, q, k, -, -, rfl⟩ := step_call h
      exact ⟨false, Cluster.logGrows_serveWith fault s.cluster q⟩
  | done i =>
      obtain ⟨task, result, -, -, rfl⟩ := step_done h
      exact ⟨false, .refl _ _⟩

/-- The watcher has taken events that exist, and no entry is younger than the cluster. -/
structure LogInv (s : Controller N) : Prop where
  cursor : s.cursor ≤ s.cluster.log.length
  revision : ∀ entry ∈ s.cluster.log, entry.revision ≤ s.cluster.revision

lemma cursor_step (h : step sha256 s l = some s') :
    s'.cursor = s.cursor ∨ l = .deliver ∧ s'.cursor = s.cursor + 1 := by
  cases l with
  | change change =>
      obtain ⟨cluster, -, rfl⟩ := step_change h
      exact .inl rfl
  | deliver =>
      obtain ⟨-, entry, -, ⟨-, rfl⟩ | ⟨key, -, rfl⟩⟩ := step_deliver h <;> exact .inr ⟨rfl, rfl⟩
  | send key =>
      obtain ⟨queue, -, rfl⟩ := step_send h
      exact .inl rfl
  | recv i clock =>
      obtain ⟨-, key, queue, -, rfl⟩ := step_recv h
      exact .inl rfl
  | call i fault =>
      obtain ⟨task, q, k, -, -, rfl⟩ := step_call h
      exact .inl rfl
  | done i =>
      obtain ⟨task, result, -, -, rfl⟩ := step_done h
      exact .inl rfl

lemma LogInv.step (hs : s.LogInv) (h : Controller.step sha256 s l = some s') : s'.LogInv := by
  obtain ⟨byUser, hgrows⟩ := logGrows_step h
  obtain ⟨new, hlog, hnew⟩ := hgrows.log
  constructor
  case cursor =>
    rcases cursor_step h with hcursor | ⟨rfl, hcursor⟩
    · rw [hcursor, hlog, List.length_append]
      exact hs.cursor.trans (Nat.le_add_right _ _)
    · obtain ⟨-, entry, hentry, -⟩ := step_deliver h
      have hlt := (List.getElem?_eq_some_iff.mp hentry).1
      rw [hcursor, hlog, List.length_append]
      omega
  case revision =>
    intro entry hmem
    rw [hlog, List.mem_append] at hmem
    rcases hmem with hmem | hmem
    · exact (hs.revision entry hmem).trans hgrows.revision
    · exact (hnew entry hmem).2.2

/-- Events that were taken stay where they are in the log. -/
lemma getElem?_log_step (hs : s.LogInv) (h : step sha256 s l = some s') {n : ℕ}
    (hn : n < s.cursor) : s'.cluster.log[n]? = s.cluster.log[n]? := by
  obtain ⟨byUser, hgrows⟩ := logGrows_step h
  obtain ⟨new, hlog, -⟩ := hgrows.log
  rw [hlog, List.getElem?_append_left (hn.trans_le hs.cursor)]

/-! ## Coverage -/

/-- The key waits, or a worker holds it with a task that meets `P`, or nobody holds it and its
last reconcile meets `A`. -/
def Covered (P : Task → Prop) (A : Attempt → Prop) (s : Controller N) (key : Key) : Prop :=
  s.queue.Waiting key ∨
    (∃ i task, s.workers i = some task ∧ task.key = key ∧ P task) ∨
    (¬ s.places.Held key ∧ ∃ a, s.lastAttempt key = some a ∧ A a)

lemma lastAttempt_append_self (attempts : List Attempt) (a : Attempt) :
    ((attempts ++ [a]).filter fun b => b.key = a.key).getLast? = some a := by
  simp [List.filter_append]

lemma lastAttempt_append_of_ne {attempts : List Attempt} {a : Attempt} (hne : a.key ≠ key) :
    ((attempts ++ [a]).filter fun b => b.key = key).getLast? =
      (attempts.filter fun b => b.key = key).getLast? := by
  simp [List.filter_append, hne]

/-- A worker other than the one that steps still holds what it held. -/
lemma workers_setWorker_of_ne {i j : Fin N} {task : Option Task} (hne : j ≠ i) :
    (s.setWorker i task).workers j = s.workers j := Function.update_of_ne hne ..

/-- What a step does to the task of a worker: the task is fresh, or its next request has been
served, or it is as it was. -/
lemma workers_step {j : Fin N} {task : Task} (h : step sha256 s l = some s')
    (hj : s'.workers j = some task) :
    (∃ clock key, l = .recv j clock ∧ task =
      { key := key, program := (reconcile sha256 clock key).run, begun := s.cursor,
        listed := none }) ∨
    (∃ fault task' q k, l = .call j fault ∧ s.workers j = some task' ∧
      task'.program = .call q k ∧ task =
        { task' with
          program := k (Cluster.serveWith fault s.cluster q).1
          listed := (listingOf fault s.cluster q).or task'.listed } ∧
      s'.cluster = (Cluster.serveWith fault s.cluster q).2) ∨
    (s.workers j = some task ∧ ∀ fault, l ≠ .call j fault) := by
  cases l with
  | change change =>
      obtain ⟨cluster, -, rfl⟩ := step_change h
      exact .inr (.inr ⟨hj, fun _ => nofun⟩)
  | deliver =>
      obtain ⟨-, entry, -, ⟨-, rfl⟩ | ⟨key, -, rfl⟩⟩ := step_deliver h <;>
        exact .inr (.inr ⟨hj, fun _ => nofun⟩)
  | send key =>
      obtain ⟨queue, -, rfl⟩ := step_send h
      exact .inr (.inr ⟨hj, fun _ => nofun⟩)
  | recv i clock =>
      obtain ⟨-, key, queue, -, rfl⟩ := step_recv h
      by_cases hji : j = i
      · subst hji
        rw [workers_setWorker, Function.update_self] at hj
        exact .inl ⟨clock, key, rfl, (Option.some.inj hj).symm⟩
      · rw [workers_setWorker_of_ne hji] at hj
        exact .inr (.inr ⟨hj, fun _ => nofun⟩)
  | call i fault =>
      obtain ⟨task', q, k, hi, hprogram, rfl⟩ := step_call h
      by_cases hji : j = i
      · subst hji
        rw [workers_setWorker, Function.update_self] at hj
        exact .inr (.inl ⟨fault, task', q, k, rfl, hi, hprogram, (Option.some.inj hj).symm, rfl⟩)
      · rw [workers_setWorker_of_ne hji] at hj
        refine .inr (.inr ⟨hj, fun fault' heq => ?_⟩)
        injection heq with hij
        exact hji hij.symm
  | done i =>
      obtain ⟨task', result, -, -, rfl⟩ := step_done h
      have hji : j ≠ i := by
        rintro rfl
        simp at hj
      rw [workers_setWorker_of_ne hji] at hj
      exact .inr (.inr ⟨hj, fun _ => nofun⟩)

/-- A worker that is given another task leaves the key held by whoever held it. -/
lemma held_of_setWorker {t : Controller N} {i : Fin N} {task : Option Task}
    (hworkers : t.workers = s.workers)
    (hnew : ∀ task' ∈ task, task'.key = key → s.places.Held key)
    (h : (t.setWorker i task).places.Held key) : s.places.Held key := by
  obtain ⟨j, task', hj, htask'⟩ := held_iff.mp h
  by_cases hji : j = i
  · subst hji
    rw [workers_setWorker, Function.update_self] at hj
    exact hnew task' hj htask'
  · rw [workers_setWorker_of_ne hji, hworkers] at hj
    exact held_iff.mpr ⟨j, task', hj, htask'⟩

section Covered

variable {P : Task → Prop} {A : Attempt → Prop} {i : Fin N}

/-- A key that is received is held by a fresh task. -/
lemma Covered.recv {clock : ℕ → Time} (h : step sha256 s (.recv i clock) = some s')
    (hcovered : Covered P A s key)
    (hfresh : ∀ program,
      P { key := key, program := program, begun := s.cursor, listed := none }) :
    Covered P A s' key := by
  obtain ⟨hi, key', queue, hrecv, rfl⟩ := step_recv h
  by_cases hkey : key' = key
  · subst hkey
    exact .inr (.inl ⟨i, _, Function.update_self .., rfl, hfresh _⟩)
  rcases hcovered with hwait | ⟨j, task, hj, hrest⟩ | ⟨hfree, hlast⟩
  · rcases (QueueSystem.waiting_recv hrecv key).mp hwait with heq | hwait
    · exact absurd heq.symm hkey
    · exact .inl hwait
  · have hne : j ≠ i := by
      rintro rfl
      rw [hi] at hj
      cases hj
    exact .inr (.inl ⟨j, task, (workers_setWorker_of_ne hne).trans hj, hrest⟩)
  · refine .inr (.inr ⟨fun hheld => hfree (held_of_setWorker rfl ?_ hheld), hlast⟩)
    intro task htask heq
    obtain rfl := Option.some.inj htask
    exact absurd heq hkey

/-- A good task stays good when its next request is served. -/
lemma Covered.call {fault : Fault} (h : step sha256 s (.call i fault) = some s')
    (hcovered : Covered P A s key)
    (hcall : ∀ task q k, s.workers i = some task → task.key = key → task.program = .call q k →
      P task → P { task with
        program := k (Cluster.serveWith fault s.cluster q).1
        listed := (listingOf fault s.cluster q).or task.listed }) :
    Covered P A s' key := by
  obtain ⟨task, q, k, hi, hprogram, rfl⟩ := step_call h
  rcases hcovered with hwait | ⟨j, task', hj, htask', hP⟩ | ⟨hfree, hlast⟩
  · exact .inl hwait
  · by_cases hji : j = i
    · subst hji
      obtain rfl := Option.some.inj (hi.symm.trans hj)
      exact .inr (.inl ⟨j, _, Function.update_self .., htask', hcall task q k hi htask' hprogram hP⟩)
    · exact .inr (.inl ⟨j, task', (workers_setWorker_of_ne hji).trans hj, htask', hP⟩)
  · refine .inr (.inr ⟨fun hheld => hfree (held_of_setWorker rfl ?_ hheld), hlast⟩)
    intro task' htask' heq
    obtain rfl := Option.some.inj htask'
    exact held_iff.mpr ⟨i, task, hi, heq⟩

/-- A task that returns leaves its record behind. -/
lemma Covered.done (hinv : s.places.Inv) (h : step sha256 s (.done i) = some s')
    (hcovered : Covered P A s key)
    (hdone : ∀ task result, s.workers i = some task → task.key = key →
      task.program = .ret result → P task → A (task.attempt result)) :
    Covered P A s' key := by
  obtain ⟨task, result, hi, hprogram, rfl⟩ := step_done h
  rcases hcovered with hwait | ⟨j, task', hj, htask', hP⟩ | ⟨hfree, a, hlast, hA⟩
  · exact .inl hwait
  · by_cases hji : j = i
    · -- The key is released; nobody else holds it.
      subst hji
      obtain rfl := Option.some.inj (hi.symm.trans hj)
      obtain rfl := htask'
      refine .inr (.inr ⟨fun hheld => ?_, _,
        lastAttempt_append_self s.attempts (task.attempt result), hdone task result hi rfl hprogram hP⟩)
      obtain ⟨j', task', hj', htask'⟩ := held_iff.mp hheld
      have hne : j' ≠ j := by
        rintro rfl
        simp at hj'
      have hj' : s.workers j' = some task' := (workers_setWorker_of_ne hne).symm.trans hj'
      exact hne (hinv.unique j' j task.key (by simp [places, hj', htask']) (by simp [places, hi]))
    · exact .inr (.inl ⟨j, task', (workers_setWorker_of_ne hji).trans hj, htask', hP⟩)
  · have hne : task.key ≠ key := fun heq => hfree (held_iff.mpr ⟨i, task, hi, heq⟩)
    refine .inr (.inr ⟨fun hheld => hfree (held_of_setWorker rfl ?_ hheld), a,
      (lastAttempt_append_of_ne (a := task.attempt result) hne).trans hlast, hA⟩)
    intro task' htask'
    cases htask'

end Covered

/-- **Coverage is kept**, if a fresh task is good enough, a good task stays good when its next
request is served, and what is recorded of a good task that returns is good. -/
lemma Covered.step {P : Task → Prop} {A : Attempt → Prop} (hinv : s.places.Inv)
    (h : step sha256 s l = some s') (hcovered : Covered P A s key)
    (hfresh : ∀ program,
      P { key := key, program := program, begun := s.cursor, listed := none })
    (hcall : ∀ i fault task q k, l = .call i fault → s.workers i = some task → task.key = key →
      task.program = .call q k → P task →
      P { task with
        program := k (Cluster.serveWith fault s.cluster q).1
        listed := (listingOf fault s.cluster q).or task.listed })
    (hdone : ∀ i task result, s.workers i = some task → task.key = key →
      task.program = .ret result → P task → A (task.attempt result)) :
    Covered P A s' key := by
  cases l with
  | change change =>
      obtain ⟨cluster, -, rfl⟩ := step_change h
      exact hcovered
  | deliver =>
      obtain ⟨-, entry, -, ⟨-, rfl⟩ | ⟨key', -, rfl⟩⟩ := step_deliver h
      · exact hcovered
      · rcases hcovered with hwait | hrest
        · exact .inl (QueueSystem.waiting_enqueue key hwait)
        · exact .inr hrest
  | send key' =>
      obtain ⟨queue, hsend, rfl⟩ := step_send h
      rcases hcovered with hwait | hrest
      · exact .inl ((QueueSystem.waiting_send hinv.isOpen hsend key).mpr hwait)
      · exact .inr hrest
  | recv i clock => exact hcovered.recv h hfresh
  | call i fault => exact hcovered.call h fun task q k => hcall i fault task q k rfl
  | done i => exact hcovered.done hinv h (hdone i)

/-- In a quiescent state only the last reconcile is left to cover a key. -/
lemma Covered.of_quiescent {P : Task → Prop} {A : Attempt → Prop} (hquiet : s.Quiescent)
    (h : Covered P A s key) : ∃ a, s.lastAttempt key = some a ∧ A a := by
  obtain ⟨hsending, hchannel, hworkers⟩ := hquiet
  rcases h with hwait | ⟨i, task, hi, -⟩ | ⟨-, hlast⟩
  · simp [Queue.Waiting, hsending, hchannel] at hwait
  · rw [hworkers i] at hi
    cases hi
  · exact hlast

/-- An event that has just been taken is covered, if the tasks that hold its key are good. -/
lemma covered_deliver {P : Task → Prop} {A : Attempt → Prop} (hinv : s.places.Inv) (key : Key)
    (hP : ∀ i task, s.workers i = some task → task.key = key → P task) :
    Covered P A { s with cursor := s.cursor + 1, queue := s.queue.enqueue key } key := by
  by_cases hmem : key ∈ s.queue.inFlight
  · have hqueue : s.queue.enqueue key = s.queue := if_pos hmem
    rw [hqueue]
    rcases (hinv.inFlight key).mp hmem with hwait | hheld
    · exact .inl hwait
    · obtain ⟨i, task, hi, htask⟩ := held_iff.mp hheld
      exact .inr (.inl ⟨i, task, hi, htask, hP i task hi htask⟩)
  · refine .inl (.inl ?_)
    simp [Queue.enqueue, hmem]

/-- The event that a step takes is covered, if the tasks that hold its key are good. -/
lemma covered_taken {P : Task → Prop} {A : Attempt → Prop} (hinv : s.places.Inv)
    (h : step sha256 s l = some s') {n : ℕ} (hn : n < s'.cursor) (hnew : ¬ n < s.cursor)
    {entry : LogEntry} (hentry : s'.cluster.log[n]? = some entry)
    (hkey : watchKey entry.event = some key)
    (hP : l = .deliver → s.cluster.log[s.cursor]? = some entry →
      ∀ i task, s.workers i = some task → task.key = key → P task) :
    Covered P A s' key := by
  rcases cursor_step h with hcursor | ⟨rfl, hcursor⟩
  · exact absurd (hcursor ▸ hn) hnew
  obtain rfl : n = s.cursor := by omega
  obtain ⟨-, entry', hentry', ⟨hnone, rfl⟩ | ⟨key', hkey', rfl⟩⟩ := step_deliver h
  · obtain rfl := Option.some.inj (hentry'.symm.trans hentry)
    rw [hnone] at hkey
    cases hkey
  · obtain rfl := Option.some.inj (hentry'.symm.trans hentry)
    obtain rfl := Option.some.inj (hkey'.symm.trans hkey)
    exact covered_deliver hinv key' (hP rfl hentry')

/-! ## Lost updates -/

/-- The key of a stored binding. -/
def keyOf (cluster : Cluster) (k : ObjectKey) : Option Key :=
  cluster.crbs[k]?.map fun c => ⟨k.ns, c.spec.subject.serviceAccountName⟩

/-- In the run a user changed a binding that had the key before the change, or has it after the
change.  The event of the change is number `n` of the log, and the change is in all lists from
`revision` on. -/
def Changed (sha256 : String → String) (s₀ : Controller N) (ls : List (Label N)) (key : Key)
    (n revision : ℕ) : Prop :=
  ∃ earlier change later t t', ls = earlier ++ .change change :: later ∧
    Transition.run (step sha256) s₀ earlier = some t ∧ step sha256 t (.change change) = some t' ∧
    (keyOf t.cluster change.key = some key ∨ keyOf t'.cluster change.key = some key) ∧
    n = t.cluster.log.length ∧ revision = t'.cluster.revision

/-- Every API call is served. -/
def CallsSucceed (_ : Controller N) (l : Label N) : Prop :=
  ∀ i fault, l = .call i fault → fault = .none

/-- A reconcile of the key is going to list: the key waits, or a worker that has not listed holds
it. -/
def WillList (s : Controller N) (key : Key) : Prop :=
  s.queue.Waiting key ∨ ∃ i, ∃ task ∈ s.workers i, task.key = key ∧ task.listed.isNone

/-- The event of a user's change is not taken while a worker holds its key with a listing that
is older than the change.  And a binding that has a key is not given another one, unless a
reconcile of the key that it has is going to list: the event carries the new key only. -/
def Timely (s : Controller N) : Label N → Prop
  | .deliver => ∀ entry ∈ s.cluster.log[s.cursor]?, entry.byUser →
      ∀ i, ∀ task ∈ s.workers i, watchKey entry.event = some task.key →
        ∀ listing ∈ task.listed, entry.revision ≤ listing.revision
  | .change (.edit k spec) => ∀ key ∈ keyOf s.cluster k,
      spec.subject.serviceAccountName ≠ key.serviceAccountName → s.WillList key
  | _ => True

/-- The task has listed at this revision or later, or is going to list. -/
def WillSee (revision : ℕ) (task : Task) : Prop :=
  ∀ listing, task.listed = some listing → revision ≤ listing.revision

lemma listingOf_revision {fault : Fault} {cluster : Cluster} {q : ApiRequest} {listing : Listing}
    (h : listingOf fault cluster q = some listing) : listing.revision = cluster.revision := by
  cases q with
  | listCrbs ns =>
      simp only [listingOf, Option.ite_none_right_eq_some, Option.some.injEq] at h
      rw [← h.2]
  | _ => cases h

/-- A listing that is made now is as young as the cluster. -/
lemma WillSee.call {revision : ℕ} {task : Task} {fault : Fault} {cluster : Cluster}
    {q : ApiRequest} (h : WillSee revision task) (hrevision : revision ≤ cluster.revision)
    (program : ApiProgram (Except Error Unit)) :
    WillSee revision
      { task with program := program, listed := (listingOf fault cluster q).or task.listed } := by
  intro listing hlisting
  rcases Option.or_eq_some_iff.mp hlisting with hnew | ⟨-, hlisted⟩
  · rwa [listingOf_revision hnew]
  · exact h listing hlisted

/-- The reconcile has listed at this revision or later. -/
def HasSeen (revision : ℕ) (a : Attempt) : Prop :=
  ∃ listing, a.listed = some listing ∧ revision ≤ listing.revision

/-- The reconcile that is going to list will see everything. -/
lemma WillList.covered (h : s.WillList key) (revision : ℕ) :
    Covered (WillSee revision) (HasSeen revision) s key := by
  rcases h with hwait | ⟨i, task, hi, htask, hlisted⟩
  · exact .inl hwait
  · refine .inr (.inl ⟨i, task, hi, htask, fun listing hlisting => ?_⟩)
    rw [hlisting] at hlisted
    cases hlisted

/-- The event has not been taken. -/
def Undelivered (s : Controller N) (key : Key) (n revision : ℕ) : Prop :=
  s.cursor ≤ n ∧ ∃ entry, s.cluster.log[n]? = some entry ∧ entry.byUser ∧
    entry.revision = revision ∧ watchKey entry.event = some key

/-! ### What a change does -/

section Change

variable {change : UserChange}

/-- The event of a change carries the key that the binding has after the change; after a deletion,
the key that it had. -/
lemma undelivered_of_change (hlog : s.LogInv) (h : step sha256 s (.change change) = some s')
    (hkey : keyOf s'.cluster change.key = some key ∨
      keyOf s'.cluster change.key = none ∧ keyOf s.cluster change.key = some key) :
    s'.Undelivered key s.cluster.log.length s'.cluster.revision := by
  obtain ⟨cluster, happly, rfl⟩ := step_change h
  obtain ⟨effect⟩ := UserChange.apply_eq_some happly
  refine ⟨hlog.cursor, ⟨effect.event, s.cluster.revision + 1, true⟩, ?_, rfl,
    effect.revision_eq.symm, ?_⟩
  · simp [effect.log_eq]
  · rw [effect.watchKey_eq]
    rcases effect.event_eq with ⟨-, c, hc, hspec⟩ | ⟨-, hgone, c, hc, hspec⟩ <;>
      simp_all [keyOf]

/-- A change that gives a binding another key is an edit of its specification. -/
lemma edit_of_keyOf {cluster cluster' : Cluster} (h : change.apply cluster = some cluster')
    {key' : Key} (hold : keyOf cluster change.key = some key)
    (hnew : keyOf cluster' change.key = some key') (hne : key' ≠ key) :
    ∃ spec, change = .edit change.key spec ∧
      spec.subject.serviceAccountName ≠ key.serviceAccountName := by
  obtain ⟨old, hold', rfl⟩ := Option.map_eq_some_iff.mp hold
  obtain ⟨c, hc, rfl⟩ := Option.map_eq_some_iff.mp hnew
  rcases change.stored_of_apply h hc with ⟨hcreate, -⟩ | ⟨hedit, -⟩
  · rw [hcreate] at h
    simp [UserChange.apply, hold'] at h
  · exact ⟨c.spec, hedit, fun heq => hne (congrArg (Key.mk change.key.ns) heq)⟩

/-- **A change is still to be taken, or a reconcile of its key is going to list.** -/
lemma undelivered_or_willList (hlog : s.LogInv) (htimely : Timely s (.change change))
    (h : step sha256 s (.change change) = some s')
    (hkey : keyOf s.cluster change.key = some key ∨ keyOf s'.cluster change.key = some key) :
    s'.Undelivered key s.cluster.log.length s'.cluster.revision ∨ s'.WillList key := by
  rcases hkey with hold | hnew
  · cases hnew : keyOf s'.cluster change.key with
    | none => exact .inl (undelivered_of_change hlog h (.inr ⟨hnew, hold⟩))
    | some key' =>
        by_cases hne : key' = key
        · exact .inl (undelivered_of_change hlog h (.inl (hne ▸ hnew)))
        · obtain ⟨cluster, happly, rfl⟩ := step_change h
          obtain ⟨spec, hedit, hmoves⟩ := edit_of_keyOf happly hold hnew hne
          rw [hedit] at htimely
          exact .inr (htimely key hold hmoves)
  · exact .inl (undelivered_of_change hlog h (.inl hnew))

end Change

/-- A longer run has one more change at most. -/
lemma changed_append {s₀ : Controller N} {ls : List (Label N)} {n revision : ℕ}
    (hrun : Transition.run (step sha256) s₀ ls = some s) (hstep : step sha256 s l = some s')
    (h : Changed sha256 s₀ (ls ++ [l]) key n revision) :
    Changed sha256 s₀ ls key n revision ∨
      ∃ change, l = .change change ∧
        (keyOf s.cluster change.key = some key ∨ keyOf s'.cluster change.key = some key) ∧
        n = s.cluster.log.length ∧ revision = s'.cluster.revision := by
  obtain ⟨earlier, change, later, t, t', hls, hearlier, hchange, hkey, hn, hrevision⟩ := h
  rcases List.eq_nil_or_concat later with rfl | ⟨later, l', rfl⟩
  · obtain ⟨rfl, hl⟩ := List.append_inj' hls rfl
    obtain rfl := List.singleton_inj.mp hl
    obtain rfl := Option.some.inj (hrun.symm.trans hearlier)
    obtain rfl := Option.some.inj (hstep.symm.trans hchange)
    exact .inr ⟨change, rfl, hkey, hn, hrevision⟩
  · have hls : ls ++ [l] = (earlier ++ .change change :: later) ++ [l'] := by simpa using hls
    obtain ⟨rfl, -⟩ := List.append_inj' hls rfl
    exact .inl ⟨earlier, change, later, t, t', rfl, hearlier, hchange, hkey, hn, hrevision⟩

/-! ### The invariant -/

/-- A reconcile starts with its `list`. -/
lemma reconcile_run (sha256 : String → String) (clock : ℕ → Time) (key : Key) :
    ∃ k, (reconcile sha256 clock key).run = .call (.listCrbs key.ns) k := ⟨_, rfl⟩

structure NoLostUpdate (sha256 : String → String) (s₀ : Controller N) (ls : List (Label N))
    (s : Controller N) : Prop where
  places : s.places.Inv
  log : s.LogInv
  /-- A task that has not listed has not done anything. -/
  started : ∀ i task, s.workers i = some task → task.listed = none →
    ∃ clock, task.program = (reconcile sha256 clock task.key).run
  /-- A change is covered, or its event is still to be taken. -/
  changes : ∀ key n revision, Changed sha256 s₀ ls key n revision →
    revision ≤ s.cluster.revision ∧
      (Covered (WillSee revision) (HasSeen revision) s key ∨ s.Undelivered key n revision)

lemma noLostUpdate_boot (sha256 : String → String) (capacity : ℕ) (cluster : Cluster) :
    NoLostUpdate sha256 (boot N capacity cluster) [] (boot N capacity cluster) where
  places := QueueSystem.inv_start capacity
  log := ⟨Nat.zero_le _, by simp [boot]⟩
  started := by simp [boot]
  changes := by
    rintro key n revision ⟨earlier, change, later, t, t', hls, -⟩
    simp at hls

/-- With every call served, a task that takes a step has listed. -/
lemma started_step (hstarted : ∀ i task, s.workers i = some task → task.listed = none →
      ∃ clock, task.program = (reconcile sha256 clock task.key).run)
    (hcalls : CallsSucceed s l) (h : step sha256 s l = some s') :
    ∀ i task, s'.workers i = some task → task.listed = none →
      ∃ clock, task.program = (reconcile sha256 clock task.key).run := by
  intro j task hj hlisted
  rcases workers_step h hj with ⟨clock, key, -, rfl⟩ |
    ⟨fault, task', q, k, hl, hi, hprogram, rfl, -⟩ | ⟨hj, -⟩
  · exact ⟨clock, rfl⟩
  · -- The task had not listed before, so this request was its `list`.
    obtain ⟨hlisting, hlisted⟩ := Option.or_eq_none_iff.mp hlisted
    obtain ⟨clock, hstart⟩ := hstarted j task' hi hlisted
    obtain ⟨k', hlist⟩ := reconcile_run sha256 clock task'.key
    rw [hprogram, hlist] at hstart
    obtain ⟨rfl, -⟩ := Program.call.inj hstart
    rw [hcalls j fault hl] at hlisting
    simp [listingOf] at hlisting
  · exact hstarted j task hj hlisted

section Step

variable {s₀ : Controller N} {ls : List (Label N)} {n revision : ℕ}

/-- A change that is covered stays covered. -/
lemma NoLostUpdate.covered_step (hs : NoLostUpdate sha256 s₀ ls s)
    (h : Controller.step sha256 s l = some s') (hrevision : revision ≤ s.cluster.revision)
    (hcovered : Covered (WillSee revision) (HasSeen revision) s key) :
    Covered (WillSee revision) (HasSeen revision) s' key := by
  refine hcovered.step hs.places h (fun _ _ hnone => nomatch hnone) ?_ ?_
  · intro i fault task q k _ _ _ _ hP
    exact hP.call hrevision _
  · intro i task result hi _ hprogram hP
    cases hlisted : task.listed with
    | none =>
        obtain ⟨clock, hstart⟩ := hs.started i task hi hlisted
        rw [hprogram] at hstart
        cases hstart
    | some listing => exact ⟨listing, hlisted, hP listing hlisted⟩

/-- A change whose event is taken in time is covered. -/
lemma NoLostUpdate.undelivered_step (hs : NoLostUpdate sha256 s₀ ls s) (htimely : Timely s l)
    (h : Controller.step sha256 s l = some s') (hlate : s.Undelivered key n revision) :
    Covered (WillSee revision) (HasSeen revision) s' key ∨ s'.Undelivered key n revision := by
  obtain ⟨hcursor, entry, hentry, huser, rfl, hkey⟩ := hlate
  have hentry' : s'.cluster.log[n]? = some entry := by
    obtain ⟨byUser, hgrows⟩ := logGrows_step h
    obtain ⟨new, hlog, -⟩ := hgrows.log
    rw [hlog, List.getElem?_append_left (List.getElem?_eq_some_iff.mp hentry).1, hentry]
  by_cases hn : n < s'.cursor
  · refine .inl (covered_taken hs.places h hn (not_lt.mpr hcursor) hentry' hkey ?_)
    rintro rfl hnext i task hi htask listing hlisting
    exact htimely entry hnext huser i task hi (htask ▸ hkey) listing hlisting
  · exact .inr ⟨not_lt.mp hn, entry, hentry', huser, rfl, hkey⟩

/-- **Every timely step keeps every change covered.** -/
lemma NoLostUpdate.step (hs : NoLostUpdate sha256 s₀ ls s)
    (hrun : Transition.run (Controller.step sha256) s₀ ls = some s)
    (hcalls : CallsSucceed s l) (htimely : Timely s l)
    (h : Controller.step sha256 s l = some s') : NoLostUpdate sha256 s₀ (ls ++ [l]) s' := by
  refine ⟨inv_places_step hs.places h, hs.log.step h, started_step hs.started hcalls h, ?_⟩
  intro key n revision hchanged
  rcases changed_append hrun h hchanged with hold | ⟨change, rfl, hkey, rfl, rfl⟩
  · obtain ⟨hrevision, hcase⟩ := hs.changes key n revision hold
    obtain ⟨byUser, hgrows⟩ := logGrows_step h
    refine ⟨hrevision.trans hgrows.revision, ?_⟩
    rcases hcase with hcovered | hlate
    · exact .inl (hs.covered_step h hrevision hcovered)
    · exact hs.undelivered_step htimely h hlate
  · refine ⟨le_rfl, ?_⟩
    rcases undelivered_or_willList hs.log htimely h hkey with hlate | hlist
    · exact .inr hlate
    · exact .inl (hlist.covered _)

end Step

/-- The invariant holds along every guarded run. -/
lemma noLostUpdate_of_run {capacity : ℕ} {cluster : Cluster} {ls : List (Label N)}
    (hguard : Transition.Guarded (step sha256) (fun s l => CallsSucceed s l ∧ Timely s l)
      (boot N capacity cluster) ls)
    (hrun : Transition.run (step sha256) (boot N capacity cluster) ls = some s) :
    NoLostUpdate sha256 (boot N capacity cluster) ls s := by
  refine Transition.guarded_history hguard hrun (noLostUpdate_boot sha256 capacity cluster) ?_
  intro ls s l s' hrun hs hl hstep
  exact hs.step hrun hl.1 hl.2 hstep

/-- **No lost update.**  Take any run in which every API call is served, no event of a user's
change is taken while its key is held with an older listing, and no binding is moved away from a
key for which no list is to come.  In a quiescent state, once the events of all changes to bindings
of a key have been taken, the last reconcile of the key listed the bindings after every one of these
changes. -/
theorem no_lost_update (sha256 : String → String) {capacity : ℕ} {cluster : Cluster}
    {ls : List (Label N)}
    (hguard : Transition.Guarded (step sha256) (fun s l => CallsSucceed s l ∧ Timely s l)
      (boot N capacity cluster) ls)
    (hrun : Transition.run (step sha256) (boot N capacity cluster) ls = some s)
    (hquiet : s.Quiescent) {key : Key}
    (hdelivered : ∀ n revision, Changed sha256 (boot N capacity cluster) ls key n revision →
      n < s.cursor) :
    ∀ n revision, Changed sha256 (boot N capacity cluster) ls key n revision →
      ∃ a listing, s.lastAttempt key = some a ∧ a.listed = some listing ∧
        revision ≤ listing.revision := by
  intro n revision hchanged
  rcases ((noLostUpdate_of_run hguard hrun).changes key n revision hchanged).2 with
    hcovered | ⟨hlate, -⟩
  · obtain ⟨a, hlast, listing, hlisted, hle⟩ := hcovered.of_quiescent hquiet
    exact ⟨a, listing, hlast, hlisted, hle⟩
  · exact absurd (hdelivered n revision hchanged) (not_lt.mpr hlate)

/-! ### A binding that is moved in time, and changes that are lost -/

instance (s : Controller N) (key : Key) : Decidable (s.WillList key) :=
  inferInstanceAs (Decidable (_ ∨ ∃ i, ∃ task ∈ s.workers i, task.key = key ∧ task.listed.isNone))

instance (s : Controller N) : ∀ l, Decidable (s.CallsSucceed l)
  | .call i fault => decidable_of_iff (fault = .none)
      ⟨fun h _ _ heq => (Label.call.inj heq).2 ▸ h, fun h => h i fault rfl⟩
  | .change _ | .deliver | .send _ | .recv .. | .done _ => .isTrue fun _ _ => nofun

instance (s : Controller N) : ∀ l, Decidable (s.Timely l)
  | .deliver => inferInstanceAs (Decidable (∀ entry ∈ s.cluster.log[s.cursor]?, entry.byUser →
      ∀ i, ∀ task ∈ s.workers i, watchKey entry.event = some task.key →
        ∀ listing ∈ task.listed, entry.revision ≤ listing.revision))
  | .change (.edit k spec) => inferInstanceAs (Decidable (∀ key ∈ keyOf s.cluster k,
      spec.subject.serviceAccountName ≠ key.serviceAccountName → s.WillList key))
  | .change (.create ..) | .change (.delete _) | .send _ | .recv .. | .call .. | .done _ =>
      .isTrue trivial

/-- What a run has come to: whether something waits, whether the only worker is free, how many
events were taken, and what is known of each event and each reconcile. -/
structure Summary where
  sending : List Key
  channel : List Key
  free : Bool
  cursor : ℕ
  log : List (ℕ × Bool × Option Key)
  attempts : List (Key × Option ℕ × Bool)
  deriving DecidableEq

def summary (s : Controller 1) : Summary where
  sending := s.queue.sending
  channel := s.queue.channel
  free := (s.workers 0).isNone
  cursor := s.cursor
  log := s.cluster.log.map fun e => (e.revision, e.byUser, watchKey e.event)
  attempts := s.attempts.map fun a => (a.key, a.listed.map Listing.revision, a.result.isOk)

lemma quiescent_of_summary {s : Controller 1} (hsending : (summary s).sending = [])
    (hchannel : (summary s).channel = []) (hfree : (summary s).free = true) : s.Quiescent := by
  refine ⟨hsending, hchannel, fun i => ?_⟩
  obtain rfl : i = 0 := Subsingleton.elim i 0
  exact Option.isNone_iff_eq_none.mp hfree

/-- Nothing is left to do: the state is quiescent, and all events were taken. -/
def idle (s : Controller 1) : Bool :=
  (summary s).sending.isEmpty && (summary s).channel.isEmpty && (summary s).free &&
    s.cursor = s.cluster.log.length

lemma quiescent_of_idle {s : Controller 1} (h : idle s = true) :
    s.Quiescent ∧ s.cursor = s.cluster.log.length := by
  simp only [idle, Bool.and_eq_true, List.isEmpty_iff, decide_eq_true_eq] at h
  obtain ⟨⟨⟨hsending, hchannel⟩, hfree⟩, hcursor⟩ := h
  exact ⟨quiescent_of_summary hsending hchannel hfree, hcursor⟩

/-- The revisions at which the reconciles of the key have listed. -/
def listedAt (s : Controller N) (key : Key) : Option (Option ℕ) :=
  (s.lastAttempt key).map fun a => a.listed.map Listing.revision

/-- A change of a computed run. -/
lemma changed_of_run {s₀ : Controller N} {earlier later : List (Label N)} {change : UserChange}
    {n revision : ℕ}
    (hbefore : (Transition.run (step sha256) s₀ earlier).map (fun t =>
      (keyOf t.cluster change.key, t.cluster.log.length)) = some (some key, n))
    (hafter : (Transition.run (step sha256) s₀ (earlier ++ [.change change])).map
      (fun t => t.cluster.revision) = some revision) :
    Changed sha256 s₀ (earlier ++ .change change :: later) key n revision := by
  obtain ⟨t, ht, hfacts⟩ := Option.map_eq_some_iff.mp hbefore
  obtain ⟨hkey, rfl⟩ := Prod.mk.inj hfacts
  obtain ⟨t', ht', rfl⟩ := Option.map_eq_some_iff.mp hafter
  rw [Transition.run_append, ht, Option.bind_some] at ht'
  obtain ⟨t'', hstep, hrest⟩ := Option.bind_eq_some_iff.mp ht'
  obtain rfl := Option.some.inj hrest
  exact ⟨earlier, change, later, t, t'', rfl, ht, hstep, .inl hkey, rfl, rfl⟩

/-- The event of a change is in the log. -/
lemma Changed.lt_length {s₀ : Controller N} {ls : List (Label N)} {n revision : ℕ}
    (h : Changed sha256 s₀ ls key n revision)
    (hrun : Transition.run (step sha256) s₀ ls = some s) : n < s.cluster.log.length := by
  obtain ⟨earlier, change, later, t, t', rfl, hearlier, hchange, -, rfl, -⟩ := h
  rw [Transition.run_append, hearlier, Option.bind_some] at hrun
  obtain ⟨t'', hstep, hlater⟩ := Option.bind_eq_some_iff.mp hrun
  obtain rfl := Option.some.inj (hchange.symm.trans hstep)
  have hgrows : ∀ (s₁ : Controller N) l s₂, step sha256 s₁ l = some s₂ →
      s₁.cluster.log.length ≤ s₂.cluster.log.length := by
    intro s₁ l s₂ h
    obtain ⟨byUser, hgrows⟩ := logGrows_step h
    obtain ⟨new, hlog, -⟩ := hgrows.log
    simp [hlog]
  have hle : t'.cluster.log.length ≤ s.cluster.log.length :=
    Transition.run_preorder (fun s₁ s₂ : Controller N =>
      s₁.cluster.log.length ≤ s₂.cluster.log.length) (fun _ => le_rfl)
      (fun _ _ _ => le_trans) hgrows hlater
  obtain ⟨cluster, happly, rfl⟩ := step_change hchange
  obtain ⟨effect⟩ := UserChange.apply_eq_some happly
  simp only [effect.log_eq, List.length_append, List.length_singleton] at hle
  omega

/-- The webhook starts in an empty cluster, with one worker. -/
def oneWorker : Controller 1 := boot 1 2048 (Cluster.empty fun _ => none)

/-- The watch is set up, and a binding for `web` is created. -/
def createdBinding : List (Label 1) :=
  [.deliver, .deliver,
   .change (.create ⟨"apps", "role"⟩ (roleBinding "web" "arn:aws:iam::123456789012:role/web")),
   .deliver]

/-- The binding is given to `api`. -/
def moved : Label 1 :=
  .change (.edit ⟨"apps", "role"⟩ (roleBinding "api" "arn:aws:iam::123456789012:role/web"))

/-- The worker receives the key and reconciles it; its requests meet the faults. -/
def attempted (key : Key) (faults : List Fault) : List (Label 1) :=
  [.send key, .recv 0 fun _ => 0] ++ faults.map (.call 0 ·) ++ [.done 0]

/-- The worker receives the key and reconciles it; the event of the status that it writes is taken
meanwhile, and dropped. -/
def reconciled (key : Key) : List (Label 1) :=
  [.send key, .recv 0 fun _ => 0, .call 0 .none, .call 0 .none, .deliver, .call 0 .none,
   .call 0 .none, .done 0]

/-- The binding is moved while its key waits: the reconcile of `web` lists after that. -/
def movedInTime : List (Label 1) :=
  (createdBinding ++ [.send ⟨"apps", "web"⟩]) ++ moved ::
    ([.recv 0 fun _ => 0, .call 0 .none, .call 0 .none, .call 0 .none, .deliver, .done 0] ++
      reconciled ⟨"apps", "api"⟩)

/-- The last reconcile of `web` has listed after the binding was moved away from it. -/
theorem no_lost_update_moved :
    ∃ s, Transition.run (step webDigest) oneWorker movedInTime = some s ∧ s.Quiescent ∧
      Changed webDigest oneWorker movedInTime ⟨"apps", "web"⟩ 3 2 ∧
      ∀ n revision, Changed webDigest oneWorker movedInTime ⟨"apps", "web"⟩ n revision →
        ∃ a listing, s.lastAttempt ⟨"apps", "web"⟩ = some a ∧ a.listed = some listing ∧
          revision ≤ listing.revision := by
  obtain ⟨s, hrun, hidle⟩ : ∃ s, Transition.run (step webDigest) oneWorker movedInTime = some s ∧
      idle s = true := Option.map_eq_some_iff.mp (by decide)
  obtain ⟨hquiet, hcursor⟩ := quiescent_of_idle hidle
  have hchanged : Changed webDigest oneWorker movedInTime ⟨"apps", "web"⟩ 3 2 :=
    changed_of_run (by decide) (by decide)
  refine ⟨s, hrun, hquiet, hchanged, no_lost_update webDigest (by decide) hrun hquiet ?_⟩
  intro n revision hchanged
  exact hcursor ▸ hchanged.lt_length hrun

/-- The binding is deleted after the worker has listed it and written its status; the worker
still holds the key when the event of the deletion is taken. -/
def lostDeletion : List (Label 1) :=
  (createdBinding ++ [.send ⟨"apps", "web"⟩, .recv 0 fun _ => 0, .call 0 .none, .call 0 .none]) ++
    .change (.delete ⟨"apps", "role"⟩) ::
      [.deliver, .deliver, .call 0 .none, .call 0 .none, .done 0]

/-- The binding is moved after `web` has been reconciled. -/
def lostMove : List (Label 1) :=
  (createdBinding ++ reconciled ⟨"apps", "web"⟩) ++ moved ::
    .deliver :: reconciled ⟨"apps", "api"⟩

/-- **A deletion that is lost**: its event is dropped while the worker that has listed the
binding before still holds the key.  Nobody reconciles the key again, and its resolved binding
still grants the role. -/
theorem deletion_lost :
    Transition.Guarded (step webDigest) CallsSucceed oneWorker lostDeletion ∧
    ∃ s, Transition.run (step webDigest) oneWorker lostDeletion = some s ∧
      s.Quiescent ∧ s.cursor = s.cluster.log.length ∧
      (∃ n revision, Changed webDigest oneWorker lostDeletion ⟨"apps", "web"⟩ n revision ∧
        ∀ a listing, s.lastAttempt ⟨"apps", "web"⟩ = some a → a.listed = some listing →
          listing.revision < revision) ∧
      s.cluster.bindings = [] ∧
      grantedRole s.cluster ⟨"apps", "web"⟩ = some "arn:aws:iam::123456789012:role/web" := by
  obtain ⟨s, hrun, hfacts⟩ : ∃ s, Transition.run (step webDigest) oneWorker lostDeletion = some s ∧
      (idle s, listedAt s ⟨"apps", "web"⟩, s.cluster.bindings.isEmpty,
        grantedRole s.cluster ⟨"apps", "web"⟩) =
        (true, some (some 1), true, some "arn:aws:iam::123456789012:role/web") :=
    Option.map_eq_some_iff.mp (by decide)
  obtain ⟨hidle, hlisted, hbindings, hrole⟩ : _ ∧ _ ∧ _ ∧ _ := by
    simpa only [Prod.mk.injEq] using hfacts
  obtain ⟨hquiet, hcursor⟩ := quiescent_of_idle hidle
  refine ⟨by decide, s, hrun, hquiet, hcursor,
    ⟨4, 3, changed_of_run (by decide) (by decide), fun a listing ha hlisting => ?_⟩,
    List.isEmpty_iff.mp hbindings, hrole⟩
  simp [listedAt, ha, hlisting] at hlisted
  omega

/-- **A move that is lost**: the event names the new key only.  Nobody reconciles the old one again,
and its resolved binding still grants the role. -/
theorem move_lost :
    Transition.Guarded (step webDigest) CallsSucceed oneWorker lostMove ∧
    ∃ s, Transition.run (step webDigest) oneWorker lostMove = some s ∧
      s.Quiescent ∧ s.cursor = s.cluster.log.length ∧
      (∃ n revision, Changed webDigest oneWorker lostMove ⟨"apps", "web"⟩ n revision ∧
        ∀ a listing, s.lastAttempt ⟨"apps", "web"⟩ = some a → a.listed = some listing →
          listing.revision < revision) ∧
      keyOf s.cluster ⟨"apps", "role"⟩ = some ⟨"apps", "api"⟩ ∧
      grantedRole s.cluster ⟨"apps", "web"⟩ = some "arn:aws:iam::123456789012:role/web" := by
  obtain ⟨s, hrun, hfacts⟩ : ∃ s, Transition.run (step webDigest) oneWorker lostMove = some s ∧
      (idle s, listedAt s ⟨"apps", "web"⟩, keyOf s.cluster ⟨"apps", "role"⟩,
        grantedRole s.cluster ⟨"apps", "web"⟩) =
        (true, some (some 1), some ⟨"apps", "api"⟩, some "arn:aws:iam::123456789012:role/web") :=
    Option.map_eq_some_iff.mp (by decide)
  obtain ⟨hidle, hlisted, hkey, hrole⟩ : _ ∧ _ ∧ _ ∧ _ := by
    simpa only [Prod.mk.injEq] using hfacts
  obtain ⟨hquiet, hcursor⟩ := quiescent_of_idle hidle
  refine ⟨by decide, s, hrun, hquiet, hcursor,
    ⟨4, 5, changed_of_run (by decide) (by decide), fun a listing ha hlisting => ?_⟩, hkey, hrole⟩
  simp [listedAt, ha, hlisting] at hlisted
  omega

end Controller

end IdentityFederation
