import Mathlib.Data.Fin.Basic
import Mathlib.Tactic.Common
import IdentityFederation.Webhook.Reconcile

/-!
# The controller (`watch_cloud_role_bindings` and `run_workers`)

One watcher and `N` workers around the queue, on the cluster that users change meanwhile.  The
steps are those of the Rust tasks between two suspension points:

* `deliver`: the watcher takes the next event and calls `enqueue`; it takes no other event until
  the `enqueue` has returned;
* `send`: the `enqueue` returns because there is room in the channel;
* `recv`: a free worker takes a key and starts its reconcile;
* `call`: a worker's next request is served, or fails;
* `done`: a worker whose reconcile has returned, with `Ok` or with an error that it logs, takes
  the key out of the set.

The events come from the log of the cluster.  A worker's `begun` and `listed`, and the list of
`attempts`, record what happened for statements about runs; no step reads them.
-/

namespace IdentityFederation

open Interaction

/-- What a `list` call returned, and the revision of the cluster when it was served. -/
structure Listing where
  revision : ℕ
  bindings : List CloudRoleBinding

/-- A key that a worker holds, with the reconcile it is running. -/
structure Task where
  key : Key
  program : ApiProgram (Except Error Unit)
  /-- The number of events the watcher had taken when the worker received the key. -/
  begun : ℕ
  /-- What the reconcile has listed. -/
  listed : Option Listing

/-- A reconcile that has returned. -/
structure Attempt where
  key : Key
  begun : ℕ
  listed : Option Listing
  result : Except Error Unit

/-- What is recorded of a task that has returned. -/
def Task.attempt (task : Task) (result : Except Error Unit) : Attempt where
  key := task.key
  begun := task.begun
  listed := task.listed
  result := result

structure Controller (N : ℕ) where
  cluster : Cluster
  /-- The number of events the watcher has taken from the log. -/
  cursor : ℕ
  queue : Queue
  workers : Fin N → Option Task
  /-- The reconciles that have returned, in this order. -/
  attempts : List Attempt

inductive Label (N : ℕ) where
  | change (change : UserChange)
  | deliver
  | send (key : Key)
  | recv (i : Fin N) (clock : ℕ → Time)
  | call (i : Fin N) (fault : Fault)
  | done (i : Fin N)

/-- The listing that a request produces, when it is a `list` that is answered. -/
def listingOf (fault : Fault) (s : Cluster) : ApiRequest → Option Listing
  | .listCrbs ns =>
      if fault = .none then some { revision := s.revision, bindings := s.list ns } else none
  | _ => none

namespace Controller

variable {N : ℕ}

/-- The webhook starts: the watch begins with the objects that exist. -/
def boot (N capacity : ℕ) (cluster : Cluster) : Controller N where
  cluster :=
    { cluster with
      log := cluster.initialEvents.map fun event => ⟨event, cluster.revision, false⟩ }
  cursor := 0
  queue := Queue.new capacity
  workers := fun _ => none
  attempts := []

def setWorker (s : Controller N) (i : Fin N) (task : Option Task) : Controller N :=
  { s with workers := Function.update s.workers i task }

/-- The watcher takes one event. -/
def deliver (s : Controller N) : Option (Controller N) :=
  if s.queue.sending ≠ [] then none
  else
    match s.cluster.log[s.cursor]? with
    | none => none
    | some entry =>
        let s := { s with cursor := s.cursor + 1 }
        match watchKey entry.event with
        | none => some s
        | some key => some { s with queue := s.queue.enqueue key }

/-- A free worker receives a key. -/
def recv (sha256 : String → String) (s : Controller N) (i : Fin N) (clock : ℕ → Time) :
    Option (Controller N) :=
  match s.workers i, s.queue.recv with
  | none, some (key, queue) =>
      some ({ s with queue := queue }.setWorker i
        (some
          { key := key, program := (reconcile sha256 clock key).run, begun := s.cursor,
            listed := none }))
  | _, _ => none

/-- The next request of a worker. -/
def call (s : Controller N) (i : Fin N) (fault : Fault) : Option (Controller N) :=
  match s.workers i with
  | none => none
  | some task =>
      match task.program with
      | .ret _ => none
      | .call q k =>
          let served := Cluster.serveWith fault s.cluster q
          some ({ s with cluster := served.2 }.setWorker i
            (some
              { task with
                program := k served.1
                listed := (listingOf fault s.cluster q).or task.listed }))

/-- A worker is done with its key. -/
def done (s : Controller N) (i : Fin N) : Option (Controller N) :=
  match s.workers i with
  | none => none
  | some task =>
      match task.program with
      | .call .. => none
      | .ret result =>
          some ({ s with
            queue := s.queue.done task.key
            attempts := s.attempts ++ [task.attempt result] }.setWorker i none)

def step (sha256 : String → String) (s : Controller N) : Label N → Option (Controller N)
  | .change change => (change.apply s.cluster).map fun cluster => { s with cluster := cluster }
  | .deliver => s.deliver
  | .send key => (s.queue.send key).map fun queue => { s with queue := queue }
  | .recv i clock => s.recv sha256 i clock
  | .call i fault => s.call i fault
  | .done i => s.done i

/-- No `enqueue` is pending, the channel is empty and no worker holds a key. -/
def Quiescent (s : Controller N) : Prop :=
  s.queue.sending = [] ∧ s.queue.channel = [] ∧ ∀ i, s.workers i = none

/-- The last reconcile of a key that has returned. -/
def lastAttempt (s : Controller N) (key : Key) : Option Attempt :=
  (s.attempts.filter fun a => a.key = key).getLast?

/-! ## What each step does -/

section Inversion

variable {sha256 : String → String} {s s' : Controller N} {i : Fin N}

@[simp] lemma workers_setWorker (s : Controller N) (i : Fin N) (task : Option Task) :
    (s.setWorker i task).workers = Function.update s.workers i task := rfl

lemma step_change {change : UserChange} (h : step sha256 s (.change change) = some s') :
    ∃ cluster, change.apply s.cluster = some cluster ∧ s' = { s with cluster := cluster } := by
  obtain ⟨cluster, happly, rfl⟩ := Option.map_eq_some_iff.mp h
  exact ⟨cluster, happly, rfl⟩

lemma step_deliver (h : step sha256 s .deliver = some s') :
    s.queue.sending = [] ∧ ∃ entry, s.cluster.log[s.cursor]? = some entry ∧
      ((watchKey entry.event = none ∧ s' = { s with cursor := s.cursor + 1 }) ∨
      ∃ key, watchKey entry.event = some key ∧
        s' = { s with cursor := s.cursor + 1, queue := s.queue.enqueue key }) := by
  simp only [step, deliver] at h
  split at h
  · cases h
  rename_i hsending
  split at h
  · cases h
  rename_i entry hentry
  refine ⟨not_not.mp hsending, entry, hentry, ?_⟩
  split at h
  · exact .inl ⟨‹_›, (Option.some.inj h).symm⟩
  · exact .inr ⟨_, ‹_›, (Option.some.inj h).symm⟩

lemma step_send {key : Key} (h : step sha256 s (.send key) = some s') :
    ∃ queue, s.queue.send key = some queue ∧ s' = { s with queue := queue } := by
  obtain ⟨queue, hsend, rfl⟩ := Option.map_eq_some_iff.mp h
  exact ⟨queue, hsend, rfl⟩

lemma step_recv {clock : ℕ → Time} (h : step sha256 s (.recv i clock) = some s') :
    s.workers i = none ∧ ∃ key queue, s.queue.recv = some (key, queue) ∧
      s' = { s with queue := queue }.setWorker i
        (some
          { key := key, program := (reconcile sha256 clock key).run, begun := s.cursor,
            listed := none }) := by
  simp only [step, recv] at h
  split at h
  · rename_i key queue hi hrecv
    exact ⟨hi, key, queue, hrecv, (Option.some.inj h).symm⟩
  · cases h

lemma step_call {fault : Fault} (h : step sha256 s (.call i fault) = some s') :
    ∃ task q k, s.workers i = some task ∧ task.program = .call q k ∧
      s' = { s with cluster := (Cluster.serveWith fault s.cluster q).2 }.setWorker i
        (some
          { task with
            program := k (Cluster.serveWith fault s.cluster q).1
            listed := (listingOf fault s.cluster q).or task.listed }) := by
  simp only [step, call] at h
  split at h
  · cases h
  rename_i task hi
  split at h
  · cases h
  · rename_i q k hprogram
    exact ⟨task, q, k, hi, hprogram, (Option.some.inj h).symm⟩

lemma step_done (h : step sha256 s (.done i) = some s') :
    ∃ task result, s.workers i = some task ∧ task.program = .ret result ∧
      s' = { s with
        queue := s.queue.done task.key
        attempts := s.attempts ++ [task.attempt result] }.setWorker i none := by
  simp only [step, done] at h
  split at h
  · cases h
  rename_i task hi
  split at h
  · cases h
  · rename_i result hprogram
    exact ⟨task, result, hi, hprogram, (Option.some.inj h).symm⟩

end Inversion

/-! ## `startupz` (`http.rs`) -/

def isInitDone : Event → Bool
  | .initDone => true
  | _ => false

/-- The flag that the watcher sets when it takes `InitDone`. -/
def ready (s : Controller N) : Bool :=
  (s.cluster.log.take s.cursor).any fun entry => isInitDone entry.event

def startupz (s : Controller N) : ℕ := if s.ready then 200 else 503

end Controller

end IdentityFederation
