import Mathlib.Logic.Function.Basic
import IdentityFederation.Webhook.Queue

/-!
# The tasks around the queue, with their locks

`enqueue`, `done` and the loop of `run_workers`, cut at every point where a task can be suspended:
while it waits for a lock, while it holds one, while it waits for room in the channel or for a
key.  Any number of calls of `enqueue` are under way, by their index `ε`; the watcher makes one
call at a time.  The workers are indexed by `ι`.

The set of keys in flight is behind one lock, which callers and workers take; the receiver is
behind another one, which a worker keeps until `recv` has returned.  The channel stays open: the
tasks themselves hold both of its ends.
-/

namespace IdentityFederation

/-- Where a call of `enqueue` is. -/
inductive CallerPc where
  | idle
  /-- In `in_flight.lock().await`. -/
  | locking (key : Key)
  | locked (key : Key)
  /-- In `tx.send(key).await`, outside the lock. -/
  | sending (key : Key)
  deriving DecidableEq

/-- The call holds the lock. -/
def CallerPc.isLocked : CallerPc → Bool
  | .locked _ => true
  | _ => false

/-- Where a worker is. -/
inductive WorkerPc where
  /-- In `rx.lock().await`. -/
  | waiting
  /-- In `guard.recv().await`. -/
  | receiving
  | reconciling (key : Key)
  /-- In `done`, in `in_flight.lock().await`. -/
  | locking (key : Key)
  | locked (key : Key)
  deriving DecidableEq

/-- The key a worker holds. -/
def WorkerPc.key : WorkerPc → Option Key
  | .waiting | .receiving => none
  | .reconciling key | .locking key | .locked key => some key

/-- The worker holds the lock of `in_flight`. -/
def WorkerPc.isLocked : WorkerPc → Bool
  | .locked _ => true
  | _ => false

structure Tasks (ε ι : Type) where
  queue : Queue
  /-- Who holds the lock of `in_flight`. -/
  setLock : Option (ε ⊕ ι)
  /-- Who holds the lock of the receiver. -/
  rxLock : Option ι
  caller : ε → CallerPc
  worker : ι → WorkerPc

inductive TaskLabel (ε ι : Type) where
  /-- A new event: `enqueue` is called. -/
  | call (e : ε) (key : Key)
  /-- A call goes on. -/
  | caller (e : ε)
  /-- A worker goes on. -/
  | worker (i : ι)
  /-- `reconcile` returns; an error is logged and nothing else. -/
  | reconciled (i : ι) (ok : Bool)

namespace Tasks

variable {ε ι : Type}

/-- Nothing is in the queue, and every worker is about to wait for a key. -/
def start (buffer : ℕ) : Tasks ε ι where
  queue := Queue.new buffer
  setLock := none
  rxLock := none
  caller := fun _ => .idle
  worker := fun _ => .waiting

/-! ## A call of `enqueue` -/

section Caller

variable [DecidableEq ε]

def setCaller (s : Tasks ε ι) (e : ε) (pc : CallerPc) : Tasks ε ι :=
  { s with caller := Function.update s.caller e pc }

/-- A call of `enqueue` goes on. -/
def stepCaller (s : Tasks ε ι) (e : ε) : Option (Tasks ε ι) :=
  match s.caller e with
  | .idle => none
  | .locking key =>
      if s.setLock = none then
        some { s.setCaller e (.locked key) with setLock := some (.inl e) }
      else none
  | .locked key =>
      -- A key that is in flight is dropped; either way the lock is released.
      some { s.setCaller e (if key ∈ s.queue.inFlight then .idle else .sending key) with
        queue := s.queue.enqueue key
        setLock := none }
  | .sending key =>
      (s.queue.send key).map fun queue => { s.setCaller e .idle with queue := queue }

/-- Everything that a step of a call can do. -/
lemma stepCaller_eq_some {s s' : Tasks ε ι} {e : ε} (h : s.stepCaller e = some s') :
    (∃ key, s.caller e = .locking key ∧ s.setLock = none ∧
      s' = { s.setCaller e (.locked key) with setLock := some (.inl e) }) ∨
    (∃ key, s.caller e = .locked key ∧
      s' = { s.setCaller e (if key ∈ s.queue.inFlight then .idle else .sending key) with
        queue := s.queue.enqueue key
        setLock := none }) ∨
    (∃ key queue, s.caller e = .sending key ∧ s.queue.send key = some queue ∧
      s' = { s.setCaller e .idle with queue := queue }) := by
  unfold stepCaller at h
  split at h
  · cases h
  · rename_i key hpc
    split at h
    · rename_i hfree
      exact .inl ⟨key, hpc, hfree, (Option.some.inj h).symm⟩
    · cases h
  · rename_i key hpc
    exact .inr (.inl ⟨key, hpc, (Option.some.inj h).symm⟩)
  · rename_i key hpc
    obtain ⟨queue, hsend, rfl⟩ := Option.map_eq_some_iff.mp h
    exact .inr (.inr ⟨key, queue, hpc, hsend, rfl⟩)

end Caller

/-! ## A worker -/

section Worker

variable [DecidableEq ι]

def setWorker (s : Tasks ε ι) (i : ι) (pc : WorkerPc) : Tasks ε ι :=
  { s with worker := Function.update s.worker i pc }

/-- A worker goes on. -/
def stepWorker (s : Tasks ε ι) (i : ι) : Option (Tasks ε ι) :=
  match s.worker i with
  | .waiting =>
      if s.rxLock = none then some { s.setWorker i .receiving with rxLock := some i } else none
  | .receiving =>
      s.queue.recv.map fun (key, queue) =>
        { s.setWorker i (.reconciling key) with queue := queue, rxLock := none }
  | .reconciling _ => none
  | .locking key =>
      if s.setLock = none then
        some { s.setWorker i (.locked key) with setLock := some (.inr i) }
      else none
  | .locked key =>
      some { s.setWorker i .waiting with queue := s.queue.done key, setLock := none }

/-- Everything that a step of a worker can do. -/
lemma stepWorker_eq_some {s s' : Tasks ε ι} {i : ι} (h : s.stepWorker i = some s') :
    (s.worker i = .waiting ∧ s.rxLock = none ∧
      s' = { s.setWorker i .receiving with rxLock := some i }) ∨
    (∃ key queue, s.worker i = .receiving ∧ s.queue.recv = some (key, queue) ∧
      s' = { s.setWorker i (.reconciling key) with queue := queue, rxLock := none }) ∨
    (∃ key, s.worker i = .locking key ∧ s.setLock = none ∧
      s' = { s.setWorker i (.locked key) with setLock := some (.inr i) }) ∨
    (∃ key, s.worker i = .locked key ∧
      s' = { s.setWorker i .waiting with queue := s.queue.done key, setLock := none }) := by
  unfold stepWorker at h
  split at h
  · rename_i hpc
    split at h
    · rename_i hfree
      exact .inl ⟨hpc, hfree, (Option.some.inj h).symm⟩
    · cases h
  · rename_i hpc
    obtain ⟨⟨key, queue⟩, hrecv, rfl⟩ := Option.map_eq_some_iff.mp h
    exact .inr (.inl ⟨key, queue, hpc, hrecv, rfl⟩)
  · cases h
  · rename_i key hpc
    split at h
    · rename_i hfree
      exact .inr (.inr (.inl ⟨key, hpc, hfree, (Option.some.inj h).symm⟩))
    · cases h
  · rename_i key hpc
    exact .inr (.inr (.inr ⟨key, hpc, (Option.some.inj h).symm⟩))

end Worker

/-! ## The whole system -/

variable [DecidableEq ε] [DecidableEq ι]

def step (s : Tasks ε ι) : TaskLabel ε ι → Option (Tasks ε ι)
  | .call e key =>
      match s.caller e with
      | .idle => some (s.setCaller e (.locking key))
      | _ => none
  | .caller e => s.stepCaller e
  | .worker i => s.stepWorker i
  | .reconciled i _ =>
      match s.worker i with
      | .reconciling key => some (s.setWorker i (.locking key))
      | _ => none

lemma step_call_eq_some {s s' : Tasks ε ι} {e : ε} {key : Key}
    (h : s.step (.call e key) = some s') :
    s.caller e = .idle ∧ s' = s.setCaller e (.locking key) := by
  simp only [step] at h
  split at h
  · rename_i hpc
    exact ⟨hpc, (Option.some.inj h).symm⟩
  · cases h

lemma step_reconciled_eq_some {s s' : Tasks ε ι} {i : ι} {ok : Bool}
    (h : s.step (.reconciled i ok) = some s') :
    ∃ key, s.worker i = .reconciling key ∧ s' = s.setWorker i (.locking key) := by
  simp only [step] at h
  split at h
  · rename_i key hpc
    exact ⟨key, hpc, (Option.some.inj h).symm⟩
  · cases h

end Tasks

end IdentityFederation
