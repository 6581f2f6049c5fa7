import IdentityFederation.Framework.Lock
import IdentityFederation.Framework.Transition
import IdentityFederation.Properties.WorkQueue
import IdentityFederation.Webhook.Tasks

/-!
# The queue under its locks

The tasks of `Webhook.Tasks` take many small steps where `QueueSystem` takes one.  Forgetting the
locks and the places in the code turns a run of the tasks into a run of that system (`simulates`),
so its invariant holds of the tasks, and every key in flight is in one place (`keys_in_one_place`).

That nobody waits for ever is a matter of the locks: whoever holds the lock of the set can go on
at once, and whoever holds the lock of the receiver waits for a key only while the channel is
empty, when a pending `send` has room (`never_deadlocks`).
-/

namespace IdentityFederation

namespace Tasks

variable {ε ι : Type}

/-! ## The tasks run the queue system -/

/-- The tasks without locks and places in the code. -/
def toQueueSystem (s : Tasks ε ι) : QueueSystem ι where
  queue := s.queue
  held := fun i => (s.worker i).key

lemma toQueueSystem_start (buffer : ℕ) :
    (start buffer : Tasks ε ι).toQueueSystem = QueueSystem.start buffer := rfl

/-- What a worker holds after its place has changed. -/
lemma held_update [DecidableEq ι] (worker : ι → WorkerPc) (i : ι) (pc : WorkerPc) :
    (fun j => (Function.update worker i pc j).key) =
      Function.update (fun j => (worker j).key) i pc.key :=
  Function.comp_update WorkerPc.key worker i pc

/-- A worker that goes on without taking or leaving a key. -/
lemma toQueueSystem_setWorker [DecidableEq ι] (s : Tasks ε ι) (i : ι) (pc : WorkerPc)
    (h : (s.worker i).key = pc.key) : (s.setWorker i pc).toQueueSystem = s.toQueueSystem := by
  have hheld : Function.update (fun j => (s.worker j).key) i pc.key = fun j => (s.worker j).key := by
    rw [← h]
    exact Function.update_eq_self i fun j => (s.worker j).key
  simp only [toQueueSystem, setWorker, held_update, hheld]

variable [DecidableEq ε] [DecidableEq ι]

/-- **Every step of the tasks is a step of the queue system, or none.** -/
lemma simulates {s s' : Tasks ε ι} {l : TaskLabel ε ι} (h : s.step l = some s') :
    s'.toQueueSystem = s.toQueueSystem ∨
      ∃ m, s.toQueueSystem.step m = some s'.toQueueSystem := by
  cases l with
  | call e key =>
      obtain ⟨-, rfl⟩ := step_call_eq_some h
      exact .inl rfl
  | caller e =>
      obtain ⟨key, -, -, rfl⟩ | ⟨key, -, rfl⟩ | ⟨key, queue, -, hsend, rfl⟩ :=
        stepCaller_eq_some h
      · exact .inl rfl
      · exact .inr ⟨.enqueue key, rfl⟩
      · refine .inr ⟨.send key, ?_⟩
        simp only [QueueSystem.step, toQueueSystem, hsend]
        rfl
  | worker i =>
      obtain ⟨hpc, -, rfl⟩ | ⟨key, queue, hpc, hrecv, rfl⟩ | ⟨key, hpc, -, rfl⟩ |
        ⟨key, hpc, rfl⟩ := stepWorker_eq_some h
      · exact .inl (s.toQueueSystem_setWorker i .receiving (by rw [hpc]; rfl))
      · refine .inr ⟨.recv i, ?_⟩
        simp only [QueueSystem.step, toQueueSystem, setWorker, hpc, hrecv, held_update]
        rfl
      · exact .inl (s.toQueueSystem_setWorker i (.locked key) (by rw [hpc]; rfl))
      · refine .inr ⟨.done i, ?_⟩
        simp only [QueueSystem.step, toQueueSystem, setWorker, hpc, held_update]
        rfl
  | reconciled i ok =>
      left
      obtain ⟨key, hpc, rfl⟩ := step_reconciled_eq_some h
      exact s.toQueueSystem_setWorker i (.locking key) (by rw [hpc]; rfl)

lemma inv_step {s s' : Tasks ε ι} {l : TaskLabel ε ι} (hs : s.toQueueSystem.Inv)
    (h : s.step l = some s') : s'.toQueueSystem.Inv := by
  rcases simulates h with heq | ⟨m, hm⟩
  · rwa [heq]
  · exact QueueSystem.inv_step hs hm

/-! ## Who holds which lock -/

/-- The call is in the critical section of the set. -/
def InSet (s : Tasks ε ι) : ε ⊕ ι → Prop
  | .inl e => (s.caller e).isLocked
  | .inr i => (s.worker i).isLocked

lemma inSet_setCaller (s : Tasks ε ι) (e : ε) (pc : CallerPc) :
    (s.setCaller e pc).InSet = Function.update s.InSet (.inl e) (pc.isLocked = true) := by
  funext t
  cases t with
  | inl e' => by_cases h : e' = e <;> simp [InSet, setCaller, h]
  | inr i => simp [InSet, setCaller]

lemma inSet_setWorker (s : Tasks ε ι) (i : ι) (pc : WorkerPc) :
    (s.setWorker i pc).InSet = Function.update s.InSet (.inr i) (pc.isLocked = true) := by
  funext t
  cases t with
  | inl e => simp [InSet, setWorker]
  | inr j => by_cases h : j = i <;> simp [InSet, setWorker, h]

/-- The worker waits for a key. -/
def Receiving (s : Tasks ε ι) (i : ι) : Prop := s.worker i = .receiving

omit [DecidableEq ε] in
lemma receiving_setWorker (s : Tasks ε ι) (i : ι) (pc : WorkerPc) :
    (s.setWorker i pc).Receiving = Function.update s.Receiving i (pc = .receiving) := by
  funext j
  by_cases h : j = i <;> simp [Receiving, setWorker, h]

/-- Each lock guards its part of the code. -/
structure LockInv (s : Tasks ε ι) : Prop where
  set : Lock.Guards s.setLock s.InSet
  receiver : Lock.Guards s.rxLock s.Receiving

omit [DecidableEq ε] [DecidableEq ι] in
lemma lockInv_start (buffer : ℕ) : LockInv (start buffer : Tasks ε ι) where
  set t := by cases t <;> simp [start, InSet, CallerPc.isLocked, WorkerPc.isLocked]
  receiver := by simp [start, Receiving, Lock.Guards]

section Moves

variable {s : Tasks ε ι} (hs : s.LockInv)

include hs

/-- A call moves between two places outside the critical section. -/
lemma LockInv.moveCaller {e : ε} {pc pc' : CallerPc} (hpc : s.caller e = pc)
    (h : pc.isLocked = pc'.isLocked) : (s.setCaller e pc').LockInv where
  set := by
    rw [inSet_setCaller]
    exact hs.set.pass (by rw [InSet, hpc, h])
  receiver := hs.receiver

lemma LockInv.enterCaller {e : ε} {key : Key} (hfree : s.setLock = none) :
    Lock.Guards (some (.inl e)) (s.setCaller e (.locked key)).InSet := by
  rw [inSet_setCaller]
  exact hs.set.enter hfree rfl

lemma LockInv.leaveCaller {e : ε} {key : Key} {pc : CallerPc} (hpc : s.caller e = .locked key)
    (h : pc.isLocked = false) : Lock.Guards none (s.setCaller e pc).InSet := by
  rw [inSet_setCaller]
  refine hs.set.leave ?_ (by simp [h])
  rw [InSet, hpc]
  rfl

/-- A worker moves between two places outside the critical section of the set. -/
lemma LockInv.passWorker {i : ι} {pc pc' : WorkerPc} (hpc : s.worker i = pc)
    (h : pc.isLocked = pc'.isLocked) : Lock.Guards s.setLock (s.setWorker i pc').InSet := by
  rw [inSet_setWorker]
  exact hs.set.pass (by rw [InSet, hpc, h])

lemma LockInv.enterWorker {i : ι} {key : Key} (hfree : s.setLock = none) :
    Lock.Guards (some (.inr i)) (s.setWorker i (.locked key)).InSet := by
  rw [inSet_setWorker]
  exact hs.set.enter hfree rfl

lemma LockInv.leaveWorker {i : ι} {key : Key} {pc : WorkerPc} (hpc : s.worker i = .locked key)
    (h : pc.isLocked = false) : Lock.Guards none (s.setWorker i pc).InSet := by
  rw [inSet_setWorker]
  refine hs.set.leave ?_ (by simp [h])
  rw [InSet, hpc]
  rfl

omit [DecidableEq ε] in
/-- A worker moves between two places without the receiver. -/
lemma LockInv.passReceiver {i : ι} {pc pc' : WorkerPc} (hpc : s.worker i = pc)
    (h : pc ≠ .receiving) (h' : pc' ≠ .receiving) :
    Lock.Guards s.rxLock (s.setWorker i pc').Receiving := by
  rw [receiving_setWorker]
  exact hs.receiver.pass (by simp [Receiving, hpc, h, h'])

end Moves

/-- **Every step keeps the locks with their critical sections.** -/
lemma LockInv.step {s s' : Tasks ε ι} {l : TaskLabel ε ι} (hs : s.LockInv)
    (h : s.step l = some s') : s'.LockInv := by
  cases l with
  | call e key =>
      obtain ⟨hpc, rfl⟩ := step_call_eq_some h
      exact hs.moveCaller hpc rfl
  | caller e =>
      obtain ⟨key, hpc, hfree, rfl⟩ | ⟨key, hpc, rfl⟩ | ⟨key, queue, hpc, -, rfl⟩ :=
        stepCaller_eq_some h
      · exact ⟨hs.enterCaller hfree, hs.receiver⟩
      · refine ⟨hs.leaveCaller hpc ?_, hs.receiver⟩
        split <;> rfl
      · have hmoved : (s.setCaller e .idle).LockInv := hs.moveCaller hpc rfl
        exact ⟨hmoved.set, hmoved.receiver⟩
  | worker i =>
      obtain ⟨hpc, hfree, rfl⟩ | ⟨key, queue, hpc, -, rfl⟩ | ⟨key, hpc, hfree, rfl⟩ |
        ⟨key, hpc, rfl⟩ := stepWorker_eq_some h
      · refine ⟨hs.passWorker hpc rfl, ?_⟩
        have hreceiver := hs.receiver.enter (t := i) hfree (rfl : WorkerPc.receiving = .receiving)
        rwa [← receiving_setWorker] at hreceiver
      · refine ⟨hs.passWorker hpc rfl, ?_⟩
        have hreceiver := hs.receiver.leave hpc
          (nofun : WorkerPc.reconciling key ≠ .receiving)
        rwa [← receiving_setWorker] at hreceiver
      · exact ⟨hs.enterWorker hfree, hs.passReceiver hpc nofun nofun⟩
      · exact ⟨hs.leaveWorker hpc rfl, hs.passReceiver hpc nofun nofun⟩
  | reconciled i ok =>
      obtain ⟨key, hpc, rfl⟩ := step_reconciled_eq_some h
      exact ⟨hs.passWorker hpc rfl, hs.passReceiver hpc nofun nofun⟩

/-! ## Which call has which `send` pending -/

/-- The call waits for room in the channel. -/
def Sends (s : Tasks ε ι) (key : Key) : Prop := ∃ e, s.caller e = .sending key

/-- Every `send` that is pending in the queue is that of one call. -/
structure SendInv (s : Tasks ε ι) : Prop where
  sending : ∀ key, key ∈ s.queue.sending ↔ s.Sends key
  unique : ∀ e e' key, s.caller e = .sending key → s.caller e' = .sending key → e = e'

omit [DecidableEq ε] [DecidableEq ι] in
lemma sendInv_start (buffer : ℕ) : SendInv (start buffer : Tasks ε ι) where
  sending := by simp [start, Queue.new, Sends]
  unique := by simp [start]

omit [DecidableEq ι] in
/-- A call moves between two places without a `send`. -/
lemma SendInv.moveCaller {s : Tasks ε ι} (hs : s.SendInv) {e : ε} {pc : CallerPc}
    (hpc : ∀ key, s.caller e ≠ .sending key) (h : ∀ key, pc ≠ .sending key) :
    (s.setCaller e pc).SendInv where
  sending key := by
    have hsending := hs.sending key
    simp only [Sends, setCaller, Function.update_apply] at hsending ⊢
    grind
  unique e₁ e₂ key := by
    have hunique := hs.unique e₁ e₂ key
    simp only [setCaller, Function.update_apply]
    grind

omit [DecidableEq ι] in
/-- A call starts to send a key that no other call sends. -/
lemma SendInv.startSending {s : Tasks ε ι} (hs : s.SendInv) {e : ε} {key : Key}
    (hpc : ∀ key, s.caller e ≠ .sending key) (hnew : ¬ s.Sends key) {queue : Queue}
    (hqueue : queue.sending = s.queue.sending ++ [key]) {lock : Option (ε ⊕ ι)} :
    SendInv { s.setCaller e (.sending key) with queue := queue, setLock := lock } where
  sending k := by
    have hsending := hs.sending k
    simp only [Sends, setCaller, Function.update_apply, hqueue, List.mem_append,
      List.mem_singleton] at hsending ⊢
    grind
  unique e₁ e₂ k := by
    have hunique := hs.unique e₁ e₂ k
    simp only [Sends, not_exists] at hnew
    simp only [setCaller, Function.update_apply]
    grind

omit [DecidableEq ι] in
/-- A `send` returns. -/
lemma SendInv.endSending {s : Tasks ε ι} (hs : s.SendInv) {e : ε} {key : Key}
    (hpc : s.caller e = .sending key) (hnodup : s.queue.sending.Nodup) {queue : Queue}
    (hqueue : queue.sending = s.queue.sending.erase key) :
    SendInv { s.setCaller e .idle with queue := queue } where
  sending k := by
    have hsending := hs.sending k
    have hunique := fun e' => hs.unique e' e key
    simp only [Sends, setCaller, Function.update_apply, hqueue, hnodup.mem_erase_iff] at hsending ⊢
    grind
  unique e₁ e₂ k := by
    have hunique := hs.unique e₁ e₂ k
    simp only [setCaller, Function.update_apply]
    grind

/-- **Every step keeps the pending `send`s with their calls.** -/
lemma SendInv.step {s s' : Tasks ε ι} {l : TaskLabel ε ι} (hs : s.SendInv)
    (hq : s.toQueueSystem.Inv) (h : s.step l = some s') : s'.SendInv := by
  cases l with
  | call e key =>
      obtain ⟨hpc, rfl⟩ := step_call_eq_some h
      exact hs.moveCaller (by simp [hpc]) nofun
  | caller e =>
      obtain ⟨key, hpc, -, rfl⟩ | ⟨key, hpc, rfl⟩ | ⟨key, queue, hpc, hsend, rfl⟩ :=
        stepCaller_eq_some h
      · have hmoved : (s.setCaller e (.locked key)).SendInv := hs.moveCaller (by simp [hpc]) nofun
        exact ⟨hmoved.sending, hmoved.unique⟩
      · by_cases hflight : key ∈ s.queue.inFlight
        · have hmoved : (s.setCaller e .idle).SendInv := hs.moveCaller (by simp [hpc]) nofun
          simp only [Queue.enqueue, hflight, if_true]
          exact ⟨hmoved.sending, hmoved.unique⟩
        · have hnew : ¬ s.Sends key := fun hsends =>
            hflight ((hq.inFlight key).mpr (.inl (.inl ((hs.sending key).mpr hsends))))
          simp only [Queue.enqueue, hflight, if_false]
          exact hs.startSending (by simp [hpc]) hnew rfl
      · obtain ⟨-, -, rfl⟩ := QueueSystem.send_eq_some hq.isOpen hsend
        exact hs.endSending hpc (List.nodup_append.mp hq.nodup).1 rfl
  | worker i =>
      obtain ⟨-, -, rfl⟩ | ⟨key, queue, -, hrecv, rfl⟩ | ⟨key, -, -, rfl⟩ | ⟨key, -, rfl⟩ :=
        stepWorker_eq_some h
      · exact ⟨hs.sending, hs.unique⟩
      · obtain ⟨-, hsending, -⟩ := QueueSystem.recv_eq_some hrecv
        refine ⟨fun k => ?_, hs.unique⟩
        rw [show queue.sending = s.queue.sending from hsending]
        exact hs.sending k
      · exact ⟨hs.sending, hs.unique⟩
      · exact ⟨hs.sending, hs.unique⟩
  | reconciled i ok =>
      obtain ⟨key, -, rfl⟩ := step_reconciled_eq_some h
      exact ⟨hs.sending, hs.unique⟩

/-! ## Where a key in flight is -/

/-- The worker holds the key, between `recv` and `done`. -/
def Holds (s : Tasks ε ι) (key : Key) : Prop := ∃ i, (s.worker i).key = some key

/-- A key that is in flight is in exactly one place, once. -/
structure OnePlace (s : Tasks ε ι) : Prop where
  isOpen : s.queue.closed = false
  inFlight : ∀ key, key ∈ s.queue.inFlight ↔ s.Sends key ∨ key ∈ s.queue.channel ∨ s.Holds key
  send : ∀ e e' key, s.caller e = .sending key → s.caller e' = .sending key → e = e'
  channel : s.queue.channel.Nodup
  worker : ∀ i j key, (s.worker i).key = some key → (s.worker j).key = some key → i = j
  sendOnly : ∀ key, s.Sends key → key ∉ s.queue.channel ∧ ¬ s.Holds key
  channelOnly : ∀ key, key ∈ s.queue.channel → ¬ s.Holds key

structure Inv (s : Tasks ε ι) : Prop where
  queue : s.toQueueSystem.Inv
  sends : s.SendInv
  locks : s.LockInv

lemma inv_of_reachable {buffer : ℕ} {s : Tasks ε ι}
    (h : Transition.Reachable step Transition.Always (start buffer) s) : s.Inv := by
  refine h.invariant ⟨?_, sendInv_start buffer, lockInv_start buffer⟩ ?_
  · rw [toQueueSystem_start]
    exact QueueSystem.inv_start buffer
  · exact fun s l s' hs _ hstep =>
      ⟨inv_step hs.queue hstep, hs.sends.step hs.queue hstep, hs.locks.step hstep⟩

/-- **Every key in flight is in one place**: in the `send` of one call, in the channel, or with
one worker.  In particular no two workers ever reconcile the same key. -/
theorem keys_in_one_place {buffer : ℕ} {s : Tasks ε ι}
    (h : Transition.Reachable step Transition.Always (start buffer) s) : s.OnePlace := by
  obtain ⟨hq, hsends, -⟩ := inv_of_reachable h
  obtain ⟨-, hchannel, hdisjoint⟩ := List.nodup_append.mp hq.nodup
  exact
    { isOpen := hq.isOpen
      inFlight := fun key => by
        rw [← hsends.sending, ← or_assoc]
        exact hq.inFlight key
      send := hsends.unique
      channel := hchannel
      worker := hq.unique
      sendOnly := fun key hsend => by
        have hmem := (hsends.sending key).mpr hsend
        exact ⟨fun hmem' => hdisjoint key hmem key hmem' rfl,
          fun hheld => hq.exclusive key hheld (.inl hmem)⟩
      channelOnly := fun key hmem hheld => hq.exclusive key hheld (.inr hmem) }

/-! ### Two calls for one key -/

def webKey : Key := ⟨"apps", "web"⟩

/-- The first call puts the key in the channel and a worker takes it; the second call is dropped. -/
def twoCalls : List (TaskLabel (Fin 2) (Fin 2)) :=
  [.call 0 webKey, .caller 0, .call 1 webKey, .caller 0, .caller 1, .caller 0, .worker 1,
    .caller 1, .worker 1]

lemma run_twoCalls : ∃ s : Tasks (Fin 2) (Fin 2),
    Transition.Reachable step Transition.Always (start 1) s ∧
      s.worker 1 = .reconciling webKey := by
  obtain ⟨s, hrun, hworker⟩ : ∃ s, Transition.run step (start 1) twoCalls = some s ∧
      s.worker 1 = .reconciling webKey := Option.map_eq_some_iff.mp (by decide)
  exact ⟨s, Transition.reachable_of_run (Transition.guarded_always _ _) hrun, hworker⟩

theorem keys_in_one_place_two_calls : ∃ s : Tasks (Fin 2) (Fin 2),
    s.worker 1 = .reconciling webKey ∧ s.OnePlace := by
  obtain ⟨s, hreachable, hworker⟩ := run_twoCalls
  exact ⟨s, hworker, keys_in_one_place hreachable⟩

/-! ## Somebody can always go on -/

/-- The step is not the arrival of a new event. -/
def TaskLabel.isInternal : TaskLabel ε ι → Prop
  | .call .. => False
  | _ => True

/-- Something is left to do: a call has not returned, a key is in the channel, or a worker holds
one. -/
def Busy (s : Tasks ε ι) : Prop :=
  (∃ e, s.caller e ≠ .idle) ∨ s.queue.channel ≠ [] ∨ ∃ key, s.Holds key

/-- A task other than the source of the events can make a step. -/
def CanGoOn (s : Tasks ε ι) : Prop :=
  ∃ l, TaskLabel.isInternal l ∧ (s.step l).isSome

lemma capacity_send {queue queue' : Queue} {key : Key} (h : queue.send key = some queue') :
    queue'.capacity = queue.capacity := by
  simp only [Queue.send] at h
  split at h
  · cases h
  split at h
  · obtain rfl := Option.some.inj h
    rfl
  split at h
  · obtain rfl := Option.some.inj h
    rfl
  · cases h

lemma capacity_step {s s' : Tasks ε ι} {l : TaskLabel ε ι} (h : s.step l = some s') :
    s'.queue.capacity = s.queue.capacity := by
  cases l with
  | call e key =>
      obtain ⟨-, rfl⟩ := step_call_eq_some h
      rfl
  | caller e =>
      obtain ⟨key, -, -, rfl⟩ | ⟨key, -, rfl⟩ | ⟨key, queue, -, hsend, rfl⟩ :=
        stepCaller_eq_some h
      · rfl
      · simp only [Queue.enqueue]
        split <;> rfl
      · exact capacity_send hsend
  | worker i =>
      obtain ⟨-, -, rfl⟩ | ⟨key, queue, -, hrecv, rfl⟩ | ⟨key, -, -, rfl⟩ | ⟨key, -, rfl⟩ :=
        stepWorker_eq_some h
      · rfl
      · exact (QueueSystem.recv_eq_some hrecv).2.2.2.2
      · rfl
      · rfl
  | reconciled i ok =>
      obtain ⟨key, -, rfl⟩ := step_reconciled_eq_some h
      rfl

section Enabled

variable {s : Tasks ε ι}

lemma canGoOn_caller {e : ε} (h : (s.stepCaller e).isSome) : s.CanGoOn := ⟨.caller e, trivial, h⟩

lemma canGoOn_worker {i : ι} (h : (s.stepWorker i).isSome) : s.CanGoOn := ⟨.worker i, trivial, h⟩

lemma canGoOn_reconciling {i : ι} {key : Key} (h : s.worker i = .reconciling key) :
    s.CanGoOn := by
  refine ⟨.reconciled i true, trivial, ?_⟩
  simp [Tasks.step, h]

/-- Whoever is in the critical section of the set can leave it. -/
lemma canGoOn_of_setLock (hs : s.LockInv) (h : s.setLock ≠ none) : s.CanGoOn := by
  obtain ⟨t, ht⟩ := Option.ne_none_iff_exists'.mp h
  have hin := (hs.set t).mp ht
  cases t with
  | inl e =>
      cases hpc : s.caller e with
      | locked key => exact canGoOn_caller (e := e) (by simp [stepCaller, hpc])
      | _ => simp [InSet, hpc, CallerPc.isLocked] at hin
  | inr i =>
      cases hpc : s.worker i with
      | locked key => exact canGoOn_worker (i := i) (by simp [stepWorker, hpc])
      | _ => simp [InSet, hpc, WorkerPc.isLocked] at hin

/-- With the lock of the set free, a worker that holds a key can go on. -/
lemma canGoOn_of_holds (hfree : s.setLock = none) {key : Key}
    (h : s.Holds key) : s.CanGoOn := by
  obtain ⟨i, hi⟩ := h
  cases hpc : s.worker i with
  | waiting => simp [hpc, WorkerPc.key] at hi
  | receiving => simp [hpc, WorkerPc.key] at hi
  | reconciling k => exact canGoOn_reconciling hpc
  | locking k => exact canGoOn_worker (i := i) (by simp [stepWorker, hpc, hfree])
  | locked k => exact canGoOn_worker (i := i) (by simp [stepWorker, hpc])

/-- With nobody holding a key, a worker takes the receiver or the next key, or the channel is
empty. -/
lemma canGoOn_of_idle_worker [Nonempty ι] (hs : s.LockInv) (hheld : ∀ key, ¬ s.Holds key) :
    s.CanGoOn ∨ s.queue.channel = [] := by
  by_cases hempty : s.queue.channel = []
  · exact .inr hempty
  left
  cases hlock : s.rxLock with
  | none =>
      obtain ⟨i⟩ := ‹Nonempty ι›
      cases hpc : s.worker i with
      | waiting => exact canGoOn_worker (i := i) (by simp [stepWorker, hpc, hlock])
      | receiving => exact absurd hpc (hs.receiver.not_inside hlock)
      | reconciling key => exact absurd ⟨i, by rw [hpc]; rfl⟩ (hheld key)
      | locking key => exact absurd ⟨i, by rw [hpc]; rfl⟩ (hheld key)
      | locked key => exact absurd ⟨i, by rw [hpc]; rfl⟩ (hheld key)
  | some i =>
      have hpc : s.worker i = .receiving := (hs.receiver i).mp hlock
      obtain ⟨key, rest, hchannel⟩ := List.exists_cons_of_ne_nil hempty
      exact canGoOn_worker (i := i) (by simp [stepWorker, hpc, Queue.recv, hchannel])

/-- With the lock of the set free and room in the channel, a call can go on. -/
lemma canGoOn_of_caller (hsends : s.SendInv) (hfree : s.setLock = none)
    (hopen : s.queue.closed = false) (hroom : s.queue.channel.length < s.queue.capacity) {e : ε}
    (h : s.caller e ≠ .idle) : s.CanGoOn := by
  refine canGoOn_caller (e := e) ?_
  cases hpc : s.caller e with
  | idle => exact absurd hpc h
  | locking key => simp [stepCaller, hpc, hfree]
  | locked key => simp [stepCaller, hpc]
  | sending key =>
      have hmem := (hsends.sending key).mpr ⟨e, hpc⟩
      simp [stepCaller, hpc, Queue.send, hmem, hopen, hroom]

end Enabled

/-- **The controller never deadlocks.** -/
theorem never_deadlocks {buffer : ℕ} (hbuffer : 0 < buffer) (hworkers : Nonempty ι)
    {s : Tasks ε ι} (h : Transition.Reachable step Transition.Always (start buffer) s)
    (hbusy : s.Busy) : s.CanGoOn := by
  obtain ⟨hq, hsends, hlocks⟩ := inv_of_reachable h
  have hcapacity : s.queue.capacity = buffer :=
    h.invariant (I := fun s => s.queue.capacity = buffer) rfl
      fun _ _ _ hs _ hstep => (capacity_step hstep).trans hs
  by_cases hfree : s.setLock = none
  · by_cases hheld : ∃ key, s.Holds key
    · obtain ⟨key, hheld⟩ := hheld
      exact canGoOn_of_holds hfree hheld
    rcases canGoOn_of_idle_worker hlocks (not_exists.mp hheld) with hgo | hempty
    · exact hgo
    -- The channel is empty, so what is left to do is a call, and there is room for its key.
    obtain ⟨e, he⟩ : ∃ e, s.caller e ≠ .idle := by
      rcases hbusy with hcall | hchannel | hheld'
      · exact hcall
      · exact absurd hempty hchannel
      · exact absurd hheld' hheld
    refine canGoOn_of_caller hsends hfree hq.isOpen ?_ he
    rw [hempty, hcapacity]
    exact hbuffer
  · exact canGoOn_of_setLock hlocks hfree

theorem never_deadlocks_two_calls : ∃ s : Tasks (Fin 2) (Fin 2),
    s.Busy ∧ s.CanGoOn := by
  obtain ⟨s, hreachable, hworker⟩ := run_twoCalls
  have hbusy : s.Busy := .inr (.inr ⟨webKey, 1, by rw [hworker]; rfl⟩)
  exact ⟨s, hbusy, never_deadlocks Nat.one_pos ⟨0⟩ hreachable hbusy⟩

end Tasks

end IdentityFederation
