import Mathlib.Algebra.BigOperators.Group.Finset.Basic
import Mathlib.Algebra.Order.BigOperators.Group.Finset
import Mathlib.Data.Fintype.BigOperators
import IdentityFederation.Properties.Locks

/-!
# The tasks come to rest

Once no more events arrive, the calls of `enqueue` and the workers have only finitely much to do:
every step they make lowers `Tasks.work`, whatever its order, so they cannot keep each other busy
for ever.  They stop only where nothing is left in flight (`settled_of_atRest`), and by then every
key that waited was handed to a worker exactly once (`settles`).

With events arriving all the time, workers get the keys in the order in which they were sent, and
every key that was accepted once (`handed_out_in_order`).
-/

namespace IdentityFederation

/-- A bound on the steps that a call causes before it has returned and its key is done. -/
def CallerPc.work : CallerPc → ℕ
  | .idle => 0
  | .locking _ => 8
  | .locked _ => 7
  | .sending _ => 6

/-- A bound on the steps of a worker before it waits for a key. -/
def WorkerPc.work : WorkerPc → ℕ
  | .waiting => 1
  | .receiving => 0
  | .reconciling _ => 4
  | .locking _ => 3
  | .locked _ => 2

lemma CallerPc.work_le (pc : CallerPc) : pc.work ≤ 8 := by
  cases pc <;> simp [CallerPc.work]

lemma WorkerPc.work_le (pc : WorkerPc) : pc.work ≤ 4 := by
  cases pc <;> simp [WorkerPc.work]

namespace Tasks

variable {ε ι : Type}

/-! ## Every step lowers what is left to do -/

section Work

variable [Fintype ε] [Fintype ι]

/-- A bound on the steps that are left: a key in the channel still needs five. -/
def work (s : Tasks ε ι) : ℕ :=
  ∑ e, (s.caller e).work + 5 * s.queue.channel.length + ∑ i, (s.worker i).work

/-- What a sum over all tasks becomes when one of them moves. -/
lemma sum_update {τ α : Type} [Fintype τ] [DecidableEq τ] (f : α → ℕ) (g : τ → α) (t : τ) (a : α) :
    ∑ t', f (Function.update g t a t') + f (g t) = ∑ t', f (g t') + f a := by
  have hrest : ∑ t' ∈ Finset.univ.erase t, f (Function.update g t a t') =
      ∑ t' ∈ Finset.univ.erase t, f (g t') :=
    Finset.sum_congr rfl fun t' ht' => by
      rw [Function.update_of_ne (Finset.ne_of_mem_erase ht')]
  rw [← Finset.add_sum_erase _ _ (Finset.mem_univ t), hrest, Function.update_self,
    ← Finset.add_sum_erase Finset.univ (fun t' => f (g t')) (Finset.mem_univ t)]
  omega

lemma work_setCaller [DecidableEq ε] (s : Tasks ε ι) (e : ε) (pc : CallerPc) :
    (s.setCaller e pc).work + (s.caller e).work = s.work + pc.work := by
  have hsum := sum_update CallerPc.work s.caller e pc
  simp only [work, setCaller]
  omega

lemma work_setWorker [DecidableEq ι] (s : Tasks ε ι) (i : ι) (pc : WorkerPc) :
    (s.setWorker i pc).work + (s.worker i).work = s.work + pc.work := by
  have hsum := sum_update WorkerPc.work s.worker i pc
  simp only [work, setWorker]
  omega

/-- Another queue, and other holders of the locks. -/
lemma work_queue (s : Tasks ε ι) (queue : Queue) (setLock : Option (ε ⊕ ι)) (rxLock : Option ι) :
    work { s with queue := queue, setLock := setLock, rxLock := rxLock } +
      5 * s.queue.channel.length = s.work + 5 * queue.channel.length := by
  simp only [work]
  omega

lemma length_channel_send {queue queue' : Queue} {key : Key} (h : queue.send key = some queue') :
    queue'.channel.length ≤ queue.channel.length + 1 := by
  simp only [Queue.send] at h
  split at h
  · cases h
  split at h
  · obtain rfl := Option.some.inj h
    simp
  split at h
  · obtain rfl := Option.some.inj h
    simp
  · cases h

lemma room_send {queue queue' : Queue} {key : Key} (h : queue.send key = some queue')
    (hroom : queue.channel.length ≤ queue.capacity) :
    queue'.channel.length ≤ queue.capacity := by
  simp only [Queue.send] at h
  split at h
  · cases h
  split at h
  · obtain rfl := Option.some.inj h
    exact hroom
  split at h
  · rename_i hlt
    obtain rfl := Option.some.inj h
    rw [List.length_append]
    exact hlt
  · cases h

lemma channel_enqueue (queue : Queue) (key : Key) :
    (queue.enqueue key).channel = queue.channel := by
  unfold Queue.enqueue
  split <;> rfl

/-- **Every internal step lowers what is left to do.** -/
lemma work_lt [DecidableEq ε] [DecidableEq ι] {s s' : Tasks ε ι} {l : TaskLabel ε ι}
    (hinternal : TaskLabel.isInternal l) (h : s.step l = some s') : s'.work < s.work := by
  cases l with
  | call e key => exact hinternal.elim
  | caller e =>
      obtain ⟨key, hpc, -, rfl⟩ | ⟨key, hpc, rfl⟩ | ⟨key, queue, hpc, hsend, rfl⟩ :=
        stepCaller_eq_some h
      · have hmoved := s.work_setCaller e (.locked key)
        have hlocked := (s.setCaller e (.locked key)).work_queue s.queue (some (.inl e)) s.rxLock
        simp only [hpc, CallerPc.work] at hmoved
        simp only [setCaller] at hmoved hlocked ⊢
        omega
      · set pc : CallerPc := if key ∈ s.queue.inFlight then .idle else .sending key with hnext
        have hle : pc.work ≤ 6 := by
          rw [hnext]
          split <;> simp [CallerPc.work]
        have hmoved := s.work_setCaller e pc
        have hqueue := (s.setCaller e pc).work_queue (s.queue.enqueue key) none s.rxLock
        rw [channel_enqueue] at hqueue
        simp only [hpc, show (CallerPc.locked key).work = 7 from rfl] at hmoved
        simp only [setCaller] at hmoved hqueue ⊢
        omega
      · have hmoved := s.work_setCaller e .idle
        have hqueue := (s.setCaller e .idle).work_queue queue s.setLock s.rxLock
        have hlength := length_channel_send hsend
        simp only [hpc, CallerPc.work] at hmoved
        simp only [setCaller] at hmoved hqueue ⊢
        omega
  | worker i =>
      obtain ⟨hpc, -, rfl⟩ | ⟨key, queue, hpc, hrecv, rfl⟩ | ⟨key, hpc, -, rfl⟩ |
        ⟨key, hpc, rfl⟩ := stepWorker_eq_some h
      · have hmoved := s.work_setWorker i .receiving
        have hlocked := (s.setWorker i .receiving).work_queue s.queue s.setLock (some i)
        simp only [hpc, WorkerPc.work] at hmoved
        simp only [setWorker] at hmoved hlocked ⊢
        omega
      · have hmoved := s.work_setWorker i (.reconciling key)
        have hqueue := (s.setWorker i (.reconciling key)).work_queue queue s.setLock none
        have hlength : s.queue.channel.length = queue.channel.length + 1 := by
          rw [(QueueSystem.recv_eq_some hrecv).1, List.length_cons]
        simp only [hpc, WorkerPc.work] at hmoved
        simp only [setWorker] at hmoved hqueue ⊢
        omega
      · have hmoved := s.work_setWorker i (.locked key)
        have hlocked := (s.setWorker i (.locked key)).work_queue s.queue (some (.inr i)) s.rxLock
        simp only [hpc, WorkerPc.work] at hmoved
        simp only [setWorker] at hmoved hlocked ⊢
        omega
      · have hmoved := s.work_setWorker i .waiting
        have hqueue := (s.setWorker i .waiting).work_queue (s.queue.done key) none s.rxLock
        simp only [hpc, WorkerPc.work] at hmoved
        simp only [setWorker, Queue.done] at hmoved hqueue ⊢
        omega
  | reconciled i ok =>
      obtain ⟨key, hpc, rfl⟩ := step_reconciled_eq_some h
      have hmoved := s.work_setWorker i (.locking key)
      simp only [hpc, WorkerPc.work] at hmoved
      omega

/-- What can be left to do at most. -/
lemma work_le {s : Tasks ε ι} (h : s.queue.channel.length ≤ s.queue.capacity) :
    s.work ≤ 8 * Fintype.card ε + 5 * s.queue.capacity + 4 * Fintype.card ι := by
  have hcallers : ∑ e, (s.caller e).work ≤ Fintype.card ε * 8 :=
    Finset.sum_le_card_nsmul _ _ 8 fun e _ => (s.caller e).work_le
  have hworkers : ∑ i, (s.worker i).work ≤ Fintype.card ι * 4 :=
    Finset.sum_le_card_nsmul _ _ 4 fun i _ => (s.worker i).work_le
  unfold work
  omega

end Work

variable [DecidableEq ε] [DecidableEq ι]

/-! ## Where the tasks rest -/

/-- No new event arrives. -/
def Internal (_ : Tasks ε ι) (l : TaskLabel ε ι) : Prop := TaskLabel.isInternal l

omit [DecidableEq ε] [DecidableEq ι] in
/-- Nothing is under way: every call has returned, no key is in flight, and one worker waits for
a key while the others wait for the receiver. -/
structure Settled (s : Tasks ε ι) : Prop where
  callers : ∀ e, s.caller e = .idle
  channel : s.queue.channel = []
  inFlight : s.queue.inFlight = ∅
  setLock : s.setLock = none
  receiver : ∃ i, s.rxLock = some i ∧ s.worker i = .receiving ∧
    ∀ j, j ≠ i → s.worker j = .waiting

lemma not_canGoOn {s : Tasks ε ι} (h : Transition.AtRest step Internal s) : ¬ s.CanGoOn := by
  rintro ⟨l, hinternal, henabled⟩
  rw [h l hinternal] at henabled
  cases henabled

/-- A worker without a key waits. -/
lemma worker_of_key {pc : WorkerPc} (h : pc.key = none) : pc = .waiting ∨ pc = .receiving := by
  cases pc with
  | waiting => exact .inl rfl
  | receiving => exact .inr rfl
  | _ => cases h

/-- **The tasks rest only when everything is done.** -/
lemma settled_of_atRest [Nonempty ι] {s : Tasks ε ι} (hs : s.Inv) (hcapacity : 0 < s.queue.capacity)
    (h : Transition.AtRest step Internal s) : s.Settled := by
  obtain ⟨hq, hsends, hlocks⟩ := hs
  have hstop := not_canGoOn h
  have hfree : s.setLock = none := by
    by_contra hlock
    exact hstop (canGoOn_of_setLock hlocks hlock)
  have hheld : ∀ key, ¬ s.Holds key := fun key hkey => hstop (canGoOn_of_holds hfree hkey)
  have hempty : s.queue.channel = [] := (canGoOn_of_idle_worker hlocks hheld).resolve_left hstop
  have hidle : ∀ e, s.caller e = .idle := by
    intro e
    by_contra hbusy
    refine hstop (canGoOn_of_caller hsends hfree hq.isOpen ?_ hbusy)
    rwa [hempty]
  have hnone : ∀ i, (s.worker i).key = none := by
    intro i
    cases hkey : (s.worker i).key with
    | none => rfl
    | some key => exact absurd ⟨i, hkey⟩ (hheld key)
  refine ⟨hidle, hempty, ?_, hfree, ?_⟩
  · ext key
    have hwaiting : ¬ s.queue.Waiting key := by
      rintro (hsending | hchannel)
      · obtain ⟨e, he⟩ := (hsends.sending key).mp hsending
        cases (hidle e).symm.trans he
      · rw [hempty] at hchannel
        cases hchannel
    have hplace : key ∈ s.queue.inFlight ↔ s.queue.Waiting key ∨ s.Holds key := hq.inFlight key
    simp [hplace, hwaiting, hheld key]
  · cases hlock : s.rxLock with
    | none =>
        -- Then a worker could take the receiver.
        obtain ⟨i⟩ := ‹Nonempty ι›
        rcases worker_of_key (hnone i) with hpc | hpc
        · exact absurd (canGoOn_worker (i := i) (by simp [stepWorker, hpc, hlock])) hstop
        · exact absurd hpc (hlocks.receiver.not_inside hlock)
    | some i =>
        refine ⟨i, rfl, (hlocks.receiver i).mp hlock, fun j hj => ?_⟩
        refine (worker_of_key (hnone j)).resolve_right fun hpc => hj ?_
        exact Option.some.inj (((hlocks.receiver j).mpr hpc).symm.trans hlock)

/-! ## What becomes of the keys -/

/-- The key that the step puts in flight. -/
def accepted (s : Tasks ε ι) : TaskLabel ε ι → List Key
  | .caller e =>
      match s.caller e with
      | .locked key => if key ∈ s.queue.inFlight then [] else [key]
      | _ => []
  | _ => []

/-- The key that the step puts in the channel. -/
def sent (s : Tasks ε ι) : TaskLabel ε ι → List Key
  | .caller e =>
      match s.caller e with
      | .sending key => [key]
      | _ => []
  | _ => []

/-- The key that the step hands to a worker. -/
def handedOut (s : Tasks ε ι) : TaskLabel ε ι → List Key
  | .worker i =>
      match s.worker i with
      | .receiving => s.queue.channel.take 1
      | _ => []
  | _ => []

/-- Each step takes its key from the front of the channel and adds its key at the back. -/
lemma channel_step {s s' : Tasks ε ι} {l : TaskLabel ε ι} (hs : s.toQueueSystem.Inv)
    (h : s.step l = some s') : s.queue.channel ++ s.sent l = s.handedOut l ++ s'.queue.channel := by
  cases l with
  | call e key =>
      obtain ⟨-, rfl⟩ := step_call_eq_some h
      simp [sent, handedOut, setCaller]
  | caller e =>
      obtain ⟨key, hpc, -, rfl⟩ | ⟨key, hpc, rfl⟩ | ⟨key, queue, hpc, hsend, rfl⟩ :=
        stepCaller_eq_some h
      · simp [sent, handedOut, setCaller, hpc]
      · simp [sent, handedOut, hpc, channel_enqueue]
      · obtain ⟨-, -, rfl⟩ := QueueSystem.send_eq_some hs.isOpen hsend
        simp [sent, handedOut, hpc, toQueueSystem]
  | worker i =>
      obtain ⟨hpc, -, rfl⟩ | ⟨key, queue, hpc, hrecv, rfl⟩ | ⟨key, hpc, -, rfl⟩ |
        ⟨key, hpc, rfl⟩ := stepWorker_eq_some h
      · simp [sent, handedOut, setWorker, hpc]
      · simp [sent, handedOut, hpc, (QueueSystem.recv_eq_some hrecv).1]
      · simp [sent, handedOut, setWorker, hpc]
      · simp [sent, handedOut, hpc, Queue.done]
  | reconciled i ok =>
      obtain ⟨key, -, rfl⟩ := step_reconciled_eq_some h
      simp [sent, handedOut, setWorker]

/-- The keys that wait for a worker. -/
def waiting (s : Tasks ε ι) : List Key := s.queue.sending ++ s.queue.channel

/-- Each step takes its key from those that wait, and adds the key that it accepts. -/
lemma waiting_step {s s' : Tasks ε ι} {l : TaskLabel ε ι} (hs : s.toQueueSystem.Inv)
    (h : s.step l = some s') : (s.waiting ++ s.accepted l).Perm (s.handedOut l ++ s'.waiting) := by
  cases l with
  | call e key =>
      obtain ⟨-, rfl⟩ := step_call_eq_some h
      simp [waiting, accepted, handedOut, setCaller]
  | caller e =>
      obtain ⟨key, hpc, -, rfl⟩ | ⟨key, hpc, rfl⟩ | ⟨key, queue, hpc, hsend, rfl⟩ :=
        stepCaller_eq_some h
      · simp [waiting, accepted, handedOut, setCaller, hpc]
      · by_cases hflight : key ∈ s.queue.inFlight
        · simp [waiting, accepted, handedOut, hpc, hflight, Queue.enqueue]
        · simp only [waiting, accepted, handedOut, hpc, hflight, if_false, Queue.enqueue,
            List.append_assoc, List.nil_append]
          exact List.perm_append_comm.append_left _
      · simp only [waiting, accepted, handedOut, hpc, List.append_nil, List.nil_append]
        exact (QueueSystem.perm_send hs.isOpen hsend).symm
  | worker i =>
      obtain ⟨hpc, -, rfl⟩ | ⟨key, queue, hpc, hrecv, rfl⟩ | ⟨key, hpc, -, rfl⟩ |
        ⟨key, hpc, rfl⟩ := stepWorker_eq_some h
      · simp [waiting, accepted, handedOut, setWorker, hpc]
      · obtain ⟨hchannel, hsending, -⟩ := QueueSystem.recv_eq_some hrecv
        simp only [waiting, accepted, handedOut, hpc, hchannel, List.append_nil, List.take_succ_cons,
          List.take_zero, List.singleton_append, hsending]
        exact List.perm_middle
      · simp [waiting, accepted, handedOut, setWorker, hpc]
      · simp [waiting, accepted, handedOut, hpc, Queue.done]
  | reconciled i ok =>
      obtain ⟨key, -, rfl⟩ := step_reconciled_eq_some h
      simp [waiting, accepted, handedOut, setWorker]

/-- The keys that a run has put in flight. -/
def acceptedIn (s : Tasks ε ι) (ls : List (TaskLabel ε ι)) : List Key :=
  Transition.outputs step accepted s ls

def sentIn (s : Tasks ε ι) (ls : List (TaskLabel ε ι)) : List Key :=
  Transition.outputs step sent s ls

def handedOutIn (s : Tasks ε ι) (ls : List (TaskLabel ε ι)) : List Key :=
  Transition.outputs step handedOut s ls

lemma waiting_run {s s' : Tasks ε ι} (hs : s.toQueueSystem.Inv) {ls : List (TaskLabel ε ι)}
    (h : Transition.run step s ls = some s') :
    (s.waiting ++ s.acceptedIn ls).Perm (s.handedOutIn ls ++ s'.waiting) :=
  Transition.bag_run (fun _ _ _ => inv_step) (fun _ _ _ => waiting_step) hs h

lemma channel_run {s s' : Tasks ε ι} (hs : s.toQueueSystem.Inv) {ls : List (TaskLabel ε ι)}
    (h : Transition.run step s ls = some s') :
    s.queue.channel ++ s.sentIn ls = s.handedOutIn ls ++ s'.queue.channel :=
  Transition.queue_run (fun _ _ _ => inv_step) (fun _ _ _ => channel_step) hs h

omit [DecidableEq ε] [DecidableEq ι] in
/-- Nothing waits where the tasks rest. -/
lemma Settled.waiting {s : Tasks ε ι} (h : s.Settled) (hsends : s.SendInv) : s.waiting = [] := by
  have hsending : s.queue.sending = [] := by
    refine List.eq_nil_iff_forall_not_mem.mpr fun key hkey => ?_
    obtain ⟨e, he⟩ := (hsends.sending key).mp hkey
    cases (h.callers e).symm.trans he
  rw [Tasks.waiting, hsending, h.channel, List.nil_append]

/-! ## The two results -/

lemma room_of_reachable {buffer : ℕ} {s : Tasks ε ι}
    (h : Transition.Reachable step Transition.Always (start buffer) s) :
    s.queue.capacity = buffer ∧ s.queue.channel.length ≤ s.queue.capacity := by
  refine h.invariant (I := fun s => s.queue.capacity = buffer ∧
    s.queue.channel.length ≤ s.queue.capacity) ⟨rfl, Nat.zero_le _⟩ ?_
  rintro s l s' ⟨hcapacity, hroom⟩ - hstep
  rw [capacity_step hstep]
  refine ⟨hcapacity, ?_⟩
  cases l with
  | call e key =>
      obtain ⟨-, rfl⟩ := step_call_eq_some hstep
      exact hroom
  | caller e =>
      obtain ⟨key, -, -, rfl⟩ | ⟨key, -, rfl⟩ | ⟨key, queue, -, hsend, rfl⟩ :=
        stepCaller_eq_some hstep
      · exact hroom
      · rwa [channel_enqueue]
      · exact room_send hsend hroom
  | worker i =>
      obtain ⟨-, -, rfl⟩ | ⟨key, queue, -, hrecv, rfl⟩ | ⟨key, -, -, rfl⟩ | ⟨key, -, rfl⟩ :=
        stepWorker_eq_some hstep
      · exact hroom
      · rw [(QueueSystem.recv_eq_some hrecv).1, List.length_cons] at hroom
        exact Nat.le_of_succ_le hroom
      · exact hroom
      · exact hroom
  | reconciled i ok =>
      obtain ⟨key, -, rfl⟩ := step_reconciled_eq_some hstep
      exact hroom

/-- **Without new events the tasks come to rest, with every key done.**  From any reachable state,
a run without new events has a bounded length; where it cannot go on, nothing is in flight any
more; and on the way every key that waited or was accepted was handed to a worker once. -/
theorem settles [Fintype ε] [Fintype ι] [Nonempty ι] {buffer : ℕ} (hbuffer : 0 < buffer)
    {s : Tasks ε ι} (h : Transition.Reachable step Transition.Always (start buffer) s) :
    (∀ ls s', Transition.Guarded step Internal s ls → Transition.run step s ls = some s' →
      ls.length ≤ 8 * Fintype.card ε + 5 * buffer + 4 * Fintype.card ι ∧
      (Transition.AtRest step Internal s' →
        s'.Settled ∧ (s.handedOutIn ls).Perm (s.waiting ++ s.acceptedIn ls))) ∧
    ∃ ls s', Transition.Guarded step Internal s ls ∧ Transition.run step s ls = some s' ∧
      Transition.AtRest step Internal s' := by
  have hlowers : ∀ (s : Tasks ε ι) l s', Internal s l → s.step l = some s' → s'.work < s.work :=
    fun _ _ _ => work_lt
  refine ⟨fun ls s' hinternal hrun => ?_, Transition.exists_run_atRest hlowers s⟩
  obtain ⟨hcapacity, hroom⟩ := room_of_reachable h
  constructor
  · have hlength : ls.length + s'.work ≤ s.work :=
      Transition.length_add_rank_le hlowers hinternal hrun
    have hwork := work_le hroom
    rw [hcapacity] at hwork
    omega
  · intro hrest
    have hinv := inv_of_reachable h
    have hreachable' : Transition.Reachable step Transition.Always (start buffer) s' :=
      h.trans (Transition.reachable_of_run (Transition.guarded_always ls s) hrun)
    have hinv' := inv_of_reachable hreachable'
    have hsettled : s'.Settled := by
      refine settled_of_atRest hinv' ?_ hrest
      rw [(room_of_reachable hreachable').1]
      exact hbuffer
    refine ⟨hsettled, ?_⟩
    have hkeys := waiting_run hinv.queue hrun
    rw [hsettled.waiting hinv'.sends, List.append_nil] at hkeys
    exact hkeys.symm

theorem settles_two_calls : ∃ s : Tasks (Fin 2) (Fin 2), s.worker 1 = .reconciling webKey ∧
    ∃ ls s', Transition.run step s ls = some s' ∧ ls.length ≤ 29 ∧ s'.Settled := by
  obtain ⟨s, hreachable, hworker⟩ := run_twoCalls
  obtain ⟨hall, ls, s', hinternal, hrun, hrest⟩ := settles Nat.one_pos hreachable
  obtain ⟨hlength, hend⟩ := hall ls s' hinternal hrun
  exact ⟨s, hworker, ls, s', hrun, hlength, (hend hrest).1⟩

/-- **Keys are handed out in the order in which they were sent, each as often as it was
accepted.**  This holds of every run of the calls and the workers, with events arriving all the
time: what the workers have received, followed by the channel, is what was sent; with the pending
calls of `send` it is what was accepted. -/
theorem handed_out_in_order {buffer : ℕ} {ls : List (TaskLabel ε ι)} {s : Tasks ε ι}
    (h : Transition.run step (start buffer) ls = some s) :
    (start buffer : Tasks ε ι).sentIn ls =
      (start buffer : Tasks ε ι).handedOutIn ls ++ s.queue.channel ∧
    ((start buffer : Tasks ε ι).acceptedIn ls).Perm
      ((start buffer : Tasks ε ι).handedOutIn ls ++ s.waiting) := by
  have hstart : (start buffer : Tasks ε ι).toQueueSystem.Inv := by
    rw [toQueueSystem_start]
    exact QueueSystem.inv_start buffer
  exact ⟨channel_run hstart h, waiting_run hstart h⟩

theorem handed_out_in_order_two_calls : ∃ s : Tasks (Fin 2) (Fin 2),
    Transition.run step (start 1) twoCalls = some s ∧
      (start 1 : Tasks (Fin 2) (Fin 2)).handedOutIn twoCalls = [webKey] ∧
      (start 1 : Tasks (Fin 2) (Fin 2)).sentIn twoCalls = [webKey] ++ s.queue.channel := by
  obtain ⟨s, hrun, -⟩ : ∃ s : Tasks (Fin 2) (Fin 2),
      Transition.run step (start 1) twoCalls = some s ∧ s.worker 1 = .reconciling webKey :=
    Option.map_eq_some_iff.mp (by decide)
  have hkeys : (start 1 : Tasks (Fin 2) (Fin 2)).handedOutIn twoCalls = [webKey] := by decide
  obtain ⟨horder, -⟩ := handed_out_in_order hrun
  rw [hkeys] at horder
  exact ⟨s, hrun, hkeys, horder⟩

end Tasks

end IdentityFederation
