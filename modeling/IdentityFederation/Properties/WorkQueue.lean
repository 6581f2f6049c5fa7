import Mathlib.Data.List.Perm.Basic
import IdentityFederation.Webhook.Queue

/-!
# Where a key is

The queue together with the keys that workers hold between `recv` and `done`.  Any number of
`enqueue` calls may be pending, and the steps come in any order.

The invariant (`QueueSystem.Inv`) is that `inFlight` is the set of the keys that wait in a
pending `send`, wait in the channel or are held by a worker, and that every key is in one place
only; no two workers ever hold the same key.
-/

namespace IdentityFederation

structure QueueSystem (ι : Type) where
  queue : Queue
  held : ι → Option Key

inductive QueueLabel (ι : Type) where
  | enqueue (key : Key)
  | send (key : Key)
  | recv (i : ι)
  | done (i : ι)

namespace QueueSystem

variable {ι : Type}

def step [DecidableEq ι] (s : QueueSystem ι) : QueueLabel ι → Option (QueueSystem ι)
  | .enqueue key => some { s with queue := s.queue.enqueue key }
  | .send key => (s.queue.send key).map fun queue => { s with queue := queue }
  | .recv i =>
      match s.held i, s.queue.recv with
      | none, some (key, queue) =>
          some { queue := queue, held := Function.update s.held i (some key) }
      | _, _ => none
  | .done i =>
      match s.held i with
      | some key =>
          some { queue := s.queue.done key, held := Function.update s.held i none }
      | none => none

/-- An open queue with nothing in it. -/
def start (buffer : ℕ) : QueueSystem ι where
  queue := Queue.new buffer
  held := fun _ => none

/-- A worker holds the key. -/
def Held (s : QueueSystem ι) (key : Key) : Prop := ∃ i, s.held i = some key

structure Inv (s : QueueSystem ι) : Prop where
  isOpen : s.queue.closed = false
  inFlight : ∀ key, key ∈ s.queue.inFlight ↔ s.queue.Waiting key ∨ s.Held key
  nodup : (s.queue.sending ++ s.queue.channel).Nodup
  exclusive : ∀ key, s.Held key → ¬ s.queue.Waiting key
  unique : ∀ i j key, s.held i = some key → s.held j = some key → i = j

lemma inv_start (buffer : ℕ) : Inv (start buffer : QueueSystem ι) where
  isOpen := rfl
  inFlight := by simp [start, Queue.new, Queue.Waiting, Held]
  nodup := .nil
  exclusive := by simp [start, Held]
  unique := by simp [start]

/-! ## One lemma for each step -/

lemma waiting_iff {q : Queue} {key : Key} : q.Waiting key ↔ key ∈ q.sending ++ q.channel :=
  List.mem_append.symm

/-- What a `send` on an open channel does: the key moves to the end of the channel. -/
lemma send_eq_some {q q' : Queue} {key : Key} (hopen : q.closed = false)
    (h : q.send key = some q') :
    key ∈ q.sending ∧ q.channel.length < q.capacity ∧
      q' = { q with sending := q.sending.erase key, channel := q.channel ++ [key] } := by
  unfold Queue.send at h
  split at h
  · cases h
  rename_i hmem
  rw [if_neg (by simp [hopen])] at h
  split at h
  · rename_i hroom
    exact ⟨by simpa using hmem, hroom, (Option.some.inj h).symm⟩
  · cases h

/-- What a `recv` does: it takes the first key of the channel. -/
lemma recv_eq_some {q q' : Queue} {key : Key} (h : q.recv = some (key, q')) :
    q.channel = key :: q'.channel ∧ q'.sending = q.sending ∧ q'.inFlight = q.inFlight ∧
      q'.closed = q.closed ∧ q'.capacity = q.capacity := by
  unfold Queue.recv at h
  split at h
  · cases h
  · rename_i key' rest hchannel
    obtain ⟨rfl, rfl⟩ := Prod.mk.inj (Option.some.inj h)
    exact ⟨hchannel, rfl, rfl, rfl, rfl⟩

lemma waiting_enqueue {q : Queue} {key : Key} (k : Key) (h : q.Waiting k) :
    (q.enqueue key).Waiting k := by
  unfold Queue.enqueue
  split
  · exact h
  · rcases h with h | h
    · exact .inl (List.mem_append_left _ h)
    · exact .inr h

lemma perm_send {q q' : Queue} {key : Key} (hopen : q.closed = false)
    (h : q.send key = some q') : (q'.sending ++ q'.channel).Perm (q.sending ++ q.channel) := by
  obtain ⟨hmem, -, rfl⟩ := send_eq_some hopen h
  rw [← List.append_assoc]
  refine (List.perm_append_comm).trans ?_
  exact (List.perm_cons_erase hmem).symm.append_right q.channel

/-- A `send` moves a key from one waiting place to the other. -/
lemma waiting_send {q q' : Queue} {key : Key} (hopen : q.closed = false)
    (h : q.send key = some q') (k : Key) : q'.Waiting k ↔ q.Waiting k := by
  rw [waiting_iff, waiting_iff, (perm_send hopen h).mem_iff]

lemma waiting_recv {q q' : Queue} {key : Key} (h : q.recv = some (key, q')) (k : Key) :
    q.Waiting k ↔ k = key ∨ q'.Waiting k := by
  obtain ⟨hchannel, hsending, -⟩ := recv_eq_some h
  simp only [Queue.Waiting, hchannel, hsending, List.mem_cons]
  tauto

lemma Inv.enqueue {s : QueueSystem ι} (hs : s.Inv) (key : Key) :
    Inv { s with queue := s.queue.enqueue key } := by
  unfold Queue.enqueue
  split
  · exact hs
  rename_i hnew
  have hfree : ¬ s.queue.Waiting key ∧ ¬ s.Held key := by
    rwa [hs.inFlight, not_or] at hnew
  constructor
  case isOpen => exact hs.isOpen
  case inFlight =>
    intro k
    have := hs.inFlight k
    simp only [Finset.mem_insert, Queue.Waiting, List.mem_append, List.mem_singleton, Held] at this ⊢
    rw [this]
    tauto
  case nodup =>
    have hperm : (s.queue.sending ++ [key] ++ s.queue.channel).Perm
        (key :: (s.queue.sending ++ s.queue.channel)) := by
      rw [List.append_assoc]
      exact List.perm_middle
    refine hperm.nodup_iff.mpr (List.nodup_cons.mpr ⟨?_, hs.nodup⟩)
    exact fun hmem => hfree.1 (waiting_iff.mpr hmem)
  case exclusive =>
    intro k hk hwait
    simp only [Queue.Waiting, List.mem_append, List.mem_singleton] at hwait
    rcases hwait with (hwait | rfl) | hwait
    · exact hs.exclusive k hk (.inl hwait)
    · exact hfree.2 hk
    · exact hs.exclusive k hk (.inr hwait)
  case unique => exact hs.unique

lemma Inv.send {s : QueueSystem ι} (hs : s.Inv) {key : Key} {queue : Queue}
    (h : s.queue.send key = some queue) : Inv { s with queue := queue } := by
  have hwait := waiting_send hs.isOpen h
  have hperm := perm_send hs.isOpen h
  obtain ⟨-, -, rfl⟩ := send_eq_some hs.isOpen h
  exact
    { isOpen := hs.isOpen
      inFlight := fun k => by rw [hwait]; exact hs.inFlight k
      nodup := hperm.nodup_iff.mpr hs.nodup
      exclusive := fun k hk => by rw [hwait]; exact hs.exclusive k hk
      unique := hs.unique }

variable [DecidableEq ι]

/-- A free worker takes a key. -/
lemma held_take {s : QueueSystem ι} {i : ι} (hi : s.held i = none) (queue : Queue) (key k : Key) :
    Held { queue := queue, held := Function.update s.held i (some key) } k ↔
      k = key ∨ s.Held k := by
  constructor
  · rintro ⟨j, hj⟩
    by_cases hji : j = i
    · subst hji
      exact .inl (by simpa using hj.symm)
    · exact .inr ⟨j, by simpa [Function.update_of_ne hji] using hj⟩
  · rintro (rfl | ⟨j, hj⟩)
    · exact ⟨i, Function.update_self ..⟩
    · refine ⟨j, ?_⟩
      have hji : j ≠ i := by
        rintro rfl
        simp [hi] at hj
      simpa [Function.update_of_ne hji] using hj

/-- A worker releases its key, which no other worker holds. -/
lemma Inv.held_release {s : QueueSystem ι} (hs : s.Inv) {i : ι} {key : Key}
    (hi : s.held i = some key) (queue : Queue) (k : Key) :
    Held { queue := queue, held := Function.update s.held i none } k ↔ k ≠ key ∧ s.Held k := by
  constructor
  · rintro ⟨j, hj⟩
    have hji : j ≠ i := by
      rintro rfl
      simp at hj
    have hheld : s.held j = some k := by simpa [Function.update_of_ne hji] using hj
    refine ⟨?_, j, hheld⟩
    rintro rfl
    exact hji (hs.unique j i k hheld hi)
  · rintro ⟨hne, j, hj⟩
    have hji : j ≠ i := by
      rintro rfl
      exact hne (Option.some.inj (hj.symm.trans hi))
    exact ⟨j, by simpa [Function.update_of_ne hji] using hj⟩

lemma Inv.recv {s : QueueSystem ι} (hs : s.Inv) {i : ι} {key : Key} {queue : Queue}
    (hi : s.held i = none) (h : s.queue.recv = some (key, queue)) :
    Inv { queue := queue, held := Function.update s.held i (some key) } := by
  obtain ⟨hchannel, hsending, hinFlight, hclosed, -⟩ := recv_eq_some h
  have hnodup := hs.nodup
  rw [hchannel] at hnodup
  obtain ⟨hkey, hrest⟩ := List.nodup_cons.mp (List.perm_middle.nodup_iff.mp hnodup)
  have hwait := waiting_recv h
  have hkeyFree : ¬ s.Held key := fun hheld =>
    hs.exclusive key hheld ((hwait key).mpr (.inl rfl))
  constructor
  case isOpen => exact hclosed.trans hs.isOpen
  case inFlight =>
    intro k
    rw [held_take hi, hinFlight, hs.inFlight, hwait]
    tauto
  case nodup => rwa [hsending]
  case exclusive =>
    intro k hk hk'
    rcases (held_take hi ..).mp hk with rfl | hk
    · exact hkey (hsending ▸ waiting_iff.mp hk')
    · exact hs.exclusive k hk ((hwait k).mpr (.inr hk'))
  case unique =>
    intro j j' k hj hj'
    simp only [Function.update_apply] at hj hj'
    split at hj <;> split at hj'
    · simp_all
    · obtain rfl := Option.some.inj hj
      exact absurd ⟨j', hj'⟩ hkeyFree
    · obtain rfl := Option.some.inj hj'
      exact absurd ⟨j, hj⟩ hkeyFree
    · exact hs.unique j j' k hj hj'

lemma Inv.done {s : QueueSystem ι} (hs : s.Inv) {i : ι} {key : Key} (hi : s.held i = some key) :
    Inv { queue := s.queue.done key, held := Function.update s.held i none } := by
  constructor
  case isOpen => exact hs.isOpen
  case inFlight =>
    intro k
    have hexclusive : k = key → ¬ s.queue.Waiting k := by
      rintro rfl
      exact hs.exclusive k ⟨i, hi⟩
    rw [hs.held_release hi]
    simp only [Queue.done, Finset.mem_erase, hs.inFlight]
    constructor
    · rintro ⟨hne, hwait | hk⟩
      · exact .inl hwait
      · exact .inr ⟨hne, hk⟩
    · rintro (hwait | ⟨hne, hk⟩)
      · exact ⟨fun heq => hexclusive heq hwait, .inl hwait⟩
      · exact ⟨hne, .inr hk⟩
  case nodup => exact hs.nodup
  case exclusive =>
    intro k hk
    exact hs.exclusive k ((hs.held_release hi ..).mp hk).2
  case unique =>
    intro j j' k hj hj'
    simp only [Function.update_apply] at hj hj'
    split at hj <;> split at hj'
    · simp_all
    · cases hj
    · cases hj'
    · exact hs.unique j j' k hj hj'

/-- **The invariant is preserved by every step.** -/
theorem inv_step {s s' : QueueSystem ι} {l : QueueLabel ι} (hs : s.Inv) (h : s.step l = some s') :
    s'.Inv := by
  cases l with
  | enqueue key =>
      obtain rfl := Option.some.inj h
      exact hs.enqueue key
  | send key =>
      obtain ⟨queue, hsend, rfl⟩ := Option.map_eq_some_iff.mp h
      exact hs.send hsend
  | recv i =>
      simp only [step] at h
      split at h
      · rename_i hi hrecv
        obtain rfl := Option.some.inj h
        exact hs.recv hi hrecv
      · cases h
  | done i =>
      simp only [step] at h
      split at h
      · rename_i hi
        obtain rfl := Option.some.inj h
        exact hs.done hi
      · cases h

end QueueSystem

end IdentityFederation
