import Mathlib.Algebra.BigOperators.Group.List.Basic
import Mathlib.Algebra.Ring.Nat
import Mathlib.Order.Nat
import IdentityFederation.Framework.Process

/-!
# The pace of a process

How often does a process send certain requests?  A **meter** prices the requests, reads a clock off
the state and has a capacity.  A program *keeps pace* when it pays for its requests from a credit
that grows by what the clock goes on while a request is served, but not beyond the capacity:

* `Program.KeepsPace` is the triple of a program with its credit, with the rules
  `KeepsPace.mono`, `KeepsPace.bind` and `keepsPace_of_free`, for programs that send nothing
  that has a price;
* `Service.spent_le` speaks of all runs, with any number of stops and starts: if every program that
  is started keeps pace from a full credit, what a run pays for is bounded by what the clock has
  gone on, the credit at its beginning, and a full credit for each start.
-/

namespace Interaction

universe u v w

/-- What requests cost, and what there is to pay for them. -/
structure Meter (Q : Type u) (σ : Type*) where
  price : Q → ℕ
  clock : σ → ℕ
  capacity : ℕ

namespace Program

variable {Q : Type u} {R : Q → Type v} {α β : Type w} {σ mode : Type*}

/-- Started with this credit, the program can pay for every request that it sends, and it returns
`a` only with a credit that meets `post a`. -/
def KeepsPace (serve : mode → σ → (q : Q) → R q × σ) (allowed : σ → Q → mode → Prop)
    (M : Meter Q σ) (post : α → ℕ → Prop) : Program Q R α → ℕ → σ → Prop
  | .ret a, credit, _ => post a credit
  | .call q k, credit, s => M.price q ≤ credit ∧ ∀ m, allowed s q m →
      (k (serve m s q).1).KeepsPace serve allowed M post
        (min M.capacity (credit - M.price q + (M.clock (serve m s q).2 - M.clock s)))
        (serve m s q).2

variable {serve : mode → σ → (q : Q) → R q × σ} {allowed : σ → Q → mode → Prop} {M : Meter Q σ}
  {post : α → ℕ → Prop} {p : Program Q R α} {credit : ℕ} {s : σ}

/-- When the next request was served, a credit within the capacity is enough for the rest. -/
lemma KeepsPace.next {q : Q} {k : R q → Program Q R α} {m : mode}
    (h : (Program.call q k).KeepsPace serve allowed M post credit s) (hm : allowed s q m) :
    ∃ credit' ≤ M.capacity, (k (serve m s q).1).KeepsPace serve allowed M post credit'
      (serve m s q).2 :=
  ⟨_, min_le_left _ _, h.2 m hm⟩

lemma KeepsPace.mono {post' : α → ℕ → Prop} (h : p.KeepsPace serve allowed M post credit s)
    (hpost : ∀ a c, post a c → post' a c) : p.KeepsPace serve allowed M post' credit s := by
  induction p generalizing credit s with
  | ret a => exact hpost a _ h
  | call q k ih => exact ⟨h.1, fun m hm => ih _ (h.2 m hm)⟩

/-- The sequencing rule: the second program keeps pace from every credit, on every state, that the
first one can return with. -/
lemma KeepsPace.bind {post' : β → ℕ → Prop} {f : α → Program Q R β}
    (h : p.KeepsPace serve allowed M
      (fun a credit => ∀ s, (f a).KeepsPace serve allowed M post' credit s) credit s) :
    (p >>= f).KeepsPace serve allowed M post' credit s := by
  induction p generalizing credit s with
  | ret a => exact h s
  | call q k ih => exact ⟨h.1, fun m hm => ih _ (h.2 m hm)⟩

/-- A program whose requests are all free keeps pace, whatever the credit. -/
lemma keepsPace_of_free (h : p.Sends fun q => M.price q = 0) (hpost : ∀ a c, post a c) :
    p.KeepsPace serve allowed M post credit s := by
  induction p generalizing credit s with
  | ret a => exact hpost a credit
  | call q k ih => exact ⟨h.1 ▸ Nat.zero_le _, fun m _ => ih _ (h.2 _)⟩

end Program

/-! ## Runs -/

namespace Service

variable {Q : Type u} {R : Q → Type v} {ι σ mode : Type*} {α : Type w}
variable (sv : Service Q R ι σ mode α)

/-- The request that a step serves. -/
def served (p : Process Q R σ α) : Happening ι mode → List Q
  | .start _ => []
  | .serve _ => (p.program.bind Program.next).toList

/-- The requests that are served in a run, in order. -/
def sent (p : Process Q R σ α) (ls : List (Happening ι mode)) : List Q :=
  Transition.outputs sv.step served p ls

/-- How many starts there are. -/
def starts : List (Happening ι mode) → ℕ
  | [] => 0
  | .start _ :: ls => starts ls + 1
  | .serve _ :: ls => starts ls

variable {sv}

lemma sent_start (p : Process Q R σ α) (i : ι) (ls : List (Happening ι mode)) :
    sv.sent p (.start i :: ls) =
      sv.sent { shared := sv.reset p.shared, program := some (sv.boot i) } ls := rfl

lemma sent_serve {p p' : Process Q R σ α} {m : mode} {q : Q} {k : R q → Program Q R α}
    (hcall : p.program = some (.call q k)) (hstep : sv.step p (.serve m) = some p')
    (ls : List (Happening ι mode)) : sv.sent p (.serve m :: ls) = q :: sv.sent p' ls := by
  unfold sent
  rw [Transition.outputs_cons hstep, served, hcall]
  rfl

variable {M : Meter Q σ} {post : α → ℕ → Prop}

/-- **A process that keeps pace pays with time.**  The price of what a run sends is covered by what
the clock has gone on, the credit at its beginning, and a full credit for each start. -/
theorem spent_le (hclock : ∀ m s q, M.clock s ≤ M.clock (sv.serve m s q).2)
    (hreset : ∀ s, M.clock s ≤ M.clock (sv.reset s))
    (hboot : ∀ i s, (sv.boot i).KeepsPace sv.serve sv.allowed M post M.capacity s)
    {p p' : Process Q R σ α} {credit : ℕ}
    (hprog : ∀ prog ∈ p.program, prog.KeepsPace sv.serve sv.allowed M post credit p.shared)
    {ls : List (Happening ι mode)} (hguard : Transition.Guarded sv.step sv.Guard p ls)
    (hrun : Transition.run sv.step p ls = some p') :
    ((sv.sent p ls).map M.price).sum + M.clock p.shared ≤
      M.clock p'.shared + credit + starts ls * M.capacity := by
  suffices key : M.clock p.shared ≤ M.clock p'.shared ∧
      ((sv.sent p ls).map M.price).sum + M.clock p.shared ≤
        M.clock p'.shared + credit + starts ls * M.capacity from key.2
  induction ls generalizing p credit with
  | nil =>
      obtain rfl := Option.some.inj hrun
      refine ⟨le_rfl, ?_⟩
      simp [sent, Transition.outputs]
      omega
  | cons l ls ih =>
      obtain ⟨p₁, hstep, hrest⟩ := Option.bind_eq_some_iff.mp hrun
      have hguarded := hguard.2 p₁ hstep
      cases l with
      | start i =>
          obtain rfl := Option.some.inj hstep
          obtain ⟨hle, hspent⟩ := @ih _ M.capacity
            (fun prog hprog => Option.some.inj hprog ▸ hboot i _) hguarded hrest
          have hback := hreset p.shared
          refine ⟨hback.trans hle, ?_⟩
          rw [sent_start, starts, Nat.succ_mul]
          simp only at hspent
          omega
      | serve m =>
          obtain ⟨q, k, hcall, hshared, hnext⟩ := step_serve hstep
          obtain ⟨hprice, hlater⟩ := hprog _ hcall
          obtain ⟨hle, hspent⟩ := ih (p := p₁) (fun prog hprog => by
            obtain rfl := Option.some.inj (hnext.symm.trans hprog)
            rw [hshared]
            exact hlater m (hguard.1 q k hcall)) hguarded hrest
          rw [hshared] at hle hspent
          have hforth := hclock m p.shared q
          refine ⟨hforth.trans hle, ?_⟩
          rw [sent_serve hcall hstep, starts, List.map_cons, List.sum_cons]
          omega

/-- At every moment of such a run some credit within the capacity is enough for what is left of the
program. -/
theorem exists_credit
    (hboot : ∀ i s, (sv.boot i).KeepsPace sv.serve sv.allowed M post M.capacity s) {s : σ}
    {p : Process Q R σ α} (h : Transition.Reachable sv.step sv.Guard (off s) p) :
    ∃ credit ≤ M.capacity, ∀ prog ∈ p.program,
      prog.KeepsPace sv.serve sv.allowed M post credit p.shared := by
  refine h.invariant (I := fun p => ∃ credit ≤ M.capacity, ∀ prog ∈ p.program,
    prog.KeepsPace sv.serve sv.allowed M post credit p.shared) ⟨0, Nat.zero_le _, nofun⟩ ?_
  rintro p (i | m) p' ⟨credit, -, hprog⟩ hguard hstep
  · obtain rfl := Option.some.inj hstep
    exact ⟨_, le_rfl, fun prog hprog => Option.some.inj hprog ▸ hboot i _⟩
  · obtain ⟨q, k, hcall, hshared, hnext⟩ := step_serve hstep
    obtain ⟨credit', hle, hlater⟩ := (hprog _ hcall).next (hguard q k hcall)
    refine ⟨credit', hle, fun prog hprog' => ?_⟩
    obtain rfl := Option.some.inj (hnext.symm.trans hprog')
    rw [hshared]
    exact hlater

end Service

end Interaction
