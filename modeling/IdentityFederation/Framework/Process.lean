import IdentityFederation.Framework.Interaction
import IdentityFederation.Framework.Transition

/-!
# Processes that stop anywhere

A **process** runs request programs one after another on a state that outlives it.  It can stop
at any point, in the middle of a program too, and is then started with another program on what is
left of the state.

What such a process keeps true at every moment is a *crash condition*.  `Program.Survives` is the
triple of a program with its crash condition: the condition holds whenever a request is about to
be sent and when the program returns, and on return the postcondition holds as well.  It is
proved of a program along its structure, with the rules `Survives.bind` and `Survives.run_bind`.

`Service.reachable_survives` then speaks of all runs.  When every program that is started survives
from every state that meets the crash condition, the condition holds at every moment, for any
number of stops and starts (`reachable_crash`), and the postcondition holds whenever the process
has returned (`reachable_returned`).

`Program.Respects` is the triple of a program with a condition for each request: the condition of
a request holds whenever that request is about to be sent.  So it says where in the program the
process is, and what holds there (`Service.reachable_respects`).

`allowed` restricts how the requests are served.
-/

namespace Interaction

universe u v w

namespace Program

variable {Q : Type u} {R : Q → Type v} {α β : Type w} {σ mode : Type*}

/-- Started in the state at hand, the program meets `crash` at every moment, and returns a value
`a` only in a state that meets `post a`. -/
def Survives (serve : mode → σ → (q : Q) → R q × σ) (allowed : σ → Q → mode → Prop)
    (crash : σ → Prop) (post : α → σ → Prop) : Program Q R α → σ → Prop
  | .ret a, s => crash s ∧ post a s
  | .call q k, s => crash s ∧ ∀ m, allowed s q m →
      (k (serve m s q).1).Survives serve allowed crash post (serve m s q).2

variable {serve : mode → σ → (q : Q) → R q × σ} {allowed : σ → Q → mode → Prop}
  {crash : σ → Prop} {post : α → σ → Prop} {p : Program Q R α} {s : σ}

lemma Survives.now (h : p.Survives serve allowed crash post s) : crash s := by
  cases p with
  | ret a => exact h.1
  | call q k => exact h.1

lemma Survives.mono {crash' : σ → Prop} {post' : α → σ → Prop}
    (h : p.Survives serve allowed crash post s) (hcrash : ∀ s, crash s → crash' s)
    (hpost : ∀ a s, crash s → post a s → post' a s) :
    p.Survives serve allowed crash' post' s := by
  induction p generalizing s with
  | ret a => exact ⟨hcrash s h.1, hpost a s h.1 h.2⟩
  | call q k ih => exact ⟨hcrash s h.1, fun m hm => ih _ (h.2 m hm)⟩

lemma Survives.bind {post' : β → σ → Prop} {f : α → Program Q R β}
    (h : p.Survives serve allowed crash
      (fun a s => (f a).Survives serve allowed crash post' s) s) :
    (p >>= f).Survives serve allowed crash post' s := by
  induction p generalizing s with
  | ret a => exact h.2
  | call q k ih => exact ⟨h.1, fun m hm => ih _ (h.2 m hm)⟩

/-- The sequencing rule for programs that stop at the first error: an error is returned as it
is. -/
lemma Survives.run_bind {ε : Type w} {post' : Except ε β → σ → Prop}
    {p : ExceptT ε (Program Q R) α} {f : α → ExceptT ε (Program Q R) β}
    (h : p.run.Survives serve allowed crash
      (fun res s => match res with
        | .ok a => (f a).run.Survives serve allowed crash post' s
        | .error e => post' (.error e) s) s) :
    (p >>= f).run.Survives serve allowed crash post' s := by
  rw [ExceptT.run_bind]
  refine (h.mono (fun s hs => hs) fun res s hs hres => ?_).bind
  cases res with
  | ok a => exact hres
  | error e => exact ⟨hs, hres⟩

/-- Started in the state at hand, the program sends a request `q` only in a state that meets
`pre q`, and returns a value `a` only in a state that meets `post a`. -/
def Respects (serve : mode → σ → (q : Q) → R q × σ) (allowed : σ → Q → mode → Prop)
    (pre : Q → σ → Prop) (post : α → σ → Prop) : Program Q R α → σ → Prop
  | .ret a, s => post a s
  | .call q k, s => pre q s ∧ ∀ m, allowed s q m →
      (k (serve m s q).1).Respects serve allowed pre post (serve m s q).2

variable {pre : Q → σ → Prop}

lemma Respects.mono {post' : α → σ → Prop} (h : p.Respects serve allowed pre post s)
    (hpost : ∀ a s, post a s → post' a s) : p.Respects serve allowed pre post' s := by
  induction p generalizing s with
  | ret a => exact hpost a s h
  | call q k ih => exact ⟨h.1, fun m hm => ih _ (h.2 m hm)⟩

lemma Respects.bind {post' : β → σ → Prop} {f : α → Program Q R β}
    (h : p.Respects serve allowed pre
      (fun a s => (f a).Respects serve allowed pre post' s) s) :
    (p >>= f).Respects serve allowed pre post' s := by
  induction p generalizing s with
  | ret a => exact h
  | call q k ih => exact ⟨h.1, fun m hm => ih _ (h.2 m hm)⟩

/-- The sequencing rule of `Respects` for programs that stop at the first error. -/
lemma Respects.run_bind {ε : Type w} {post' : Except ε β → σ → Prop}
    {p : ExceptT ε (Program Q R) α} {f : α → ExceptT ε (Program Q R) β}
    (h : p.run.Respects serve allowed pre
      (fun res s => match res with
        | .ok a => (f a).run.Respects serve allowed pre post' s
        | .error e => post' (.error e) s) s) :
    (p >>= f).run.Respects serve allowed pre post' s := by
  rw [ExceptT.run_bind]
  refine (h.mono fun res s hres => ?_).bind
  cases res with
  | ok a => exact hres
  | error e => exact hres

end Program

/-! ## Stops and starts -/

/-- A process: the state it works on, and the program it runs, once it was started. -/
structure Process (Q : Type u) (R : Q → Type v) (σ : Type*) (α : Type w) where
  shared : σ
  program : Option (Program Q R α)

/-- What becomes of a process. -/
inductive Happening (ι mode : Type*) where
  /-- It stops, if it was running, and is started with program `i`. -/
  | start (i : ι)
  /-- Its next request is served. -/
  | serve (m : mode)

/-- The programs of a process, what serves them, and what a stop leaves of the state. -/
structure Service (Q : Type u) (R : Q → Type v) (ι σ mode : Type*) (α : Type w) where
  serve : mode → σ → (q : Q) → R q × σ
  allowed : σ → Q → mode → Prop
  boot : ι → Program Q R α
  reset : σ → σ

namespace Service

variable {Q : Type u} {R : Q → Type v} {ι σ mode : Type*} {α : Type w}
variable (sv : Service Q R ι σ mode α)

def step (p : Process Q R σ α) : Happening ι mode → Option (Process Q R σ α)
  | .start i => some { shared := sv.reset p.shared, program := some (sv.boot i) }
  | .serve m =>
      match p.program with
      | some (.call q k) =>
          some { shared := (sv.serve m p.shared q).2
                 program := some (k (sv.serve m p.shared q).1) }
      | _ => none

/-- The requests of the process are served in the ways that are allowed. -/
def Guard (p : Process Q R σ α) : Happening ι mode → Prop
  | .start _ => True
  | .serve m => ∀ q k, p.program = some (.call q k) → sv.allowed p.shared q m

/-- The process before its first start. -/
def off (s : σ) : Process Q R σ α := { shared := s, program := none }

variable {sv}

/-- A step that serves a request. -/
lemma step_serve {p p' : Process Q R σ α} {m : mode} (h : sv.step p (.serve m) = some p') :
    ∃ q k, p.program = some (.call q k) ∧ p'.shared = (sv.serve m p.shared q).2 ∧
      p'.program = some (k (sv.serve m p.shared q).1) := by
  obtain ⟨shared, program⟩ := p
  match program with
  | none => cases h
  | some (.ret a) => cases h
  | some (.call q k) =>
      obtain rfl := Option.some.inj h
      exact ⟨q, k, rfl, rfl, rfl⟩

/-- What serving a request and stopping do to the state, up to a preorder, a run does. -/
lemma reachable_preorder (r : σ → σ → Prop) (hrefl : ∀ s, r s s)
    (htrans : ∀ s₁ s₂ s₃, r s₁ s₂ → r s₂ s₃ → r s₁ s₃) (hserve : ∀ s q m, r s (sv.serve m s q).2)
    (hreset : ∀ s, r s (sv.reset s)) {p p' : Process Q R σ α}
    (h : Transition.Reachable sv.step sv.Guard p p') : r p.shared p'.shared := by
  refine h.invariant (I := fun p' => r p.shared p'.shared) (hrefl _) ?_
  rintro p₁ (i | m) p₂ h₁ - hstep
  · obtain rfl := Option.some.inj hstep
    exact htrans _ _ _ h₁ (hreset _)
  · obtain ⟨q, k, -, hshared, -⟩ := step_serve hstep
    rw [hshared]
    exact htrans _ _ _ h₁ (hserve _ q m)

variable {crash : σ → Prop} {post : α → σ → Prop}

/-- **The crash condition holds at every moment**, and what the process runs survives from where
it is. -/
theorem reachable_survives
    (hboot : ∀ i s, crash s → (sv.boot i).Survives sv.serve sv.allowed crash post (sv.reset s))
    {p₀ : Process Q R σ α} (hs : crash p₀.shared)
    (hprog : ∀ prog ∈ p₀.program, prog.Survives sv.serve sv.allowed crash post p₀.shared)
    {p : Process Q R σ α} (h : Transition.Reachable sv.step sv.Guard p₀ p) :
    crash p.shared ∧ ∀ prog ∈ p.program,
      prog.Survives sv.serve sv.allowed crash post p.shared := by
  refine h.invariant (I := fun p => crash p.shared ∧ ∀ prog ∈ p.program,
    prog.Survives sv.serve sv.allowed crash post p.shared) ⟨hs, hprog⟩ ?_
  rintro p (i | m) p' ⟨hcrash, hprogram⟩ hguard hstep
  · obtain rfl := Option.some.inj hstep
    have hsurvives := hboot i p.shared hcrash
    refine ⟨hsurvives.now, fun prog hprog => ?_⟩
    obtain rfl := Option.some.inj hprog
    exact hsurvives
  · obtain ⟨q, k, hcall, hshared, hnext⟩ := step_serve hstep
    have hsurvives := (hprogram _ hcall).2 m (hguard q k hcall)
    rw [hshared, hnext]
    refine ⟨hsurvives.now, fun prog hprog => ?_⟩
    obtain rfl := Option.some.inj hprog
    exact hsurvives

lemma off_survives (s : σ) : ∀ prog ∈ (off s : Process Q R σ α).program,
    prog.Survives sv.serve sv.allowed crash post s := nofun

/-- From the first start on, the crash condition holds at every moment. -/
theorem reachable_crash
    (hboot : ∀ i s, crash s → (sv.boot i).Survives sv.serve sv.allowed crash post (sv.reset s))
    {s : σ} (hs : crash s) {p : Process Q R σ α}
    (h : Transition.Reachable sv.step sv.Guard (off s) p) : crash p.shared :=
  (reachable_survives hboot hs (off_survives s) h).1

/-- The postcondition, when the process has returned. -/
theorem reachable_returned
    (hboot : ∀ i s, crash s → (sv.boot i).Survives sv.serve sv.allowed crash post (sv.reset s))
    {s : σ} (hs : crash s) {p : Process Q R σ α}
    (h : Transition.Reachable sv.step sv.Guard (off s) p) {a : α}
    (ha : p.program = some (.ret a)) : post a p.shared :=
  ((reachable_survives hboot hs (off_survives s) h).2 _ ha).2

/-- A process that was not started is in the state it began in. -/
lemma shared_of_not_started {s : σ} {p : Process Q R σ α}
    (h : Transition.Reachable sv.step sv.Guard (off s) p) (hnone : p.program = none) :
    p.shared = s := by
  refine h.invariant (I := fun p => p.program = none → p.shared = s) (fun _ => rfl) ?_ hnone
  rintro p (i | m) p' - - hstep hnone
  · obtain rfl := Option.some.inj hstep
    cases hnone
  · obtain ⟨q, k, -, -, hnext⟩ := step_serve hstep
    cases hnext.symm.trans hnone

/-- **What holds where the process is**: the condition of the request that it is about to send, or
the postcondition of the value that it has returned. -/
theorem reachable_respects {pre : Q → σ → Prop}
    (hboot : ∀ i s, (sv.boot i).Respects sv.serve sv.allowed pre post (sv.reset s)) {s : σ}
    {p : Process Q R σ α} (h : Transition.Reachable sv.step sv.Guard (off s) p) :
    ∀ prog ∈ p.program, prog.Respects sv.serve sv.allowed pre post p.shared := by
  refine h.invariant (I := fun p => ∀ prog ∈ p.program,
    prog.Respects sv.serve sv.allowed pre post p.shared) nofun ?_
  rintro p (i | m) p' hprogram hguard hstep
  · obtain rfl := Option.some.inj hstep
    intro prog hprog
    obtain rfl := Option.some.inj hprog
    exact hboot i p.shared
  · obtain ⟨q, k, hcall, hshared, hnext⟩ := step_serve hstep
    rw [hshared, hnext]
    intro prog hprog
    obtain rfl := Option.some.inj hprog
    exact (hprogram _ hcall).2 m (hguard q k hcall)

end Service

end Interaction
