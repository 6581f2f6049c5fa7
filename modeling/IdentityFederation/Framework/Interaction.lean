import Mathlib.Control.Lawful
import Mathlib.Logic.Function.Basic

/-!
# Request programs

A component that talks to a remote party is a **request program**: it either returns, or
sends one request and continues with the answer.  Nothing is said here about what answers a
request, so one program has several meanings, and all of them are read off the same syntax:

* `Program.exec` runs it to completion against a deterministic party `serve`, with nobody else
  touching the party's state in between;
* `Program.Establishes` is the rely/guarantee reading: what a program has brought about when it
  returns, whatever others do to the shared state between its requests;
* `Crew.act` runs any number of programs against one shared state, one request at a time and
  in any order, so that every interleaving of their requests is a sequence of `Crew.act`s.

A party that may fail answers requests in `Except`, and a program that stops at the first
failure lives in `ExceptT` over `Program`; `exec_run_bind` is then the sequencing rule.

`mode` is the environment's choice at one request (to answer, to fail, to lose the answer).
-/

namespace Interaction

universe u v w

/-- A program that returns, or sends a request `q` and continues with its answer. -/
inductive Program (Q : Type u) (R : Q → Type v) (α : Type w) where
  | ret (a : α) : Program Q R α
  | call (q : Q) (k : R q → Program Q R α) : Program Q R α

namespace Program

variable {Q : Type u} {R : Q → Type v} {α β : Type w}

/-- Sequencing: the second program starts where the first one returns. -/
def bind : Program Q R α → (α → Program Q R β) → Program Q R β
  | .ret a, f => f a
  | .call q k, f => .call q fun r => (k r).bind f

instance : Monad (Program Q R) where
  pure := .ret
  bind := Program.bind

@[simp] lemma pure_eq (a : α) : (pure a : Program Q R α) = .ret a := rfl

@[simp] lemma ret_bind (a : α) (f : α → Program Q R β) : (Program.ret a >>= f) = f a := rfl

@[simp] lemma call_bind (q : Q) (k : R q → Program Q R α) (f : α → Program Q R β) :
    (Program.call q k >>= f) = .call q fun r => k r >>= f := rfl

lemma bind_ret (p : Program Q R α) : (p >>= Program.ret) = p := by
  induction p with
  | ret a => rfl
  | call q k ih =>
      rw [call_bind]
      congr 1
      funext r
      exact ih r

lemma bind_bind {γ : Type w} (p : Program Q R α) (f : α → Program Q R β)
    (g : β → Program Q R γ) : (p >>= f >>= g) = p >>= fun a => f a >>= g := by
  induction p with
  | ret a => rfl
  | call q k ih =>
      simp only [call_bind]
      congr 1
      funext r
      exact ih r

instance : LawfulMonad (Program Q R) :=
  LawfulMonad.mk' _ (fun p => bind_ret p) (fun _ _ => rfl) (fun p f g => bind_bind p f g)

/-- The program that sends one request and returns its answer. -/
def request {R : Q → Type w} (q : Q) : Program Q R (R q) := .call q .ret

/-- The request the program sends next, if it has not returned. -/
def next : Program Q R α → Option Q
  | .ret _ => none
  | .call q _ => some q

/-! ## Running one program alone -/

section Exec

variable {σ : Type*} (serve : σ → (q : Q) → R q × σ)

/-- Run a program to completion against `serve`, alone. -/
def exec : Program Q R α → σ → α × σ
  | .ret a, s => (a, s)
  | .call q k, s => (k (serve s q).1).exec (serve s q).2

@[simp] lemma exec_ret (a : α) (s : σ) : (Program.ret a : Program Q R α).exec serve s = (a, s) :=
  rfl

@[simp] lemma exec_call (q : Q) (k : R q → Program Q R α) (s : σ) :
    (Program.call q k).exec serve s = (k (serve s q).1).exec serve (serve s q).2 := rfl

lemma exec_bind (p : Program Q R α) (f : α → Program Q R β) (s : σ) :
    (p >>= f).exec serve s = (f (p.exec serve s).1).exec serve (p.exec serve s).2 := by
  induction p generalizing s with
  | ret a => rfl
  | call q k ih => exact ih (serve s q).1 (serve s q).2

/-- **Sequencing rule** for programs that stop at the first error: the continuation runs
exactly when the first part returned a value. -/
lemma exec_run_bind {ε : Type w} (p : ExceptT ε (Program Q R) α)
    (f : α → ExceptT ε (Program Q R) β) (s : σ) :
    (p >>= f).run.exec serve s =
      match p.run.exec serve s with
      | (.ok a, s') => (f a).run.exec serve s'
      | (.error e, s') => (.error e, s') := by
  rw [ExceptT.run_bind, exec_bind]
  generalize p.run.exec serve s = res
  obtain ⟨(e | a), s'⟩ := res <;> rfl

/-- The inversion of `exec_run_bind` on success. -/
lemma exec_run_bind_ok {ε : Type w} {p : ExceptT ε (Program Q R) α}
    {f : α → ExceptT ε (Program Q R) β} {s s'' : σ} {b : β}
    (h : (p >>= f).run.exec serve s = (.ok b, s'')) :
    ∃ a s', p.run.exec serve s = (.ok a, s') ∧ (f a).run.exec serve s' = (.ok b, s'') := by
  rw [exec_run_bind] at h
  rcases hp : p.run.exec serve s with ⟨res, s'⟩
  rw [hp] at h
  cases res with
  | error e => simp at h
  | ok a => exact ⟨a, s', rfl, h⟩

variable {serve} in
/-- The sequencing rule when the first part succeeds. -/
lemma exec_run_bind_of_ok {ε : Type w} {p : ExceptT ε (Program Q R) α}
    {f : α → ExceptT ε (Program Q R) β} {s s' : σ} {a : α} (h : p.run.exec serve s = (.ok a, s')) :
    (p >>= f).run.exec serve s = (f a).run.exec serve s' := by
  rw [exec_run_bind, h]

variable {serve} in
/-- The sequencing rule when the first part fails. -/
lemma exec_run_bind_error {ε : Type w} {p : ExceptT ε (Program Q R) α}
    {f : α → ExceptT ε (Program Q R) β} {s s' : σ} {e : ε}
    (h : p.run.exec serve s = (.error e, s')) :
    (p >>= f).run.exec serve s = (.error e, s') := by
  rw [exec_run_bind, h]

/-- What every request does to the state, up to a preorder, a whole run does. -/
lemma exec_preorder (r : σ → σ → Prop) (hrefl : ∀ s, r s s)
    (htrans : ∀ s₁ s₂ s₃, r s₁ s₂ → r s₂ s₃ → r s₁ s₃) (h : ∀ s q, r s (serve s q).2)
    (p : Program Q R α) (s : σ) : r s (p.exec serve s).2 := by
  induction p generalizing s with
  | ret a => exact hrefl s
  | call q k ih => exact htrans _ _ _ (h s q) (ih _ _)

/-- **Frame rule.**  What every request leaves unchanged, a whole run leaves unchanged. -/
lemma exec_frame {τ : Type*} (view : σ → τ) (h : ∀ s q, view (serve s q).2 = view s)
    (p : Program Q R α) (s : σ) : view (p.exec serve s).2 = view s := by
  induction p generalizing s with
  | ret a => rfl
  | call q k ih => rw [exec_call, ih, h]

end Exec

/-! ## What a program may send -/

/-- Every request the program may send meets `P`, whatever its requests are answered. -/
def Sends (P : Q → Prop) : Program Q R α → Prop
  | .ret _ => True
  | .call q k => P q ∧ ∀ r, (k r).Sends P

lemma Sends.mono {P P' : Q → Prop} {p : Program Q R α} (h : p.Sends P) (himp : ∀ q, P q → P' q) :
    p.Sends P' := by
  induction p with
  | ret a => trivial
  | call q k ih => exact ⟨himp q h.1, fun r => ih r (h.2 r)⟩

lemma Sends.bind {P : Q → Prop} {p : Program Q R α} {f : α → Program Q R β} (h : p.Sends P)
    (hf : ∀ a, (f a).Sends P) : (p >>= f).Sends P := by
  induction p with
  | ret a => exact hf a
  | call q k ih => exact ⟨h.1, fun r => ih r (h.2 r)⟩

/-- The sequencing rule of `Sends` for programs that stop at the first error. -/
lemma Sends.run_bind {ε : Type w} {P : Q → Prop} {p : ExceptT ε (Program Q R) α}
    {f : α → ExceptT ε (Program Q R) β} (h : p.run.Sends P) (hf : ∀ a, (f a).run.Sends P) :
    (p >>= f).run.Sends P := by
  rw [ExceptT.run_bind]
  refine h.bind fun res => ?_
  cases res with
  | ok a => exact hf a
  | error e => trivial

/-- The frame rule for a view that some requests would change, and the program sends none of
them. -/
lemma exec_frame_of_sends {σ τ : Type*} {serve : σ → (q : Q) → R q × σ} (view : σ → τ)
    {P : Q → Prop} (h : ∀ s q, P q → view (serve s q).2 = view s) {p : Program Q R α}
    (hp : p.Sends P) (s : σ) : view (p.exec serve s).2 = view s := by
  induction p generalizing s with
  | ret a => rfl
  | call q k ih => rw [exec_call, ih _ (hp.2 _), h s q hp.1]

/-- On two states that the requests of the program do not tell apart, it returns the same. -/
lemma exec_eq_of_sends {σ : Type*} {serve : σ → (q : Q) → R q × σ} (same : σ → σ → Prop)
    {P : Q → Prop} (h : ∀ s s' q, same s s' → P q →
      (serve s q).1 = (serve s' q).1 ∧ same (serve s q).2 (serve s' q).2)
    {p : Program Q R α} (hp : p.Sends P) {s s' : σ} (hs : same s s') :
    (p.exec serve s).1 = (p.exec serve s').1 := by
  induction p generalizing s s' with
  | ret a => rfl
  | call q k ih =>
      obtain ⟨hanswer, hsame⟩ := h s s' q hs hp.1
      rw [exec_call, exec_call, ← hanswer]
      exact ih _ (hp.2 _) hsame

/-! ## One program among others -/

section Establishes

variable {σ mode : Type*} (serve : mode → σ → (q : Q) → R q × σ) (rely : σ → σ → Prop)

/-- Started in the state at hand, the program can only return a value `a` in a state that meets
`post a`, however its requests are served and whatever the others do between them, as long as
each of their moves is in `rely`. -/
def Establishes (post : α → σ → Prop) : Program Q R α → σ → Prop
  | .ret a, s => ∀ s', rely s s' → post a s'
  | .call q k, s => ∀ s', rely s s' → ∀ m,
      (k (serve m s' q).1).Establishes post (serve m s' q).2

variable {serve rely} {post : α → σ → Prop} {p : Program Q R α} {s s' : σ}

lemma Establishes.mono {post' : α → σ → Prop} (h : p.Establishes serve rely post s)
    (himp : ∀ a s, post a s → post' a s) : p.Establishes serve rely post' s := by
  induction p generalizing s with
  | ret a => exact fun s' hs' => himp a s' (h s' hs')
  | call q k ih => exact fun s' hs' m => ih _ (h s' hs' m)

/-- A program establishes what holds anyway. -/
lemma Establishes.of_forall (h : ∀ a s, post a s) (p : Program Q R α) (s : σ) :
    p.Establishes serve rely post s := by
  induction p generalizing s with
  | ret a => exact fun s' _ => h a s'
  | call q k ih => exact fun s' _ m => ih _ (serve m s' q).2

/-- A move of the others does not spoil what the program establishes. -/
lemma Establishes.interfere (htrans : ∀ s₁ s₂ s₃, rely s₁ s₂ → rely s₂ s₃ → rely s₁ s₃)
    (h : p.Establishes serve rely post s) (hs : rely s s') :
    p.Establishes serve rely post s' := by
  cases p with
  | ret a => exact fun s'' hs'' => h s'' (htrans _ _ _ hs hs'')
  | call q k => exact fun s'' hs'' => h s'' (htrans _ _ _ hs hs'')

lemma Establishes.bind (hrefl : ∀ s, rely s s) {post' : β → σ → Prop}
    {f : α → Program Q R β}
    (h : p.Establishes serve rely (fun a s => (f a).Establishes serve rely post' s) s) :
    (p >>= f).Establishes serve rely post' s := by
  induction p generalizing s with
  | ret a => exact h s (hrefl s)
  | call q k ih => exact fun s' hs' m => ih _ (h s' hs' m)

/-- Nothing is claimed of a run that returns an error. -/
lemma Establishes.run_throw {ε : Type w} (e : ε) (post' : β → σ → Prop) (s : σ) :
    (throw e : ExceptT ε (Program Q R) β).run.Establishes serve rely
      (fun res s => ∀ b, res = .ok b → post' b s) s := by
  intro s' _ b hb
  cases hb

/-- The sequencing rule of `Establishes` for programs that stop at the first error. -/
lemma Establishes.run_bind {ε : Type w} (hrefl : ∀ s, rely s s) {post' : β → σ → Prop}
    {p : ExceptT ε (Program Q R) α} {f : α → ExceptT ε (Program Q R) β}
    (h : p.run.Establishes serve rely
      (fun res s => ∀ a, res = .ok a →
        (f a).run.Establishes serve rely (fun res s => ∀ b, res = .ok b → post' b s) s) s) :
    (p >>= f).run.Establishes serve rely (fun res s => ∀ b, res = .ok b → post' b s) s := by
  rw [ExceptT.run_bind]
  refine Establishes.bind hrefl (h.mono fun res s hres => ?_)
  cases res with
  | ok a => exact hres a rfl
  | error e => exact Establishes.run_throw e post' s

end Establishes

end Program

/-! ## Many programs on one shared state -/

/-- A crew: programs indexed by `ι` on one shared state. -/
structure Crew (Q : Type u) (R : Q → Type v) (ι σ : Type*) (α : Type w) where
  shared : σ
  member : ι → Program Q R α

namespace Crew

variable {Q : Type u} {R : Q → Type v} {ι σ : Type*} {α : Type w} {mode : Type*}
variable [DecidableEq ι] (serve : mode → σ → (q : Q) → R q × σ)

/-- Member `i` has its next request answered, in the way `m`.  A member that has returned
takes no step. -/
def act (c : Crew Q R ι σ α) (i : ι) (m : mode) : Option (Crew Q R ι σ α) :=
  match c.member i with
  | .ret _ => none
  | .call q k => some
      { shared := (serve m c.shared q).2
        member := Function.update c.member i (k (serve m c.shared q).1) }

/-- What one step does: the acting member sent a request, the shared state changed by serving
it, and every other member is where it was. -/
lemma act_eq_some {c c' : Crew Q R ι σ α} {i : ι} {m : mode} (h : c.act serve i m = some c') :
    ∃ q k, c.member i = .call q k ∧ c'.shared = (serve m c.shared q).2 ∧
      c'.member i = k (serve m c.shared q).1 ∧ ∀ j, j ≠ i → c'.member j = c.member j := by
  unfold act at h
  split at h
  · cases h
  · rename_i q k hi
    obtain rfl := Option.some.inj h
    refine ⟨q, k, hi, rfl, Function.update_self .., fun j hj => ?_⟩
    exact Function.update_of_ne hj ..

end Crew

end Interaction
