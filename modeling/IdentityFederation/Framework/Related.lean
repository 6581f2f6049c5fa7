import Mathlib.Order.Defs.PartialOrder
import IdentityFederation.Framework.Interaction

/-!
# Two programs side by side

Two request programs are **related** when their requests correspond and, given answers that
correspond, they go on in the same way.  What corresponds to what can grow while they run: a
*world* says which data of the two runs belong together, and a later world knows more.  So the
answers may be related in any later world.

`Related.bind` and `Related.run_bind` are the rules for sequencing, and `Crew.related_act` is what
one request does to two crews: it keeps the acting programs related, if serving related requests on
related states gives related answers.
-/

namespace Interaction

universe u v w

variable {Q : Type u} {R : Q → Type v} {α β α' β' : Type w} {W : Type*} [Preorder W]

namespace Program

section Related

variable (requests : W → Q → Q → Prop)
  (answers : W → (q q' : Q) → R q → R q' → Prop)

/-- The two programs send corresponding requests and return corresponding values. -/
inductive Related (V : W → α → α' → Prop) : W → Program Q R α → Program Q R α' → Prop where
  | ret {world : W} {a : α} {a' : α'} : V world a a' →
      Related V world (.ret a) (.ret a')
  | call {world : W} {q q' : Q} {k : R q → Program Q R α} {k' : R q' → Program Q R α'} :
      requests world q q' →
      (∀ later, world ≤ later → ∀ r r', answers later q q' r r' →
        Related V later (k r) (k' r')) →
      Related V world (.call q k) (.call q' k')

end Related

variable {requests : W → Q → Q → Prop} {answers : W → (q q' : Q) → R q → R q' → Prop}
  {V : W → α → α' → Prop} {world world' : W} {p : Program Q R α} {p' : Program Q R α'}

/-- What corresponds in a world corresponds in a later one. -/
lemma Related.later
    (hrequests : ∀ w w' q q', w ≤ w' → requests w q q' → requests w' q q')
    (hvalues : ∀ w w' a a', w ≤ w' → V w a a' → V w' a a')
    (h : Related requests answers V world p p') (hle : world ≤ world') :
    Related requests answers V world' p p' := by
  cases h with
  | ret h => exact .ret (hvalues _ _ _ _ hle h)
  | call hq hk => exact .call (hrequests _ _ _ _ hle hq) fun w hw => hk w (le_trans hle hw)

lemma Related.bind {V' : W → β → β' → Prop} {f : α → Program Q R β}
    {f' : α' → Program Q R β'} (h : Related requests answers V world p p')
    (hf : ∀ w, world ≤ w → ∀ a a', V w a a' →
      Related requests answers V' w (f a) (f' a')) :
    Related requests answers V' world (p >>= f) (p' >>= f') := by
  induction h with
  | ret h => exact hf _ le_rfl _ _ h
  | call hq _ ih =>
      exact .call hq fun w hw r r' hr =>
        ih w hw r r' hr fun w' hw' => hf w' (le_trans hw hw')

/-- Outcomes correspond when both fail with one error, or both succeed with corresponding
values. -/
def outcomes {ε : Type w} (V : W → α → α' → Prop) (world : W) :
    Except ε α → Except ε α' → Prop
  | .ok a, .ok a' => V world a a'
  | .error e, .error e' => e = e'
  | _, _ => False

/-- The sequencing rule for programs that stop at the first error. -/
lemma Related.run_bind {ε : Type w} {V' : W → β → β' → Prop}
    {p : ExceptT ε (Program Q R) α} {p' : ExceptT ε (Program Q R) α'}
    {f : α → ExceptT ε (Program Q R) β} {f' : α' → ExceptT ε (Program Q R) β'}
    (h : Related requests answers (outcomes V) world p.run p'.run)
    (hf : ∀ w, world ≤ w → ∀ a a', V w a a' →
      Related requests answers (outcomes V') w (f a).run (f' a').run) :
    Related requests answers (outcomes V') world (p >>= f).run (p' >>= f').run := by
  rw [ExceptT.run_bind, ExceptT.run_bind]
  refine h.bind fun w hw res res' hres => ?_
  cases res with
  | ok a =>
      cases res' with
      | ok a' => exact hf w hw a a' hres
      | error e' => exact hres.elim
  | error e =>
      cases res' with
      | ok a' => exact hres.elim
      | error e' => exact .ret hres

end Program

/-! ## Two crews -/

namespace Crew

variable {ι σ mode : Type*} [DecidableEq ι] {serve : mode → σ → (q : Q) → R q × σ}
  {requests : W → Q → Q → Prop} {answers : W → (q q' : Q) → R q → R q' → Prop}
  {V : W → α → α' → Prop}

/-- **One request on both sides.**  The other crew takes the step as well; its request corresponds,
and with corresponding answers the acting members stay related. -/
lemma related_act {c c₁ : Crew Q R ι σ α} {c' : Crew Q R ι σ α'} {world : W} {i : ι} {m : mode}
    (h : c.act serve i m = some c₁)
    (hi : Program.Related requests answers V world (c.member i) (c'.member i)) :
    ∃ c₁' q q', c'.act serve i m = some c₁' ∧ requests world q q' ∧
      c₁.shared = (serve m c.shared q).2 ∧ c₁'.shared = (serve m c'.shared q').2 ∧
      (∀ later, world ≤ later →
        answers later q q' (serve m c.shared q).1 (serve m c'.shared q').1 →
        Program.Related requests answers V later (c₁.member i) (c₁'.member i)) ∧
      (∀ j, j ≠ i → c₁.member j = c.member j) ∧ ∀ j, j ≠ i → c₁'.member j = c'.member j := by
  obtain ⟨q, k, hq, hshared, hmember, hothers⟩ := act_eq_some serve h
  rw [hq] at hi
  cases hi' : c'.member i with
  | ret a =>
      rw [hi'] at hi
      cases hi
  | call q' k' =>
      rw [hi'] at hi
      cases hi with
      | call hrequest hk =>
          refine ⟨_, q, q', by rw [act, hi'], hrequest, hshared, rfl, fun later hle hanswer => ?_,
            hothers, fun j hj => Function.update_of_ne hj ..⟩
          rw [hmember]
          simpa using hk later hle _ _ hanswer

end Crew

end Interaction
