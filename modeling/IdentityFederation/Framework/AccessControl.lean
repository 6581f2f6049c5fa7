import IdentityFederation.Framework.Interaction
import IdentityFederation.Framework.Transition

/-!
# Role-based access control

A **rule** allows verbs on resources of API groups; a **grant** gives a subject rules, in one
namespace or in all of them; a **policy** is what a subject was granted.  A request is allowed when
some rule covers each of its **accesses**.

`guarded` puts such a check in front of a party that answers requests: a request that is not allowed
is refused and has no effect.  There are two things to say of a check, and they are what the rules
below are for.

* It does not get in the way: a program whose requests are all allowed runs as it did without
  (`exec_guarded_of_sends`, `Crew.act_guarded`).
* It confines: whatever a program is, it leaves alone what no allowed request changes
  (`Crew.run_guarded_frame`), and does not learn what no allowed request tells
  (`Crew.run_guarded_same`).  Both are about any number of programs, side by side.
-/

namespace AccessControl

/-- What one access is about.  Resources that belong to no namespace have none. -/
structure Access where
  verb : String
  apiGroup : String
  resource : String
  ns : Option String
  deriving DecidableEq

structure Rule where
  apiGroups : List String
  resources : List String
  verbs : List String

/-- A list of names covers the names it holds, and all of them if it holds the asterisk. -/
def covers (names : List String) (name : String) : Bool :=
  names.contains "*" || names.contains name

def Rule.allows (rule : Rule) (access : Access) : Bool :=
  covers rule.verbs access.verb && covers rule.apiGroups access.apiGroup &&
    covers rule.resources access.resource

/-- Rules that hold in one namespace, or in the whole cluster. -/
structure Grant where
  scope : Option String
  rules : List Rule

def Grant.allows (grant : Grant) (access : Access) : Bool :=
  (grant.scope.isNone || grant.scope == access.ns) && grant.rules.any (·.allows access)

abbrev Policy := List Grant

def Policy.allows (policy : Policy) (access : Access) : Bool :=
  policy.any (·.allows access)

lemma Policy.allows_iff {policy : Policy} {access : Access} :
    policy.allows access = true ↔
      ∃ grant ∈ policy, (grant.scope = none ∨ grant.scope = access.ns) ∧
        ∃ rule ∈ grant.rules, rule.allows access = true := by
  simp [Policy.allows, Grant.allows]

/-- A resource that no rule covers cannot be accessed. -/
lemma Policy.not_allows_of_resource {policy : Policy} {access : Access}
    (h : ∀ grant ∈ policy, grant.scope = none ∨ grant.scope = access.ns →
      ∀ rule ∈ grant.rules, covers rule.resources access.resource = false) :
    policy.allows access = false := by
  rw [Bool.eq_false_iff, ne_eq, Policy.allows_iff]
  rintro ⟨grant, hgrant, hscope, rule, hrule, hallows⟩
  simp [Rule.allows, h grant hgrant hscope rule hrule] at hallows

end AccessControl

/-! ## A party behind a check -/

namespace Interaction

universe u v w

section Guarded

variable {Q : Type u} {R : Q → Type v} {σ mode : Type*} (allowed : σ → Q → Bool)
  (refuse : (q : Q) → R q) (serve : mode → σ → (q : Q) → R q × σ)

/-- A request that is not allowed is refused. -/
def guarded (m : mode) (s : σ) (q : Q) : R q × σ :=
  if allowed s q then serve m s q else (refuse q, s)

variable {allowed refuse serve} {α : Type w}

lemma guarded_of_allowed {m : mode} {s : σ} {q : Q} (h : allowed s q = true) :
    guarded allowed refuse serve m s q = serve m s q := if_pos h

lemma guarded_of_refused {m : mode} {s : σ} {q : Q} (h : allowed s q = false) :
    guarded allowed refuse serve m s q = (refuse q, s) := if_neg (by simp [h])

/-- A check does not get in the way of a program whose requests are all allowed. -/
lemma Program.exec_guarded_of_sends {P : Q → Prop} (h : ∀ s q, P q → allowed s q = true)
    {p : Program Q R α} (hp : p.Sends P) (m : mode) (s : σ) :
    p.exec (guarded allowed refuse serve m) s = p.exec (serve m) s := by
  induction p generalizing s with
  | ret a => rfl
  | call q k ih =>
      rw [exec_call, exec_call, guarded_of_allowed (h s q hp.1)]
      exact ih _ (hp.2 _) _

namespace Crew

variable {ι : Type*} [DecidableEq ι] {c c' : Crew Q R ι σ α} {i : ι} {m : mode}

/-- The next request of the acting member is allowed, so the check changes nothing. -/
lemma act_guarded (h : ∀ q k, c.member i = .call q k → allowed c.shared q = true) :
    c.act (guarded allowed refuse serve) i m = c.act serve i m := by
  unfold act
  split
  · rfl
  · rename_i q k hi
    rw [guarded_of_allowed (h q k hi)]

/-- What every allowed request leaves alone, a run of any programs leaves alone. -/
lemma run_guarded_frame {τ : Type*} (view : σ → τ)
    (h : ∀ m s q, allowed s q = true → view (serve m s q).2 = view s) {ls : List (ι × mode)}
    (hrun : Transition.run (fun c (l : ι × mode) => act (guarded allowed refuse serve) c l.1 l.2)
      c ls = some c') : view c'.shared = view c.shared := by
  refine Transition.run_invariant (I := fun t => view t.shared = view c.shared) hrun rfl ?_
  intro t l t' ht hstep
  obtain ⟨q, k, -, hshared, -⟩ := act_eq_some _ hstep
  rw [hshared, ← ht]
  unfold guarded
  split
  · rename_i hallowed
    exact h _ _ _ hallowed
  · rfl

/-- Two crews of the same programs, on states that correspond. -/
structure Same (same : σ → σ → Prop) (c c' : Crew Q R ι σ α) : Prop where
  shared : same c.shared c'.shared
  member : c'.member = c.member

section Same

variable {same : σ → σ → Prop}
  (h : ∀ m s s' q, same s s' → allowed s' q = allowed s q ∧ (allowed s q = true →
    (serve m s' q).1 = (serve m s q).1 ∧ same (serve m s q).2 (serve m s' q).2))

include h in
lemma act_guarded_same {c₁ : Crew Q R ι σ α} (hc : Same same c c')
    (hstep : act (guarded allowed refuse serve) c i m = some c₁) :
    ∃ c₁', act (guarded allowed refuse serve) c' i m = some c₁' ∧ Same same c₁ c₁' := by
  obtain ⟨shared, member⟩ := c
  obtain ⟨shared', member'⟩ := c'
  obtain ⟨hs, rfl⟩ := hc
  simp only [act] at hstep ⊢
  cases hi : member' i with
  | ret a =>
      rw [hi] at hstep
      cases hstep
  | call q k =>
      rw [hi] at hstep
      obtain rfl := Option.some.inj hstep
      obtain ⟨hallowed, hserve⟩ := h m shared shared' q hs
      refine ⟨_, rfl, ?_⟩
      cases hq : allowed shared q with
      | true =>
          rw [hq] at hallowed
          obtain ⟨hanswer, hsame⟩ := hserve hq
          simp only [guarded_of_allowed hq, guarded_of_allowed hallowed, hanswer]
          exact ⟨hsame, rfl⟩
      | false =>
          rw [hq] at hallowed
          simp only [guarded_of_refused hq, guarded_of_refused hallowed]
          exact ⟨hs, rfl⟩

include h in
/-- What no allowed request tells apart, a run of any programs does not tell apart. -/
lemma run_guarded_same {c₁ : Crew Q R ι σ α} {ls : List (ι × mode)} (hc : Same same c c')
    (hrun : Transition.run (fun c (l : ι × mode) => act (guarded allowed refuse serve) c l.1 l.2)
      c ls = some c₁) :
    ∃ c₁', Transition.run (fun c (l : ι × mode) => act (guarded allowed refuse serve) c l.1 l.2)
      c' ls = some c₁' ∧ Same same c₁ c₁' := by
  induction ls generalizing c c' with
  | nil =>
      obtain rfl := Option.some.inj hrun
      exact ⟨c', rfl, hc⟩
  | cons l ls ih =>
      obtain ⟨c₂, hstep, hrest⟩ := Option.bind_eq_some_iff.mp hrun
      obtain ⟨c₂', hstep', hc₂⟩ := act_guarded_same h hc hstep
      obtain ⟨c₁', hrun', hc₁⟩ := ih hc₂ hrest
      exact ⟨c₁', by simp only [Transition.run, hstep', Option.bind_some, hrun'], hc₁⟩

end Same

end Crew

end Guarded

end Interaction
