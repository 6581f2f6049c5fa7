import Mathlib.Logic.Function.Basic

/-!
# Locks

A lock is an `Option`: the task that holds it, if any.  It **guards** a part of the program when
its holder is exactly the task that is in that part.  The three rules say how a step of one task
keeps it so: the task enters and takes the lock, leaves and gives it back, or does neither.
-/

namespace Lock

variable {τ : Type*}

/-- The holder of the lock, and nobody else, is inside. -/
def Guards (lock : Option τ) (inside : τ → Prop) : Prop := ∀ t, lock = some t ↔ inside t

variable {lock : Option τ} {inside : τ → Prop} {t : τ}

/-- Two tasks are never inside together. -/
lemma Guards.unique (h : Guards lock inside) {t' : τ} (ht : inside t) (ht' : inside t') :
    t = t' := Option.some.inj (((h t).mpr ht).symm.trans ((h t').mpr ht'))

lemma Guards.not_inside (h : Guards lock inside) (hfree : lock = none) : ¬ inside t := by
  intro ht
  rw [← h t, hfree] at ht
  cases ht

variable [DecidableEq τ]

lemma Guards.enter (h : Guards lock inside) (hfree : lock = none) {p : Prop} (hp : p) :
    Guards (some t) (Function.update inside t p) := by
  intro t'
  by_cases ht : t' = t
  · subst ht
    simpa using hp
  · rw [Function.update_of_ne ht]
    exact ⟨fun heq => absurd (Option.some.inj heq).symm ht, fun hin => (h.not_inside hfree hin).elim⟩

lemma Guards.leave (h : Guards lock inside) (ht : inside t) {p : Prop} (hp : ¬ p) :
    Guards none (Function.update inside t p) := by
  intro t'
  refine ⟨nofun, fun hin => ?_⟩
  by_cases heq : t' = t
  · subst heq
    exact absurd (by simpa using hin) hp
  · rw [Function.update_of_ne heq] at hin
    exact absurd (h.unique hin ht) heq

lemma Guards.pass (h : Guards lock inside) {p : Prop} (hp : inside t ↔ p) :
    Guards lock (Function.update inside t p) := by
  rwa [← propext hp, Function.update_eq_self]

end Lock
