import Mathlib.Logic.Basic
import Mathlib.Data.List.Induction
import Mathlib.Data.List.Perm.Basic
import Mathlib.Data.Option.Basic
import Mathlib.Order.Basic

/-!
# Labelled step functions and their runs

A system is a partial step function `step : σ → ℓ → Option σ`: the label carries everything
the environment chooses, and `none` says that the step is not enabled.  A run is then a
computation (`run`), and a set of runs is a **guard** on its steps.

`Reachable step guard s₀` is the set of states some guarded run from `s₀` reaches, with one
induction principle, `Reachable.invariant`: what holds at the start and is preserved by every
guarded step holds in every reachable state.  `Always` is the trivial guard.

More rules are about computed runs: an invariant may speak of what the run has passed through
(`run_history`, `guarded_history`), a rank that every step lowers bounds the length of a run
(`length_add_rank_le`), and what every step takes and adds gives what the run took and added
(`queue_run`, `bag_run`).
-/

namespace Transition

variable {σ ℓ : Type*}

/-- No restriction on the steps. -/
def Always : σ → ℓ → Prop := fun _ _ => True

/-- The states that runs from `s₀` reach, all of whose steps meet `guard`. -/
inductive Reachable (step : σ → ℓ → Option σ) (guard : σ → ℓ → Prop) (s₀ : σ) : σ → Prop where
  | start : Reachable step guard s₀ s₀
  | step {s s' : σ} {l : ℓ} : Reachable step guard s₀ s → guard s l → step s l = some s' →
      Reachable step guard s₀ s'

variable {step : σ → ℓ → Option σ} {guard : σ → ℓ → Prop} {s₀ s : σ}

/-- **Invariant rule.** -/
theorem Reachable.invariant {I : σ → Prop} (h : Reachable step guard s₀ s) (init : I s₀)
    (preserved : ∀ s l s', I s → guard s l → step s l = some s' → I s') : I s := by
  induction h with
  | start => exact init
  | step _ hg hs ih => exact preserved _ _ _ ih hg hs

/-- Runs compose. -/
theorem Reachable.trans {s' : σ} (h : Reachable step guard s₀ s) (h' : Reachable step guard s s') :
    Reachable step guard s₀ s' := by
  induction h' with
  | start => exact h
  | step _ hg hs ih => exact .step ih hg hs

/-- A stricter guard reaches fewer states. -/
theorem Reachable.mono {guard' : σ → ℓ → Prop} (h : Reachable step guard s₀ s)
    (weaker : ∀ s l, guard s l → guard' s l) : Reachable step guard' s₀ s := by
  induction h with
  | start => exact .start
  | step _ hg hs ih => exact .step ih (weaker _ _ hg) hs

/-- A guard may be exchanged for what it implies wherever an invariant holds. -/
theorem Reachable.mono_of_invariant {guard' : σ → ℓ → Prop} {I : σ → Prop}
    (h : Reachable step guard s₀ s) (init : I s₀)
    (preserved : ∀ s l s', I s → guard' s l → guard s l → step s l = some s' → I s')
    (weaker : ∀ s l, I s → guard s l → guard' s l) : Reachable step guard' s₀ s := by
  suffices key : I s ∧ Reachable step guard' s₀ s from key.2
  induction h with
  | start => exact ⟨init, .start⟩
  | step _ hg hs ih =>
      have hg' := weaker _ _ ih.1 hg
      exact ⟨preserved _ _ _ ih.1 hg' hg hs, .step ih.2 hg' hs⟩

/-- The state a list of labels leads to. -/
def run (step : σ → ℓ → Option σ) : σ → List ℓ → Option σ
  | s, [] => some s
  | s, l :: ls => (step s l).bind fun s' => run step s' ls

lemma run_append (s : σ) (ls ls' : List ℓ) :
    run step s (ls ++ ls') = (run step s ls).bind fun t => run step t ls' := by
  induction ls generalizing s with
  | nil => rfl
  | cons l ls ih =>
      simp only [List.cons_append, run, Option.bind_assoc, ih]

/-- What every step does to the state, up to a preorder, a run does. -/
theorem run_preorder (r : σ → σ → Prop) (hrefl : ∀ s, r s s)
    (htrans : ∀ s₁ s₂ s₃, r s₁ s₂ → r s₂ s₃ → r s₁ s₃)
    (hstep : ∀ s l s', step s l = some s' → r s s') {ls : List ℓ} {s s' : σ}
    (h : run step s ls = some s') : r s s' := by
  induction ls generalizing s with
  | nil =>
      obtain rfl := Option.some.inj h
      exact hrefl s
  | cons l ls ih =>
      obtain ⟨t, ht, hrest⟩ := Option.bind_eq_some_iff.mp h
      exact htrans _ _ _ (hstep s l t ht) (ih hrest)

/-- A run whose every step meets the guard. -/
def Guarded (step : σ → ℓ → Option σ) (guard : σ → ℓ → Prop) : σ → List ℓ → Prop
  | _, [] => True
  | s, l :: ls => guard s l ∧ ∀ s', step s l = some s' → Guarded step guard s' ls

/-- A guard that can be evaluated can be checked along a run. -/
instance decidableGuarded [∀ s l, Decidable (guard s l)] :
    ∀ s ls, Decidable (Guarded step guard s ls)
  | _, [] => .isTrue trivial
  | s, l :: ls =>
      match h : step s l with
      | none => decidable_of_iff (guard s l) (by simp [Guarded, h])
      | some s' =>
          have := decidableGuarded s' ls
          decidable_of_iff (guard s l ∧ Guarded step guard s' ls) (by simp [Guarded, h])

/-- A computed run reaches its last state. -/
theorem reachable_of_run {ls : List ℓ} (hg : Guarded step guard s₀ ls)
    (h : run step s₀ ls = some s) : Reachable step guard s₀ s := by
  suffices key : ∀ t, Reachable step guard s₀ t → Guarded step guard t ls →
      run step t ls = some s → Reachable step guard s₀ s from key s₀ .start hg h
  clear hg h
  induction ls with
  | nil =>
      intro t ht _ h
      obtain rfl := Option.some.inj h
      exact ht
  | cons l ls ih =>
      intro t ht hg h
      obtain ⟨t', hstep, hrest⟩ := Option.bind_eq_some_iff.mp h
      exact ih t' (.step ht hg.1 hstep) (hg.2 t' hstep) hrest

/-- A guard that looks at the labels only. -/
theorem guarded_of_forall {ls : List ℓ} (h : ∀ l ∈ ls, ∀ s, guard s l) (s : σ) :
    Guarded step guard s ls := by
  induction ls generalizing s with
  | nil => trivial
  | cons l ls ih =>
      have hrest := ih fun l' hl' => h l' (List.mem_cons_of_mem _ hl')
      exact ⟨h l List.mem_cons_self s, fun s' _ => hrest s'⟩

theorem guarded_always (ls : List ℓ) (s : σ) : Guarded step Always s ls :=
  guarded_of_forall (fun _ _ _ => trivial) s

/-- The beginning of a guarded run is guarded. -/
theorem Guarded.front {ls ls' : List ℓ} {s : σ} (h : Guarded step guard s (ls ++ ls')) :
    Guarded step guard s ls := by
  induction ls generalizing s with
  | nil => trivial
  | cons l ls ih => exact ⟨h.1, fun s' hstep => ih (h.2 s' hstep)⟩

/-- The rest of a guarded run is guarded. -/
theorem Guarded.rest {ls ls' : List ℓ} {s t : σ} (h : Guarded step guard s (ls ++ ls'))
    (hrun : run step s ls = some t) : Guarded step guard t ls' := by
  induction ls generalizing s with
  | nil =>
      obtain rfl := Option.some.inj hrun
      exact h
  | cons l ls ih =>
      obtain ⟨s', hstep, hrest⟩ := Option.bind_eq_some_iff.mp hrun
      exact ih (h.2 s' hstep) hrest

/-- The invariant rule for a computed run. -/
theorem run_invariant {I : σ → Prop} {ls : List ℓ} (h : run step s₀ ls = some s) (init : I s₀)
    (preserved : ∀ s l s', I s → step s l = some s' → I s') : I s :=
  (reachable_of_run (guarded_always ls s₀) h).invariant init
    fun s l s' hI _ hs => preserved s l s' hI hs

/-! ## What a run has passed through -/

/-- A beginning of the run leads from `s₀` to `t`. -/
def Visits (step : σ → ℓ → Option σ) (s₀ : σ) (ls : List ℓ) (t : σ) : Prop :=
  ∃ earlier later, ls = earlier ++ later ∧ run step s₀ earlier = some t

lemma visits_self {ls : List ℓ} (h : run step s₀ ls = some s) : Visits step s₀ ls s :=
  ⟨ls, [], (List.append_nil ls).symm, h⟩

/-- A longer run has passed through the same states. -/
lemma Visits.append {ls : List ℓ} {t : σ} (h : Visits step s₀ ls t) (more : List ℓ) :
    Visits step s₀ (ls ++ more) t := by
  obtain ⟨earlier, later, rfl, hrun⟩ := h
  exact ⟨earlier, later ++ more, List.append_assoc .., hrun⟩

/-- **History rule.**  The invariant may speak of the run so far. -/
theorem run_history {I : List ℓ → σ → Prop} {ls : List ℓ} (h : run step s₀ ls = some s)
    (init : I [] s₀)
    (preserved : ∀ ls s l s', run step s₀ ls = some s → I ls s → step s l = some s' →
      I (ls ++ [l]) s') : I ls s := by
  induction ls using List.reverseRecOn generalizing s with
  | nil =>
      obtain rfl := Option.some.inj h
      exact init
  | append_singleton ls l ih =>
      rw [run_append] at h
      obtain ⟨t, ht, hlast⟩ := Option.bind_eq_some_iff.mp h
      obtain ⟨s', hstep, hs'⟩ := Option.bind_eq_some_iff.mp hlast
      obtain rfl := Option.some.inj hs'
      exact preserved ls t l s' ht (ih ht) hstep

/-- The history rule for a guarded run. -/
theorem guarded_history {I : List ℓ → σ → Prop} {ls : List ℓ} (hg : Guarded step guard s₀ ls)
    (h : run step s₀ ls = some s) (init : I [] s₀)
    (preserved : ∀ ls s l s', run step s₀ ls = some s → I ls s → guard s l → step s l = some s' →
      I (ls ++ [l]) s') : I ls s := by
  induction ls using List.reverseRecOn generalizing s with
  | nil =>
      obtain rfl := Option.some.inj h
      exact init
  | append_singleton ls l ih =>
      rw [run_append] at h
      obtain ⟨t, ht, hlast⟩ := Option.bind_eq_some_iff.mp h
      obtain ⟨s', hstep, hs'⟩ := Option.bind_eq_some_iff.mp hlast
      obtain rfl := Option.some.inj hs'
      exact preserved ls t l s' ht (ih hg.front ht) (hg.rest ht).1 hstep

/-! ## Runs that end

A **rank** that every guarded step lowers bounds the length of the guarded runs, and so each of
them can be extended until no guarded step is enabled. -/

/-- No guarded step is enabled. -/
def AtRest (step : σ → ℓ → Option σ) (guard : σ → ℓ → Prop) (s : σ) : Prop :=
  ∀ l, guard s l → step s l = none

section Rank

variable {rank : σ → ℕ}
  (lowers : ∀ s l s', guard s l → step s l = some s' → rank s' < rank s)

include lowers

/-- **Rank rule.** -/
theorem length_add_rank_le {ls : List ℓ} {s s' : σ} (hg : Guarded step guard s ls)
    (h : run step s ls = some s') : ls.length + rank s' ≤ rank s := by
  induction ls generalizing s with
  | nil =>
      obtain rfl := Option.some.inj h
      simp
  | cons l ls ih =>
      obtain ⟨t, hstep, hrest⟩ := Option.bind_eq_some_iff.mp h
      have hlt : rank t < rank s := lowers s l t hg.1 hstep
      have hle : ls.length + rank s' ≤ rank t := ih (hg.2 t hstep) hrest
      rw [List.length_cons]
      omega

theorem exists_run_atRest (s : σ) : ∃ ls s', Guarded step guard s ls ∧
    run step s ls = some s' ∧ AtRest step guard s' := by
  induction hn : rank s using Nat.strongRecOn generalizing s with
  | ind n ih =>
      by_cases hrest : AtRest step guard s
      · exact ⟨[], s, trivial, rfl, hrest⟩
      obtain ⟨l, hl⟩ := not_forall.mp hrest
      obtain ⟨hg, henabled⟩ := Classical.not_imp.mp hl
      obtain ⟨t, hstep⟩ := Option.ne_none_iff_exists'.mp henabled
      have hlt : rank t < n := hn ▸ lowers s l t hg hstep
      obtain ⟨ls, s', hguarded, hrun, hend⟩ := ih (rank t) hlt t rfl
      refine ⟨l :: ls, s', ⟨hg, fun s₁ hs₁ => ?_⟩, ?_, hend⟩
      · obtain rfl := Option.some.inj (hstep.symm.trans hs₁)
        exact hguarded
      · rw [run, hstep]
        exact hrun

end Rank

/-! ## What a run puts out -/

section Outputs

variable {ω : Type*}

/-- The outputs of the steps of a run, in order. -/
def outputs (step : σ → ℓ → Option σ) (out : σ → ℓ → List ω) : σ → List ℓ → List ω
  | _, [] => []
  | s, l :: ls =>
      out s l ++ (match step s l with
        | some s' => outputs step out s' ls
        | none => [])

lemma outputs_cons {out : σ → ℓ → List ω} {s s' : σ} {l : ℓ} (h : step s l = some s')
    (ls : List ℓ) : outputs step out s (l :: ls) = out s l ++ outputs step out s' ls := by
  rw [outputs, h]

variable {I : σ → Prop} (preserved : ∀ s l s', I s → step s l = some s' → I s')

include preserved

/-- **Queue rule.** When every step takes what it puts out from the front of a queue and adds what
it takes in at the back, so does every run. -/
theorem queue_run {queue : σ → List ω} {taken added : σ → ℓ → List ω}
    (hstep : ∀ s l s', I s → step s l = some s' →
      queue s ++ added s l = taken s l ++ queue s')
    {ls : List ℓ} {s s' : σ} (hs : I s) (h : run step s ls = some s') :
    queue s ++ outputs step added s ls = outputs step taken s ls ++ queue s' := by
  induction ls generalizing s with
  | nil =>
      obtain rfl := Option.some.inj h
      simp [outputs]
  | cons l ls ih =>
      obtain ⟨t, ht, hrest⟩ := Option.bind_eq_some_iff.mp h
      calc queue s ++ outputs step added s (l :: ls)
          = (queue s ++ added s l) ++ outputs step added t ls := by
            rw [outputs_cons ht, List.append_assoc]
        _ = taken s l ++ (queue t ++ outputs step added t ls) := by
            rw [hstep s l t hs ht, List.append_assoc]
        _ = outputs step taken s (l :: ls) ++ queue s' := by
            rw [ih (preserved s l t hs ht) hrest, outputs_cons ht, List.append_assoc]

/-- **Bag rule.** The same without the order. -/
theorem bag_run {bag : σ → List ω} {taken added : σ → ℓ → List ω}
    (hstep : ∀ s l s', I s → step s l = some s' →
      (bag s ++ added s l).Perm (taken s l ++ bag s'))
    {ls : List ℓ} {s s' : σ} (hs : I s) (h : run step s ls = some s') :
    (bag s ++ outputs step added s ls).Perm (outputs step taken s ls ++ bag s') := by
  induction ls generalizing s with
  | nil =>
      obtain rfl := Option.some.inj h
      simp [outputs]
  | cons l ls ih =>
      obtain ⟨t, ht, hrest⟩ := Option.bind_eq_some_iff.mp h
      have hhere : (bag s ++ outputs step added s (l :: ls)).Perm
          (taken s l ++ (bag t ++ outputs step added t ls)) := by
        rw [outputs_cons ht, ← List.append_assoc, ← List.append_assoc]
        exact (hstep s l t hs ht).append_right _
      refine hhere.trans ?_
      rw [outputs_cons ht, List.append_assoc]
      exact (ih (preserved s l t hs ht) hrest).append_left _

end Outputs

end Transition
