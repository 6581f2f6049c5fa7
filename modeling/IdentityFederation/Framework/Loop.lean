import Mathlib.Data.List.Basic

/-!
# Loops with early exit

A loop that threads an accumulator and returns at the first error is `List.foldlM` in
`Except`.  Two facts carry every statement about such a loop, and both speak of the part of
the list the loop has `seen`:

* `foldlM_invariant`: an invariant of the accumulator *and the elements seen* that one
  iteration preserves holds when the loop has run through;
* `foldlM_error`: a loop that returns an error has run through some beginning of the list and
  failed at the element after it, and `foldlM_stops`: such a loop returns that error.

`bind_eq_ok` and `bind_eq_error` take one sequencing step apart.  A loop that replaces every
element is `List.mapM`, and what it returns is a `List.map` (`mapM_ok`, `eq_map_of_mapM_ok`).
-/

namespace Loop

universe u

variable {ε α β : Type u}

theorem bind_eq_ok {x : Except ε α} {f : α → Except ε β} {b : β} :
    (x >>= f) = .ok b ↔ ∃ a, x = .ok a ∧ f a = .ok b := by
  cases x <;> simp [bind, Except.bind]

theorem bind_eq_error {x : Except ε α} {f : α → Except ε β} {e : ε} :
    (x >>= f) = .error e ↔ x = .error e ∨ ∃ a, x = .ok a ∧ f a = .error e := by
  cases x <;> simp [bind, Except.bind]

variable {f : β → α → Except ε β}

/-- The invariant rule of a loop with early exit. -/
theorem foldlM_invariant (I : List α → β → Prop) {l : List α} {init b : β} (start : I [] init)
    (preserved : ∀ seen a b b', I seen b → f b a = .ok b' → I (seen ++ [a]) b')
    (h : l.foldlM f init = .ok b) : I l b := by
  suffices key : ∀ (l seen : List α) (b₀ : β), I seen b₀ → l.foldlM f b₀ = .ok b →
      I (seen ++ l) b from key l [] init start h
  intro l
  induction l with
  | nil =>
      intro seen b₀ hI h
      obtain rfl : b₀ = b := Except.ok.inj h
      simpa using hI
  | cons a l ih =>
      intro seen b₀ hI h
      rw [List.foldlM_cons] at h
      obtain ⟨b₁, hstep, hrest⟩ := bind_eq_ok.mp h
      simpa using ih (seen ++ [a]) b₁ (preserved seen a b₀ b₁ hI hstep) hrest

/-- Where a loop that returns an error stopped. -/
theorem foldlM_error {l : List α} {init : β} {e : ε} (h : l.foldlM f init = .error e) :
    ∃ seen a rest b, l = seen ++ a :: rest ∧ seen.foldlM f init = .ok b ∧ f b a = .error e := by
  induction l generalizing init with
  | nil => cases h
  | cons a l ih =>
      rw [List.foldlM_cons] at h
      rcases bind_eq_error.mp h with hstep | ⟨b₁, hstep, hrest⟩
      · exact ⟨[], a, l, init, rfl, rfl, hstep⟩
      · obtain ⟨seen, a', rest, b, rfl, hseen, hfail⟩ := ih hrest
        refine ⟨a :: seen, a', rest, b, rfl, ?_, hfail⟩
        rw [List.foldlM_cons]
        exact bind_eq_ok.mpr ⟨b₁, hstep, hseen⟩

/-- A loop that has run through a beginning of the list and fails at the element after it. -/
theorem foldlM_stops {seen rest : List α} {a : α} {init b : β} {e : ε}
    (hseen : seen.foldlM f init = .ok b) (hfail : f b a = .error e) :
    (seen ++ a :: rest).foldlM f init = .error e := by
  rw [List.foldlM_append]
  refine bind_eq_error.mpr (.inr ⟨b, hseen, ?_⟩)
  rw [List.foldlM_cons]
  exact bind_eq_error.mpr (.inl hfail)

/-! ## Replacing every element -/

variable {g : α → Except ε β} {r : α → β} {l : List α}

theorem mapM_ok (h : ∀ a ∈ l, g a = .ok (r a)) : l.mapM g = .ok (l.map r) := by
  induction l with
  | nil => rfl
  | cons a l ih =>
      rw [List.mapM_cons, h a List.mem_cons_self, ih fun b hb => h b (List.mem_cons_of_mem a hb)]
      rfl

theorem eq_map_of_mapM_ok (h : ∀ a ∈ l, ∀ b, g a = .ok b → b = r a) {l' : List β}
    (hl : l.mapM g = .ok l') : l' = l.map r := by
  induction l generalizing l' with
  | nil => exact (Except.ok.inj hl).symm
  | cons a l ih =>
      rw [List.mapM_cons] at hl
      obtain ⟨b, hb, hl⟩ := bind_eq_ok.mp hl
      obtain ⟨rest, hrest, hl⟩ := bind_eq_ok.mp hl
      obtain rfl := Except.ok.inj hl
      rw [h a List.mem_cons_self b hb, ih (fun c hc => h c (List.mem_cons_of_mem a hc)) hrest]
      rfl

end Loop
