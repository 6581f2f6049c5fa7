import Mathlib.Data.List.Nodup

/-!
# Lists with keys

A list whose entries have keys, where a key may occur more than once.  There are two ways to see
to it that a key occurs:

* `ensure` appends an entry unless there is one with its key;
* `upsert` changes the first entry with the key, and appends one if there is none.

Both are told by the `entries` of each key: those of the key at hand, and the others, which stay
as they are and in their order.
-/

namespace Keyed

universe u v

variable {α : Type u} {κ : Type v} [DecidableEq κ] (key : α → κ)

/-- The entries with a key, in their order. -/
def entries (l : List α) (k : κ) : List α := l.filter fun a => key a = k

/-- Append an entry, unless there is one with its key. -/
def ensure (a : α) (l : List α) : List α :=
  if l.any fun b => key b = key a then l else l ++ [a]

/-- Change the first entry with the key of `a`, or append `a`. -/
def upsert (f : α → α) (a : α) : List α → List α
  | [] => [a]
  | b :: l => if key b = key a then f b :: l else b :: upsert f a l

variable {key} {l : List α} {a b : α} {k : κ}

lemma mem_entries : b ∈ entries key l k ↔ b ∈ l ∧ key b = k := by
  simp [entries]

lemma entries_eq_nil : entries key l k = [] ↔ k ∉ l.map key := by
  simp [entries, List.filter_eq_nil_iff]

/-! ## Adding what is missing -/

lemma ensure_of_mem (h : key a ∈ l.map key) : ensure key a l = l := by
  refine if_pos ?_
  obtain ⟨b, hb, hkey⟩ := List.mem_map.mp h
  exact List.any_eq_true.mpr ⟨b, hb, decide_eq_true hkey⟩

lemma ensure_of_notMem (h : key a ∉ l.map key) : ensure key a l = l ++ [a] := by
  refine if_neg fun hany => h ?_
  obtain ⟨b, hb, hkey⟩ := List.any_eq_true.mp hany
  exact List.mem_map.mpr ⟨b, hb, of_decide_eq_true hkey⟩

lemma exists_ensure_eq_append (key : α → κ) (a : α) (l : List α) :
    ∃ extra, extra.length ≤ 1 ∧ ensure key a l = l ++ extra := by
  by_cases h : key a ∈ l.map key
  · exact ⟨[], Nat.zero_le 1, by rw [ensure_of_mem h, List.append_nil]⟩
  · exact ⟨[a], Nat.le_refl 1, ensure_of_notMem h⟩

lemma key_mem_ensure (key : α → κ) (a : α) (l : List α) : key a ∈ (ensure key a l).map key := by
  by_cases h : key a ∈ l.map key
  · rwa [ensure_of_mem h]
  · rw [ensure_of_notMem h]
    simp

lemma ensure_ensure (key : α → κ) (a : α) (l : List α) :
    ensure key a (ensure key a l) = ensure key a l :=
  ensure_of_mem (key_mem_ensure key a l)

lemma mem_ensure_of_mem (h : b ∈ l) : b ∈ ensure key a l := by
  obtain ⟨extra, -, heq⟩ := exists_ensure_eq_append key a l
  rw [heq]
  exact List.mem_append_left _ h

lemma mem_ensure : b ∈ ensure key a l ↔ b ∈ l ∨ b = a ∧ key a ∉ l.map key := by
  by_cases h : key a ∈ l.map key
  · rw [ensure_of_mem h]
    exact ⟨.inl, fun hb => hb.resolve_right fun ⟨_, hnot⟩ => hnot h⟩
  · rw [ensure_of_notMem h, List.mem_append, List.mem_singleton]
    exact or_congr_right (iff_self_and.mpr fun _ => h)

/-- Keys that are unique stay unique. -/
lemma nodup_ensure (h : (l.map key).Nodup) : ((ensure key a l).map key).Nodup := by
  by_cases hmem : key a ∈ l.map key
  · rwa [ensure_of_mem hmem]
  · rw [ensure_of_notMem hmem, List.map_append]
    refine h.append (List.nodup_singleton _) ?_
    simpa using hmem

lemma entries_ensure_self (key : α → κ) (a : α) (l : List α) :
    entries key (ensure key a l) (key a) =
      if key a ∈ l.map key then entries key l (key a) else [a] := by
  split
  · rw [ensure_of_mem ‹_›]
  · have hnil := entries_eq_nil.mpr ‹_›
    rw [entries] at hnil
    simp [ensure_of_notMem ‹_›, entries, hnil]

lemma entries_ensure_of_ne (h : key a ≠ k) :
    entries key (ensure key a l) k = entries key l k := by
  by_cases hmem : key a ∈ l.map key
  · rw [ensure_of_mem hmem]
  · simp [ensure_of_notMem hmem, entries, h]

/-! ## Changing the first -/

variable {f : α → α}

/-- The entries with other keys stay as they are. -/
lemma filter_upsert (key : α → κ) (hf : ∀ b, key (f b) = key b) {p : κ → Bool} (hp : p (key a) = false) :
    (upsert key f a l).filter (fun b => p (key b)) = l.filter fun b => p (key b) := by
  induction l with
  | nil => simp [upsert, hp]
  | cons b l ih =>
      unfold upsert
      split
      · rename_i hb
        simp [hf, hb, hp]
      · simp only [List.filter_cons, ih]

/-- Of the entries with the key, the first changes. -/
lemma entries_upsert_self (key : α → κ) (hf : ∀ b, key (f b) = key b) :
    entries key (upsert key f a l) (key a) =
      match entries key l (key a) with
      | [] => [a]
      | b :: rest => f b :: rest := by
  induction l with
  | nil => simp [upsert, entries]
  | cons b l ih =>
      unfold upsert
      split
      · rename_i hb
        simp [entries, hf, hb]
      · rename_i hb
        simp only [entries, List.filter_cons, hb, decide_false] at ih ⊢
        exact ih

/-- A first entry that is as it should be stays. -/
lemma upsert_eq_self (hhead : (entries key l (key a)).head? = some b) (hb : f b = b) :
    upsert key f a l = l := by
  induction l with
  | nil => cases hhead
  | cons c l ih =>
      unfold upsert
      by_cases hc : key c = key a
      · rw [entries, List.filter_cons_of_pos (by simpa using hc)] at hhead
        obtain rfl := Option.some.inj hhead
        rw [if_pos hc, hb]
      · rw [entries, List.filter_cons_of_neg (by simpa using hc)] at hhead
        rw [if_neg hc, ih hhead]

end Keyed
