import Mathlib.Data.List.Basic

/-!
# Strings as the source reads them

The few operations of Rust's `str` that the components use, on the characters of a string.
-/

namespace Text

/-- `char::is_whitespace`: the characters with the Unicode property `White_Space`. -/
def isWhitespace (c : Char) : Bool :=
  let n := c.toNat
  (0x09 ≤ n && n ≤ 0x0d) || n = 0x20 || n = 0x85 || n = 0xa0 || n = 0x1680 ||
    (0x2000 ≤ n && n ≤ 0x200a) || n = 0x2028 || n = 0x2029 || n = 0x202f || n = 0x205f ||
    n = 0x3000

/-- Drop the characters at the end that meet `p`. -/
def dropEndWhile (p : Char → Bool) (l : List Char) : List Char :=
  (l.reverse.dropWhile p).reverse

/-- `str::trim`. -/
def trim (s : String) : String :=
  String.ofList (dropEndWhile isWhitespace (s.toList.dropWhile isWhitespace))

/-- `str::trim_end_matches` for one character. -/
def trimEndMatches (c : Char) (s : String) : String :=
  String.ofList (dropEndWhile (fun d => d = c) s.toList)

/-- What follows `start` in a string that starts with it. -/
def afterStart? (start s : String) : Option String :=
  if start.toList.isPrefixOf s.toList then
    some (String.ofList (s.toList.drop start.toList.length))
  else none

/-- `str::split` at one character. -/
def split (c : Char) (s : String) : List String :=
  (s.toList.splitOn c).map String.ofList

/-- `str::parse` for an unsigned integer type whose values are below `bound`. -/
def parseUnsigned (bound : ℕ) (s : String) : Option ℕ :=
  let digits := match s.toList with
    | '+' :: rest => rest
    | l => l
  if digits ≠ [] ∧ digits.all Char.isDigit then
    let n := digits.foldl (fun n d => 10 * n + (d.toNat - '0'.toNat)) 0
    if n < bound then some n else none
  else none

/-! ## Trimming -/

lemma dropEndWhile_eq_self {p : Char → Bool} {l : List Char} (h : ∀ c ∈ l, p c = false) :
    dropEndWhile p l = l := by
  have hrev : l.reverse.dropWhile p = l.reverse := by
    cases hl : l.reverse with
    | nil => rfl
    | cons c rest =>
        have hc : c ∈ l := List.mem_reverse.mp (by simp [hl])
        simp [h c hc]
  rw [dropEndWhile, hrev, List.reverse_reverse]

/-- A string without white space is its own trimming. -/
lemma trim_eq_self {s : String} (h : ∀ c ∈ s.toList, isWhitespace c = false) : trim s = s := by
  have hdrop : s.toList.dropWhile isWhitespace = s.toList := by
    cases hs : s.toList with
    | nil => rfl
    | cons c rest => simp [h c (by simp [hs])]
  rw [trim, hdrop, dropEndWhile_eq_self h, String.ofList_toList]

lemma mem_dropWhile {p : Char → Bool} {l : List Char} {c : Char} (hc : c ∈ l)
    (h : p c = false) : c ∈ l.dropWhile p := by
  induction l with
  | nil => exact hc
  | cons d l ih =>
      by_cases hd : p d
      · rw [List.dropWhile_cons_of_pos hd]
        refine ih ((List.mem_cons.mp hc).resolve_left ?_)
        rintro rfl
        exact Bool.false_ne_true (h.symm.trans hd)
      · rwa [List.dropWhile_cons_of_neg hd]

/-- Trimming keeps what is not white space. -/
lemma mem_trim {s : String} {c : Char} (hc : c ∈ s.toList) (h : isWhitespace c = false) :
    c ∈ (trim s).toList := by
  have hfront := mem_dropWhile hc h
  have hend := mem_dropWhile (List.mem_reverse.mpr hfront) h
  simpa [trim, dropEndWhile] using hend

/-! ## Cutting -/

lemma afterStart?_append (start rest : String) :
    afterStart? start (start ++ rest) = some rest := by
  have h : start.toList.isPrefixOf (start ++ rest).toList = true := by simp
  rw [afterStart?, if_pos h]
  simp

lemma split_of_notMem {c : Char} {s : String} (h : c ∉ s.toList) : split c s = [s] := by
  rw [split, List.splitOn_eq_singleton h, List.map_singleton, String.ofList_toList]

lemma split_append {c : Char} {s : String} (h : c ∉ s.toList) (t : String) :
    split c (s ++ String.singleton c ++ t) = s :: split c t := by
  have hlist : (s ++ String.singleton c ++ t).toList = s.toList ++ c :: t.toList := by simp
  rw [split, hlist, List.splitOn_append_cons_self_of_not_mem h, List.map_cons,
    String.ofList_toList, split]

/-- What follows `start` follows it. -/
lemma afterStart?_eq_some {start s rest : String} :
    afterStart? start s = some rest ↔ s = start ++ rest := by
  constructor
  · intro h
    unfold afterStart? at h
    split at h
    · rename_i hstart
      obtain ⟨l, hl⟩ := List.isPrefixOf_iff_prefix.mp hstart
      obtain rfl := Option.some.inj h
      rw [← String.toList_inj, String.toList_append, ← hl]
      simp
    · cases h
  · rintro rfl
    exact afterStart?_append start rest

/-- The first part of a string that is cut: it is the whole string, or the rest is cut after the
first separator. -/
lemma split_cases (c : Char) (s : String) :
    (c ∉ s.toList ∧ split c s = [s]) ∨
    ∃ a t, c ∉ a.toList ∧ s = a ++ String.singleton c ++ t ∧ split c s = a :: split c t := by
  by_cases hc : c ∈ s.toList
  · obtain ⟨a, t, hs, ha⟩ := List.eq_append_cons_of_mem hc
    have hs' : s = String.ofList a ++ String.singleton c ++ String.ofList t := by
      rw [← String.toList_inj, hs]
      simp
    have ha' : c ∉ (String.ofList a).toList := by simpa using ha
    refine .inr ⟨String.ofList a, String.ofList t, ha', hs', ?_⟩
    rw [hs']
    exact split_append ha' _
  · exact .inl ⟨hc, split_of_notMem hc⟩

end Text
