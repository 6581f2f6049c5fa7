import Mathlib.Tactic.Common
import IdentityFederation.Framework.Json

/-!
# The text of a document determines the document

`Json.text` loses nothing: two documents with the same text are the same document
(`Json.text_injective`).  The proof is by unique readability.  When the texts of two documents,
each followed by something that does not begin with a digit, are equal, then the documents are
equal and so is what follows them (`Json.chars_cancel`); the side condition is there for the
numbers, whose end is seen only in what comes next.

Everything is said about the characters of the texts.  `kindOf` reads off the first character
which constructor a text comes from, `unescape` reads one character of a string literal, and
`itemsTail` and `membersTail` are what follows an item or a member up to the closing bracket.
-/

namespace Json

/-- The characters of the compact text. -/
def chars (j : Json) : List Char :=
  j.text.toList

/-! ## Strings -/

/-- The characters that stand for one character of a string. -/
def escapeChars (c : Char) : List Char :=
  (escapeChar c).toList

/-- The value of a hexadecimal digit in lower case. -/
def hexValue (c : Char) : ℕ :=
  if c.isDigit then c.toNat - 0x30 else c.toNat - 0x61 + 10

/-- Read one character of a string literal; the closing quote is not one. -/
def unescape : List Char → Option (Char × List Char)
  | [] => none
  | '"' :: _ => none
  | '\\' :: 'b' :: r => some (Char.ofNat 0x08, r)
  | '\\' :: 't' :: r => some (Char.ofNat 0x09, r)
  | '\\' :: 'n' :: r => some (Char.ofNat 0x0a, r)
  | '\\' :: 'f' :: r => some (Char.ofNat 0x0c, r)
  | '\\' :: 'r' :: r => some (Char.ofNat 0x0d, r)
  | '\\' :: 'u' :: _ :: _ :: x :: y :: r =>
      some (Char.ofNat (16 * hexValue x + hexValue y), r)
  | '\\' :: c :: r => some (c, r)
  | c :: r => some (c, r)

lemma hexValue_digitChar : ∀ d < 16, hexValue (Nat.digitChar d) = d := by
  decide

lemma unescape_single {c : Char} (hq : c ≠ '"') (hb : c ≠ '\\') (r : List Char) :
    unescape (c :: r) = some (c, r) := by
  rw [unescape.eq_def]
  split <;> simp_all

/-- Reading undoes escaping. -/
lemma unescape_escapeChars (c : Char) (r : List Char) :
    unescape (escapeChars c ++ r) = some (c, r) := by
  have hc : Char.ofNat c.toNat = c := Char.ofNat_toNat c
  unfold escapeChars escapeChar
  split
  case h_8 h22 h5c _ _ _ _ _ =>
    split
    · next hlow =>
        have hx := hexValue_digitChar (c.toNat / 16) (by omega)
        have hy := hexValue_digitChar (c.toNat % 16) (by omega)
        have hsum : 16 * (c.toNat / 16) + c.toNat % 16 = c.toNat := by omega
        simp [unescape, hx, hy, hsum, hc]
    · have hq : c ≠ '"' := by rintro rfl; exact h22 rfl
      have hb : c ≠ '\\' := by rintro rfl; exact h5c rfl
      simpa using unescape_single hq hb r
  all_goals next h => rw [h] at hc; subst hc; simp [unescape]

lemma escapeChars_cancel {c d : Char} {r s : List Char}
    (h : escapeChars c ++ r = escapeChars d ++ s) : c = d ∧ r = s := by
  have hread := congrArg unescape h
  simpa only [unescape_escapeChars, Option.some.injEq, Prod.mk.injEq] using hread

lemma escapeChars_ne_quote (c : Char) (r s : List Char) : escapeChars c ++ r ≠ '"' :: s := by
  intro h
  have hread := congrArg unescape h
  rw [unescape_escapeChars] at hread
  cases hread

/-- A literal up to and including its closing quote. -/
lemma literal_cancel {cs ds r s : List Char}
    (h : cs.flatMap escapeChars ++ '"' :: r = ds.flatMap escapeChars ++ '"' :: s) :
    cs = ds ∧ r = s := by
  induction cs generalizing ds with
  | nil =>
      cases ds with
      | nil => exact ⟨rfl, by simpa using h⟩
      | cons d ds =>
          rw [List.flatMap_nil, List.nil_append, List.flatMap_cons, List.append_assoc] at h
          exact absurd h.symm (escapeChars_ne_quote d _ _)
  | cons c cs ih =>
      rw [List.flatMap_cons, List.append_assoc] at h
      cases ds with
      | nil => exact absurd h (escapeChars_ne_quote c _ _)
      | cons d ds =>
          rw [List.flatMap_cons, List.append_assoc] at h
          obtain ⟨hcd, hrest⟩ := escapeChars_cancel h
          obtain ⟨hcds, hrs⟩ := ih hrest
          exact ⟨by rw [hcd, hcds], hrs⟩

lemma toList_quote (s : String) :
    (quote s).toList = '"' :: (s.toList.flatMap escapeChars ++ ['"']) := by
  simp only [quote, String.toList_append, String.toList_join, List.flatMap_map]
  rfl

lemma quote_cancel {s t : String} {r r' : List Char}
    (h : (quote s).toList ++ r = (quote t).toList ++ r') : s = t ∧ r = r' := by
  rw [toList_quote, toList_quote] at h
  have hbody : s.toList.flatMap escapeChars ++ '"' :: r =
      t.toList.flatMap escapeChars ++ '"' :: r' := by simpa using h
  obtain ⟨hst, hr⟩ := literal_cancel hbody
  exact ⟨String.toList_injective hst, hr⟩

/-! ## Numbers -/

/-- What follows a number: nothing that could be one more digit of it. -/
def EndsNumber (r : List Char) : Prop :=
  ∀ c ∈ r.head?, c.isDigit = false

lemma endsNumber_cons {c : Char} (r : List Char) (hc : c.isDigit = false) :
    EndsNumber (c :: r) := by
  intro d hd
  obtain rfl : c = d := by simpa using hd
  exact hc

lemma takeWhile_digits {m : ℕ} {r : List Char} (hr : EndsNumber r) :
    (Nat.toDigits 10 m ++ r).takeWhile Char.isDigit = Nat.toDigits 10 m := by
  have hdigits : ∀ c ∈ Nat.toDigits 10 m, c.isDigit = true := fun c hc =>
    Nat.isDigit_of_mem_toDigits (by decide) (by decide) hc
  have hrest : r.takeWhile Char.isDigit = [] := by
    cases r with
    | nil => rfl
    | cons c r => exact List.takeWhile_cons_of_neg (by simp [hr c (by simp)])
  rw [List.takeWhile_append_of_pos hdigits, hrest, List.append_nil]

lemma digits_cancel {m n : ℕ} {r s : List Char} (hr : EndsNumber r) (hs : EndsNumber s)
    (h : Nat.toDigits 10 m ++ r = Nat.toDigits 10 n ++ s) : m = n ∧ r = s := by
  have hdigits : Nat.toDigits 10 m = Nat.toDigits 10 n := by
    rw [← takeWhile_digits hr, h, takeWhile_digits hs]
  have hvalue := congrArg (fun l => Nat.ofDigitChars 10 l 0) hdigits
  simp only [Nat.ofDigitChars_toDigits (by decide : 1 < 10) (by decide : 10 ≤ 10)] at hvalue
  refine ⟨hvalue, ?_⟩
  rw [hdigits] at h
  exact List.append_cancel_left h

lemma chars_ofNat (m : ℕ) : chars (.num (Int.ofNat m)) = Nat.toDigits 10 m := by
  simp [chars, text, Int.repr_eq_if]

lemma chars_negSucc (m : ℕ) : chars (.num (Int.negSucc m)) = '-' :: Nat.toDigits 10 (m + 1) := by
  simp [chars, text, Int.repr]

/-- A natural number begins with a digit. -/
lemma digits_eq_cons (m : ℕ) : ∃ c l, Nat.toDigits 10 m = c :: l ∧ c.isDigit = true := by
  obtain ⟨c, l, hcl⟩ := List.exists_cons_of_ne_nil (Nat.toDigits_ne_nil (n := m) (b := 10))
  have hc : c ∈ Nat.toDigits 10 m := by rw [hcl]; exact List.mem_cons_self
  exact ⟨c, l, hcl, Nat.isDigit_of_mem_toDigits (by decide) (by decide) hc⟩

lemma digits_ne_minus (m : ℕ) (r s : List Char) : Nat.toDigits 10 m ++ r ≠ '-' :: s := by
  obtain ⟨c, l, hcl, hc⟩ := digits_eq_cons m
  rw [hcl]
  intro h
  obtain ⟨rfl, -⟩ := List.cons.inj h
  exact absurd hc (by decide)

lemma num_cancel {n n' : Int} {r r' : List Char} (hr : EndsNumber r) (hr' : EndsNumber r')
    (h : chars (.num n) ++ r = chars (.num n') ++ r') : n = n' ∧ r = r' := by
  cases n with
  | ofNat m =>
      rw [chars_ofNat] at h
      cases n' with
      | ofNat m' =>
          rw [chars_ofNat] at h
          obtain ⟨hm, hrest⟩ := digits_cancel hr hr' h
          exact ⟨congrArg Int.ofNat hm, hrest⟩
      | negSucc m' =>
          rw [chars_negSucc] at h
          exact absurd h (digits_ne_minus m r _)
  | negSucc m =>
      rw [chars_negSucc] at h
      cases n' with
      | ofNat m' =>
          rw [chars_ofNat] at h
          exact absurd h.symm (digits_ne_minus m' r' _)
      | negSucc m' =>
          rw [chars_negSucc] at h
          have hdigits := (List.cons.inj h).2
          obtain ⟨hm, hrest⟩ := digits_cancel hr hr' hdigits
          exact ⟨congrArg Int.negSucc (Nat.succ.inj hm), hrest⟩

/-! ## The constructor is seen in the first character -/

/-- The constructors of `Json`. -/
inductive Kind where
  | null | bool | num | str | arr | obj
  deriving DecidableEq

def kind : Json → Kind
  | .null => .null
  | .bool _ => .bool
  | .num _ => .num
  | .str _ => .str
  | .arr _ => .arr
  | .obj _ => .obj

/-- What a text that begins with this character is the text of. -/
def kindOf (c : Char) : Option Kind :=
  match c with
  | 'n' => some .null
  | 't' | 'f' => some .bool
  | '"' => some .str
  | '[' => some .arr
  | '\x7b' => some .obj
  | '-' => some .num
  | c => if c.isDigit then some .num else none

lemma kindOf_digit {c : Char} (hc : c.isDigit = true) : kindOf c = some .num := by
  unfold kindOf
  split
  case h_8 => rw [if_pos hc]
  all_goals revert hc; decide

lemma chars_null : chars .null = ['n', 'u', 'l', 'l'] := by
  simp [chars, text]

lemma chars_bool (b : Bool) :
    chars (.bool b) = if b then ['t', 'r', 'u', 'e'] else ['f', 'a', 'l', 's', 'e'] := by
  cases b <;> simp [chars, text]

lemma chars_str (s : String) : chars (.str s) = (quote s).toList := by
  simp [chars, text]

lemma chars_arr (items : List Json) :
    chars (.arr items) = '[' :: (textItems items).toList ++ [']'] := by
  simp [chars, text]

lemma chars_obj (members : List (String × Json)) :
    chars (.obj members) = '\x7b' :: (textMembers members).toList ++ ['\x7d'] := by
  simp [chars, text]

lemma chars_eq_cons (j : Json) : ∃ c l, chars j = c :: l ∧ kindOf c = some j.kind := by
  cases j with
  | null => exact ⟨_, _, chars_null, rfl⟩
  | bool b => cases b <;> exact ⟨_, _, chars_bool _, rfl⟩
  | num n =>
      cases n with
      | ofNat m =>
          obtain ⟨c, l, hcl, hc⟩ := digits_eq_cons m
          exact ⟨c, l, (chars_ofNat m).trans hcl, kindOf_digit hc⟩
      | negSucc m => exact ⟨_, _, chars_negSucc m, rfl⟩
  | str s => exact ⟨_, _, (chars_str s).trans (toList_quote s), rfl⟩
  | arr items => exact ⟨_, _, chars_arr items, rfl⟩
  | obj members => exact ⟨_, _, chars_obj members, rfl⟩

lemma kind_eq {j j' : Json} {r r' : List Char} (h : chars j ++ r = chars j' ++ r') :
    j.kind = j'.kind := by
  obtain ⟨c, l, hcl, hc⟩ := chars_eq_cons j
  obtain ⟨c', l', hcl', hc'⟩ := chars_eq_cons j'
  rw [hcl, hcl'] at h
  rw [(List.cons.inj h).1, hc'] at hc
  exact (Option.some.inj hc).symm

/-! ## Arrays and objects -/

/-- What follows an item: the further items and the closing bracket. -/
def itemsTail : List Json → List Char
  | [] => [']']
  | j :: js => ',' :: (chars j ++ itemsTail js)

/-- What follows a member: the further members and the closing brace. -/
def membersTail : List (String × Json) → List Char
  | [] => ['\x7d']
  | (k, j) :: ms => ',' :: ((quote k).toList ++ ':' :: (chars j ++ membersTail ms))

lemma endsNumber_itemsTail (js : List Json) (r : List Char) : EndsNumber (itemsTail js ++ r) := by
  cases js with
  | nil => exact endsNumber_cons _ (by decide)
  | cons j js => exact endsNumber_cons _ (by decide)

lemma endsNumber_membersTail (ms : List (String × Json)) (r : List Char) :
    EndsNumber (membersTail ms ++ r) := by
  cases ms with
  | nil => exact endsNumber_cons _ (by decide)
  | cons m ms => exact endsNumber_cons _ (by decide)

lemma textItems_cons (j : Json) (js : List Json) :
    (textItems (j :: js)).toList ++ [']'] = chars j ++ itemsTail js := by
  induction js generalizing j with
  | nil => simp [textItems, itemsTail, chars]
  | cons j' js ih =>
      have htail := ih j'
      simpa [textItems, itemsTail, chars] using htail

lemma textMembers_cons (k : String) (j : Json) (ms : List (String × Json)) :
    (textMembers ((k, j) :: ms)).toList ++ ['\x7d'] =
      (quote k).toList ++ ':' :: (chars j ++ membersTail ms) := by
  induction ms generalizing k j with
  | nil => simp [textMembers, membersTail, chars]
  | cons m ms ih =>
      obtain ⟨k', j'⟩ := m
      have htail := ih k' j'
      simpa [textMembers, membersTail, chars] using htail

lemma chars_arr_nil : chars (.arr []) = ['[', ']'] := by
  simp [chars_arr, textItems]

lemma chars_arr_cons (j : Json) (js : List Json) :
    chars (.arr (j :: js)) = '[' :: (chars j ++ itemsTail js) := by
  rw [chars_arr, List.cons_append, textItems_cons]

lemma chars_obj_nil : chars (.obj []) = ['\x7b', '\x7d'] := by
  simp [chars_obj, textMembers]

lemma chars_obj_cons (k : String) (j : Json) (ms : List (String × Json)) :
    chars (.obj ((k, j) :: ms)) =
      '\x7b' :: ((quote k).toList ++ ':' :: (chars j ++ membersTail ms)) := by
  rw [chars_obj, List.cons_append, textMembers_cons]

/-- No text begins with a closing bracket, so an array with an item is not the empty one. -/
lemma chars_ne_bracket (j : Json) (r s : List Char) : chars j ++ r ≠ ']' :: s := by
  intro h
  obtain ⟨c, l, hcl, hc⟩ := chars_eq_cons j
  rw [hcl] at h
  obtain ⟨rfl, -⟩ := List.cons.inj h
  cases hc

/-- An object with a member is not the empty one. -/
lemma quote_ne_brace (k : String) (r s : List Char) :
    (quote k).toList ++ r ≠ '\x7d' :: s := by
  rw [toList_quote]
  intro h
  exact absurd (List.cons.inj h).1 (by decide)

lemma bool_cancel {b b' : Bool} {r r' : List Char}
    (h : chars (.bool b) ++ r = chars (.bool b') ++ r') : b = b' ∧ r = r' := by
  rw [chars_bool, chars_bool] at h
  cases b <;> cases b' <;> simp_all

/-- The items of an array, once the tails can be read. -/
lemma arr_cancel {js js' : List Json} {r r' : List Char}
    (htail : itemsTail js ++ r = itemsTail js' ++ r' → js = js' ∧ r = r')
    (h : chars (.arr js) ++ r = chars (.arr js') ++ r') : js = js' ∧ r = r' := by
  cases js with
  | nil =>
      cases js' with
      | nil => exact ⟨rfl, List.append_cancel_left h⟩
      | cons j' js' =>
          rw [chars_arr_nil, chars_arr_cons] at h
          have hbody : chars j' ++ (itemsTail js' ++ r') = ']' :: r := by simpa using h.symm
          exact absurd hbody (chars_ne_bracket j' _ _)
  | cons j js =>
      cases js' with
      | nil =>
          rw [chars_arr_nil, chars_arr_cons] at h
          have hbody : chars j ++ (itemsTail js ++ r) = ']' :: r' := by simpa using h
          exact absurd hbody (chars_ne_bracket j _ _)
      | cons j' js' =>
          rw [chars_arr_cons, chars_arr_cons] at h
          have hbody : chars j ++ itemsTail js ++ r = chars j' ++ itemsTail js' ++ r' :=
            (List.cons.inj h).2
          exact htail (congrArg (List.cons ',') hbody)

/-- The members of an object, once the tails can be read. -/
lemma obj_cancel {ms ms' : List (String × Json)} {r r' : List Char}
    (htail : membersTail ms ++ r = membersTail ms' ++ r' → ms = ms' ∧ r = r')
    (h : chars (.obj ms) ++ r = chars (.obj ms') ++ r') : ms = ms' ∧ r = r' := by
  cases ms with
  | nil =>
      cases ms' with
      | nil => exact ⟨rfl, List.append_cancel_left h⟩
      | cons m' ms' =>
          rw [chars_obj_nil, chars_obj_cons] at h
          exact absurd (by simpa using h.symm) (quote_ne_brace m'.1 _ r)
  | cons m ms =>
      cases ms' with
      | nil =>
          rw [chars_obj_nil, chars_obj_cons] at h
          exact absurd (by simpa using h) (quote_ne_brace m.1 _ r')
      | cons m' ms' =>
          rw [chars_obj_cons, chars_obj_cons] at h
          exact htail (congrArg (List.cons ',') (List.cons.inj h).2)

mutual

/-- **Unique readability**: a text is read off the front in one way only. -/
theorem chars_cancel : ∀ (j j' : Json) {r r' : List Char}, EndsNumber r → EndsNumber r' →
    chars j ++ r = chars j' ++ r' → j = j' ∧ r = r' := by
  intro j j' r r' hr hr' h
  have hkind := kind_eq h
  cases j with
  | null =>
      cases j' with
      | null => exact ⟨rfl, List.append_cancel_left h⟩
      | _ => cases hkind
  | bool b =>
      cases j' with
      | bool b' =>
          obtain ⟨hb, hrest⟩ := bool_cancel h
          exact ⟨by rw [hb], hrest⟩
      | _ => cases hkind
  | num n =>
      cases j' with
      | num n' =>
          obtain ⟨hn, hrest⟩ := num_cancel hr hr' h
          exact ⟨by rw [hn], hrest⟩
      | _ => cases hkind
  | str s =>
      cases j' with
      | str s' =>
          rw [chars_str, chars_str] at h
          obtain ⟨hs, hrest⟩ := quote_cancel h
          exact ⟨by rw [hs], hrest⟩
      | _ => cases hkind
  | arr items =>
      cases j' with
      | arr items' =>
          obtain ⟨hitems, hrest⟩ := arr_cancel (itemsTail_cancel items items') h
          exact ⟨by rw [hitems], hrest⟩
      | _ => cases hkind
  | obj members =>
      cases j' with
      | obj members' =>
          obtain ⟨hmembers, hrest⟩ := obj_cancel (membersTail_cancel members members') h
          exact ⟨by rw [hmembers], hrest⟩
      | _ => cases hkind

theorem itemsTail_cancel : ∀ (js js' : List Json) {r r' : List Char},
    itemsTail js ++ r = itemsTail js' ++ r' → js = js' ∧ r = r'
  | [], [], _, _, h => ⟨rfl, (List.cons.inj h).2⟩
  | [], _ :: _, _, _, h => absurd (List.cons.inj h).1 (by decide)
  | _ :: _, [], _, _, h => absurd (List.cons.inj h).1 (by decide)
  | j :: js, j' :: js', r, r', h => by
      have hbody : chars j ++ (itemsTail js ++ r) = chars j' ++ (itemsTail js' ++ r') := by
        simpa [itemsTail] using h
      obtain ⟨hj, htail⟩ :=
        chars_cancel j j' (endsNumber_itemsTail js r) (endsNumber_itemsTail js' r') hbody
      obtain ⟨hjs, hrest⟩ := itemsTail_cancel js js' htail
      exact ⟨by rw [hj, hjs], hrest⟩

theorem membersTail_cancel : ∀ (ms ms' : List (String × Json)) {r r' : List Char},
    membersTail ms ++ r = membersTail ms' ++ r' → ms = ms' ∧ r = r'
  | [], [], _, _, h => ⟨rfl, (List.cons.inj h).2⟩
  | [], _ :: _, _, _, h => absurd (List.cons.inj h).1 (by decide)
  | _ :: _, [], _, _, h => absurd (List.cons.inj h).1 (by decide)
  | (k, j) :: ms, (k', j') :: ms', r, r', h => by
      have hbody : (quote k).toList ++ ':' :: (chars j ++ (membersTail ms ++ r)) =
          (quote k').toList ++ ':' :: (chars j' ++ (membersTail ms' ++ r')) := by
        simpa [membersTail] using h
      obtain ⟨hk, hvalue⟩ := quote_cancel hbody
      obtain ⟨hj, htail⟩ := chars_cancel j j' (endsNumber_membersTail ms r)
        (endsNumber_membersTail ms' r') (List.cons.inj hvalue).2
      obtain ⟨hms, hrest⟩ := membersTail_cancel ms ms' htail
      exact ⟨by rw [hk, hj, hms], hrest⟩

end

/-- Two documents with the same text are equal. -/
theorem text_injective : Function.Injective text := by
  intro j j' h
  have hchars : chars j ++ [] = chars j' ++ [] := by rw [chars, chars, h]
  have hends : EndsNumber [] := by simp [EndsNumber]
  exact (chars_cancel j j' hends hends hchars).1

end Json
