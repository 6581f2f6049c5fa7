import Mathlib.Data.Nat.Notation
import Mathlib.Tactic.Lemma

/-!
# JSON values and their compact text

A JSON document is a value of `Json`; an object keeps its members in the order in which they
were written.  `Json.text` is the compact rendering: no white space, members in order, strings
escaped by the JSON rules (`"`, `\` and the control characters below `0x20`; everything else
is written as it is).

Reading a member back goes through `Json.member?`, and `optional` writes a member that is left
out when there is no value, which is how records with optional members are encoded.
-/

/-- A JSON document. -/
inductive Json where
  | null
  | bool (b : Bool)
  | num (n : Int)
  | str (s : String)
  | arr (items : List Json)
  | obj (members : List (String × Json))

namespace Json

/-! ## Rendering -/

/-- The text of one character inside a JSON string. -/
def escapeChar (c : Char) : String :=
  match c.toNat with
  | 0x22 => "\\\""
  | 0x5c => "\\\\"
  | 0x08 => "\\b"
  | 0x09 => "\\t"
  | 0x0a => "\\n"
  | 0x0c => "\\f"
  | 0x0d => "\\r"
  | n =>
      if n < 0x20 then
        "\\u00" ++ String.ofList [Nat.digitChar (n / 16), Nat.digitChar (n % 16)]
      else String.ofList [c]

/-- A JSON string literal. -/
def quote (s : String) : String :=
  "\"" ++ String.join (s.toList.map escapeChar) ++ "\""

mutual

/-- The compact text of a document. -/
def text : Json → String
  | .null => "null"
  | .bool b => if b then "true" else "false"
  | .num n => toString n
  | .str s => quote s
  | .arr items => "[" ++ textItems items ++ "]"
  | .obj members => "\x7b" ++ textMembers members ++ "\x7d"

/-- The items of an array, separated by commas. -/
def textItems : List Json → String
  | [] => ""
  | [j] => j.text
  | j :: j' :: js => j.text ++ "," ++ textItems (j' :: js)

/-- The members of an object, separated by commas. -/
def textMembers : List (String × Json) → String
  | [] => ""
  | [(k, j)] => quote k ++ ":" ++ j.text
  | (k, j) :: m :: ms => quote k ++ ":" ++ j.text ++ "," ++ textMembers (m :: ms)

end

/-! ## Records as objects -/

/-- A member that is written only when it has a value. -/
def optional {α : Type} (name : String) (encode : α → Json) : Option α → List (String × Json)
  | none => []
  | some a => [(name, encode a)]

/-- The members of a document that is read as a record with these fields: an object in which no
field occurs twice, or an array of values in the order of the fields, at least `required`. -/
def record? (fields : List String) (required : ℕ) : Json → Option (List (String × Json))
  | .obj members =>
      if fields.all fun name => (members.filter fun m => m.1 = name).length ≤ 1 then some members
      else none
  | .arr items =>
      if required ≤ items.length ∧ items.length ≤ fields.length then some (fields.zip items)
      else none
  | _ => none

/-- The value of a member. -/
def member? (name : String) (members : List (String × Json)) : Option Json :=
  (members.find? fun m => m.1 = name).map Prod.snd

/-- A string value. -/
def str? : Json → Option String
  | .str s => some s
  | _ => none

/-- An unsigned 64-bit value. -/
def uint64? : Json → Option UInt64
  | .num n => if 0 ≤ n ∧ n < UInt64.size then some (UInt64.ofNat n.toNat) else none
  | _ => none

/-- A member that may be absent or `null`; a value that is there must decode. -/
def optionalMember? {α : Type} (name : String) (decode : Json → Option α)
    (members : List (String × Json)) : Option (Option α) :=
  match member? name members with
  | none | some .null => some none
  | some v => (decode v).map some

/-- The value that the names lead to, from object to object. -/
def path? : List String → Json → Option Json
  | [], j => some j
  | name :: names, .obj members => (member? name members).bind (path? names)
  | _ :: _, _ => none

/-! ## Reading back what was written -/

section Member

variable {α : Type} (name : String)

@[simp] lemma member?_nil : member? name [] = none :=
  rfl

@[simp] lemma member?_cons (m : String × Json) (members : List (String × Json)) :
    member? name (m :: members) = if m.1 = name then some m.2 else member? name members := by
  by_cases h : m.1 = name <;> simp [member?, h]

@[simp] lemma member?_append (members members' : List (String × Json)) :
    member? name (members ++ members') = (member? name members).or (member? name members') := by
  simp [member?, List.find?_append, Option.map_or]

@[simp] lemma member?_optional (name' : String) (encode : α → Json) (o : Option α) :
    member? name (optional name' encode o) = if name' = name then o.map encode else none := by
  cases o <;> simp [optional]

end Member

end Json
