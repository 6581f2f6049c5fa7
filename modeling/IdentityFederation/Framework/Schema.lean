import Mathlib.Data.List.Basic
import Mathlib.Data.List.Nodup
import Mathlib.Logic.Equiv.Defs
import Mathlib.Tactic.Common
import Std.Data.ExtTreeMap
import IdentityFederation.Framework.Json

/-!
# Structural schemas and formats that fit them

A store that knows the **schema** of its documents does three things with a document that is sent
to it: members that the schema does not name are pruned, members that are missing and have a
default are filled in (`Schema.conform`), and what comes out is validated (`Schema.valid`).  A
document is accepted when that succeeds (`Schema.Accepts`), and what is stored is a document of
this kind (`Schema.Stored`).

A **format** is a pair of an encoder and a decoder.  `Format` says what makes them fit the schema:

* whatever is stored can be decoded, and encoding the value again gives a document that is accepted
  (`Format.decodes`), under the condition `total` if the schema accepts more than the decoder
  knows;
* what the store makes of an encoded value is decoded to that value, up to `norm`, when it was
  accepted at all (`Format.roundTrip`);
* pruning and filling in do not change what a document is decoded to (`Format.transparent`), so the
  defaults of the schema are those of the decoder.

Formats of arrays and of maps are made from those of their items (`Format.array`,
`Format.stringMap`).  A record is described by its list of **fields**, in the order of the schema,
each with the format of its member (`RecordField.mandatory`, `RecordField.optional`,
`RecordField.defaulted`); `Format.record` puts them together.
-/

namespace Json

/-! ## Schemas -/

/-- Whether a member must be there, whether it may be `null`, and what it is when it is missing. -/
structure Presence where
  required : Bool
  nullable : Bool
  default : Option Json

namespace Presence

def mandatory : Presence := { required := true, nullable := false, default := none }

def optional : Presence := { required := false, nullable := true, default := none }

def defaulted (j : Json) : Presence := { required := false, nullable := false, default := some j }

/-- The member that is stored.  A `null` that is not allowed counts as missing when there is a
default. -/
def fill (p : Presence) (conform : Json → Json) : Option Json → Option Json
  | none => p.default.map conform
  | some .null => if p.nullable then some .null else (p.default.map conform).or (some .null)
  | some j => some (conform j)

def check (p : Presence) (valid : Json → Bool) : Option Json → Bool
  | none => !p.required
  | some .null => p.nullable || valid .null
  | some j => valid j

end Presence

mutual

inductive Schema where
  /-- A value that nothing is pruned from. -/
  | scalar (accepts : Json → Bool)
  | array (items : Schema)
  /-- An object with members of any names. -/
  | map (values : Schema)
  | object (properties : Properties)

/-- The members that an object may have. -/
inductive Properties where
  | nil
  | cons (name : String) (presence : Presence) (schema : Schema) (rest : Properties)

end

mutual

/-- What is stored of a document. -/
def Schema.conform : Schema → Json → Json
  | .array items, .arr js => .arr (js.map fun j => items.conform j)
  | .map values, .obj ms => .obj (ms.map fun m => (m.1, values.conform m.2))
  | .object properties, .obj ms => .obj (properties.conform ms)
  | _, j => j

def Properties.conform : Properties → List (String × Json) → List (String × Json)
  | .nil, _ => []
  | .cons name presence schema rest, ms =>
      Json.optional name id (presence.fill (fun j => schema.conform j) (member? name ms)) ++
        rest.conform ms

end

mutual

def Schema.valid : Schema → Json → Bool
  | .scalar accepts, j => accepts j
  | .array items, .arr js => js.all fun j => items.valid j
  | .map values, .obj ms => ms.all fun m => values.valid m.2
  | .object properties, .obj ms => properties.valid ms
  | _, _ => false

def Properties.valid : Properties → List (String × Json) → Bool
  | .nil, _ => true
  | .cons name presence schema rest, ms =>
      presence.check (fun j => schema.valid j) (member? name ms) && rest.valid ms

end

/-- A property of an object. -/
structure Property where
  name : String
  presence : Presence
  schema : Schema

def Properties.toList : Properties → List Property
  | .nil => []
  | .cons name presence schema rest => ⟨name, presence, schema⟩ :: rest.toList

def Properties.names (properties : Properties) : List String :=
  properties.toList.map Property.name

namespace Schema

/-- The document can be stored. -/
def Accepts (s : Schema) (j : Json) : Prop := s.valid (s.conform j) = true

instance (s : Schema) (j : Json) : Decidable (s.Accepts j) := inferInstanceAs (Decidable (_ = _))

/-- The document may be found in the store. -/
def Stored (s : Schema) (d : Json) : Prop := ∃ j, d = s.conform j ∧ s.valid d = true

lemma Accepts.stored {s : Schema} {j : Json} (h : s.Accepts j) : s.Stored (s.conform j) :=
  ⟨j, rfl, h⟩

/-- A string with a condition on its text. -/
def string (accepts : String → Bool) : Schema :=
  .scalar fun
    | .str s => accepts s
    | _ => false

/-- An integer in a range. -/
def integer (low high : Int) : Schema :=
  .scalar fun
    | .num n => low ≤ n ∧ n < high
    | _ => false

def boolean : Schema :=
  .scalar fun
    | .bool _ => true
    | _ => false

@[simp]
lemma accepts_string {accepts : String → Bool} {t : String} :
    (string accepts).Accepts (.str t) ↔ accepts t = true := Iff.rfl

@[simp]
lemma accepts_integer {low high n : Int} :
    (integer low high).Accepts (.num n) ↔ low ≤ n ∧ n < high := decide_eq_true_iff

@[simp]
lemma accepts_boolean (b : Bool) : boolean.Accepts (.bool b) := rfl

@[simp]
lemma accepts_arr {s : Schema} {js : List Json} :
    (array s).Accepts (.arr js) ↔ ∀ j ∈ js, s.Accepts j := by
  simp [Accepts, Schema.conform, Schema.valid]

@[simp]
lemma accepts_map {s : Schema} {ms : List (String × Json)} :
    (map s).Accepts (.obj ms) ↔ ∀ m ∈ ms, s.Accepts m.2 := by
  simp [Accepts, Schema.conform, Schema.valid]

end Schema

/-! ### What is stored of an object -/

namespace Property

variable (e : Property)

/-- What is stored of the member. -/
def stored (o : Option Json) : Option Json := e.presence.fill (fun j => e.schema.conform j) o

/-- The member can be stored, or can be missing. -/
def Accepts (o : Option Json) : Prop :=
  e.presence.check (fun j => e.schema.valid j) (e.stored o) = true

end Property

namespace Properties

@[elab_as_elim]
theorem induction {P : Properties → Prop} (nil : P .nil)
    (cons : ∀ name presence schema rest, P rest → P (.cons name presence schema rest))
    (properties : Properties) : P properties :=
  @Properties.rec (fun _ => True) P (fun _ => trivial) (fun _ _ => trivial) (fun _ _ => trivial)
    (fun _ _ => trivial) nil (fun name presence schema rest _ => cons name presence schema rest)
    properties

lemma keys_conform (properties : Properties) (ms : List (String × Json)) :
    ((properties.conform ms).map Prod.fst).Sublist properties.names := by
  induction properties using Properties.induction with
  | nil => exact .slnil
  | cons name presence schema rest ih =>
      simp only [Properties.conform, names, toList, List.map_append, List.map_cons]
      cases presence.fill (fun j => schema.conform j) (member? name ms) with
      | none => exact ih.cons name
      | some j => exact ih.cons_cons name

/-- A record is read off what is stored of an object. -/
lemma record?_conform {properties : Properties} (h : properties.names.Nodup)
    (fields : List String) (required : ℕ) (ms : List (String × Json)) :
    record? fields required (.obj (properties.conform ms)) = some (properties.conform ms) := by
  have hnodup : ((properties.conform ms).map Prod.fst).Nodup := (properties.keys_conform ms).nodup h
  have honce : ∀ name ∈ fields,
      ((properties.conform ms).filter fun m => m.1 = name).length ≤ 1 := by
    intro name _
    have hcount := List.nodup_iff_count_le_one.mp hnodup name
    rwa [List.count_eq_countP, List.countP_map, List.countP_eq_length_filter] at hcount
  rw [record?, if_pos]
  exact List.all_eq_true.mpr fun name hname => decide_eq_true (honce name hname)

lemma member?_conform_of_notMem {properties : Properties} {name : String}
    (h : name ∉ properties.names) (ms : List (String × Json)) :
    member? name (properties.conform ms) = none := by
  rw [member?, Option.map_eq_none_iff, List.find?_eq_none]
  intro m hm heq
  obtain rfl : m.1 = name := of_decide_eq_true heq
  exact h ((properties.keys_conform ms).subset (List.mem_map_of_mem hm))

/-- What is stored under the name of a property. -/
lemma member?_conform {properties : Properties} (h : properties.names.Nodup)
    (ms : List (String × Json)) {e : Property} (he : e ∈ properties.toList) :
    member? e.name (properties.conform ms) = e.stored (member? e.name ms) := by
  induction properties using Properties.induction with
  | nil => cases he
  | cons name presence schema rest ih =>
      obtain ⟨hnotMem, hnodup⟩ := List.nodup_cons.mp h
      simp only [Properties.conform, member?_append, member?_optional, Option.map_id, id_eq]
      rcases List.mem_cons.mp he with rfl | he
      · rw [if_pos rfl, member?_conform_of_notMem hnotMem, Option.or_none]
        rfl
      · have hmem : e.name ∈ rest.names := List.mem_map_of_mem he
        have hne : name ≠ e.name := fun heq => hnotMem (heq ▸ hmem)
        rw [if_neg hne, Option.none_or]
        exact ih hnodup he

lemma valid_iff (properties : Properties) (ms : List (String × Json)) :
    properties.valid ms = true ↔
      ∀ e ∈ properties.toList,
        e.presence.check (fun j => e.schema.valid j) (member? e.name ms) = true := by
  induction properties using Properties.induction with
  | nil => simp [valid, toList]
  | cons name presence schema rest ih => simp [valid, toList, ih]

/-- What is stored is valid when every property is. -/
lemma valid_conform {properties : Properties} (h : properties.names.Nodup)
    (ms : List (String × Json)) : properties.valid (properties.conform ms) = true ↔
      ∀ e ∈ properties.toList, e.Accepts (member? e.name ms) := by
  rw [valid_iff]
  refine forall₂_congr fun e he => ?_
  rw [member?_conform h ms he]
  rfl

end Properties

namespace Schema

lemma conform_eq_null {s : Schema} {j : Json} : s.conform j = .null ↔ j = .null := by
  cases s <;> cases j <;> simp [Schema.conform]

/-- Only objects are valid as objects. -/
lemma exists_of_valid_object {properties : Properties} {j : Json}
    (h : (Schema.object properties).valid ((Schema.object properties).conform j) = true) :
    ∃ ms, j = .obj ms := by
  cases j with
  | obj ms => exact ⟨ms, rfl⟩
  | _ => simp [Schema.valid, Schema.conform] at h

lemma accepts_obj {properties : Properties} (h : properties.names.Nodup)
    (ms : List (String × Json)) : (Schema.object properties).Accepts (.obj ms) ↔
      ∀ e ∈ properties.toList, e.Accepts (member? e.name ms) := by
  rw [← Properties.valid_conform h]
  simp [Accepts, Schema.conform, Schema.valid]

end Schema

/-! ## Formats -/

variable {total : Prop} {α : Type} {norm : α → α}

/-- The encoder and the decoder fit the schema. -/
structure Format (total : Prop) (s : Schema) (encode : α → Json) (decode : Json → Option α)
    (norm : α → α) : Prop where
  notNull : ∀ a, encode a ≠ .null
  decodes : total → ∀ d, s.Stored d → ∃ a, decode d = some a ∧ s.Accepts (encode a)
  roundTrip : ∀ a, s.Accepts (encode a) → decode (s.conform (encode a)) = some (norm a)
  transparent : ∀ j a, decode j = some a → decode (s.conform j) = some a

/-- The same for a member, which may be missing. -/
structure MemberFormat (total : Prop) (e : Property) (encode : α → Option Json)
    (decode : Option Json → Option α) (norm : α → α) : Prop where
  decodes : total → ∀ o, e.Accepts o → ∃ a, decode (e.stored o) = some a ∧ e.Accepts (encode a)
  roundTrip : ∀ a, e.Accepts (encode a) → decode (e.stored (encode a)) = some (norm a)
  transparent : ∀ o a, decode o = some a → decode (e.stored o) = some a

/-- An optional member: missing and `null` are the same. -/
def option? (decode : Json → Option α) : Option Json → Option (Option α)
  | none | some .null => some none
  | some v => (decode v).map some

lemma option?_some {j : Json} (h : j ≠ .null) (decode : Json → Option α) :
    option? decode (some j) = (decode j).map some := by
  cases j with
  | null => exact absurd rfl h
  | _ => rfl

/-- A member with a default value. -/
def default? (decode : Json → Option α) (a : α) : Option Json → Option α
  | none => some a
  | some v => decode v

namespace Presence

lemma fill_some {j : Json} (h : j ≠ .null) (p : Presence) (conform : Json → Json) :
    p.fill conform (some j) = some (conform j) := by
  cases j with
  | null => exact absurd rfl h
  | _ => rfl

lemma check_some {j : Json} (h : j ≠ .null) (p : Presence) (valid : Json → Bool) :
    p.check valid (some j) = valid j := by
  cases j with
  | null => exact absurd rfl h
  | _ => rfl

end Presence

namespace Format

variable {s : Schema} {encode : α → Json} {decode : Json → Option α}
  (h : Format total s encode decode norm)

include h

/-- An encoded value is accepted as a member when it is accepted. -/
lemma accepts_member (name : String) (p : Presence) (a : α) :
    (Property.mk name p s).Accepts (some (encode a)) ↔ s.Accepts (encode a) := by
  have hne : s.conform (encode a) ≠ .null := Schema.conform_eq_null.not.mpr (h.notNull a)
  rw [Property.Accepts, Property.stored, Presence.fill_some (h.notNull a), Presence.check_some hne]
  rfl

lemma accepts_option (name : String) (o : Option α) :
    (Property.mk name .optional s).Accepts (o.map encode) ↔ ∀ a ∈ o, s.Accepts (encode a) := by
  cases o with
  | none =>
      simp [Property.Accepts, Property.stored, Presence.fill, Presence.check, Presence.optional]
  | some a => simpa using h.accepts_member name .optional a

/-- A member that is there, and is not `null`. -/
lemma decodes_some (ht : total) (name : String) (p : Presence) {j : Json} (hj : j ≠ .null)
    (hvalid : (Property.mk name p s).Accepts (some j)) :
    ∃ a, decode (s.conform j) = some a ∧ (Property.mk name p s).Accepts (some (encode a)) := by
  rw [Property.Accepts, Property.stored, Presence.fill_some hj,
    Presence.check_some (Schema.conform_eq_null.not.mpr hj)] at hvalid
  obtain ⟨a, ha, haccepts⟩ := h.decodes ht _ ⟨j, rfl, hvalid⟩
  exact ⟨a, ha, (h.accepts_member name p a).mpr haccepts⟩

lemma mandatoryMember (name : String) :
    MemberFormat total ⟨name, .mandatory, s⟩ (fun a => some (encode a)) (·.bind decode) norm where
  decodes ht o ho := by
    cases o with
    | none => cases ho
    | some j =>
        by_cases hj : j = .null
        · subst hj
          have hnull : s.conform .null = .null := Schema.conform_eq_null.mpr rfl
          obtain ⟨a, ha, haccepts⟩ := h.decodes ht .null ⟨.null, hnull.symm, ho⟩
          exact ⟨a, ha, (h.accepts_member name _ a).mpr haccepts⟩
        · rw [Property.stored, Presence.fill_some hj]
          exact h.decodes_some ht name _ hj ho
  roundTrip a ha := by
    rw [Property.stored, Presence.fill_some (h.notNull a)]
    exact h.roundTrip a ((h.accepts_member name _ a).mp ha)
  transparent o a ha := by
    obtain ⟨j, rfl, hj⟩ := Option.bind_eq_some_iff.mp ha
    by_cases hnull : j = .null
    · subst hnull
      exact ha
    · rw [Property.stored, Presence.fill_some hnull]
      exact h.transparent j a hj

lemma optionalMember (name : String) :
    MemberFormat total ⟨name, .optional, s⟩ (Option.map encode) (option? decode)
      (Option.map norm) where
  decodes ht o ho := by
    cases o with
    | none => exact ⟨none, rfl, rfl⟩
    | some j =>
        by_cases hj : j = .null
        · subst hj
          exact ⟨none, rfl, rfl⟩
        · obtain ⟨a, ha, haccepts⟩ := h.decodes_some ht name _ hj ho
          have hne : s.conform j ≠ .null := Schema.conform_eq_null.not.mpr hj
          refine ⟨some a, ?_, haccepts⟩
          rw [Property.stored, Presence.fill_some hj, option?_some hne, ha]
          rfl
  roundTrip o ho := by
    cases o with
    | none => rfl
    | some a =>
        have hne : s.conform (encode a) ≠ .null := Schema.conform_eq_null.not.mpr (h.notNull a)
        rw [Property.stored, Option.map_some, Presence.fill_some (h.notNull a), option?_some hne,
          h.roundTrip a ((h.accepts_member name _ a).mp ho)]
        rfl
  transparent o a? ha := by
    cases o with
    | none => exact ha
    | some j =>
        by_cases hj : j = .null
        · subst hj
          exact ha
        · rw [option?_some hj] at ha
          obtain ⟨a, hdecode, rfl⟩ := Option.map_eq_some_iff.mp ha
          rw [Property.stored, Presence.fill_some hj,
            option?_some (Schema.conform_eq_null.not.mpr hj), h.transparent j a hdecode]
          rfl

/-- The default of the schema stands for the value that the decoder would take by itself. -/
lemma defaultedMember (name : String) {j : Json} {a₀ : α} (hnull : decode .null = none)
    (hdefault : decode (s.conform j) = some a₀) :
    MemberFormat total ⟨name, .defaulted j, s⟩ (fun a => some (encode a)) (default? decode a₀)
      norm where
  decodes ht o ho := by
    have hmissing : (Presence.defaulted j).check s.valid (some (s.conform j)) = true →
        ∃ a, decode (s.conform j) = some a ∧
          (Property.mk name (.defaulted j) s).Accepts (some (encode a)) := by
      intro hvalid
      have hne : s.conform j ≠ .null := fun heq => by
        rw [heq, hnull] at hdefault
        cases hdefault
      rw [Presence.check_some hne] at hvalid
      obtain ⟨a, ha, haccepts⟩ := h.decodes ht _ ⟨j, rfl, hvalid⟩
      exact ⟨a, ha, (h.accepts_member name _ a).mpr haccepts⟩
    cases o with
    | none => exact hmissing ho
    | some j' =>
        by_cases hj : j' = .null
        · subst hj
          exact hmissing ho
        · rw [Property.stored, Presence.fill_some hj]
          exact h.decodes_some ht name _ hj ho
  roundTrip a ha := by
    rw [Property.stored, Presence.fill_some (h.notNull a)]
    exact h.roundTrip a ((h.accepts_member name _ a).mp ha)
  transparent o a ha := by
    cases o with
    | none =>
        obtain rfl := Option.some.inj ha
        exact hdefault
    | some j' =>
        by_cases hj : j' = .null
        · subst hj
          exact absurd (hnull.symm.trans ha) nofun
        · rw [Property.stored, Presence.fill_some hj]
          exact h.transparent j' a ha

end Format

lemma Format.weaken {s : Schema} {encode : α → Json} {decode : Json → Option α}
    (h : Format True s encode decode norm) : Format total s encode decode norm :=
  { h with decodes := fun _ => h.decodes trivial }

/-- The format of a type with the same values. -/
lemma Format.equiv {β : Type} {s : Schema} {encode : α → Json} {decode : Json → Option α}
    (h : Format total s encode decode id) (e : α ≃ β) :
    Format total s (fun b => encode (e.symm b)) (fun j => (decode j).map e) id where
  notNull b := h.notNull (e.symm b)
  decodes ht d hd := by
    obtain ⟨a, ha, haccepts⟩ := h.decodes ht d hd
    exact ⟨e a, by rw [ha, Option.map_some], by rwa [e.symm_apply_apply]⟩
  roundTrip b hb := by
    rw [h.roundTrip _ hb, Option.map_some, id, e.apply_symm_apply]
    rfl
  transparent j b hb := by
    obtain ⟨a, ha, rfl⟩ := Option.map_eq_some_iff.mp hb
    rw [h.transparent j a ha, Option.map_some]

/-! ### Scalars, arrays and maps -/

/-- A scalar is stored as it is sent. -/
lemma Format.scalar {accepts : Json → Bool} {encode : α → Json} {decode : Json → Option α}
    (hnull : ∀ a, encode a ≠ .null)
    (hdecode : total → ∀ d, accepts d = true →
      ∃ a, decode d = some a ∧ accepts (encode a) = true)
    (hencode : ∀ a, accepts (encode a) = true → decode (encode a) = some (norm a)) :
    Format total (.scalar accepts) encode decode norm where
  notNull := hnull
  decodes := by
    rintro ht d ⟨j, rfl, hvalid⟩
    exact hdecode ht _ hvalid
  roundTrip := hencode
  transparent _ _ h := h

section MapM

variable {β γ : Type} {f g : β → Option γ}

lemma exists_mapM {P : γ → Prop} {l : List β} (h : ∀ b ∈ l, ∃ c, f b = some c ∧ P c) :
    ∃ cs, l.mapM f = some cs ∧ ∀ c ∈ cs, P c := by
  induction l with
  | nil => exact ⟨[], rfl, nofun⟩
  | cons b l ih =>
      obtain ⟨c, hc, hP⟩ := h b List.mem_cons_self
      obtain ⟨cs, hcs, hall⟩ := ih fun b' hb' => h b' (List.mem_cons_of_mem _ hb')
      exact ⟨c :: cs, by simp [hc, hcs], List.forall_mem_cons.mpr ⟨hP, hall⟩⟩

lemma mapM_eq_some_map {e : β → γ} {l : List β} (h : ∀ b ∈ l, f b = some (e b)) :
    l.mapM f = some (l.map e) := by
  induction l with
  | nil => rfl
  | cons b l ih =>
      have hrest := ih fun b' hb' => h b' (List.mem_cons_of_mem _ hb')
      simp [h b List.mem_cons_self, hrest]

lemma mapM_mono {l : List β} {cs : List γ} (h : ∀ b c, f b = some c → g b = some c)
    (hl : l.mapM f = some cs) : l.mapM g = some cs := by
  induction l generalizing cs with
  | nil => exact hl
  | cons b l ih =>
      simp only [List.mapM_cons, Option.bind_eq_bind, Option.bind_eq_some_iff] at hl ⊢
      obtain ⟨c, hc, cs', hcs', hcons⟩ := hl
      exact ⟨c, h b c hc, cs', ih hcs', hcons⟩

end MapM

def list? (decode : Json → Option α) : Json → Option (List α)
  | .arr js => js.mapM decode
  | _ => none

section Composite

variable {s : Schema} {encode : α → Json} {decode : Json → Option α}

lemma Format.array (h : Format total s encode decode norm) :
    Format total (.array s) (fun as => .arr (as.map encode)) (list? decode) (List.map norm) where
  notNull _ := nofun
  decodes := by
    rintro ht d ⟨j, rfl, hvalid⟩
    cases j with
    | arr js =>
        simp only [Schema.conform, Schema.valid, List.all_map, List.all_eq_true,
          Function.comp_apply] at hvalid
        obtain ⟨as, has, haccepts⟩ := exists_mapM (f := fun j => decode (s.conform j))
          fun j hj => h.decodes ht _ ⟨j, rfl, hvalid j hj⟩
        refine ⟨as, by simpa [list?, Schema.conform, Function.comp_def] using has, ?_⟩
        simpa using haccepts
    | _ => simp [Schema.conform, Schema.valid] at hvalid
  roundTrip as has := by
    have haccepts : ∀ a ∈ as, s.Accepts (encode a) := by simpa using has
    have hmap := mapM_eq_some_map (f := fun a => decode (s.conform (encode a)))
      fun a ha => h.roundTrip a (haccepts a ha)
    simpa [list?, Schema.conform, Function.comp_def] using hmap
  transparent j as has := by
    cases j with
    | arr js =>
        have hmono := mapM_mono (g := fun j => decode (s.conform j)) h.transparent has
        simpa [list?, Schema.conform, Function.comp_def] using hmono
    | _ => cases has

/-- One member of a map. -/
def pair? (decode : Json → Option α) (m : String × Json) : Option (String × α) :=
  (decode m.2).map fun a => (m.1, a)

/-- A map from strings; of several members of one name the last one counts. -/
def stringMap? (decode : Json → Option α) : Json → Option (Std.ExtTreeMap String α)
  | .obj ms => (ms.mapM (pair? decode)).map fun l => .ofList l
  | _ => none

/-- An entry of a map that was made from a list. -/
lemma mem_of_getElem?_ofList {l : List (String × α)} {k : String} {a : α}
    (h : (Std.ExtTreeMap.ofList l)[k]? = some a) : (k, a) ∈ l := by
  rw [Std.ExtTreeMap.ofList_eq_insertMany_empty, Std.ExtTreeMap.getElem?_insertMany_list] at h
  have hfound : l.reverse.findSome? (fun p => if compare p.1 k = .eq then some p.2 else none) =
      some a := by simpa using h
  obtain ⟨⟨k', a'⟩, hmem, hp⟩ := List.exists_of_findSome?_eq_some hfound
  split at hp
  · rename_i heq
    obtain rfl := Std.LawfulEqCmp.eq_of_compare heq
    obtain rfl := Option.some.inj hp
    exact List.mem_reverse.mp hmem
  · cases hp

lemma ofList_toList (m : Std.ExtTreeMap String α) : Std.ExtTreeMap.ofList m.toList = m := by
  refine Std.ExtTreeMap.ext_getElem? fun k => Option.ext fun a => ?_
  constructor
  · exact fun h => Std.ExtTreeMap.mem_toList_iff_getElem?_eq_some.mp (mem_of_getElem?_ofList h)
  · exact fun h => Std.ExtTreeMap.getElem?_ofList_of_mem Std.ReflCmp.compare_self
      Std.ExtTreeMap.distinct_keys_toList (Std.ExtTreeMap.mem_toList_iff_getElem?_eq_some.mpr h)

lemma Format.stringMap (h : Format total s encode decode id) :
    Format total (.map s)
      (fun m : Std.ExtTreeMap String α => .obj (m.toList.map fun p => (p.1, encode p.2)))
      (stringMap? decode) id where
  notNull _ := nofun
  decodes := by
    rintro ht d ⟨j, rfl, hvalid⟩
    cases j with
    | obj ms =>
        simp only [Schema.conform, Schema.valid, List.all_map, List.all_eq_true,
          Function.comp_apply] at hvalid
        obtain ⟨l, hl, haccepts⟩ := exists_mapM
            (f := fun m : String × Json => pair? decode (m.1, s.conform m.2))
            (P := fun p => s.Accepts (encode p.2)) fun m hm => by
          obtain ⟨a, ha, haccepts⟩ := h.decodes ht _ ⟨m.2, rfl, hvalid m hm⟩
          exact ⟨(m.1, a), by rw [pair?, ha]; rfl, haccepts⟩
        refine ⟨.ofList l, by simp [stringMap?, Schema.conform, Function.comp_def, hl], ?_⟩
        have hall : ∀ p ∈ (Std.ExtTreeMap.ofList l).toList, s.Accepts (encode p.2) := fun p hp =>
          haccepts p (mem_of_getElem?_ofList (Std.ExtTreeMap.mem_toList_iff_getElem?_eq_some.mp hp))
        simpa only [Schema.accepts_map, List.forall_mem_map] using hall
    | _ => simp [Schema.conform, Schema.valid] at hvalid
  roundTrip m hm := by
    have haccepts : ∀ p ∈ m.toList, s.Accepts (encode p.2) := by
      simpa only [Schema.accepts_map, List.forall_mem_map] using hm
    have hmap := mapM_eq_some_map (e := id)
      (f := fun p => pair? decode (p.1, s.conform (encode p.2)))
      fun p hp => by rw [pair?, h.roundTrip p.2 (haccepts p hp)]; rfl
    simp only [stringMap?, Schema.conform, List.map_map, List.mapM_map, Function.comp_def, hmap,
      Option.map_some, List.map_id, ofList_toList, id]
  transparent j m hm := by
    cases j with
    | obj ms =>
        obtain ⟨l, hl, rfl⟩ := Option.map_eq_some_iff.mp hm
        have hmono := mapM_mono (g := fun m : String × Json => pair? decode (m.1, s.conform m.2))
          (fun m p hp => by
            obtain ⟨a, ha, rfl⟩ := Option.map_eq_some_iff.mp hp
            rw [pair?, h.transparent m.2 a ha]
            rfl) hl
        simp only [stringMap?, Schema.conform, List.mapM_map, Function.comp_def, hmono,
          Option.map_some]
    | _ => cases hm

end Composite

/-! ### Records -/

/-- A field of a record, with the property that it is stored as. -/
structure RecordField (total : Prop) (α : Type) where
  Value : Type
  get : α → Value
  property : Property
  encode : Value → Option Json
  decode : Option Json → Option Value
  norm : Value → Value
  format : MemberFormat total property encode decode norm

namespace RecordField

variable {β : Type} {s : Schema} {encode : β → Json} {decode : Json → Option β} {norm : β → β}

@[simp]
def mandatory (name : String) (get : α → β) (h : Format total s encode decode norm) :
    RecordField total α where
  Value := β
  get := get
  property := ⟨name, .mandatory, s⟩
  encode b := some (encode b)
  decode o := o.bind decode
  norm := norm
  format := h.mandatoryMember name

@[simp]
def optional (name : String) (get : α → Option β) (h : Format total s encode decode norm) :
    RecordField total α where
  Value := Option β
  get := get
  property := ⟨name, .optional, s⟩
  encode := Option.map encode
  decode := option? decode
  norm := Option.map norm
  format := h.optionalMember name

@[simp]
def defaulted (name : String) (get : α → β) (h : Format total s encode decode norm) {j : Json}
    {b₀ : β} (hnull : decode .null = none) (hdefault : decode (s.conform j) = some b₀) :
    RecordField total α where
  Value := β
  get := get
  property := ⟨name, .defaulted j, s⟩
  encode b := some (encode b)
  decode := default? decode b₀
  norm := norm
  format := h.defaultedMember name hnull hdefault

end RecordField

/-- The members that are read from an object are its own. -/
lemma record?_obj {names : List String} {required : ℕ} {ms ms' : List (String × Json)}
    (h : record? names required (.obj ms) = some ms') : ms' = ms := by
  rw [record?] at h
  split at h
  · exact (Option.some.inj h).symm
  · cases h

/-- The encoder writes an object with the members of the fields, which are the properties of the
schema. -/
structure RecordEncoder (fields : List (RecordField total α)) (s : Schema) (encode : α → Json) :
    Prop where
  schema : ∃ properties : Properties, s = .object properties ∧ properties.names.Nodup ∧
    properties.toList = fields.map RecordField.property
  members : ∀ a, ∃ ms, encode a = .obj ms ∧
    fields.Forall fun f => member? f.property.name ms = f.encode (f.get a)

namespace RecordEncoder

variable {fields : List (RecordField total α)} {s : Schema} {encode : α → Json}
  (h : RecordEncoder fields s encode)

include h

lemma accepts_obj (ms : List (String × Json)) : s.Accepts (.obj ms) ↔
    ∀ f ∈ fields, f.property.Accepts (member? f.property.name ms) := by
  obtain ⟨properties, rfl, hdistinct, hproperties⟩ := h.schema
  rw [Schema.accepts_obj hdistinct, hproperties, List.forall_mem_map]

/-- What is stored of an object has what is stored of its fields. -/
lemma conform_obj (ms : List (String × Json)) : ∃ ms', s.conform (.obj ms) = .obj ms' ∧
    (∀ names required, record? names required (.obj ms') = some ms') ∧
    ∀ f ∈ fields, member? f.property.name ms' = f.property.stored (member? f.property.name ms) := by
  obtain ⟨properties, rfl, hdistinct, hproperties⟩ := h.schema
  refine ⟨properties.conform ms, rfl, fun names required => ?_, fun f hf => ?_⟩
  · exact Properties.record?_conform hdistinct names required ms
  · have hmem : f.property ∈ properties.toList := by
      rw [hproperties]
      exact List.mem_map_of_mem hf
    exact Properties.member?_conform hdistinct ms hmem

/-- A record is accepted when every field is. -/
lemma accepts_iff (a : α) : s.Accepts (encode a) ↔
    fields.Forall fun f => f.property.Accepts (f.encode (f.get a)) := by
  obtain ⟨ms, hencode, hmembers⟩ := h.members a
  rw [List.forall_iff_forall_mem] at hmembers ⊢
  rw [hencode, h.accepts_obj]
  exact forall₂_congr fun f hf => by rw [hmembers f hf]

end RecordEncoder

/-- **The format of a record** is that of its fields: its decoder reads them, and there is a record
for any values of the fields. -/
theorem Format.record {fields : List (RecordField total α)} {s : Schema} {encode : α → Json}
    {decode : Json → Option α} {norm : α → α} (h : RecordEncoder fields s encode)
    {names : List String} {required : ℕ} {read : List (String × Json) → Option α}
    (hdecode : ∀ j, decode j = (record? names required j).bind read)
    (hread : ∀ ms a, read ms = some a ↔
      fields.Forall fun f => f.decode (member? f.property.name ms) = some (f.get a))
    (hmake : ∀ P : (f : RecordField total α) → f.Value → Prop, (fields.Forall fun f => ∃ v, P f v) →
      ∃ a, fields.Forall fun f => P f (f.get a))
    (hnorm : ∀ a, fields.Forall fun f => f.get (norm a) = f.norm (f.get a)) :
    Format total s encode decode norm := by
  simp only [List.forall_iff_forall_mem] at hread hmake hnorm
  -- What is stored of an object is decoded by its fields.
  have hstored : ∀ ms a, decode (s.conform (.obj ms)) = some a ↔
      ∀ f ∈ fields, f.decode (f.property.stored (member? f.property.name ms)) = some (f.get a) := by
    intro ms a
    obtain ⟨ms', hconform, hrecord, hmember⟩ := h.conform_obj ms
    rw [hconform, hdecode, hrecord, Option.bind_some, hread]
    exact forall₂_congr fun f hf => by rw [hmember f hf]
  refine ⟨fun a => ?_, ?_, fun a ha => ?_, fun j a ha => ?_⟩
  · obtain ⟨ms, hencode, -⟩ := h.members a
    rw [hencode]
    exact nofun
  · rintro ht d ⟨j, rfl, hvalid⟩
    obtain ⟨ms, rfl⟩ : ∃ ms, j = .obj ms := by
      obtain ⟨properties, rfl, -⟩ := h.schema
      exact Schema.exists_of_valid_object hvalid
    have hfields := (h.accepts_obj ms).mp hvalid
    obtain ⟨a, ha⟩ := hmake _ fun f hf => f.format.decodes ht _ (hfields f hf)
    refine ⟨a, (hstored ms a).mpr fun f hf => (ha f hf).1, ?_⟩
    rw [h.accepts_iff, List.forall_iff_forall_mem]
    exact fun f hf => (ha f hf).2
  · rw [h.accepts_iff, List.forall_iff_forall_mem] at ha
    obtain ⟨ms, hencode, hmembers⟩ := h.members a
    rw [List.forall_iff_forall_mem] at hmembers
    rw [hencode, hstored]
    intro f hf
    rw [hmembers f hf, f.format.roundTrip _ (ha f hf), hnorm a f hf]
  · cases j with
    | obj ms =>
        rw [hdecode] at ha
        obtain ⟨ms', hms, hread'⟩ := Option.bind_eq_some_iff.mp ha
        obtain rfl := record?_obj hms
        have hfields := (hread ms' a).mp hread'
        exact (hstored ms' a).mpr fun f hf => f.format.transparent _ _ (hfields f hf)
    | _ =>
        obtain ⟨properties, rfl, -⟩ := h.schema
        exact ha

end Json
