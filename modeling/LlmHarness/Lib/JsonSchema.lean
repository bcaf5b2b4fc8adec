/-
  LlmHarness.Lib.JsonSchema

  JSON Schema (draft 2020-12), as far as closed record formats use it.  A schema
  is the set of documents it accepts, so each keyword is a combinator; a keyword
  about one type accepts the values of the others.
-/

import LlmHarness.Python.Dict
import LlmHarness.Python.Json

namespace LlmHarness.JsonSchema

open Python

/-- The documents a schema accepts. -/
abbrev Schema := Json → Bool

/-- `{"allOf": [...]}`, and the keywords of one schema object. -/
def allOf (schemas : List Schema) : Schema := fun value => schemas.all fun schema => schema value

/-- `{"oneOf": [...]}` with two alternatives. -/
def oneOf (first second : Schema) : Schema := fun value => first value != second value

/-- `{"if": ..., "then": ...}`. -/
def ifThen (condition consequence : Schema) : Schema := fun value =>
  !condition value || consequence value

/-- `{"type": "null"}`. -/
def typeNull : Schema
  | .null => true
  | _ => false

/-- `{"type": "string"}`. -/
def typeString : Schema
  | .str _ => true
  | _ => false

/-- `{"type": ["string", "null"]}`. -/
def typeStringOrNull : Schema := fun value => typeString value || typeNull value

/-- `{"const": text}`. -/
def const (text : String) : Schema
  | .str s => s = text
  | _ => false

/-- `{"enum": texts}`. -/
def enum (texts : List String) : Schema
  | .str s => s ∈ texts
  | _ => false

/-- `{"minLength": n}`: characters, not bytes. -/
def minLength (n : Nat) : Schema
  | .str s => n ≤ s.toList.length
  | _ => true

/-- `{"pattern": ...}`, with the texts the pattern finds a match in. -/
def pattern (found : String → Bool) : Schema
  | .str s => found s
  | _ => true

/-- `{"type": "array"}`. -/
def typeArray : Schema
  | .arr _ => true
  | _ => false

/-- `{"items": item}`. -/
def items (item : Schema) : Schema
  | .arr values => values.all item
  | _ => true

/-- `{"minItems": n}`. -/
def minItems (n : Nat) : Schema
  | .arr values => n ≤ values.length
  | _ => true

/-- `{"maxItems": n}`. -/
def maxItems (n : Nat) : Schema
  | .arr values => values.length ≤ n
  | _ => true

/-- `{"properties": {name: schema}}`. -/
def property (name : String) (schema : Schema) : Schema
  | .obj members =>
    match dictGet? members name with
    | some value => schema value
    | none => true
  | _ => true

/-- `{"type": "object", "additionalProperties": false, "required": ...,
    "properties": ...}`. -/
def closedObject (required : List String) (properties : List (String × Schema)) : Schema
  | .obj members =>
    (members.map Prod.fst).all (fun name => name ∈ properties.map Prod.fst) &&
      required.all (fun name => name ∈ members.map Prod.fst) &&
      properties.all fun (name, schema) => property name schema (.obj members)
  | _ => false

/-! ## What the keywords accept -/

theorem allOf_cons (schema : Schema) (schemas : List Schema) (value : Json) :
    allOf (schema :: schemas) value ↔ schema value ∧ allOf schemas value := by
  rw [allOf, List.all_cons, Bool.and_eq_true]
  rfl

theorem typeNull_iff (value : Json) : typeNull value ↔ value = .null := by
  cases value <;> simp [typeNull]

theorem const_iff (text : String) (value : Json) : const text value ↔ value = .str text := by
  cases value <;> simp [const]

theorem enum_iff (texts : List String) (value : Json) :
    enum texts value ↔ ∃ s ∈ texts, value = .str s := by
  cases value <;> simp [enum]

/-- A string with a minimal length. -/
theorem string_minLength_iff (n : Nat) (value : Json) :
    allOf [typeString, minLength n] value ↔ ∃ s, value = .str s ∧ n ≤ s.toList.length := by
  cases value <;> simp [allOf, typeString, minLength]

/-- A string with a pattern. -/
theorem string_pattern_iff (found : String → Bool) (value : Json) :
    allOf [typeString, pattern found] value ↔ ∃ s, value = .str s ∧ found s := by
  cases value <;> simp [allOf, typeString, pattern]

/-- A list of items. -/
theorem array_items_iff (item : Schema) (value : Json) :
    allOf [typeArray, items item] value ↔ ∃ values, value = .arr values ∧ ∀ v ∈ values, item v := by
  cases value <;> simp [allOf, typeArray, items]

theorem ifThen_iff (condition consequence : Schema) (value : Json) :
    ifThen condition consequence value ↔ (condition value → consequence value) := by
  rw [ifThen]
  cases condition value <;> simp

/-- A property that is present, or whose schema accepts null. -/
theorem property_iff {members : List (String × Json)} {name : String} {schema : Schema}
    (h : name ∈ members.map Prod.fst ∨ schema .null) :
    property name schema (.obj members) ↔ schema ((dictGet? members name).getD .null) := by
  rw [property]
  cases hget : dictGet? members name with
  | some value => rfl
  | none =>
      rcases h with hpresent | hnull
      · exact absurd hpresent ((dictGet?_eq_none_iff members name).mp hget)
      · exact iff_of_true rfl hnull

theorem closedObject_iff (required : List String) (properties : List (String × Schema))
    (value : Json) : closedObject required properties value ↔ ∃ members, value = .obj members ∧
      (∀ name ∈ members.map Prod.fst, name ∈ properties.map Prod.fst) ∧
      (∀ name ∈ required, name ∈ members.map Prod.fst) ∧
      ∀ p ∈ properties, property p.1 p.2 (.obj members) := by
  cases value with
  | obj members =>
      simp only [closedObject, Bool.and_eq_true, List.all_eq_true, decide_eq_true_eq, and_assoc,
        Json.obj.injEq, exists_eq_left']
  | _ => simp [closedObject]

/-- A closed object whose optional properties may be null. -/
theorem closedObject_get_iff {required : List String} {properties : List (String × Schema)}
    (h : ∀ p ∈ properties, p.1 ∈ required ∨ p.2 .null) (value : Json) :
    closedObject required properties value ↔ ∃ members, value = .obj members ∧
      (∀ name ∈ members.map Prod.fst, name ∈ properties.map Prod.fst) ∧
      (∀ name ∈ required, name ∈ members.map Prod.fst) ∧
      ∀ p ∈ properties, p.2 ((dictGet? members p.1).getD .null) := by
  rw [closedObject_iff]
  refine exists_congr fun members => and_congr_right fun _ => and_congr_right fun _ =>
    and_congr_right fun hrequired => forall₂_congr fun p hp => property_iff ?_
  exact (h p hp).imp (hrequired p.1) id

/-- A list whose items all spell something is the list of what they spell. -/
theorem forall_mem_iff_exists_forall₂ {α β : Type} {p : α → Prop} {r : α → β → Prop} {q : β → Prop}
    (h : ∀ a, p a ↔ ∃ b, r a b ∧ q b) (as : List α) :
    (∀ a ∈ as, p a) ↔ ∃ bs, List.Forall₂ r as bs ∧ ∀ b ∈ bs, q b := by
  induction as with
  | nil => simp
  | cons a as ih =>
      rw [List.forall_mem_cons, h, ih]
      constructor
      · rintro ⟨⟨b, hb, hq⟩, bs, hbs, hqs⟩
        exact ⟨b :: bs, .cons hb hbs, List.forall_mem_cons.mpr ⟨hq, hqs⟩⟩
      · rintro ⟨bs, hbs, hqs⟩
        obtain ⟨b, bs, hb, hrest, rfl⟩ := List.forall₂_cons_left_iff.mp hbs
        obtain ⟨hq, hqs⟩ := List.forall_mem_cons.mp hqs
        exact ⟨⟨b, hb, hq⟩, bs, hrest, hqs⟩

end LlmHarness.JsonSchema
