/-
  LlmHarness.Python.DumpsCheck

  When `json.dumps` returns: every integer of the document can be printed, and its containers
  are nested no deeper than the recursion limit allows.  The order in which a dict is printed
  changes nothing about it.
-/

import LlmHarness.Lib.Guards
import LlmHarness.Python.Digits
import LlmHarness.Python.Json

namespace LlmHarness.Python

/-- What `json.dumps` raises for a document. -/
inductive DumpsFault where
  | valueError
  | recursionError
deriving DecidableEq, Repr

mutual
/-- `json.dumps` of a document where `room` more containers may be entered, but for its text. -/
def dumpsCheck (room : Nat) : Json → Except DumpsFault Unit
  | .int value => if isWritableInt value then .ok () else .error .valueError
  | .arr items =>
    match room with
    | 0 => .error .recursionError
    | room + 1 => itemsCheck room items
  | .obj members =>
    match room with
    | 0 => .error .recursionError
    | room + 1 => membersCheck room members
  | _ => .ok ()
def itemsCheck (room : Nat) : List Json → Except DumpsFault Unit
  | [] => .ok ()
  | j :: js => do
    dumpsCheck room j
    itemsCheck room js
def membersCheck (room : Nat) : List (String × Json) → Except DumpsFault Unit
  | [] => .ok ()
  | (_, j) :: ms => do
    dumpsCheck room j
    membersCheck room ms
end

mutual
/-- The integers of a document. -/
def intsOf : Json → List Int
  | .int value => [value]
  | .arr items => itemInts items
  | .obj members => memberInts members
  | _ => []
def itemInts : List Json → List Int
  | [] => []
  | j :: js => intsOf j ++ itemInts js
def memberInts : List (String × Json) → List Int
  | [] => []
  | (_, j) :: ms => intsOf j ++ memberInts ms
end

mutual
/-- How many containers of a document are nested. -/
def nesting : Json → Nat
  | .arr items => itemNesting items + 1
  | .obj members => memberNesting members + 1
  | _ => 0
def itemNesting : List Json → Nat
  | [] => 0
  | j :: js => max (nesting j) (itemNesting js)
def memberNesting : List (String × Json) → Nat
  | [] => 0
  | (_, j) :: ms => max (nesting j) (memberNesting ms)
end

@[simp] theorem intsOf_null : intsOf .null = [] := rfl
@[simp] theorem intsOf_bool (value : Bool) : intsOf (.bool value) = [] := rfl
@[simp] theorem intsOf_int (value : Int) : intsOf (.int value) = [value] := rfl
@[simp] theorem intsOf_float (value : PyFloat) : intsOf (.float value) = [] := rfl
@[simp] theorem intsOf_str (value : String) : intsOf (.str value) = [] := rfl
@[simp] theorem intsOf_arr (items : List Json) : intsOf (.arr items) = itemInts items := rfl
@[simp] theorem intsOf_obj (members : List (String × Json)) :
    intsOf (.obj members) = memberInts members := rfl

@[simp] theorem itemInts_nil : itemInts [] = [] := rfl
@[simp] theorem itemInts_cons (j : Json) (js : List Json) :
    itemInts (j :: js) = intsOf j ++ itemInts js := rfl

@[simp] theorem memberInts_nil : memberInts [] = [] := rfl
@[simp] theorem memberInts_cons (member : String × Json) (ms : List (String × Json)) :
    memberInts (member :: ms) = intsOf member.2 ++ memberInts ms := rfl

/-! ## Members, without their order -/

/-- A dict passes exactly when the value of every member does. -/
theorem membersCheck_eq_ok {room : Nat} {ms : List (String × Json)} :
    membersCheck room ms = .ok () ↔ ∀ m ∈ ms, dumpsCheck room m.2 = .ok () := by
  induction ms with
  | nil => simp [membersCheck]
  | cons m ms ih =>
    rw [membersCheck, Guards.unit_bind_eq_ok, ih, List.forall_mem_cons]

mutual
/-- Sorting the keys decides nothing: a document can be printed in either order. -/
theorem dumpsCheck_sortKeys : (j : Json) → (room : Nat) →
    (dumpsCheck room j.sortKeys = .ok () ↔ dumpsCheck room j = .ok ())
  | .null, _ => Iff.rfl
  | .bool _, _ => Iff.rfl
  | .int _, _ => Iff.rfl
  | .float _, _ => Iff.rfl
  | .str _, _ => Iff.rfl
  | .arr _, 0 => Iff.rfl
  | .arr js, room + 1 => itemsCheck_sortItems js room
  | .obj _, 0 => Iff.rfl
  | .obj ms, room + 1 => by
    -- the sorted members are the same members
    have hsorted := membersCheck_sortMembers ms room
    rw [membersCheck_eq_ok] at hsorted
    simp only [Json.sortKeys, dumpsCheck, membersCheck_eq_ok, List.mem_insertionSort]
    rw [hsorted, membersCheck_eq_ok]
theorem itemsCheck_sortItems : (js : List Json) → (room : Nat) →
    (itemsCheck room (Json.sortItems js) = .ok () ↔ itemsCheck room js = .ok ())
  | [], _ => Iff.rfl
  | j :: js, room => by
    rw [Json.sortItems, itemsCheck, itemsCheck, Guards.unit_bind_eq_ok, Guards.unit_bind_eq_ok,
      dumpsCheck_sortKeys j, itemsCheck_sortItems js]
theorem membersCheck_sortMembers : (ms : List (String × Json)) → (room : Nat) →
    (membersCheck room (Json.sortMembers ms) = .ok () ↔ membersCheck room ms = .ok ())
  | [], _ => Iff.rfl
  | (k, j) :: ms, room => by
    rw [Json.sortMembers, membersCheck, membersCheck, Guards.unit_bind_eq_ok,
      Guards.unit_bind_eq_ok, dumpsCheck_sortKeys j, membersCheck_sortMembers ms]
end

/-! ## When it passes -/

/-- Two parts pass together exactly when their integers and their nesting do. -/
theorem both_iff {ps qs : List Int} {a b room : Nat} :
    ((∀ n ∈ ps, isWritableInt n) ∧ a ≤ room) ∧ ((∀ n ∈ qs, isWritableInt n) ∧ b ≤ room) ↔
      (∀ n ∈ ps ++ qs, isWritableInt n) ∧ max a b ≤ room := by
  rw [List.forall_mem_append, Nat.max_le]
  exact and_and_and_comm

mutual
/-- **`json.dumps` returns** exactly when the integers are short enough and the containers are
    nested no deeper than there is room. -/
theorem dumpsCheck_iff : (j : Json) → (room : Nat) →
    (dumpsCheck room j = .ok () ↔ (∀ n ∈ intsOf j, isWritableInt n) ∧ nesting j ≤ room)
  | .null, room => by simp [dumpsCheck, nesting]
  | .bool _, room => by simp [dumpsCheck, nesting]
  | .int value, room => by simp [dumpsCheck, nesting]
  | .float _, room => by simp [dumpsCheck, nesting]
  | .str _, room => by simp [dumpsCheck, nesting]
  | .arr js, 0 => by simp [dumpsCheck, nesting]
  | .arr js, room + 1 => by
    rw [dumpsCheck, itemsCheck_iff js room, intsOf_arr, nesting, Nat.add_le_add_iff_right]
  | .obj ms, 0 => by simp [dumpsCheck, nesting]
  | .obj ms, room + 1 => by
    rw [dumpsCheck, membersCheck_iff ms room, intsOf_obj, nesting, Nat.add_le_add_iff_right]
theorem itemsCheck_iff : (js : List Json) → (room : Nat) →
    (itemsCheck room js = .ok () ↔ (∀ n ∈ itemInts js, isWritableInt n) ∧ itemNesting js ≤ room)
  | [], room => by simp [itemsCheck, itemNesting]
  | j :: js, room => by
    rw [itemsCheck, Guards.unit_bind_eq_ok, dumpsCheck_iff j room, itemsCheck_iff js room,
      itemInts_cons, itemNesting, both_iff]
theorem membersCheck_iff : (ms : List (String × Json)) → (room : Nat) →
    (membersCheck room ms = .ok () ↔ (∀ n ∈ memberInts ms, isWritableInt n) ∧ memberNesting ms ≤ room)
  | [], room => by simp [membersCheck, memberNesting]
  | (k, j) :: ms, room => by
    rw [membersCheck, Guards.unit_bind_eq_ok, dumpsCheck_iff j room, membersCheck_iff ms room,
      memberInts_cons, memberNesting, both_iff]
end

end LlmHarness.Python
