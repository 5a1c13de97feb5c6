import Snip36.FieldTypes
import Snip36.Library.Hex

/-! JSON values, and the fields of an object read one at a time. -/

namespace Snip36

/-- `serde_json::Value`. An object lists its members as they were written; a
number is `n`, `-(n + 1)` or neither. -/
inductive Json where
  | null
  | bool (b : Bool)
  | num (n : Nat)
  | negNum (n : Nat)
  | float (literal : String)
  | str (s : String)
  | arr (items : List Json)
  | obj (members : List (String × Json))

namespace Json

/-- `Value::get` with a string. -/
def get? (json : Json) (key : String) : Option Json :=
  match json with
  | .obj members => members.lookup key
  | _ => none

def asStr : Json → Option String
  | .str s => some s
  | _ => none

/-- `json!` of a list of strings. -/
def ofStrings (strings : List String) : Json := .arr (strings.map .str)

section

variable {α : Type} (decode : Json → Option α)

/-- A member that has to be there. -/
def field (json : Json) (key : String) : Option α := (json.get? key).bind decode

/-- A member that may be absent. -/
def fieldOr (default : α) (json : Json) (key : String) : Option α :=
  match json.get? key with
  | none => some default
  | some value => decode value

def elements : Json → Option (List α)
  | .arr items => items.mapM decode
  | _ => none

theorem get?_obj_cons (key key' : String) (value : Json) (members : List (String × Json)) :
    (obj ((key', value) :: members)).get? key =
      if key = key' then some value else (obj members).get? key := by
  by_cases h : key = key'
  · simp [get?, h]
  · simp [get?, h, List.lookup_cons, beq_eq_false_iff_ne.mpr h]

@[simp] theorem get?_obj_nil (key : String) : (obj []).get? key = none := rfl

/-- Elements that are written one by one are read back one by one. -/
theorem elements_arr_map {β : Type} {encode : β → Json} {decode : Json → Option α}
    {items : List β} {values : List α}
    (h : List.Forall₂ (fun item value => decode (encode item) = some value) items values) :
    elements decode (.arr (items.map encode)) = some values := by
  induction h with
  | nil => rfl
  | cons hd _ ih =>
      simp only [elements, List.map_cons, List.mapM_cons] at ih ⊢
      rw [hd, ih]
      rfl

end

end Json

end Snip36
