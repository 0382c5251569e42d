import LayeredMarks.Json.Basic

/-!
# Equality of values

Whether two values are the same can be decided, so that what a reader makes of a text or an
expansion of a spec can be computed.  `equals` compares two values part by part.
-/

namespace LayeredMarks.Json

mutual

/-- Whether two values are the same. -/
def equals : Json → Json → Bool
  | null, null => true
  | bool a, bool b => a == b
  | int m, int n => m == n
  | double x, double y => x == y
  | str s, str t => s == t
  | arr items, arr others => equalItems items others
  | obj fields, obj others => equalFields fields others
  | moment m, moment n => m == n
  | _, _ => false

/-- Whether two arrays hold the same items. -/
def equalItems : List Json → List Json → Bool
  | [], [] => true
  | item :: rest, other :: others => equals item other && equalItems rest others
  | _, _ => false

/-- Whether two objects hold the same fields in the same order. -/
def equalFields : List (String × Json) → List (String × Json) → Bool
  | [], [] => true
  | (name, value) :: rest, (key, other) :: others =>
    name == key && equals value other && equalFields rest others
  | _, _ => false

end

mutual

theorem equals_iff : (value other : Json) → (value.equals other = true ↔ value = other)
  | .arr items, other => by cases other <;> simp [equals, equalItems_iff items]
  | .obj fields, other => by cases other <;> simp [equals, equalFields_iff fields]
  | .null, other | .bool _, other | .int _, other | .double _, other | .str _, other
  | .moment _, other => by cases other <;> simp [equals]

theorem equalItems_iff :
    (items others : List Json) → (equalItems items others = true ↔ items = others)
  | [], others => by cases others <;> simp [equalItems]
  | item :: rest, [] => by simp [equalItems]
  | item :: rest, other :: others => by
    simp [equalItems, equals_iff item other, equalItems_iff rest others]

theorem equalFields_iff :
    (fields others : List (String × Json)) → (equalFields fields others = true ↔ fields = others)
  | [], others => by cases others <;> simp [equalFields]
  | (name, value) :: rest, [] => by simp [equalFields]
  | (name, value) :: rest, (key, other) :: others => by
    simp [equalFields, equals_iff value other, equalFields_iff rest others, and_assoc]

end

instance : DecidableEq Json := fun value other =>
  decidable_of_iff (value.equals other = true) (equals_iff value other)

end LayeredMarks.Json
