import LayeredMarks.Checked
import LayeredMarks.Decimal.Numeral
import LayeredMarks.Text.Blank
import LayeredMarks.Text.Case

/-!
# Reading the fields of a record

Texts, objects and lists are taken as they are.  Booleans and numbers are taken in some other shapes
as well: a boolean may be spelled by a word or by zero or one, a number by a text.
-/

namespace LayeredMarks.Reading

variable {α : Type}

/-- A text. -/
def text : Json → Checked String
  | .str s => .ok s
  | _ => .fail .notText

/-- An object. -/
def object : Json → Checked Object
  | .obj fields => .ok fields
  | _ => .fail .notObject

/-- The items of a list, each read in turn. -/
def list (read : Json → Checked α) : Json → Checked (List α)
  | .arr items => .items read 0 items
  | _ => .fail .notList

/-! ## Booleans -/

/-- The boolean that a word spells, in any case. -/
def spelledFlag? (word : String) : Option Bool :=
  let small := Text.lowerCase word
  if small ∈ ["1", "on", "t", "true", "y", "yes"] then some true
  else if small ∈ ["0", "off", "f", "false", "n", "no"] then some false
  else none

/-- A boolean given as an integer. -/
def numericFlag : Int → Checked Bool
  | 0 => .ok false
  | 1 => .ok true
  | _ => .fail .unreadableBool

/-- Integers from here on are no signed 64-bit integers. -/
def longBound : Int := 0x8000000000000000

/-- A boolean, a word that spells one, or zero or one.  Numbers that no signed 64-bit integer equals
never stand for a boolean. -/
def flag : Json → Checked Bool
  | .bool b => .ok b
  | .int n => if -longBound ≤ n ∧ n < longBound then numericFlag n else .fail .notBool
  | .double x =>
    match x.toInt? with
    | some n => if -longBound < n ∧ n < longBound then numericFlag n else .fail .notBool
    | none => .fail .notBool
  | .str s =>
    match spelledFlag? s with
    | some b => .ok b
    | none => .fail .unreadableBool
  | _ => .fail .notBool

/-! ## Numbers -/

/-- The text without the underscores that group its digits; none if it has no underscore, or one at
an end or beside another. -/
def ungrouped? (text : String) : Option (List Char) :=
  let cs := text.toList
  let doubled := (cs.zip cs.tail).any fun pair => pair.1 = '_' && pair.2 = '_'
  if !cs.contains '_' || cs.head? = some '_' || cs.getLast? = some '_' || doubled then none
  else some (cs.filter (· ≠ '_'))

/-- The number that a text spells.  White space may surround a numeral without underscores. -/
def spelledNumber? (text : String) : Option Double :=
  match Numeral.double? (Text.trimWith Text.isWhiteSpace text).toList with
  | some x => some x
  | none => (ungrouped? text).bind Numeral.double?

/-- A number, a text that spells one, or a boolean as zero or one. -/
def number : Json → Checked Double
  | .double x => .ok x
  | .int n =>
    match Double.ofInt? n with
    | some x => .ok x
    | none => .fail .notNumber
  | .bool b => .ok (Double.ofDecimal false b.toNat 0)
  | .str s =>
    match spelledNumber? s with
    | some x => .ok x
    | none => .fail .unreadableNumber
  | _ => .fail .notNumber

/-! ## Fields -/

/-- A value that may be null. -/
def nullable (read : Json → Checked α) : Json → Checked (Option α)
  | .null => .ok none
  | value => (read value).map some

/-- The field under a key, which must be there. -/
def required (fields : Object) (key : String) (read : Json → Checked α) : Checked α :=
  (match fields.get? key with
  | some value => read value
  | none => .fail .missing).under (.key key)

/-- The field under a key, or a value for when it is absent. -/
def withDefault (fields : Object) (key : String) (read : Json → Checked α) (default : α) :
    Checked α :=
  match fields.get? key with
  | some value => (read value).under (.key key)
  | none => .ok default

/-- The field under a key, if it is there and not null. -/
def optional (fields : Object) (key : String) (read : Json → Checked α) : Checked (Option α) :=
  withDefault fields key (nullable read) none

/-- Lists an issue for each field that is not among the expected ones, in the order of arrival. -/
def noOthers (fields : Object) (expected : List String) : Checked Unit :=
  match fields.keys.filter (· ∉ expected) with
  | [] => .ok ()
  | surplus => .refused (surplus.map fun key => ⟨[.key key], .surplus⟩)

/-- The name under which a field with two names is given: the second if only that is there. -/
def nameOf (fields : Object) (name other : String) : String :=
  if (fields.get? name).isNone && (fields.get? other).isSome then other else name

theorem required_eq_ok {fields : Object} {key : String} {read : Json → Checked α} {a : α} :
    required fields key read = .ok a ↔
      ∃ value, fields.get? key = some value ∧ read value = .ok a := by
  unfold required
  cases fields.get? key <;> simp [Checked.fail]

theorem withDefault_congr {fields other : Object} {key : String}
    (h : fields.get? key = other.get? key) (read : Json → Checked α) (default : α) :
    withDefault fields key read default = withDefault other key read default := by
  rw [withDefault, withDefault, h]

theorem optional_congr {fields other : Object} {key : String}
    (h : fields.get? key = other.get? key) (read : Json → Checked α) :
    optional fields key read = optional other key read :=
  withDefault_congr h _ _

/-- A field counts as given when it is there and not null, and then its value is read. -/
theorem optional_eq_ok {fields : Object} {key : String} {read : Json → Checked α} {a : Option α} :
    optional fields key read = .ok a ↔
      Option.Rel (fun value b => read value = .ok b)
        ((fields.get? key).filter fun value => !value.isNull) a := by
  unfold optional withDefault
  rcases fields.get? key with _ | value
  · cases a <;> simp
  · cases value <;> cases a <;> simp [nullable, Json.isNull, Option.filter, Checked.map_eq_ok]

/-- A value that has been read is there. -/
theorem exists_of_optional {fields : Object} {key : String} {read : Json → Checked α} {a : α}
    (h : optional fields key read = .ok (some a)) :
    ∃ value, fields.get? key = some value ∧ read value = .ok a := by
  rw [optional_eq_ok] at h
  generalize hgiven : (fields.get? key).filter _ = given at h
  cases h with
  | some hread => exact ⟨_, (Option.filter_eq_some_iff.mp hgiven).1, hread⟩

theorem optional_of_get? {fields : Object} {key : String} {value : Json}
    (h : fields.get? key = some value) {read : Json → Checked α} {a : α}
    (reads : read value = .ok a) (given : value ≠ .null) :
    optional fields key read = .ok (some a) := by
  have hgiven : value.isNull = false := Json.isNull_eq_false.mpr given
  rw [optional_eq_ok, h, Option.filter, if_pos (by simpa using hgiven)]
  exact .some reads

theorem noOthers_eq_ok {fields : Object} {expected : List String} :
    noOthers fields expected = .ok () ↔ ∀ key ∈ fields.keys, key ∈ expected := by
  unfold noOthers
  cases hsurplus : fields.keys.filter (· ∉ expected) with
  | nil => simpa using hsurplus
  | cons key rest =>
    have hmem : key ∈ fields.keys.filter (· ∉ expected) := hsurplus ▸ List.mem_cons_self ..
    obtain ⟨hkey, hother⟩ := List.mem_filter.mp hmem
    simp only [reduceCtorEq, false_iff]
    exact fun all => of_decide_eq_true hother (all key hkey)

end LayeredMarks.Reading
