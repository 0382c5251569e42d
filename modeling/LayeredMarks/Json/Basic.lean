import LayeredMarks.Fields
import LayeredMarks.Decimal.Double
import LayeredMarks.Moment

/-!
# JSON values

Specs, settings and layers are JSON values.  Integers of any size and binary64 numbers are told
apart, and an object keeps the order in which its keys first arrived.  The values of a file with
settings are among them, so that dates and times are there as well.
-/

namespace LayeredMarks

/-- A JSON value, or a date or time, which only files with settings hold. -/
inductive Json where
  | null
  | bool (value : Bool)
  | int (value : Int)
  | double (value : Double)
  | str (value : String)
  | arr (items : List Json)
  | obj (fields : List (String × Json))
  | moment (value : Moment)
deriving Inhabited

/-- The fields of a JSON object. -/
abbrev Object := Fields Json

namespace Json

/-- Whether the value is null. -/
def isNull : Json → Bool
  | null => true
  | _ => false

theorem isNull_eq_false {value : Json} : value.isNull = false ↔ value ≠ .null := by
  cases value <;> simp [isNull]

/-- Whether the value counts as given: it is neither null, `false`, zero nor empty. -/
def isGiven : Json → Bool
  | null => false
  | bool b => b
  | int n => n != 0
  | double x => !x.isZero
  | str s => s != ""
  | arr items => !items.isEmpty
  | obj fields => !fields.isEmpty
  | moment _ => true

/-- Whether the value is a given text. -/
def isText (text : String) : Json → Bool
  | str s => s == text
  | _ => false

/-- The fields, if the value is an object. -/
def object? : Json → Option Object
  | obj fields => some fields
  | _ => none

/-- The entries of a value: the items of a list, the keys of an object, the characters of a text.
Other values have none. -/
def entries? : Json → Option (List Json)
  | arr items => some items
  | obj fields => some ((Fields.keys fields).map str)
  | str text => some (text.toList.map fun c => str (String.singleton c))
  | _ => none

/-- The name of the value's kind, as complaints give it. -/
def kindName : Json → String
  | null => "NoneType"
  | bool _ => "bool"
  | int _ => "int"
  | double _ => "float"
  | str _ => "str"
  | arr _ => "list"
  | obj _ => "dict"
  | moment m => m.kindName

/-- The value under a key of an object; other values have none. -/
def get? (value : Json) (key : String) : Option Json :=
  match value with
  | obj fields => Fields.get? fields key
  | _ => none

/-- A text or null. -/
def ofText? : Option String → Json
  | some s => str s
  | none => null

end Json

end LayeredMarks
