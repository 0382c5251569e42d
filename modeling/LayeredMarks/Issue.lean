import LayeredMarks.Misfit

/-!
# Issues of a spec

Reading a spec does not stop at the first field that is wrong: every field of a record is looked at,
and what is wrong is listed with the place where it stands.  An `Issue` is one such entry; its kind
and its text are what a user sees.
-/

namespace LayeredMarks

/-- One step on the way from a value to a value inside it. -/
inductive PathStep where
  | key (name : String)
  | index (position : Nat)
deriving DecidableEq, Repr, Inhabited

/-- What can be wrong with a field of a record. -/
inductive Fault where
  /-- A field that must be there is absent. -/
  | missing
  /-- The record takes no field of this name. -/
  | surplus
  | notText
  | notObject
  | notList
  /-- The value is of a kind that never stands for a boolean. -/
  | notBool
  /-- The value is of a kind that may stand for a boolean, but does not. -/
  | unreadableBool
  | notNumber
  /-- A text that does not spell a number. -/
  | unreadableNumber
  /-- A record of the given name must stand here. -/
  | notRecord (record : String)
  | misfit (misfit : Misfit)
deriving Inhabited

/-- A fault, and the way to the place where it stands. -/
structure Issue where
  path : List PathStep
  fault : Fault
deriving Inhabited

/-- The kind of a fault, as a short word. -/
def Fault.kind : Fault → String
  | missing => "missing"
  | surplus => "extra_forbidden"
  | notText => "string_type"
  | notObject => "dict_type"
  | notList => "list_type"
  | notBool => "bool_type"
  | unreadableBool => "bool_parsing"
  | notNumber => "float_type"
  | unreadableNumber => "float_parsing"
  | notRecord _ => "model_type"
  | misfit _ => "value_error"

/-- The complaint about a fault. -/
def Fault.message : Fault → String
  | missing => "Field required"
  | surplus => "Extra inputs are not permitted"
  | notText => "Input should be a valid string"
  | notObject => "Input should be a valid dictionary"
  | notList => "Input should be a valid list"
  | notBool => "Input should be a valid boolean"
  | unreadableBool => "Input should be a valid boolean, unable to interpret input"
  | notNumber => "Input should be a valid number"
  | unreadableNumber => "Input should be a valid number, unable to parse string as a number"
  | notRecord record => "Input should be a valid dictionary or instance of " ++ record
  | misfit m => "Value error, " ++ m.message

end LayeredMarks
