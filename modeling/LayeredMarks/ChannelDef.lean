import LayeredMarks.FieldDef

/-!
# Channel definitions

An entry of an encoding shows a field of the data or a constant value.  Some channels hold a list of
definitions, possibly nested; what is no object and no list stands for itself.
-/

namespace LayeredMarks

/-- A channel that shows a constant value, or that is set up without a field. -/
structure ValueDef where
  /-- The value, if there is one; it may be null. -/
  value : Option Json
  extras : Object
deriving Inhabited

namespace ValueDef

/-- Every object is the definition of a value. -/
def ofObject (fields : Object) : ValueDef := ⟨fields.get? "value", fields.erase "value"⟩

/-- The definition as it stands in a spec: the value first, nulls kept. -/
def toObject (d : ValueDef) : Object := Fields.ofOptions [("value", d.value)] ++ d.extras

end ValueDef

/-- What an encoding says about a channel. -/
inductive ChannelDef where
  | field (definition : FieldDef)
  | value (definition : ValueDef)
  | list (items : List ChannelDef)
  | raw (value : Json)
deriving Inhabited

namespace ChannelDef

/-- Whether an object defines a field channel: it names a field, or it counts. -/
def definesField (fields : Object) : Bool :=
  (fields.get? "field").any Json.isGiven || (fields.get? "aggregate").any (Json.isText "count")

/-- Reads an object as the definition of a field or of a value. -/
def readObject (fields : Object) : Checked ChannelDef :=
  if definesField fields then (FieldDef.read fields).map field
  else .ok (value (ValueDef.ofObject fields))

mutual

/-- Reads a channel definition. -/
def read : Json → Checked ChannelDef
  | .obj fields => readObject fields
  | .arr items => (readItems items).map list
  | other => .ok (raw other)

/-- Reads the definitions of a list; the first that is refused ends the reading. -/
def readItems : List Json → Checked (List ChannelDef)
  | [] => .ok []
  | item :: rest => (read item).andThen fun first => (readItems rest).map (first :: ·)

end

mutual

/-- The definition as it stands in a spec. -/
def toJson : ChannelDef → Json
  | field d => .obj d.toObject
  | value d => .obj d.toObject
  | list items => .arr (itemsToJson items)
  | raw v => v

/-- The definitions of a list as they stand in a spec. -/
def itemsToJson : List ChannelDef → List Json
  | [] => []
  | item :: rest => toJson item :: itemsToJson rest

end

/-- The field definition of a channel that shows a field. -/
def fieldDef? : ChannelDef → Option FieldDef
  | field d => some d
  | _ => none

/-- Whether the channel shows a field that takes values on a scale. -/
def isContinuous (channel : ChannelDef) : Bool := channel.fieldDef?.any FieldDef.isContinuous

/-- The field definitions that a channel holds directly: its own, or those among its list entries.
-/
def directFields : ChannelDef → List FieldDef
  | field d => [d]
  | list items => items.filterMap fieldDef?
  | _ => []

end ChannelDef

/-- What a spec says about its channels, in the order of the spec. -/
abbrev Encoding := Fields ChannelDef

end LayeredMarks
