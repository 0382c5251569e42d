import LayeredMarks.Reading
import LayeredMarks.Vocabulary
import LayeredMarks.Text.WordCharacter

/-!
# Field definitions

A channel that shows a field of the data names the field and says how it is transformed first: it is
binned, aggregated or cut to a time unit.  `FieldDef.column` is the name of the column which that
transform writes; whoever produces a column and whoever reads it both take its name from there.
The name shows the values of parameters, and has no text where one of them has none
(`namingFault?`).

Properties that the expansion does not look at are kept in `extras`, in the order of the input.
-/

namespace LayeredMarks

/-- How a channel aggregates its field. -/
inductive Aggregate where
  /-- An operator by its name. -/
  | op (name : String)
  /-- A record of parameters. -/
  | record (parameters : Object)
deriving Inhabited

namespace Aggregate

/-- The value as it stands in a spec. -/
def toJson : Aggregate → Json
  | op name => .str name
  | record parameters => .obj parameters

/-- Whether the aggregate is the operator of this name. -/
def isOp (name : String) : Aggregate → Bool
  | op other => other = name
  | record _ => false

/-- The name of the operator, if it is one of those that an aggregate step knows. -/
def knownOp? : Aggregate → Option String
  | op name => if name ∈ aggregateOps then some name else none
  | record _ => none

/-- A text or an object; anything else has two issues, one for either. -/
def read : Json → Checked Aggregate
  | .str name => .ok (op name)
  | .obj parameters => .ok (record parameters)
  | _ => .refused [⟨[.key "str"], .notText⟩, ⟨[.key "dict[str,any]"], .notObject⟩]

end Aggregate

/-- How a channel bins its field. -/
inductive Binning where
  /-- Bins with default parameters, or not at all. -/
  | flag (on : Bool)
  /-- Bins with these parameters. -/
  | parameters (parameters : Object)
deriving Inhabited

namespace Binning

/-- The value as it stands in a spec. -/
def toJson : Binning → Json
  | flag on => .bool on
  | parameters fields => .obj fields

/-- Whether there is any binning. -/
def isOn : Binning → Bool
  | flag on => on
  | parameters fields => !fields.isEmpty

/-- The number of bins at most, where no parameters are given. -/
def defaultMaxBins : Nat := 10

/-- The name of the binning: `bin`, then every parameter with its value, made a single word. -/
def label (binning : Binning) : String :=
  let fields : Object :=
    match binning with
    | flag _ => [("maxbins", .int defaultMaxBins)]
    | parameters fields => fields
  "bin" ++ String.join (fields.map fun field =>
    Text.flattenToWord ("_" ++ field.1 ++ "_" ++ field.2.shown))

/-- Why the binning cannot be named in a given room, if it cannot.  Its parameters are shown four
steps deep in the work. -/
def labelFault? (room : Room) : Binning → Option Json.WritingFault
  | flag _ => none
  | parameters fields =>
    fields.findSome? fun field => field.2.writingFault? .message (room - 4)

/-- A boolean, in any of its spellings, or an object; anything else has two issues, one for
either. -/
def read : Json → Checked Binning
  | .obj fields => .ok (parameters fields)
  | value =>
    match (Reading.flag value).map flag with
    | .ok binning => .ok binning
    | refused => .refused ((refused.under (.key "bool")).issues ++
        [⟨[.key "dict[str,any]"], .notObject⟩])

end Binning

/-- A channel that shows a field of the data. -/
structure FieldDef where
  /-- The name of the field; only a count may do without. -/
  field : Option String
  type : Option MeasureType
  aggregate : Option Aggregate
  bin : Option Binning
  timeUnit : Option String
  scale : Option Object
  axis : Option Object
  extras : Object
deriving Inhabited

namespace FieldDef

/-! ## Reading and writing -/

/-- The name under which the time unit of a definition is given. -/
def timeUnitName (fields : Object) : String := Reading.nameOf fields "timeUnit" "time_unit"

/-- Reads a field definition. -/
def read (fields : Object) : Checked FieldDef :=
  let timeUnitName := timeUnitName fields
  let known := ["field", "type", "aggregate", "bin", timeUnitName, "scale", "axis"]
  FieldDef.mk
    <$> Reading.optional fields "field" Reading.text
    <*> Reading.optional fields "type" (fun value => .ofExcept (Vocabulary.read value))
    <*> Reading.optional fields "aggregate" Aggregate.read
    <*> Reading.optional fields "bin" Binning.read
    <*> Reading.optional fields timeUnitName Reading.text
    <*> Reading.optional fields "scale" Reading.object
    <*> Reading.optional fields "axis" Reading.object
    <*> .ok (fields.filter fun entry => entry.1 ∉ known)

/-- The definition as it stands in a spec: known properties first, then the others; properties that
are null are left out. -/
def toObject (d : FieldDef) : Object :=
  Fields.ofOptions
    [("field", d.field.map .str), ("type", d.type.map fun type => .str (Vocabulary.word type)),
     ("aggregate", d.aggregate.map Aggregate.toJson), ("bin", d.bin.map Binning.toJson),
     ("timeUnit", d.timeUnit.map .str), ("scale", d.scale.map .obj), ("axis", d.axis.map .obj)] ++
  d.extras.filter fun entry => !entry.2.isNull

/-! ## Properties -/

/-- Whether the field is binned. -/
def isBinned (d : FieldDef) : Bool := d.bin.any Binning.isOn

/-- The time unit, if one is given by name. -/
def givenTimeUnit? (d : FieldDef) : Option String := d.timeUnit.filter (· ≠ "")

/-- Whether the field takes separate values: a quantitative field does only when it is binned, a
temporal one never, any other always. -/
def isDiscrete (d : FieldDef) : Bool :=
  match d.type with
  | some .quantitative => d.isBinned
  | some .temporal => false
  | _ => true

/-- Whether the field takes values on a scale. -/
def isContinuous (d : FieldDef) : Bool := !d.isDiscrete

/-- Whether the definition is aggregated by the operator of this name. -/
def aggregatesBy (d : FieldDef) (op : String) : Bool := d.aggregate.any (Aggregate.isOp op)

/-- The name of the transform that the definition asks for: the binning, else the aggregate, else
the time unit. -/
def transformName? (d : FieldDef) : Option String :=
  match d.bin.filter Binning.isOn with
  | some binning => some binning.label
  | none =>
    match d.aggregate.filter fun aggregate => aggregate.toJson.isGiven with
    | some aggregate => some aggregate.toJson.shown
    | none => d.givenTimeUnit?

/-- The name of the column that the definition's own transform writes: the name of the transform and
the field, joined by an underscore. -/
def column (d : FieldDef) : String :=
  if d.aggregatesBy "count" then "count_*"
  else
    let field := d.field.getD ""
    match d.transformName? with
    | some name => if field = "" then name else name ++ "_" ++ field
    | none => field

/-- Why the column cannot be named in a given room, if it cannot.  Its binning is named, or else its
aggregate is shown, one step deep in the work; a count is neither. -/
def namingFault? (room : Room) (d : FieldDef) : Option Json.WritingFault :=
  if d.aggregatesBy "count" then none
  else
    match d.bin.filter Binning.isOn with
    | some binning => binning.labelFault? (room - 1)
    | none =>
      (d.aggregate.filter fun aggregate => aggregate.toJson.isGiven).bind fun aggregate =>
        aggregate.toJson.writingFault? .message (room - 1)

/-- The definition that reads the column which its own transform has written. -/
def readingColumn (d : FieldDef) : FieldDef :=
  { d with field := some d.column, aggregate := none, bin := none, timeUnit := none }

end FieldDef

end LayeredMarks
