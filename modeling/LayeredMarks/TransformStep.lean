import LayeredMarks.FieldDef

/-!
# Transform steps

The data of a layered spec is transformed step by step: fields are binned or cut to time units, then
aggregated by group, and further columns are calculated from the aggregated ones.
-/

namespace LayeredMarks

/-- One column that an aggregate step computes. -/
structure AggregateOutput where
  op : String
  field : Option String
  /-- The name of the column. -/
  column : String
deriving DecidableEq, Repr, Inhabited

/-- A step of a transform. -/
inductive TransformStep where
  /-- Writes the bin of a field into a column. -/
  | bin (binning : Binning) (field : String) (column : String)
  /-- Writes a field, cut to a time unit, into a column. -/
  | timeUnit (unit : String) (field : String) (column : String)
  /-- Replaces the rows of each group by one row with the computed columns. -/
  | aggregate (outputs : List AggregateOutput) (groupby : List String)
  /-- Writes the value of an expression into a column. -/
  | calculate (expression : String) (column : String)
deriving Inhabited

/-! ## Writing -/

/-- The entry of an aggregate step. -/
def AggregateOutput.toObject (output : AggregateOutput) : Object :=
  Fields.ofOptions
    [("op", some (.str output.op)), ("field", output.field.map .str),
     ("as", some (.str output.column))]

namespace TransformStep

/-- The step as it stands in a spec. -/
def toObject : TransformStep → Object
  | bin binning field column =>
    [("bin", binning.toJson), ("field", .str field), ("as", .str column)]
  | timeUnit unit field column =>
    [("timeUnit", .str unit), ("field", .str field), ("as", .str column)]
  | aggregate outputs groupby =>
    [("aggregate", .arr (outputs.map fun output => .obj output.toObject)),
     ("groupby", .arr (groupby.map .str))]
  | calculate expression column => [("calculate", .str expression), ("as", .str column)]

end TransformStep

/-! ## Reading -/

/-- Reads a record that takes no other fields than those of the given names. -/
def readClosed {α : Type} (names : List String) (fields : Object) (record : Checked α) :
    Checked α :=
  (fun a (_ : Unit) => a) <$> record <*> Reading.noOthers fields names

/-- The name under which the column of a record is given. -/
def columnName (fields : Object) : String := Reading.nameOf fields "as" "as_"

/-- Reads an entry of an aggregate step. -/
def AggregateOutput.readFields (fields : Object) : Checked AggregateOutput :=
  readClosed ["op", "field", columnName fields] fields <|
    AggregateOutput.mk
      <$> Reading.required fields "op" Reading.text
      <*> Reading.optional fields "field" Reading.text
      <*> Reading.required fields (columnName fields) Reading.text

/-- Reads an entry of an aggregate step, which is an object. -/
def AggregateOutput.read : Json → Checked AggregateOutput
  | .obj fields => readFields fields
  | _ => .fail (.notRecord "AggregatedFieldDef")

namespace TransformStep

/-- Reads a bin step. -/
def readBin (fields : Object) : Checked TransformStep :=
  readClosed ["bin", "field", columnName fields] fields <|
    bin
      <$> Reading.required fields "bin" Binning.read
      <*> Reading.required fields "field" Reading.text
      <*> Reading.required fields (columnName fields) Reading.text

/-- Reads a time unit step. -/
def readTimeUnit (fields : Object) : Checked TransformStep :=
  readClosed [FieldDef.timeUnitName fields, "field", columnName fields] fields <|
    timeUnit
      <$> Reading.required fields (FieldDef.timeUnitName fields) Reading.text
      <*> Reading.required fields "field" Reading.text
      <*> Reading.required fields (columnName fields) Reading.text

/-- Reads an aggregate step. -/
def readAggregate (fields : Object) : Checked TransformStep :=
  readClosed ["aggregate", "groupby"] fields <|
    aggregate
      <$> Reading.required fields "aggregate" (Reading.list AggregateOutput.read)
      <*> Reading.withDefault fields "groupby" (Reading.list Reading.text) []

/-- Reads a calculate step. -/
def readCalculate (fields : Object) : Checked TransformStep :=
  readClosed ["calculate", columnName fields] fields <|
    calculate
      <$> Reading.required fields "calculate" Reading.text
      <*> Reading.required fields (columnName fields) Reading.text

/-- The kinds of steps. -/
inductive Kind where
  | bin
  | timeUnit
  | aggregate
  | calculate
deriving DecidableEq, Repr, Inhabited

/-- The name of the record that describes a step of a kind. -/
def Kind.record : Kind → String
  | bin => "BinTransform"
  | timeUnit => "TimeUnitTransform"
  | aggregate => "AggregateTransform"
  | calculate => "CalculateTransform"

/-- Reads a step of a kind, which is an object. -/
def read (kind : Kind) : Json → Checked TransformStep
  | .obj fields =>
    match kind with
    | .bin => readBin fields
    | .timeUnit => readTimeUnit fields
    | .aggregate => readAggregate fields
    | .calculate => readCalculate fields
  | _ => .fail (.notRecord kind.record)

end TransformStep

end LayeredMarks
