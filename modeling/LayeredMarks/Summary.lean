import LayeredMarks.Orientation
import LayeredMarks.TransformStep

/-!
# The summary behind an error bar

The summary computes the center and the bounds of the continuous field for every group.  The groups
are those of all other field channels: these are binned or cut to time units first, and afterwards
read the columns that the transform wrote.

The steps are, in order: bin steps, time unit steps, one aggregate step, and for an extent without
operators of its own two calculate steps that put the spread on either side of the center.
-/

namespace LayeredMarks

/-! ## Names of the computed columns -/

/-- The columns that are computed from the continuous field. -/
structure DerivedNames where
  /-- The continuous field itself. -/
  source : String
  center : String
  lower : String
  upper : String
  /-- The spread, for the extents that compute one. -/
  spread : Option String
deriving DecidableEq, Repr, Inhabited

/-- The names of the columns that are computed from a field. -/
def DerivedNames.of (field : String) (center : Center) (extent : Extent) : DerivedNames where
  source := field
  center := Vocabulary.word center ++ "_" ++ field
  lower := "lower_whisker_" ++ field
  upper := "upper_whisker_" ++ field
  spread := if extent.boundOps?.isSome then none else some ("extent_" ++ field)

/-- The aggregated columns from which the error bar is drawn. -/
def derivedOutputs (field : String) (center : Center) (extent : Extent) : List AggregateOutput :=
  let names := DerivedNames.of field center extent
  ⟨Vocabulary.word center, some field, names.center⟩ ::
    match extent.boundOps? with
    | some (lowerOp, upperOp) =>
      [⟨lowerOp, some field, names.lower⟩, ⟨upperOp, some field, names.upper⟩]
    | none => [⟨Vocabulary.word extent, some field, names.spread.getD ""⟩]

/-- The expression that joins the center and the spread by an operator. -/
def boundExpression (center spread operator : String) : String :=
  "datum." ++ center ++ " " ++ operator ++ " datum." ++ spread

/-- The steps that compute the upper and the lower bound from a center and a spread. -/
def boundSteps (names : DerivedNames) : List TransformStep :=
  match names.spread with
  | some spread =>
    [.calculate (boundExpression names.center spread "+") names.upper,
     .calculate (boundExpression names.center spread "-") names.lower]
  | none => []

/-! ## What the other channels contribute -/

namespace FieldDef

/-- The definition makes groups of the bins of its field. -/
def groupsByBin (d : FieldDef) : Bool := d.aggregate.isNone && d.isBinned

/-- The definition makes groups of the time units of its field; a binning goes first. -/
def groupsByTimeUnit (d : FieldDef) : Bool :=
  d.aggregate.isNone && !d.isBinned && d.givenTimeUnit?.isSome

/-- The definition has a field if it needs one for a step of its own. -/
def hasSource (d : FieldDef) : Bool := d.field.isSome || !(d.groupsByBin || d.groupsByTimeUnit)

/-- The field that a bin or time unit step reads; there must be one. -/
def sourceField (d : FieldDef) : Checked String :=
  match d.field with
  | some field => .ok field
  | none => .refused [⟨[.key "field"], .notText⟩]

end FieldDef

/-- What the channels have contributed to the summary so far. -/
structure Contributions where
  binSteps : List TransformStep
  timeUnitSteps : List TransformStep
  outputs : List AggregateOutput
  groupby : List String
deriving Inhabited

namespace Contributions

/-- Adds the step that transforms the field of a definition, if there is any: a bin step when the
field is binned, else a time unit step when it is cut to one. -/
def addStep (done : Contributions) (d : FieldDef) : Checked Contributions :=
  match d.bin.filter Binning.isOn with
  | some binning => d.sourceField.map fun field =>
      { done with binSteps := done.binSteps ++ [.bin binning field d.column] }
  | none =>
    match d.givenTimeUnit? with
    | some unit => d.sourceField.map fun field =>
        { done with timeUnitSteps := done.timeUnitSteps ++ [.timeUnit unit field d.column] }
    | none => .ok done

/-- Takes up a field definition.  One with an aggregate is computed if the aggregate is a known
operator, and left out else; one without makes groups. -/
def take (done : Contributions) (d : FieldDef) : Checked Contributions :=
  match d.aggregate with
  | some aggregate =>
    match aggregate.knownOp? with
    | some op => .ok { done with outputs := done.outputs ++ [⟨op, d.field, d.column⟩] }
    | none => .ok done
  | none => (done.addStep d).map fun done => { done with groupby := done.groupby ++ [d.column] }

/-- Takes up an entry, and writes it as the layers show it: a field definition reads the column that
its own transform has written, any other entry stays. -/
def takeEntry (done : Contributions) : ChannelDef → Checked (Contributions × Json)
  | .field d => (done.take d).map fun done => (done, .obj d.readingColumn.toObject)
  | other => .ok (done, other.toJson)

/-- Takes up a channel: each entry of a list by itself. -/
def takeChannel (done : Contributions) : ChannelDef → Checked (Contributions × Json)
  | .list items =>
    (Checked.thread takeEntry done items).map fun (done, entries) => (done, .arr entries)
  | other => done.takeEntry other

/-- Takes up the channels of an encoding in their order. -/
def takeChannels (done : Contributions) (encoding : Encoding) : Checked (Contributions × Object) :=
  Checked.thread (fun done (name, channel) =>
    (done.takeChannel channel).map fun (done, entry) => (done, (name, entry))) done encoding

end Contributions

/-! ## The summary -/

/-- The summary of a spec: how the data is transformed, and what the layers read. -/
structure Summary where
  axis : Axis
  /-- The definition of the summarized axis. -/
  axisDef : FieldDef
  names : DerivedNames
  binSteps : List TransformStep
  timeUnitSteps : List TransformStep
  outputs : List AggregateOutput
  groupby : List String
  /-- The channels other than the summarized one, reading the transformed columns. -/
  channels : Object
deriving Inhabited

namespace Summary

/-- All steps, in order. -/
def steps (summary : Summary) : List TransformStep :=
  summary.binSteps ++ summary.timeUnitSteps ++ [.aggregate summary.outputs summary.groupby] ++
    boundSteps summary.names

end Summary

namespace UnitSpec

/-- The channels other than that of an axis. -/
def channelsBeside (spec : UnitSpec) (axis : Axis) : Encoding := spec.encoding.erase axis.channel

/-- The summary of a spec around the definition of its summarized axis.  The columns that are
computed from that axis come first. -/
def summaryOf (spec : UnitSpec) (axis : Axis) (axisDef : FieldDef) (center : Center)
    (extent : Extent) : Checked Summary :=
  let field := axisDef.field.getD ""
  let start : Contributions := ⟨[], [], derivedOutputs field center extent, []⟩
  (start.takeChannels (spec.channelsBeside axis)).map fun (done, channels) =>
    { axis, axisDef
      names := .of field center extent
      binSteps := done.binSteps
      timeUnitSteps := done.timeUnitSteps
      outputs := done.outputs
      groupby := done.groupby
      channels }

/-- The summary of a spec. -/
def summary (spec : UnitSpec) (orient : Orient) (center : Center) (extent : Extent) :
    Logged Summary := do
  let axisDef ← spec.summarizedField orient
  .ofChecked (spec.summaryOf orient.axis axisDef center extent)

end UnitSpec

end LayeredMarks
