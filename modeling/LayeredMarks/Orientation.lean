import LayeredMarks.Logged
import LayeredMarks.UnitSpec

/-!
# Orientation

An error bar summarizes one axis.  Where just one axis is continuous, it is that one.  Where both
are, the aggregate `errorbar` on one of them singles it out if the other has no aggregate; else the
mark's own orientation counts, and y is summarized by default.
-/

namespace LayeredMarks.UnitSpec

/-- The definition of an axis, if it shows a field that takes values on a scale. -/
def continuousField? (spec : UnitSpec) (axis : Axis) : Option FieldDef :=
  ((spec.encoding.get? axis.channel).bind ChannelDef.fieldDef?).filter FieldDef.isContinuous

/-- The orientation when both axes are continuous. -/
def orientationOfBoth (own : Option Orient) (x y : FieldDef) : Except OrientationFailure Orient :=
  if x.aggregate.isNone && y.aggregatesBy errorBar then .ok .vertical
  else if y.aggregate.isNone && x.aggregatesBy errorBar then .ok .horizontal
  else if x.aggregatesBy errorBar && y.aggregatesBy errorBar then .error .bothSummarized
  else .ok (own.getD .vertical)

/-- The orientation of the summary. -/
def orientation (spec : UnitSpec) : Except OrientationFailure Orient :=
  match spec.continuousField? .x, spec.continuousField? .y with
  | some x, some y => orientationOfBoth spec.mark.orient x y
  | some _, none => .ok .horizontal
  | none, some _ => .ok .vertical
  | none, none => .error .noContinuousAxis

/-- A warning when an axis has an aggregate other than the one that singles it out. -/
def customAggregate (d : FieldDef) : List Diagnostic :=
  match d.aggregate with
  | some aggregate =>
    if aggregate.isOp errorBar then [] else [.customAggregate aggregate.toJson.shown]
  | none => []

/-- The definition of the axis to summarize, without its aggregate. -/
def summarizedField (spec : UnitSpec) (orient : Orient) : Logged FieldDef :=
  match (spec.encoding.get? orient.axis.channel).bind ChannelDef.fieldDef? with
  | some d => ⟨customAggregate d, .ok { d with aggregate := none }⟩
  | none => .fail (.orientation (.notField orient))

end LayeredMarks.UnitSpec
