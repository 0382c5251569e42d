import LayeredMarks.Layer

/-!
# Expanding an error bar

A unit spec becomes a layered spec.  Channels that cannot be drawn are dropped, center and extent
are settled, the orientation is chosen, the summary is made, and the layers are built on it.  All
outer fields are handed through, and the steps of the summary follow the spec's own transform.
-/

namespace LayeredMarks

/-! ## Center and extent -/

/-- The center and the extent: those of the mark, else those of the settings.  A median without an
extent of the mark's own goes with the interquartile range. -/
def MarkDef.resolve (mark : MarkDef) (settings : Settings) : Center × Extent :=
  let center := mark.center.getD settings.center
  (center, mark.extent.getD (if center = .median then .iqr else settings.extent))

/-- A warning when just one of the median and the interquartile range is used. -/
def unusualPair (center : Center) (extent : Extent) : List Diagnostic :=
  if (center = .median) ↔ (extent = .iqr) then []
  else [.unusualPair (Vocabulary.word center) (Vocabulary.word extent)]

/-! ## The spec's own transform -/

/-- The entries of a value that stands for a transform.  What is not given has none, and no other
value may lack them. -/
def transformEntries (value : Json) : Except Failure (List Json) :=
  match value.entries? with
  | some entries => .ok entries
  | none => if value.isGiven then .error (.transformNotIterable value) else .ok []

/-- The fields of the result besides the transform and the layers. -/
def UnitSpec.passedOn (spec : UnitSpec) : Object := spec.outer.erase "transform"

/-- The spec's own transform. -/
def UnitSpec.ownTransform (spec : UnitSpec) : Logged (List Json) :=
  ⟨[], transformEntries ((spec.outer.get? "transform").getD .null)⟩

/-! ## The expansion -/

namespace UnitSpec

/-- The layered spec around a summary. -/
def layered (spec : UnitSpec) (settings : Settings) (summary : Summary) (own : List Json) :
    Object :=
  let steps := own ++ summary.steps.map fun step => .obj step.toObject
  (spec.passedOn.put "transform" (.arr steps)).put "layer"
    (.arr ((summary.layers spec.mark settings).map .obj))

/-- The summary of a unit spec as it is expanded: without the channels that cannot be drawn, and
with its center, extent and orientation chosen, by the given way to summarize. -/
def expandedBy (spec : UnitSpec) (settings : Settings)
    (summarize : UnitSpec → Orient → Center → Extent → Logged Summary) : Logged Summary := do
  .warn spec.droppedChannels
  let supported := spec.onlySupported
  let (center, extent) := spec.mark.resolve settings
  .warn (unusualPair center extent)
  let orient ← .ofOrientation supported.orientation
  summarize supported orient center extent

/-- The summary of a unit spec as it is expanded, where there is room for all names. -/
def expandedSummary (spec : UnitSpec) (settings : Settings) : Logged Summary :=
  spec.expandedBy settings summary

end UnitSpec

end LayeredMarks
