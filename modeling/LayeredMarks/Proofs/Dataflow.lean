import LayeredMarks.Proofs.Endings

/-!
# Every column that is read has been written

The layers of an expanded spec read columns, and its steps write them.  Both take the names from
`DerivedNames.of` and `FieldDef.column`, but in different places: the walk over the channels writes
the steps, and the layers are assembled from what the walk has left.  This file proves that they
agree: `expand_dataflow`.

An aggregate step replaces the rows of a group by one row.  Hence what stands before the step is
gone unless it is a group key, and at the end there are the group keys, the outputs of the step, and
what is calculated after it (`Pipeline.Leaves`).

Whoever draws the layers has only the steps as they stand in the spec: objects with a `groupby`, an
`aggregate` or a `calculate`, and an `as`.  The result is about these (`EmittedPipeline`).

## Strategy

* **Steps in a spec.**  `groupsBy_aggregate`, `computes_aggregate` and `writes_entry` read the names
  of columns out of an object, and `leaves_emitted` out of a whole pipeline.
* **Writers.**  `leaves_center`, `leaves_lower` and `leaves_upper` for the columns computed from the
  summarized field, `leaves_column` for the columns of the other definitions.
* **Readers.**  `feeds_along` and `feeds_beside` for the two groups of channels of a layer.  They
  are disjoint: the channel of the axis is erased before the walk, and its secondary channel is one
  that an error bar cannot draw.
* **Groups.**  `made_groupby`: the column of a definition without aggregate is written by its bin or
  time unit step, or it is the field itself.
-/

namespace LayeredMarks

/-! ## Pipelines -/

/-- The steps of a summary, cut at the aggregate step. -/
structure Pipeline where
  before : List TransformStep
  outputs : List AggregateOutput
  groupby : List String
  after : List TransformStep

namespace Pipeline

/-- All steps, in order. -/
def steps (pipeline : Pipeline) : List TransformStep :=
  pipeline.before ++ .aggregate pipeline.outputs pipeline.groupby :: pipeline.after

/-- The aggregate step computes the column. -/
def Computes (pipeline : Pipeline) (column : String) : Prop :=
  column ∈ pipeline.outputs.map AggregateOutput.column

/-- The column is there after the last step. -/
def Leaves (pipeline : Pipeline) (column : String) : Prop :=
  column ∈ pipeline.groupby ∨ pipeline.Computes column ∨
    ∃ expression, .calculate expression column ∈ pipeline.after

/-- The group key is the field of an entry as it is, or a step before the aggregation writes it. -/
def Makes (pipeline : Pipeline) (spec : UnitSpec) (key : String) : Prop :=
  (∃ entry ∈ spec.encoding, ∃ d ∈ entry.2.directFields, d.field = some key) ∨
  (∃ binning field, .bin binning field key ∈ pipeline.before) ∨
  (∃ unit field, .timeUnit unit field key ∈ pipeline.before)

end Pipeline

/-! ## Steps as they stand in a spec -/

namespace Json

/-- The step, or the entry of an aggregate step, writes the column. -/
def WritesColumn (step : Json) (column : String) : Prop := step.get? "as" = some (.str column)

/-- The step makes groups, and the column is one of their keys. -/
def GroupsBy (step : Json) (column : String) : Prop :=
  ∃ keys, step.get? "groupby" = some (.arr keys) ∧ .str column ∈ keys

/-- The step has an entry that computes the column. -/
def ComputesColumn (step : Json) (column : String) : Prop :=
  ∃ entries, step.get? "aggregate" = some (.arr entries) ∧
    ∃ entry ∈ entries, entry.WritesColumn column

end Json

section

variable {outputs : List AggregateOutput} {groupby : List String} {column : String}

theorem groupsBy_aggregate :
    (Json.obj (TransformStep.aggregate outputs groupby).toObject).GroupsBy column ↔
      column ∈ groupby := by
  constructor
  · rintro ⟨keys, hkeys, hmem⟩
    obtain rfl : groupby.map Json.str = keys := Json.arr.inj (Option.some.inj hkeys)
    simpa using hmem
  · exact fun hmem => ⟨_, rfl, List.mem_map_of_mem hmem⟩

theorem writes_entry {output : AggregateOutput} :
    (Json.obj output.toObject).WritesColumn column ↔ output.column = column := by
  have hentry : (Json.obj output.toObject).get? "as" = some (.str output.column) := by
    obtain ⟨op, field, name⟩ := output
    cases field <;> rfl
  rw [Json.WritesColumn, hentry]
  simp

theorem computes_aggregate :
    (Json.obj (TransformStep.aggregate outputs groupby).toObject).ComputesColumn column ↔
      column ∈ outputs.map AggregateOutput.column := by
  rw [List.mem_map]
  constructor
  · rintro ⟨entries, hentries, entry, hmem, hwrites⟩
    obtain rfl : (outputs.map fun output => Json.obj output.toObject) = entries :=
      Json.arr.inj (Option.some.inj hentries)
    obtain ⟨output, houtput, rfl⟩ := List.mem_map.mp hmem
    exact ⟨output, houtput, writes_entry.mp hwrites⟩
  · rintro ⟨output, houtput, hcolumn⟩
    exact ⟨_, rfl, _, List.mem_map_of_mem houtput, writes_entry.mpr hcolumn⟩

end

/-- The entry of an aggregate step says what the output is. -/
def AggregateOutput.ReadAs (output : AggregateOutput) (entry : Json) : Prop :=
  entry.get? "op" = some (.str output.op) ∧ entry.get? "field" = output.field.map .str ∧
    entry.WritesColumn output.column

/-- The step of a spec says what the step is. -/
def TransformStep.ReadAs : TransformStep → Json → Prop
  | bin binning field column, step =>
      step.get? "bin" = some binning.toJson ∧ step.get? "field" = some (.str field) ∧
        step.WritesColumn column
  | timeUnit unit field column, step =>
      step.get? "timeUnit" = some (.str unit) ∧ step.get? "field" = some (.str field) ∧
        step.WritesColumn column
  | aggregate outputs groupby, step =>
      (∃ entries, step.get? "aggregate" = some (.arr entries) ∧
        List.Forall₂ AggregateOutput.ReadAs outputs entries) ∧
      step.get? "groupby" = some (.arr (groupby.map .str))
  | calculate expression column, step =>
      step.get? "calculate" = some (.str expression) ∧ step.WritesColumn column

theorem AggregateOutput.readAs_toObject (output : AggregateOutput) :
    output.ReadAs (.obj output.toObject) := by
  obtain ⟨op, field, column⟩ := output
  cases field <;> exact ⟨rfl, rfl, rfl⟩

theorem TransformStep.readAs_toObject (step : TransformStep) :
    step.ReadAs (.obj step.toObject) := by
  cases step with
  | aggregate outputs groupby =>
      refine ⟨⟨_, rfl, ?_⟩, rfl⟩
      rw [List.forall₂_map_right_iff, List.forall₂_same]
      exact fun output _ => output.readAs_toObject
  | calculate expression column => exact ⟨rfl, rfl⟩
  | _ => exact ⟨rfl, rfl, rfl⟩

/-- Every step can be read out of a spec again. -/
theorem TransformStep.readAs_map_toObject (steps : List TransformStep) :
    List.Forall₂ TransformStep.ReadAs steps (steps.map fun step => .obj step.toObject) := by
  rw [List.forall₂_map_right_iff, List.forall₂_same]
  exact fun step _ => step.readAs_toObject

/-- The steps of a summary as they stand in a spec, cut at the aggregate step. -/
structure EmittedPipeline where
  before : List Json
  aggregate : Json
  after : List Json

namespace EmittedPipeline

/-- All steps, in order. -/
def steps (emitted : EmittedPipeline) : List Json :=
  emitted.before ++ emitted.aggregate :: emitted.after

/-- The column is there after the last step: it is a group key, or an entry of the aggregate step or
a calculation after it writes it. -/
def Leaves (emitted : EmittedPipeline) (column : String) : Prop :=
  emitted.aggregate.GroupsBy column ∨ emitted.aggregate.ComputesColumn column ∨
    ∃ step ∈ emitted.after, (step.get? "calculate").isSome = true ∧ step.WritesColumn column

/-- The value reads a column that is there after the last step. -/
def Feeds (emitted : EmittedPipeline) (value : Json) : Prop :=
  ∃ column, value.get? "field" = some (.str column) ∧ emitted.Leaves column

/-- If the entry is a field definition without aggregate, or aggregated by an operator that an
aggregate step knows, then the value that stands for it in a layer reads a column that is there. -/
def FeedsEntry (emitted : EmittedPipeline) (entry : ChannelDef) (value : Json) : Prop :=
  ∀ d, entry = .field d → d.aggregate.isNone = true ∨ d.isComputed = true → emitted.Feeds value

/-- The same for a channel: for its own definition, or for the direct entries of its list. -/
def FeedsChannel (emitted : EmittedPipeline) : ChannelDef → Json → Prop
  | .list items, value => ∃ values, value = .arr values ∧
      List.Forall₂ emitted.FeedsEntry items values
  | channel, value => emitted.FeedsEntry channel value

/-- The channels of a layer are those of the summarized axis, which read columns that are there, and
channels of the spec. -/
def FeedsLayer (emitted : EmittedPipeline) (spec : UnitSpec) (axis : Axis) (layer : Json) : Prop :=
  ∃ encoding, layer.get? "encoding" = some (.obj encoding) ∧
    ∀ name value, (name, value) ∈ encoding →
      ((name = axis.channel ∨ name = axis.secondary) ∧ emitted.Feeds value) ∨
      (name ≠ axis.channel ∧ name ≠ axis.secondary ∧
        ∃ channel, (name, channel) ∈ spec.encoding ∧ emitted.FeedsChannel channel value)

/-- The step has a list of group keys, and each is the field of an entry as it is, or a bin or time
unit step before the aggregation writes it. -/
def MakesGroups (emitted : EmittedPipeline) (spec : UnitSpec) : Prop :=
  ∃ keys : List String, emitted.aggregate.get? "groupby" = some (.arr (keys.map .str)) ∧
    ∀ key ∈ keys, (∃ entry ∈ spec.encoding, ∃ d ∈ entry.2.directFields, d.field = some key) ∨
      ∃ step ∈ emitted.before,
        ((step.get? "bin").isSome = true ∨ (step.get? "timeUnit").isSome = true) ∧
          step.WritesColumn key

/-- The step calculates a column from the center and the spread by an operator, and the aggregate
step computes both. -/
def CalculatesFrom (emitted : EmittedPipeline) (center spread : String) (step : Json) : Prop :=
  (∃ operator ∈ ["+", "-"],
      step.get? "calculate" = some (.str (boundExpression center spread operator))) ∧
    emitted.aggregate.ComputesColumn center ∧ emitted.aggregate.ComputesColumn spread

end EmittedPipeline

namespace Pipeline

/-- The pipeline as it stands in a spec. -/
def emitted (pipeline : Pipeline) : EmittedPipeline where
  before := pipeline.before.map fun step => .obj step.toObject
  aggregate := .obj (TransformStep.aggregate pipeline.outputs pipeline.groupby).toObject
  after := pipeline.after.map fun step => .obj step.toObject

theorem emitted_steps (pipeline : Pipeline) :
    pipeline.emitted.steps = pipeline.steps.map fun step => .obj step.toObject := by
  simp [EmittedPipeline.steps, emitted, steps]

theorem computes_emitted {pipeline : Pipeline} {column : String} :
    pipeline.emitted.aggregate.ComputesColumn column ↔ pipeline.Computes column :=
  computes_aggregate

theorem leaves_emitted {pipeline : Pipeline} {column : String} (h : pipeline.Leaves column) :
    pipeline.emitted.Leaves column := by
  rcases h with hgroup | hcomputes | ⟨expression, hcalculate⟩
  · exact Or.inl (groupsBy_aggregate.mpr hgroup)
  · exact Or.inr (Or.inl (computes_emitted.mpr hcomputes))
  · exact Or.inr (Or.inr ⟨_, List.mem_map_of_mem hcalculate, rfl, rfl⟩)

theorem makesGroups_emitted {pipeline : Pipeline} {spec : UnitSpec}
    (h : ∀ key ∈ pipeline.groupby, pipeline.Makes spec key) :
    pipeline.emitted.MakesGroups spec := by
  refine ⟨pipeline.groupby, rfl, fun key hkey => ?_⟩
  rcases h key hkey with hfield | ⟨binning, field, hbin⟩ | ⟨unit, field, hunit⟩
  · exact Or.inl hfield
  · exact Or.inr ⟨_, List.mem_map_of_mem hbin, Or.inl rfl, rfl⟩
  · exact Or.inr ⟨_, List.mem_map_of_mem hunit, Or.inr rfl, rfl⟩

end Pipeline

/-- The pipeline of a summary. -/
def Summary.pipeline (summary : Summary) : Pipeline where
  before := summary.binSteps ++ summary.timeUnitSteps
  outputs := summary.outputs
  groupby := summary.groupby
  after := boundSteps summary.names

theorem Summary.pipeline_steps (summary : Summary) : summary.pipeline.steps = summary.steps := by
  simp [Pipeline.steps, pipeline, steps]

/-! ## What is written -/

namespace UnitSpec

variable {spec : UnitSpec} {axis : Axis} {axisDef : FieldDef} {center : Center} {extent : Extent}

/-- The outputs of the summarized field come first, and no later entry removes them. -/
private theorem computes_of_derived {column : String}
    (h : column ∈ (derivedOutputs (axisDef.field.getD "") center extent).map
      AggregateOutput.column) :
    (spec.summaryAround axis axisDef center extent).pipeline.Computes column := by
  rw [Pipeline.Computes, Summary.pipeline, summaryAround, List.map_append]
  exact List.mem_append_left _ h

theorem computes_center :
    let summary := spec.summaryAround axis axisDef center extent
    summary.pipeline.Computes summary.names.center :=
  computes_of_derived (List.mem_cons_self ..)

theorem computes_spread {spread : String}
    (h : (spec.summaryAround axis axisDef center extent).names.spread = some spread) :
    (spec.summaryAround axis axisDef center extent).pipeline.Computes spread := by
  apply computes_of_derived
  cases extent with
  | ci => simp [summaryAround, DerivedNames.of, Extent.boundOps?] at h
  | iqr => simp [summaryAround, DerivedNames.of, Extent.boundOps?] at h
  | _ =>
      have hspread : "extent_" ++ axisDef.field.getD "" = spread := by
        simpa [summaryAround, DerivedNames.of, Extent.boundOps?] using h
      simp [derivedOutputs, DerivedNames.of, Extent.boundOps?, hspread]

theorem leaves_center :
    let summary := spec.summaryAround axis axisDef center extent
    summary.pipeline.Leaves summary.names.center :=
  Or.inr (Or.inl computes_center)

/-- The bounds are aggregated for some extents and calculated for the others. -/
private theorem leaves_bounds :
    let summary := spec.summaryAround axis axisDef center extent
    summary.pipeline.Leaves summary.names.lower ∧
      summary.pipeline.Leaves summary.names.upper := by
  intro summary
  cases hops : extent.boundOps? with
  | some ops =>
      -- the aggregate step computes both bounds
      have hlower : summary.pipeline.Computes summary.names.lower := by
        apply computes_of_derived
        simp [summary, summaryAround, derivedOutputs, hops, DerivedNames.of]
      have hupper : summary.pipeline.Computes summary.names.upper := by
        apply computes_of_derived
        simp [summary, summaryAround, derivedOutputs, hops, DerivedNames.of]
      exact ⟨Or.inr (Or.inl hlower), Or.inr (Or.inl hupper)⟩
  | none =>
      -- the bounds are calculated from the center and the spread
      obtain ⟨spread, hspread⟩ : ∃ spread, summary.names.spread = some spread :=
        ⟨"extent_" ++ axisDef.field.getD "",
          by simp [summary, summaryAround, DerivedNames.of, hops]⟩
      have hafter : summary.pipeline.after =
          [.calculate (boundExpression summary.names.center spread "+") summary.names.upper,
           .calculate (boundExpression summary.names.center spread "-") summary.names.lower] := by
        rw [Summary.pipeline, boundSteps, hspread]
      constructor
      · refine Or.inr (Or.inr ⟨boundExpression summary.names.center spread "-", ?_⟩)
        rw [hafter]
        exact List.mem_cons_of_mem _ (List.mem_cons_self ..)
      · refine Or.inr (Or.inr ⟨boundExpression summary.names.center spread "+", ?_⟩)
        rw [hafter]
        exact List.mem_cons_self ..

theorem leaves_lower :
    let summary := spec.summaryAround axis axisDef center extent
    summary.pipeline.Leaves summary.names.lower :=
  leaves_bounds.1

theorem leaves_upper :
    let summary := spec.summaryAround axis axisDef center extent
    summary.pipeline.Leaves summary.names.upper :=
  leaves_bounds.2

/-- The column of a definition beside the axis: a group key if the definition has no aggregate, an
output if it has a known one. -/
theorem leaves_column {d : FieldDef} (hd : d ∈ spec.fieldsBeside axis)
    (kept : d.aggregate.isNone = true ∨ d.isComputed = true) :
    (spec.summaryAround axis axisDef center extent).pipeline.Leaves d.column := by
  rcases kept with hgroup | hcomputed
  · exact Or.inl (List.mem_map_of_mem (List.mem_filter.mpr ⟨hd, hgroup⟩))
  · obtain ⟨op, -, -, houtput⟩ := FieldDef.exists_output hcomputed
    have hmem : ⟨op, d.field, d.column⟩ ∈
        (spec.summaryAround axis axisDef center extent).outputs :=
      List.mem_append_right _ (List.mem_filterMap.mpr ⟨d, hd, houtput⟩)
    exact Or.inr (Or.inl (List.mem_map_of_mem hmem))

end UnitSpec

/-! ## What is grouped by -/

/-- The column of a definition that is neither aggregated, nor binned, nor cut to a time unit is its
field. -/
theorem FieldDef.column_of_untransformed {d : FieldDef} {field : String}
    (hfield : d.field = some field) (haggregate : d.aggregate = none)
    (hbins : d.groupsByBin = false) (hunits : d.groupsByTimeUnit = false) : d.column = field := by
  have hbinned : d.isBinned = false := by simpa [groupsByBin, haggregate] using hbins
  have hunit : d.givenTimeUnit? = none := by
    simpa [groupsByTimeUnit, haggregate, hbinned] using hunits
  simp [column, aggregatesBy, transformName?, hfield, haggregate, filter_isOn_of_unbinned hbinned,
    hunit]

theorem UnitSpec.made_groupby {spec : UnitSpec} (named : spec.Named) {axis : Axis}
    {axisDef : FieldDef} {center : Center} {extent : Extent} {key : String}
    (hkey : key ∈ (spec.summaryAround axis axisDef center extent).groupby) :
    (spec.summaryAround axis axisDef center extent).pipeline.Makes spec key := by
  obtain ⟨d, hd, rfl⟩ := List.mem_map.mp hkey
  obtain ⟨hbeside, hgroup⟩ := List.mem_filter.mp hd
  obtain ⟨entry, hentry, hmem⟩ := List.mem_flatMap.mp hbeside
  have hown : entry ∈ spec.encoding := List.mem_of_mem_filter hentry
  have haggregate : d.aggregate = none := by simpa using hgroup
  have hnamed := named entry hown d hmem
  have hsource := FieldDef.hasSource_of_named hnamed
  cases hbins : d.groupsByBin with
  | true =>
      obtain ⟨binning, field, -, -, hstep⟩ := FieldDef.exists_binStep hbins hsource
      refine Or.inr (Or.inl ⟨binning, field, List.mem_append_left _ ?_⟩)
      exact List.mem_filterMap.mpr ⟨d, hbeside, hstep⟩
  | false =>
      cases hunits : d.groupsByTimeUnit with
      | true =>
          obtain ⟨unit, field, -, -, hstep⟩ := FieldDef.exists_timeUnitStep hunits hsource
          refine Or.inr (Or.inr ⟨unit, field, List.mem_append_right _ ?_⟩)
          exact List.mem_filterMap.mpr ⟨d, hbeside, hstep⟩
      | false =>
          -- neither binned nor cut to a time unit, so the column is the field itself
          obtain ⟨field, hfield, -⟩ := hnamed.field_of_grouping haggregate
          have hcolumn := FieldDef.column_of_untransformed hfield haggregate hbins hunits
          refine Or.inl ⟨entry, hown, d, hmem, ?_⟩
          rw [hcolumn, hfield]

/-! ## What is read -/

theorem FieldDef.readingColumn_field (d : FieldDef) :
    (Json.obj d.readingColumn.toObject).get? "field" = some (.str d.column) := rfl

theorem Summary.reading_field (summary : Summary) (column : String) :
    (summary.reading column).get? "field" = some (.str column) := rfl

namespace UnitSpec

variable {spec : UnitSpec} {axis : Axis} {axisDef : FieldDef} {center : Center} {extent : Extent}

/-- A layer along the axis reads the center, a bound, or the column that it is given. -/
theorem feeds_along {part : Part} {column : Option String} {name : String} {value : Json}
    (hcolumn : ∀ c, column = some c →
      (spec.summaryAround axis axisDef center extent).pipeline.Leaves c)
    (hmem : (name, value) ∈ (spec.summaryAround axis axisDef center extent).along part column) :
    (name = axis.channel ∨ name = axis.secondary) ∧
      (spec.summaryAround axis axisDef center extent).pipeline.emitted.Feeds value := by
  unfold Summary.along at hmem
  split at hmem
  · obtain ⟨rfl, rfl⟩ := Prod.mk.inj (List.mem_singleton.mp hmem)
    refine ⟨Or.inl rfl, _, Summary.reading_field _ _, Pipeline.leaves_emitted ?_⟩
    cases hgiven : column.filter (· ≠ "") with
    | none => exact leaves_center
    | some given => exact hcolumn given (Option.filter_eq_some_iff.mp hgiven).1
  · rcases List.mem_cons.mp hmem with hlower | hrest
    · obtain ⟨rfl, rfl⟩ := Prod.mk.inj hlower
      exact ⟨Or.inl rfl, _, Summary.reading_field _ _, Pipeline.leaves_emitted leaves_lower⟩
    · obtain ⟨rfl, rfl⟩ := Prod.mk.inj (List.mem_singleton.mp hrest)
      exact ⟨Or.inr rfl, _, rfl, Pipeline.leaves_emitted leaves_upper⟩

/-- An entry that stands in a layer for a definition reads the column of that definition. -/
private theorem feedsEntry_readingColumns {entry : ChannelDef}
    (beside : ∀ d ∈ entry.fieldDef?, d ∈ spec.fieldsBeside axis) :
    (spec.summaryAround axis axisDef center extent).pipeline.emitted.FeedsEntry entry
      entry.entryReadingColumns := by
  rintro d rfl kept
  exact ⟨d.column, d.readingColumn_field,
    Pipeline.leaves_emitted (leaves_column (beside d rfl) kept)⟩

theorem feeds_beside {name : String} {value : Json}
    (hmem : (name, value) ∈ (spec.summaryAround axis axisDef center extent).beside) :
    name ≠ axis.channel ∧ ∃ channel, (name, channel) ∈ spec.encoding ∧
      (spec.summaryAround axis axisDef center extent).pipeline.emitted.FeedsChannel channel
        value := by
  obtain ⟨⟨_, channel⟩, hchannel, hentry⟩ := List.mem_map.mp (List.mem_of_mem_filter hmem)
  obtain ⟨rfl, rfl⟩ := Prod.mk.inj hentry
  obtain ⟨hown, hname⟩ := List.mem_filter.mp hchannel
  refine ⟨by simpa using hname, channel, hown, ?_⟩
  have hbeside (d : FieldDef) (hd : d ∈ channel.directFields) : d ∈ spec.fieldsBeside axis :=
    List.mem_flatMap.mpr ⟨_, hchannel, hd⟩
  cases channel with
  | list items =>
      refine ⟨_, rfl, ?_⟩
      rw [List.forall₂_map_right_iff, List.forall₂_same]
      intro item hitem
      exact feedsEntry_readingColumns fun d hd =>
        hbeside d (List.mem_filterMap.mpr ⟨item, hitem, hd⟩)
  | field own =>
      refine feedsEntry_readingColumns fun d hd => hbeside d ?_
      simpa [ChannelDef.fieldDef?, ChannelDef.directFields, eq_comm] using hd
  | _ => exact fun d hd => by simp at hd

end UnitSpec

/-! ## Layers -/

theorem Summary.layer?_encoding {summary : Summary} {mark : MarkDef} {settings : Settings}
    {part : Part} {column : Option String} {layer : Object}
    (h : summary.layer? mark settings part column = some layer) :
    layer.get? "encoding" = some (.obj (summary.encoding part column)) := by
  dsimp only [layer?] at h
  split at h
  · rw [← Option.some.inj h, MarkDef.finish, Fields.get?_put_of_ne _ _ (by decide)]
    rfl
  · simp at h

/-- The secondary channel of an axis is none that an error bar draws. -/
theorem Axis.secondary_notMem_supported (axis : Axis) :
    axis.secondary ∉ UnitSpec.supportedChannels := by
  cases axis <;> decide

namespace UnitSpec

theorem feedsLayer_summaryAround {spec : UnitSpec} {axis : Axis} {axisDef : FieldDef}
    {center : Center} {extent : Extent} {mark : MarkDef} {settings : Settings} {layer : Object}
    (hlayer : layer ∈ (spec.onlySupported.summaryAround axis axisDef center extent).layers mark
      settings) :
    (spec.onlySupported.summaryAround axis axisDef center extent).pipeline.emitted.FeedsLayer spec
      axis (.obj layer) := by
  obtain ⟨⟨part, column⟩, hslot, hsome⟩ := List.mem_filterMap.mp hlayer
  refine ⟨_, Summary.layer?_encoding hsome, fun name value hmem => ?_⟩
  rcases Fields.mem_merge hmem with halong | hbeside
  · refine Or.inl (feeds_along (fun c hc => ?_) halong)
    subst hc
    -- only the ticks are given a column: the lower bound, then the upper
    simp only [Summary.slots, List.mem_cons, Prod.mk.injEq, reduceCtorEq, and_false,
      Option.some.injEq, List.not_mem_nil, or_false, false_or] at hslot
    rcases hslot with ⟨-, rfl⟩ | ⟨-, rfl⟩
    · exact leaves_lower
    · exact leaves_upper
  · obtain ⟨hname, channel, hchannel, hfeeds⟩ := feeds_beside hbeside
    obtain ⟨hown, hsupported⟩ := List.mem_filter.mp hchannel
    refine Or.inr ⟨hname, ?_, channel, hown, hfeeds⟩
    rintro rfl
    exact axis.secondary_notMem_supported (by simpa using hsupported)

theorem expandWithin_eq_ok {room : Room} {spec : UnitSpec} {settings : Settings} {result : Object}
    (h : (spec.expandWithin room settings).outcome = .ok result) :
    ∃ summary own, (spec.expandedSummary settings).outcome = .ok summary ∧
      transformEntries ((spec.outer.get? "transform").getD .null) = .ok own ∧
      result = spec.layered settings summary own := by
  simp only [expandWithin, Logged.outcome_bind_eq_ok] at h
  obtain ⟨summary, hsummary, _, -, own, hown, _, -, hresult⟩ := h
  exact ⟨summary, own, expandedSummary_of_within hsummary, hown, (Except.ok.inj hresult).symm⟩

/-- A spec that is expanded has an orientation, and the summary is that around its axis. -/
theorem expandedSummary_eq_ok {spec : UnitSpec} {settings : Settings} {summary : Summary}
    (h : (spec.expandedSummary settings).outcome = .ok summary) :
    ∃ orient d, spec.orientation = .ok orient ∧ spec.continuousField? orient.axis = some d ∧
      summary = spec.onlySupported.summaryAround orient.axis { d with aggregate := none }
        (spec.mark.resolve settings).1 (spec.mark.resolve settings).2 := by
  obtain ⟨_, -, h⟩ := Logged.outcome_bind_eq_ok.mp h
  obtain ⟨_, -, h⟩ := Logged.outcome_bind_eq_ok.mp h
  obtain ⟨orient, horient, h⟩ := Logged.outcome_bind_eq_ok.mp h
  obtain ⟨axisDef, shown, -, rfl⟩ := summary_eq_ok h
  rw [orientation_onlySupported] at horient
  rcases spec.orientation_cases with ⟨-, herror⟩ | ⟨-, -, herror⟩ | ⟨-, -, chosen, d, hchosen, hd⟩
  · rw [herror] at horient
    cases horient
  · rw [herror] at horient
    cases horient
  · rw [hchosen] at horient
    obtain rfl : chosen = orient := Except.ok.inj horient
    rw [get?_onlySupported, (continuousField?_eq_some.mp hd).1, Option.some.injEq,
      ChannelDef.field.injEq] at shown
    subst shown
    exact ⟨_, _, hchosen, hd, rfl⟩

theorem get?_transform_layered (spec : UnitSpec) (settings : Settings) (summary : Summary)
    (own : List Json) :
    (spec.layered settings summary own).get? "transform" =
      some (.arr (own ++ summary.pipeline.steps.map fun step => .obj step.toObject)) := by
  rw [layered, Fields.get?_put_of_ne _ _ (by decide), Fields.get?_put_self, Summary.pipeline_steps]

theorem get?_layer_layered (spec : UnitSpec) (settings : Settings) (summary : Summary)
    (own : List Json) :
    (spec.layered settings summary own).get? "layer" =
      some (.arr ((summary.layers spec.mark settings).map .obj)) :=
  Fields.get?_put_self _ _ _

end UnitSpec

/-! ## The expansion -/

/-- What is expanded has been read and has an orientation, and the result is the layered spec around
the summary of its axis. -/
theorem expandErrorBarWithin_eq_layered {room : Room} {fields : Object} {settings : Settings}
    {result : Object}
    (expanded : (expandErrorBarWithin room fields settings).outcome = .ok result) :
    ∃ (spec : UnitSpec) (orient : Orient) (d : FieldDef) (own : List Json),
      UnitSpec.read fields = .ok spec ∧
      (UnitSpec.readWithin (room - 1) fields).outcome = .ok spec ∧
      spec.orientation = .ok orient ∧ spec.continuousField? orient.axis = some d ∧
      transformEntries ((fields.get? "transform").getD .null) = .ok own ∧
      result = spec.layered settings
        (spec.onlySupported.summaryAround orient.axis { d with aggregate := none }
          (spec.mark.resolve settings).1 (spec.mark.resolve settings).2) own := by
  obtain ⟨spec, hread, hwithin, hexpanded⟩ := expandErrorBarWithin_eq_ok expanded
  obtain ⟨summary, own, hsummary, hown, rfl⟩ := UnitSpec.expandWithin_eq_ok hexpanded
  obtain ⟨orient, d, horient, hd, rfl⟩ :=
    UnitSpec.expandedSummary_eq_ok hsummary
  rw [UnitSpec.outer_get?_of_read hread (by decide)] at hown
  exact ⟨spec, orient, d, own, hread, hwithin, horient, hd, hown, rfl⟩

theorem EmittedPipeline.MakesGroups.of_onlySupported {emitted : EmittedPipeline} {spec : UnitSpec}
    (h : emitted.MakesGroups spec.onlySupported) : emitted.MakesGroups spec := by
  obtain ⟨keys, hkeys, hmakes⟩ := h
  refine ⟨keys, hkeys, fun key hkey => (hmakes key hkey).imp_left ?_⟩
  rintro ⟨entry, hentry, hfield⟩
  exact ⟨entry, List.mem_of_mem_filter hentry, hfield⟩

/-- What is calculated after the aggregation are the bounds. -/
theorem UnitSpec.calculatesFrom_after {spec : UnitSpec} {axis : Axis} {axisDef : FieldDef}
    {center : Center} {extent : Extent} {step : Json}
    (h : step ∈ (spec.summaryAround axis axisDef center extent).pipeline.emitted.after) :
    let summary := spec.summaryAround axis axisDef center extent
    ∃ spread, summary.names.spread = some spread ∧
      summary.pipeline.emitted.CalculatesFrom summary.names.center spread step := by
  intro summary
  obtain ⟨bound, hbound, rfl⟩ := List.mem_map.mp h
  have hafter : bound ∈ boundSteps summary.names := hbound
  unfold boundSteps at hafter
  split at hafter
  · rename_i spread hspread
    refine ⟨spread, hspread, ?_, Pipeline.computes_emitted.mpr computes_center,
      Pipeline.computes_emitted.mpr (computes_spread hspread)⟩
    rcases List.mem_cons.mp hafter with rfl | hlower
    · exact ⟨"+", by simp, rfl⟩
    · obtain rfl := List.mem_singleton.mp hlower
      exact ⟨"-", by simp, rfl⟩
  · simp at hafter

/-- **Every column that is read has been written.**  After the spec's own entries, the transform of
an expanded spec is a pipeline.  It feeds all layers; every group key is the field of an entry or
written before the aggregation; and what is calculated after the aggregation is calculated from
columns that the aggregate step computes. -/
theorem expand_dataflow {room : Room} {fields : Object} {settings : Settings} {result : Object}
    (expanded : (expandErrorBarWithin room fields settings).outcome = .ok result) :
    ∃ (spec : UnitSpec) (orient : Orient) (d : FieldDef) (own layers : List Json)
      (emitted : EmittedPipeline),
      UnitSpec.read fields = .ok spec ∧ spec.orientation = .ok orient ∧
      spec.continuousField? orient.axis = some d ∧
      transformEntries ((fields.get? "transform").getD .null) = .ok own ∧
      result.get? "transform" = some (.arr (own ++ emitted.steps)) ∧
      result.get? "layer" = some (.arr layers) ∧
      (∀ layer ∈ layers, emitted.FeedsLayer spec orient.axis layer) ∧
      emitted.MakesGroups spec ∧
      let names := DerivedNames.of (d.field.getD "") (spec.mark.resolve settings).1
        (spec.mark.resolve settings).2
      ∀ step ∈ emitted.after, ∃ spread, names.spread = some spread ∧
        emitted.CalculatesFrom names.center spread step := by
  obtain ⟨spec, orient, d, own, hread, -, horient, hd, hown, rfl⟩ :=
    expandErrorBarWithin_eq_layered expanded
  have named := UnitSpec.named_onlySupported (UnitSpec.named_of_read hread)
  let summary := spec.onlySupported.summaryAround orient.axis { d with aggregate := none }
    (spec.mark.resolve settings).1 (spec.mark.resolve settings).2
  refine ⟨spec, orient, d, own, _, summary.pipeline.emitted, hread, horient, hd, hown, ?_,
    UnitSpec.get?_layer_layered _ _ _ _, ?_, ?_, ?_⟩
  · rw [UnitSpec.get?_transform_layered, Pipeline.emitted_steps]
  · intro layer hlayer
    obtain ⟨_, hmem, rfl⟩ := List.mem_map.mp hlayer
    exact UnitSpec.feedsLayer_summaryAround hmem
  · exact (Pipeline.makesGroups_emitted fun key hkey =>
      UnitSpec.made_groupby named hkey).of_onlySupported
  · exact fun step hstep => UnitSpec.calculatesFrom_after hstep

/-- The yield of barley by variety and month, with the mean price beside it. -/
private def barleyFields : Object :=
  [("mark", .str errorBar),
   ("encoding", .obj
     [("x", .obj [("field", .str "yield"), ("type", .str "quantitative")]),
      ("y", .obj [("field", .str "variety"), ("type", .str "nominal")]),
      ("detail", .arr
        [.obj [("field", .str "date"), ("timeUnit", .str "month")],
         .obj [("field", .str "price"), ("aggregate", .str "mean")]])])]

theorem barleyFields_dataflow :
    ∃ result, (expandErrorBarWithin .direct barleyFields .default).outcome = .ok result ∧
      ∃ (spec : UnitSpec) (layers : List Json) (emitted : EmittedPipeline),
        UnitSpec.read barleyFields = .ok spec ∧
        result.get? "transform" = some (.arr emitted.steps) ∧
        result.get? "layer" = some (.arr layers) ∧ layers.length = 2 ∧
        (∀ layer ∈ layers, emitted.FeedsLayer spec .x layer) ∧ emitted.MakesGroups spec := by
  obtain ⟨result, hresult⟩ :
      ∃ result, (expandErrorBarWithin .direct barleyFields .default).outcome = .ok result :=
    ⟨_, rfl⟩
  obtain ⟨spec, orient, d, own, layers, emitted, hread, horient, hd, hown, hsteps, hlayers, hfeeds,
    hgroups, -⟩ := expand_dataflow hresult
  cases hresult
  cases hread
  cases horient
  cases hd
  cases hown
  cases hlayers
  exact ⟨_, rfl, _, _, emitted, rfl, hsteps, rfl, rfl, hfeeds, hgroups⟩

end LayeredMarks
