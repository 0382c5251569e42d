import LayeredMarks.Proofs.Dataflow

/-!
# What the summary reads

All columns from which an error bar is drawn are computed from one field, that of the summarized
axis.  The other outputs of the aggregate step read the fields of their own channels.  This file
says which of these fields are there: `expand_inputs`.

An axis is chosen by its type, its binning and its aggregate, and nobody looks at its field.  Hence
an axis that counts rows may be summarized without naming one.  Its aggregate is then ignored as any
other, and the summary reads a field with an empty name (`countedAxis_inputs`).

## Strategy

* **The summarized axis.**  `named_of_continuousField?`: its definition has been read with the spec,
  so it names a field or counts.
* **The other channels.**  `reads_of_mem_passedOutputs`: an output has the field and the operator of
  its definition, so the same holds of it.
-/

namespace LayeredMarks

/-- The output reads a field that has a name, or it counts rows and needs none. -/
def AggregateOutput.Reads (output : AggregateOutput) : Prop :=
  (∃ field, output.field = some field ∧ field ≠ "") ∨ output.op = "count"

/-- An output that is computed for a named definition reads a field, or counts as well. -/
theorem FieldDef.Named.reads {d : FieldDef} (named : d.Named) {output : AggregateOutput}
    (h : d.output? = some output) : output.Reads := by
  obtain ⟨op, -, haggregate, houtput⟩ := exists_output (isComputed_of_output? h).1
  obtain rfl : (⟨op, d.field, d.column⟩ : AggregateOutput) = output :=
    Option.some.inj (houtput.symm.trans h)
  rcases named with hfield | hcount
  · exact Or.inl hfield
  · rw [haggregate, Option.some.injEq, Aggregate.op.injEq] at hcount
    exact Or.inr hcount

/-- The columns from which the error bar is drawn are computed from one field. -/
theorem field_of_mem_derivedEntries {names : DerivedNames} {center : Center} {extent : Extent}
    {output : AggregateOutput} (h : output ∈ derivedEntries names center extent) :
    output.field = some names.source := by
  cases extent <;>
    simp only [derivedEntries, List.mem_cons, List.not_mem_nil, or_false] at h <;>
    rcases h with rfl | rfl | rfl <;> rfl

namespace UnitSpec

/-- **The summarized axis.**  Its definition names a field or counts. -/
theorem named_of_continuousField? {spec : UnitSpec} (named : spec.Named) {axis : Axis}
    {d : FieldDef} (chosen : spec.continuousField? axis = some d) : d.Named :=
  named _ (Fields.mem_of_get? (continuousField?_eq_some.mp chosen).1) d (List.mem_singleton_self d)

/-- **The other channels.**  Their outputs read the fields of their definitions. -/
theorem reads_of_mem_passedOutputs {spec : UnitSpec} (named : spec.Named) {axis : Axis}
    {output : AggregateOutput} (h : output ∈ spec.passedOutputs axis) : output.Reads := by
  obtain ⟨d, hd, houtput⟩ := List.mem_filterMap.mp h
  exact (named_of_mem_fieldsBeside named d hd).reads houtput

/-- Before the aggregation there are only bin steps and time unit steps, after it calculations. -/
theorem aggregate_notMem_summaryAround {spec : UnitSpec} {axis : Axis} {axisDef : FieldDef}
    {center : Center} {extent : Extent} {outputs : List AggregateOutput} {groupby : List String} :
    let pipeline := (spec.summaryAround axis axisDef center extent).pipeline
    .aggregate outputs groupby ∉ pipeline.before ++ pipeline.after := by
  intro pipeline hmem
  rcases List.mem_append.mp hmem with hbefore | hafter
  · rcases List.mem_append.mp hbefore with hbin | hunit
    · obtain ⟨d, -, hstep⟩ := List.mem_filterMap.mp hbin
      obtain ⟨-, binning, field, -, -, hnot⟩ := FieldDef.binnedBy_of_binStep? hstep
      cases hnot
    · obtain ⟨d, -, hstep⟩ := List.mem_filterMap.mp hunit
      obtain ⟨-, unit, field, -, -, hnot⟩ := FieldDef.cutBy_of_timeUnitStep? hstep
      cases hnot
  · have hcalculations : .aggregate outputs groupby ∈
        calculations (.of (axisDef.field.getD "") center extent) extent := by
      rw [← boundSteps_eq]
      exact hafter
    cases extent <;> simp [calculations] at hcalculations

end UnitSpec

/-! ## The expansion -/

/-- **What the summary reads.**  The steps of an expanded spec, after its own, say what the steps of
a pipeline are.  Its aggregate step, and there is only one, computes the columns from which the
error bar is drawn, and then those of the other channels.  The former all read the field of the
summarized axis, which has a name unless the axis counts; the latter read a field that has a name,
or count. -/
theorem expand_inputs {room : Room} {fields : Object} {settings : Settings} {result : Object}
    (expanded : (expandErrorBarWithin room fields settings).outcome = .ok result) :
    ∃ (spec : UnitSpec) (orient : Orient) (d : FieldDef) (own : List Json) (pipeline : Pipeline)
      (passed : List AggregateOutput),
      UnitSpec.read fields = .ok spec ∧ spec.orientation = .ok orient ∧
      spec.continuousField? orient.axis = some d ∧
      transformEntries ((fields.get? "transform").getD .null) = .ok own ∧
      result.get? "transform" =
        some (.arr (own ++ pipeline.steps.map fun step => .obj step.toObject)) ∧
      List.Forall₂ TransformStep.ReadAs pipeline.steps
        (pipeline.steps.map fun step => .obj step.toObject) ∧
      let center := (spec.mark.resolve settings).1
      let extent := (spec.mark.resolve settings).2
      let derived := derivedEntries (.of (d.field.getD "") center extent) center extent
      pipeline.outputs = derived ++ passed ∧
      (∀ outputs groupby, .aggregate outputs groupby ∉ pipeline.before ++ pipeline.after) ∧
      (∀ output ∈ derived, output.field = some (d.field.getD "")) ∧
      (d.field.getD "" = "" → d.aggregate = some (.op "count")) ∧
      ∀ output ∈ passed, output.Reads := by
  obtain ⟨spec, orient, d, own, hread, -, horient, hd, hown, rfl⟩ :=
    expandErrorBarWithin_eq_layered expanded
  have named := UnitSpec.named_of_read hread
  refine ⟨spec, orient, d, own, _, spec.onlySupported.passedOutputs orient.axis, hread, horient, hd,
    hown, UnitSpec.get?_transform_layered _ _ _ _, TransformStep.readAs_map_toObject _, ?_, ?_, ?_,
    ?_, ?_⟩
  · rw [← derivedOutputs_eq]
    rfl
  · exact fun outputs groupby => UnitSpec.aggregate_notMem_summaryAround
  · exact fun output houtput => field_of_mem_derivedEntries houtput
  · intro hempty
    rcases UnitSpec.named_of_continuousField? named hd with ⟨field, hfield, hne⟩ | hcount
    · rw [hfield, Option.getD_some] at hempty
      exact absurd hempty hne
    · exact hcount
  · exact fun output houtput =>
      UnitSpec.reads_of_mem_passedOutputs (UnitSpec.named_onlySupported named) houtput

/-- The yield of barley by site, with the number of rows and the mean price beside it. -/
private def countedYield : Object :=
  [("mark", .str errorBar),
   ("encoding", .obj
     [("x", .obj [("field", .str "site"), ("type", .str "nominal")]),
      ("y", .obj [("field", .str "yield"), ("type", .str "quantitative")]),
      ("size", .obj [("aggregate", .str "count"), ("type", .str "quantitative")]),
      ("color", .obj [("field", .str "price"), ("aggregate", .str "mean")])])]

theorem countedYield_inputs :
    ∃ result, (expandErrorBarWithin .direct countedYield .default).outcome = .ok result ∧
      ∃ (pipeline : Pipeline) (passed : List AggregateOutput),
        result.get? "transform" =
          some (.arr (pipeline.steps.map fun step => .obj step.toObject)) ∧
        pipeline.outputs =
          [⟨"mean", some "yield", "mean_yield"⟩, ⟨"stderr", some "yield", "extent_yield"⟩] ++
            passed ∧
        ∀ output ∈ passed, output.Reads := by
  obtain ⟨result, hresult⟩ :
      ∃ result, (expandErrorBarWithin .direct countedYield .default).outcome = .ok result :=
    ⟨_, rfl⟩
  obtain ⟨spec, orient, d, own, pipeline, passed, hread, horient, hd, hown, htransform, -,
    houtputs, -, -, -, hpassed⟩ := expand_inputs hresult
  cases hread
  cases horient
  cases hd
  cases hown
  exact ⟨result, hresult, pipeline, passed, htransform, houtputs, hpassed⟩

/-- A spec whose only continuous axis counts rows. -/
private def countedAxis : Object :=
  [("mark", .str errorBar),
   ("encoding", .obj
     [("x", .obj [("field", .str "site"), ("type", .str "ordinal")]),
      ("y", .obj [("aggregate", .str "count"), ("type", .str "quantitative")])])]

/-- A counted axis is summarized, but there is no field to be read. -/
theorem countedAxis_inputs :
    ∃ (result : Object) (center spread groupby : Json) (steps : List Json),
      (expandErrorBarWithin .direct countedAxis .default).outcome = .ok result ∧
      result.get? "transform" = some (.arr
        (.obj [("aggregate", .arr [center, spread]), ("groupby", groupby)] :: steps)) ∧
      center.get? "op" = some (.str "mean") ∧ center.get? "field" = some (.str "") ∧
      spread.get? "op" = some (.str "stderr") ∧ spread.get? "field" = some (.str "") :=
  ⟨_, _, _, _, _, rfl, rfl, rfl, rfl, rfl, rfl⟩

end LayeredMarks
