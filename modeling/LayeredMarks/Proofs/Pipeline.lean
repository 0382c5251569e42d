import LayeredMarks.Expansion.Nesting
import LayeredMarks.Proofs.SpecTexts
import Mathlib.Data.List.Forall2

/-!
# The shape of the pipeline

`Contributions.takeChannels` walks over the channels of a spec, and every field definition on the
way adds to one of four lists.  This file states what is in the lists at the end, in terms of the
entries alone, and hence what the steps of a summary are:

`bins ++ timeUnits ++ [aggregate] ++ calculations`

## Strategy

* **One definition.**  `take_eq`: a definition that has the field it needs adds its own steps,
  output and group, `Contributions.adding`; one that has not is refused.
* **The walk.**  `thread_adding`: if every single step of a walk adds what its entry holds, the
  whole walk adds what all entries hold, in their order.  It is used twice, for the items of a list
  channel and for the channels of an encoding.
* **Accounting.**  A definition is grouped, computed or left out according to its aggregate, so the
  lengths of the three lists add up (`length_accounting`).
-/

namespace LayeredMarks

/-! ## What becomes of a definition -/

namespace FieldDef

/-- The definition is aggregated by an operator that an aggregate step knows. -/
def isComputed (d : FieldDef) : Bool := d.aggregate.any fun aggregate => aggregate.knownOp?.isSome

/-- The definition is aggregated, but by nothing that an aggregate step knows. -/
def isLeftOut (d : FieldDef) : Bool := d.aggregate.any fun aggregate => aggregate.knownOp?.isNone

/-- The bin step of a definition. -/
def binStep? (d : FieldDef) : Option TransformStep :=
  if d.groupsByBin then
    d.bin.bind fun binning => d.field.map fun field => .bin binning field d.column
  else none

/-- The time unit step of a definition. -/
def timeUnitStep? (d : FieldDef) : Option TransformStep :=
  if d.groupsByTimeUnit then
    d.timeUnit.bind fun unit => d.field.map fun field => .timeUnit unit field d.column
  else none

/-- The output of a definition. -/
def output? (d : FieldDef) : Option AggregateOutput :=
  (d.aggregate.bind Aggregate.knownOp?).map fun op => ⟨op, d.field, d.column⟩

/-- The step bins the field of the definition into its column. -/
def BinnedBy (d : FieldDef) (step : TransformStep) : Prop :=
  ∃ binning field, d.bin = some binning ∧ d.field = some field ∧ step = .bin binning field d.column

/-- The step cuts the field of the definition to its time unit. -/
def CutBy (d : FieldDef) (step : TransformStep) : Prop :=
  ∃ unit field, d.timeUnit = some unit ∧ d.field = some field ∧
    step = .timeUnit unit field d.column

/-- The output computes the aggregate of the definition. -/
def ComputedBy (d : FieldDef) (output : AggregateOutput) : Prop :=
  ∃ op ∈ aggregateOps, d.aggregate = some (.op op) ∧ output = ⟨op, d.field, d.column⟩

theorem isBinned_eq (d : FieldDef) : d.isBinned = (d.bin.filter Binning.isOn).isSome := by
  unfold isBinned
  cases d.bin with
  | none => rfl
  | some binning => cases hon : binning.isOn <;> simp [Option.filter, hon]

theorem filter_isOn_of_unbinned {d : FieldDef} (unbinned : d.isBinned = false) :
    d.bin.filter Binning.isOn = none := by
  rw [isBinned_eq] at unbinned
  exact Option.isNone_iff_eq_none.mp (Option.isSome_eq_false_iff.mp unbinned)

/-- A definition that groups by bins has a step that writes them. -/
theorem exists_binStep {d : FieldDef} (bins : d.groupsByBin = true) (source : d.hasSource = true) :
    ∃ binning field, d.bin = some binning ∧ d.field = some field ∧
      d.binStep? = some (.bin binning field d.column) := by
  have hbinned : d.isBinned = true := ((Bool.and_eq_true _ _).mp bins).2
  rw [isBinned_eq] at hbinned
  obtain ⟨binning, hbinning⟩ := Option.isSome_iff_exists.mp hbinned
  have hown : d.bin = some binning := (Option.filter_eq_some_iff.mp hbinning).1
  cases hfield : d.field with
  | none => simp [hasSource, hfield, bins] at source
  | some field => exact ⟨binning, field, hown, rfl, by simp [binStep?, bins, hown, hfield]⟩

/-- A definition that groups by time units has a step that writes them. -/
theorem exists_timeUnitStep {d : FieldDef} (units : d.groupsByTimeUnit = true)
    (source : d.hasSource = true) :
    ∃ unit field, d.timeUnit = some unit ∧ d.field = some field ∧
      d.timeUnitStep? = some (.timeUnit unit field d.column) := by
  have hgiven : d.givenTimeUnit?.isSome = true := ((Bool.and_eq_true _ _).mp units).2
  obtain ⟨unit, hunit⟩ := Option.isSome_iff_exists.mp hgiven
  have hown : d.timeUnit = some unit := (Option.filter_eq_some_iff.mp hunit).1
  cases hfield : d.field with
  | none => simp [hasSource, hfield, units] at source
  | some field => exact ⟨unit, field, hown, rfl, by simp [timeUnitStep?, units, hown, hfield]⟩

/-- A definition that is computed is so by an operator, and has an output. -/
theorem exists_output {d : FieldDef} (computed : d.isComputed = true) :
    ∃ op ∈ aggregateOps, d.aggregate = some (.op op) ∧
      d.output? = some ⟨op, d.field, d.column⟩ := by
  cases haggregate : d.aggregate with
  | none => simp [isComputed, haggregate] at computed
  | some aggregate =>
      cases aggregate with
      | record parameters => simp [isComputed, haggregate, Aggregate.knownOp?] at computed
      | op name =>
          have hknown : name ∈ aggregateOps := by
            simpa [isComputed, haggregate, Aggregate.knownOp?] using computed
          exact ⟨name, hknown, rfl, by simp [output?, haggregate, Aggregate.knownOp?, hknown]⟩

theorem binnedBy_of_binStep? {d : FieldDef} {step : TransformStep} (h : d.binStep? = some step) :
    d.groupsByBin = true ∧ d.BinnedBy step := by
  unfold binStep? at h
  split at h
  · rename_i bins
    obtain ⟨binning, hbin, hstep⟩ := Option.bind_eq_some_iff.mp h
    obtain ⟨field, hfield, rfl⟩ := Option.map_eq_some_iff.mp hstep
    exact ⟨bins, binning, field, hbin, hfield, rfl⟩
  · simp at h

theorem cutBy_of_timeUnitStep? {d : FieldDef} {step : TransformStep}
    (h : d.timeUnitStep? = some step) : d.groupsByTimeUnit = true ∧ d.CutBy step := by
  unfold timeUnitStep? at h
  split at h
  · rename_i units
    obtain ⟨unit, hunit, hstep⟩ := Option.bind_eq_some_iff.mp h
    obtain ⟨field, hfield, rfl⟩ := Option.map_eq_some_iff.mp hstep
    exact ⟨units, unit, field, hunit, hfield, rfl⟩
  · simp at h

theorem isComputed_of_output? {d : FieldDef} {output : AggregateOutput}
    (h : d.output? = some output) : d.isComputed = true ∧ output.column = d.column := by
  obtain ⟨op, hop, rfl⟩ := Option.map_eq_some_iff.mp h
  obtain ⟨aggregate, haggregate, hknown⟩ := Option.bind_eq_some_iff.mp hop
  exact ⟨by simp [isComputed, haggregate, hknown], rfl⟩

theorem hasSource_of_named {d : FieldDef} (named : d.Named) : d.hasSource = true := by
  cases haggregate : d.aggregate with
  | none =>
      obtain ⟨field, hfield, -⟩ := named.field_of_grouping haggregate
      simp [hasSource, hfield]
  | some aggregate => simp [hasSource, groupsByBin, groupsByTimeUnit, haggregate]

end FieldDef

namespace ChannelDef

/-- An entry of a layer's channel: field definitions read their columns. -/
def entryReadingColumns : ChannelDef → Json
  | field d => .obj d.readingColumn.toObject
  | other => other.toJson

/-- A channel of a layer: its field definitions, its own or those among its list entries, read their
columns. -/
def readingColumns : ChannelDef → Json
  | list items => .arr (items.map entryReadingColumns)
  | other => other.entryReadingColumns

end ChannelDef

/-! ## The walk over the channels -/

namespace Contributions

/-- What is there after the given definitions have been taken up. -/
def adding (done : Contributions) (entries : List FieldDef) : Contributions where
  binSteps := done.binSteps ++ entries.filterMap FieldDef.binStep?
  timeUnitSteps := done.timeUnitSteps ++ entries.filterMap FieldDef.timeUnitStep?
  outputs := done.outputs ++ entries.filterMap FieldDef.output?
  groupby := done.groupby ++ (entries.filter fun d => d.aggregate.isNone).map FieldDef.column

@[simp] theorem adding_nil (done : Contributions) : done.adding [] = done := by
  simp [adding]

@[simp] theorem adding_adding (done : Contributions) (first second : List FieldDef) :
    (done.adding first).adding second = done.adding (first ++ second) := by
  simp [adding]

/-- The issue of a definition that needs a field and has none. -/
def noSource : List Issue := [⟨[.key "field"], .notText⟩]

private theorem addStep_eq (done : Contributions) {d : FieldDef} (grouping : d.aggregate = none) :
    done.addStep d = if d.hasSource then
      .ok { done with
        binSteps := done.binSteps ++ d.binStep?.toList
        timeUnitSteps := done.timeUnitSteps ++ d.timeUnitStep?.toList }
      else .refused noSource := by
  unfold addStep
  cases hbin : d.bin.filter Binning.isOn with
  | some binning =>
      -- a binning that is on keeps the time unit from being looked at
      have hown : d.bin = some binning := (Option.filter_eq_some_iff.mp hbin).1
      have hbins : d.groupsByBin = true := by
        simp [FieldDef.groupsByBin, grouping, FieldDef.isBinned_eq, hbin]
      have hunits : d.groupsByTimeUnit = false := by
        simp [FieldDef.groupsByTimeUnit, FieldDef.isBinned_eq, hbin]
      cases hfield : d.field <;>
        simp [FieldDef.sourceField, noSource, hfield, FieldDef.hasSource, FieldDef.binStep?,
          FieldDef.timeUnitStep?, hbins, hunits, hown, Checked.map]
  | none =>
      have hbins : d.groupsByBin = false := by
        simp [FieldDef.groupsByBin, FieldDef.isBinned_eq, hbin]
      cases hunit : d.givenTimeUnit? with
      | some unit =>
          have hown : d.timeUnit = some unit := (Option.filter_eq_some_iff.mp hunit).1
          have hunits : d.groupsByTimeUnit = true := by
            simp [FieldDef.groupsByTimeUnit, grouping, FieldDef.isBinned_eq, hbin, hunit]
          cases hfield : d.field <;>
            simp [FieldDef.sourceField, noSource, hfield, FieldDef.hasSource, FieldDef.binStep?,
              FieldDef.timeUnitStep?, hbins, hunits, hown, Checked.map]
      | none =>
          -- no step is asked for, so no field is needed
          have hunits : d.groupsByTimeUnit = false := by
            simp [FieldDef.groupsByTimeUnit, hunit]
          simp [FieldDef.hasSource, FieldDef.binStep?, FieldDef.timeUnitStep?, hbins, hunits]

/-- **One definition.**  It adds what it asks for, unless it needs a field and has none. -/
theorem take_eq (done : Contributions) (d : FieldDef) :
    done.take d = if d.hasSource then .ok (done.adding [d]) else .refused noSource := by
  unfold take
  cases haggregate : d.aggregate with
  | none =>
      have hbin : [d].filterMap FieldDef.binStep? = d.binStep?.toList := by
        rw [List.filterMap_eq_flatMap_toList, List.flatMap_singleton]
      have hunit : [d].filterMap FieldDef.timeUnitStep? = d.timeUnitStep?.toList := by
        rw [List.filterMap_eq_flatMap_toList, List.flatMap_singleton]
      dsimp only
      rw [addStep_eq done haggregate]
      cases d.hasSource with
      | false => rfl
      | true => simp [Checked.map, adding, hbin, hunit, FieldDef.output?, haggregate]
  | some aggregate =>
      -- a definition with an aggregate is never binned or cut, whatever it asks for
      have hsource : d.hasSource = true := by
        simp [FieldDef.hasSource, FieldDef.groupsByBin, FieldDef.groupsByTimeUnit, haggregate]
      have hbin : d.binStep? = none := by
        simp [FieldDef.binStep?, FieldDef.groupsByBin, haggregate]
      have hunit : d.timeUnitStep? = none := by
        simp [FieldDef.timeUnitStep?, FieldDef.groupsByTimeUnit, haggregate]
      cases hop : aggregate.knownOp? <;>
        simp [hsource, adding, FieldDef.output?, haggregate, hop, hbin, hunit]

/-- **The walk.**  If each step of a walk adds the definitions that its entry holds, the walk adds
those of all entries in their order; the first entry without a source ends it. -/
theorem thread_adding {α β : Type} {work : Contributions → α → Checked (Contributions × β)}
    {held : α → List FieldDef} {write : α → β}
    (step : ∀ done a, work done a = if (held a).all FieldDef.hasSource then
      .ok (done.adding (held a), write a) else .refused noSource)
    (done : Contributions) (as : List α) :
    Checked.thread work done as = if (as.flatMap held).all FieldDef.hasSource then
      .ok (done.adding (as.flatMap held), as.map write) else .refused noSource := by
  -- for any contributions so far: the rest of the walk starts with those of its first entry
  induction as generalizing done with
  | nil => simp [Checked.thread]
  | cons a rest ih =>
      rw [Checked.thread, step, List.flatMap_cons, List.all_append]
      cases (held a).all FieldDef.hasSource with
      | false => rfl
      | true =>
          simp only [if_true, Checked.andThen_ok, ih, Bool.true_and, adding_adding]
          cases (rest.flatMap held).all FieldDef.hasSource <;> rfl

private theorem takeEntry_eq (done : Contributions) (entry : ChannelDef) :
    done.takeEntry entry = if entry.fieldDef?.toList.all FieldDef.hasSource then
      .ok (done.adding entry.fieldDef?.toList, entry.entryReadingColumns)
      else .refused noSource := by
  cases entry with
  | field d =>
      rw [takeEntry, take_eq]
      cases hsource : d.hasSource <;>
        simp [ChannelDef.fieldDef?, ChannelDef.entryReadingColumns, hsource, Checked.map]
  | _ => simp [takeEntry, ChannelDef.fieldDef?, ChannelDef.entryReadingColumns]

theorem takeChannel_eq (done : Contributions) (channel : ChannelDef) :
    done.takeChannel channel = if channel.directFields.all FieldDef.hasSource then
      .ok (done.adding channel.directFields, channel.readingColumns)
      else .refused noSource := by
  cases channel with
  | list items =>
      rw [takeChannel, thread_adding takeEntry_eq, ChannelDef.directFields,
        List.filterMap_eq_flatMap_toList]
      cases (items.flatMap fun item => item.fieldDef?.toList).all FieldDef.hasSource <;> rfl
  | field d =>
      rw [takeChannel, takeEntry_eq]
      · rfl
      · simp
  | _ => simp [takeChannel, takeEntry, ChannelDef.directFields, ChannelDef.readingColumns,
      ChannelDef.entryReadingColumns]

theorem takeChannels_eq (done : Contributions) (encoding : Encoding) :
    done.takeChannels encoding =
      if (encoding.flatMap fun entry => entry.2.directFields).all FieldDef.hasSource then
        .ok (done.adding (encoding.flatMap fun entry => entry.2.directFields),
          encoding.map fun entry => (entry.1, entry.2.readingColumns))
      else .refused noSource := by
  refine thread_adding (fun done entry => ?_) done encoding
  obtain ⟨name, channel⟩ := entry
  dsimp only
  rw [takeChannel_eq]
  cases channel.directFields.all FieldDef.hasSource <;> rfl

end Contributions

/-! ## The summary in closed form -/

namespace UnitSpec

/-- The field definitions that the channels other than that of an axis hold directly, in order. -/
def fieldsBeside (spec : UnitSpec) (axis : Axis) : List FieldDef :=
  (spec.channelsBeside axis).flatMap fun entry => entry.2.directFields

/-- The summary around the definition of its axis, for other channels that have their fields. -/
def summaryAround (spec : UnitSpec) (axis : Axis) (axisDef : FieldDef) (center : Center)
    (extent : Extent) : Summary where
  axis
  axisDef
  names := .of (axisDef.field.getD "") center extent
  binSteps := (spec.fieldsBeside axis).filterMap FieldDef.binStep?
  timeUnitSteps := (spec.fieldsBeside axis).filterMap FieldDef.timeUnitStep?
  outputs := derivedOutputs (axisDef.field.getD "") center extent ++
    (spec.fieldsBeside axis).filterMap FieldDef.output?
  groupby := ((spec.fieldsBeside axis).filter fun d => d.aggregate.isNone).map FieldDef.column
  channels := (spec.channelsBeside axis).map fun entry => (entry.1, entry.2.readingColumns)

theorem summaryOf_eq (spec : UnitSpec) (axis : Axis) (axisDef : FieldDef) (center : Center)
    (extent : Extent) :
    spec.summaryOf axis axisDef center extent =
      if (spec.fieldsBeside axis).all FieldDef.hasSource then
        .ok (spec.summaryAround axis axisDef center extent)
      else .refused Contributions.noSource := by
  have hwalk := Contributions.takeChannels_eq
    ⟨[], [], derivedOutputs (axisDef.field.getD "") center extent, []⟩ (spec.channelsBeside axis)
  dsimp only [summaryOf]
  rw [hwalk, ← fieldsBeside]
  cases (spec.fieldsBeside axis).all FieldDef.hasSource <;> rfl

/-- The definition of the summarized axis loses its aggregate and keeps everything else. -/
theorem summary_outcome (spec : UnitSpec) (orient : Orient) (center : Center) (extent : Extent)
    {axisDef : FieldDef}
    (shown : spec.encoding.get? orient.axis.channel = some (.field axisDef)) :
    (spec.summary orient center extent).outcome =
      if (spec.fieldsBeside orient.axis).all FieldDef.hasSource then
        .ok (spec.summaryAround orient.axis { axisDef with aggregate := none } center extent)
      else .error (.invalid Contributions.noSource) := by
  have haxis : (spec.summarizedField orient).outcome = .ok { axisDef with aggregate := none } := by
    simp [summarizedField, shown, ChannelDef.fieldDef?]
  rw [summary, Logged.outcome_bind, haxis]
  dsimp only [Except.bind]
  rw [summaryOf_eq]
  cases (spec.fieldsBeside orient.axis).all FieldDef.hasSource <;> rfl

/-- A summary is that around the definition of its axis, which is shown, and the other definitions
have their fields. -/
theorem summary_eq_ok {spec : UnitSpec} {orient : Orient} {center : Center} {extent : Extent}
    {summary : Summary} (h : (spec.summary orient center extent).outcome = .ok summary) :
    ∃ axisDef, spec.encoding.get? orient.axis.channel = some (.field axisDef) ∧
      (∀ d ∈ spec.fieldsBeside orient.axis, d.hasSource = true) ∧
      summary =
        spec.summaryAround orient.axis { axisDef with aggregate := none } center extent := by
  obtain ⟨_, haxis, -⟩ := Logged.outcome_bind_eq_ok.mp h
  obtain ⟨axisDef, shown⟩ :
      ∃ axisDef, spec.encoding.get? orient.axis.channel = some (.field axisDef) := by
    unfold summarizedField at haxis
    split at haxis
    · rename_i axisDef hdef
      obtain ⟨channel, hchannel, hfield⟩ := Option.bind_eq_some_iff.mp hdef
      obtain rfl := ChannelDef.fieldDef?_eq_some.mp hfield
      exact ⟨axisDef, hchannel⟩
    · simp [Logged.fail] at haxis
  refine ⟨axisDef, shown, ?_⟩
  rw [summary_outcome spec orient center extent shown] at h
  split at h
  · rename_i sourced
    exact ⟨List.all_eq_true.mp sourced, (Except.ok.inj h).symm⟩
  · cases h

/-! ### In a given room -/

theorem map_snd_fieldsBesideWithin (room : Room) (spec : UnitSpec) (axis : Axis) :
    (spec.fieldsBesideWithin room axis).map Prod.snd = spec.fieldsBeside axis := by
  rw [fieldsBesideWithin, fieldsBeside, List.map_flatMap]
  simp only [ChannelDef.map_snd_directFieldsWithin]

/-- Where every definition has its field, the fault is that of the first one without a name. -/
theorem namingFault?_of_sourced {spec : UnitSpec} {axis : Axis}
    (sourced : ∀ d ∈ spec.fieldsBeside axis, d.hasSource = true) (room : Room) :
    spec.namingFault? room axis =
      (spec.fieldsBesideWithin room axis).findSome? fun entry => entry.2.namingFault? entry.1 := by
  rw [← map_snd_fieldsBesideWithin room, List.forall_mem_map] at sourced
  rw [namingFault?]
  generalize spec.fieldsBesideWithin room axis = entries at sourced
  induction entries with
  | nil => rfl
  | cons entry rest ih =>
      have hentry := sourced entry (List.mem_cons_self ..)
      have hrest := ih fun other hother => sourced other (List.mem_cons_of_mem _ hother)
      rw [FieldDef.namingFaultOfAll?, List.findSome?_cons, hentry, if_pos rfl, hrest]
      cases entry.2.namingFault? entry.1 <;> rfl

/-- A summary in a given room fails where something has no name, and else ends as the summary. -/
theorem summaryWithin_outcome (room : Room) (spec : UnitSpec) (orient : Orient) (center : Center)
    (extent : Extent) {axisDef : FieldDef}
    (shown : spec.encoding.get? orient.axis.channel = some (.field axisDef)) :
    (spec.summaryWithin room orient center extent).outcome =
      match spec.aggregateFault? (room - 2) orient.axis <|>
          spec.namingFault? (room - 2) orient.axis with
      | some fault => .error (.unshown fault)
      | none => (spec.summary orient center extent).outcome := by
  have haxis : (spec.summarizedField orient).outcome = .ok { axisDef with aggregate := none } := by
    simp [summarizedField, shown, ChannelDef.fieldDef?]
  cases haggregate : spec.aggregateFault? (room - 2) orient.axis with
  | some fault => simp [summaryWithin, haggregate, Logged.outcome_bind, Logged.outcome_pass,
      Except.bind]
  | none =>
      cases hnaming : spec.namingFault? (room - 2) orient.axis with
      | some fault => simp [summaryWithin, haggregate, hnaming, Logged.outcome_bind,
          Logged.outcome_pass, Except.bind, haxis]
      | none =>
          rw [summaryWithin_eq haggregate hnaming]
          rfl

theorem summary_of_summaryWithin {room : Room} {spec : UnitSpec} {orient : Orient}
    {center : Center} {extent : Extent} {summary : Summary}
    (h : (spec.summaryWithin room orient center extent).outcome = .ok summary) :
    (spec.summary orient center extent).outcome = .ok summary := by
  obtain ⟨-, hshown, h⟩ := Logged.outcome_bind_eq_ok.mp h
  obtain ⟨axisDef, haxis, h⟩ := Logged.outcome_bind_eq_ok.mp h
  obtain ⟨-, hnamed, h⟩ := Logged.outcome_bind_eq_ok.mp h
  exact Logged.outcome_bind_eq_ok.mpr ⟨axisDef, haxis, h⟩

theorem named_of_mem_fieldsBeside {spec : UnitSpec} (named : spec.Named) {axis : Axis} :
    ∀ d ∈ spec.fieldsBeside axis, d.Named := by
  intro d hd
  obtain ⟨entry, hentry, hmem⟩ := List.mem_flatMap.mp hd
  exact named entry (List.mem_of_mem_filter hentry) d hmem

theorem hasSource_of_mem_fieldsBeside {spec : UnitSpec} (named : spec.Named) (axis : Axis) :
    ∀ d ∈ spec.fieldsBeside axis, d.hasSource = true :=
  fun d hd => FieldDef.hasSource_of_named (named_of_mem_fieldsBeside named d hd)

end UnitSpec

/-! ## Steps, one for each entry -/

private theorem forall₂_filter_filterMap {α β : Type} {p : α → Bool} {f : α → Option β}
    {related : α → β → Prop} {as : List α}
    (taken : ∀ a ∈ as, p a = true → ∃ b, f a = some b ∧ related a b)
    (skipped : ∀ a ∈ as, p a = false → f a = none) :
    List.Forall₂ related (as.filter p) (as.filterMap f) := by
  induction as with
  | nil => exact List.Forall₂.nil
  | cons a rest ih =>
      have hrest := ih (fun b hb => taken b (List.mem_cons_of_mem _ hb))
        (fun b hb => skipped b (List.mem_cons_of_mem _ hb))
      cases hp : p a with
      | false => simpa [hp, skipped a (List.mem_cons_self ..) hp] using hrest
      | true =>
          obtain ⟨b, hb, hrelated⟩ := taken a (List.mem_cons_self ..) hp
          simpa [hp, hb] using ⟨hrelated, hrest⟩

private theorem forall₂_binStep? {entries : List FieldDef}
    (sourced : ∀ d ∈ entries, d.hasSource = true) :
    List.Forall₂ FieldDef.BinnedBy (entries.filter FieldDef.groupsByBin)
      (entries.filterMap FieldDef.binStep?) := by
  apply forall₂_filter_filterMap
  · intro d hd hbins
    obtain ⟨binning, field, hbin, hfield, hstep⟩ := FieldDef.exists_binStep hbins (sourced d hd)
    exact ⟨_, hstep, binning, field, hbin, hfield, rfl⟩
  · intro d _ hnot
    simp [FieldDef.binStep?, hnot]

private theorem forall₂_timeUnitStep? {entries : List FieldDef}
    (sourced : ∀ d ∈ entries, d.hasSource = true) :
    List.Forall₂ FieldDef.CutBy (entries.filter FieldDef.groupsByTimeUnit)
      (entries.filterMap FieldDef.timeUnitStep?) := by
  apply forall₂_filter_filterMap
  · intro d hd hunits
    obtain ⟨unit, field, hunit, hfield, hstep⟩ :=
      FieldDef.exists_timeUnitStep hunits (sourced d hd)
    exact ⟨_, hstep, unit, field, hunit, hfield, rfl⟩
  · intro d _ hnot
    simp [FieldDef.timeUnitStep?, hnot]

private theorem forall₂_output? (entries : List FieldDef) :
    List.Forall₂ FieldDef.ComputedBy (entries.filter FieldDef.isComputed)
      (entries.filterMap FieldDef.output?) := by
  apply forall₂_filter_filterMap
  · intro d _ hcomputed
    obtain ⟨op, hknown, haggregate, houtput⟩ := FieldDef.exists_output hcomputed
    exact ⟨_, houtput, op, hknown, haggregate, rfl⟩
  · intro d _ hnot
    cases haggregate : d.aggregate with
    | none => simp [FieldDef.output?, haggregate]
    | some aggregate =>
        have hunknown : aggregate.knownOp? = none := by
          simpa [FieldDef.isComputed, haggregate] using hnot
        simp [FieldDef.output?, haggregate, hunknown]

/-- Every definition is grouped, computed or left out, and no two of these at once. -/
private theorem grouped_or_computed_or_leftOut (d : FieldDef) :
    (d.aggregate.isNone, d.isComputed, d.isLeftOut) ∈
      [(true, false, false), (false, true, false), (false, false, true)] := by
  cases haggregate : d.aggregate with
  | none => simp [FieldDef.isComputed, FieldDef.isLeftOut, haggregate]
  | some aggregate =>
      cases hop : aggregate.knownOp? <;>
        simp [FieldDef.isComputed, FieldDef.isLeftOut, haggregate, hop]

theorem length_accounting (entries : List FieldDef) :
    (entries.filter fun d => d.aggregate.isNone).length +
      (entries.filter FieldDef.isComputed).length + (entries.filter FieldDef.isLeftOut).length =
        entries.length := by
  induction entries with
  | nil => rfl
  | cons d rest ih =>
      -- the definition lengthens exactly one of the three lists
      have hcases := grouped_or_computed_or_leftOut d
      simp only [List.mem_cons, Prod.mk.injEq, List.not_mem_nil, or_false] at hcases
      rcases hcases with ⟨h₁, h₂, h₃⟩ | ⟨h₁, h₂, h₃⟩ | ⟨h₁, h₂, h₃⟩ <;>
        simp only [List.filter_cons, h₁, h₂, h₃, if_true, List.length_cons] <;>
        simp <;> omega

/-! ## The pipeline -/

/-- The aggregated columns that the error bar is drawn from, written out for each extent. -/
def derivedEntries (names : DerivedNames) (center : Center) : Extent → List AggregateOutput
  | .ci =>
      [⟨Vocabulary.word center, some names.source, names.center⟩,
       ⟨"ci0", some names.source, names.lower⟩, ⟨"ci1", some names.source, names.upper⟩]
  | .iqr =>
      [⟨Vocabulary.word center, some names.source, names.center⟩,
       ⟨"q1", some names.source, names.lower⟩, ⟨"q3", some names.source, names.upper⟩]
  | .stderr =>
      [⟨Vocabulary.word center, some names.source, names.center⟩,
       ⟨"stderr", some names.source, "extent_" ++ names.source⟩]
  | .stdev =>
      [⟨Vocabulary.word center, some names.source, names.center⟩,
       ⟨"stdev", some names.source, "extent_" ++ names.source⟩]

/-- The calculations after the aggregation, written out for each extent. -/
def calculations (names : DerivedNames) : Extent → List TransformStep
  | .ci | .iqr => []
  | .stderr | .stdev =>
      [.calculate (boundExpression names.center ("extent_" ++ names.source) "+") names.upper,
       .calculate (boundExpression names.center ("extent_" ++ names.source) "-") names.lower]

theorem derivedOutputs_eq (field : String) (center : Center) (extent : Extent) :
    derivedOutputs field center extent =
      derivedEntries (.of field center extent) center extent := by
  cases extent <;> rfl

theorem boundSteps_eq (field : String) (center : Center) (extent : Extent) :
    boundSteps (.of field center extent) = calculations (.of field center extent) extent := by
  cases extent <;> rfl

/-- What a summary makes of the entries beside its axis: in their order, one bin step for each that
groups by bins, one time unit step for each that groups by time units, one group key for each
without aggregate, and one output for each that is computed.  Every entry is accounted for once. -/
structure PipelineShape (entries : List FieldDef) (bins timeUnits : List TransformStep)
    (groupby : List String) (passed : List AggregateOutput) : Prop where
  each_bin : List.Forall₂ FieldDef.BinnedBy (entries.filter FieldDef.groupsByBin) bins
  each_timeUnit : List.Forall₂ FieldDef.CutBy (entries.filter FieldDef.groupsByTimeUnit) timeUnits
  each_group : groupby = (entries.filter fun d => d.aggregate.isNone).map FieldDef.column
  each_passed : List.Forall₂ FieldDef.ComputedBy (entries.filter FieldDef.isComputed) passed
  once : ∀ d ∈ entries, (d.aggregate.isNone, d.isComputed, d.isLeftOut) ∈
    [(true, false, false), (false, true, false), (false, false, true)]
  total : groupby.length + passed.length + (entries.filter FieldDef.isLeftOut).length =
    entries.length

/-- The outputs of the entries beside an axis. -/
def UnitSpec.passedOutputs (spec : UnitSpec) (axis : Axis) : List AggregateOutput :=
  (spec.fieldsBeside axis).filterMap FieldDef.output?

namespace UnitSpec

variable {spec : UnitSpec} {axis : Axis} {axisDef : FieldDef} {center : Center} {extent : Extent}

theorem steps_summaryAround :
    (spec.summaryAround axis axisDef center extent).steps =
      (spec.summaryAround axis axisDef center extent).binSteps ++
        (spec.summaryAround axis axisDef center extent).timeUnitSteps ++
        [.aggregate (derivedEntries (.of (axisDef.field.getD "") center extent) center extent ++
            spec.passedOutputs axis)
          (spec.summaryAround axis axisDef center extent).groupby] ++
        calculations (.of (axisDef.field.getD "") center extent) extent := by
  rw [← derivedOutputs_eq, ← boundSteps_eq]
  rfl

theorem pipelineShape_summaryAround
    (sourced : ∀ d ∈ spec.fieldsBeside axis, d.hasSource = true) :
    PipelineShape (spec.fieldsBeside axis)
      (spec.summaryAround axis axisDef center extent).binSteps
      (spec.summaryAround axis axisDef center extent).timeUnitSteps
      (spec.summaryAround axis axisDef center extent).groupby (spec.passedOutputs axis) where
  each_bin := forall₂_binStep? sourced
  each_timeUnit := forall₂_timeUnitStep? sourced
  each_group := rfl
  each_passed := forall₂_output? _
  once := fun d _ => grouped_or_computed_or_leftOut d
  total := by
    have hpassed := (forall₂_output? (spec.fieldsBeside axis)).length_eq
    have htotal := length_accounting (spec.fieldsBeside axis)
    rw [hpassed] at htotal
    simpa [summaryAround, passedOutputs] using htotal

/-- **The shape of the pipeline.**  Let the entries be the field definitions beside the summarized
axis.  If each of them has the field it needs, as all of a spec that has been read do, the steps are
the bins, the time units, one aggregate step and the calculations, and `PipelineShape` says what
each entry contributes; if one has not, the summary is refused.  There is no summary either where
the aggregate of the axis cannot be shown or the column of an entry cannot be named, which does not
happen to a spec that has been read from a text. -/
theorem summary_pipeline (room : Room) (spec : UnitSpec) (orient : Orient) (center : Center)
    (extent : Extent) {axisDef : FieldDef}
    (shown : spec.encoding.get? orient.axis.channel = some (.field axisDef)) :
    let entries := spec.fieldsBeside orient.axis
    let names := DerivedNames.of (axisDef.field.getD "") center extent
    let outcome := (spec.summaryWithin room orient center extent).outcome
    let textFault := spec.aggregateFault? (room - 2) orient.axis <|>
      spec.namingFault? (room - 2) orient.axis
    ((∃ fields, UnitSpec.read fields = .ok spec) → ∀ d ∈ entries, d.hasSource = true) ∧
    (∀ text fields, Json.read room text = .ok (.obj fields) → UnitSpec.read fields = .ok spec →
      textFault = none) ∧
    match textFault with
    | some fault => outcome = .error (.unshown fault)
    | none =>
      ((∃ d ∈ entries, d.hasSource = false) →
        outcome = .error (.invalid [⟨[.key "field"], .notText⟩])) ∧
      ((∀ d ∈ entries, d.hasSource = true) →
        ∃ summary bins timeUnits passed, outcome = .ok summary ∧
          summary.steps = bins ++ timeUnits ++
            [.aggregate (derivedEntries names center extent ++ passed) summary.groupby] ++
            calculations names extent ∧
          PipelineShape entries bins timeUnits summary.groupby passed) := by
  dsimp only
  have hwithin := summaryWithin_outcome room spec orient center extent shown
  refine ⟨?_, ?_, ?_⟩
  · rintro ⟨fields, hread⟩
    exact hasSource_of_mem_fieldsBeside (named_of_read hread) orient.axis
  · intro text fields htext hread
    have hshown := isShown_of_text htext hread
    rw [hshown.aggregateFault?_eq_none (Nat.sub_le_sub_left (by decide) room),
      hshown.namingFault?_eq_none (fun pos => by omega)]
    rfl
  · split
    · rename_i fault hfault
      rw [hwithin, hfault]
    · rename_i hnone
      rw [hwithin, hnone]
      have houtcome := summary_outcome spec orient center extent shown
      constructor
      · rintro ⟨d, hd, hsource⟩
        have hnot : (spec.fieldsBeside orient.axis).all FieldDef.hasSource = false := by
          rw [List.all_eq_false]
          exact ⟨d, hd, by simp [hsource]⟩
        rw [houtcome, hnot]
        rfl
      · intro sourced
        rw [houtcome, List.all_eq_true.mpr sourced]
        exact ⟨_, _, _, _, rfl, steps_summaryAround, pipelineShape_summaryAround sourced⟩

/-- The yield of barley by variety and month, with the mean price and an aggregate of no known
operator in between. -/
private def barley : UnitSpec :=
  { (default : UnitSpec) with
    encoding :=
      [("x", .field { (default : FieldDef) with field := some "variety", type := some .nominal }),
       ("detail", .list
         [.field { (default : FieldDef) with field := some "date", timeUnit := some "month" },
          .raw (.int 1),
          .field { (default : FieldDef) with
            field := some "price", aggregate := some (.op "mean") },
          .field { (default : FieldDef) with
            field := some "seed", aggregate := some (.op "best") }]),
       ("y", .field { (default : FieldDef) with
          field := some "yield", type := some .quantitative })] }

theorem barley_pipeline :
    barley.encoding.get? "y" =
      some (.field { (default : FieldDef) with
        field := some "yield", type := some .quantitative }) ∧
    (∀ d ∈ barley.fieldsBeside .y, d.hasSource = true) ∧
    ∃ summary, (barley.summaryWithin .direct .vertical .mean .stderr).outcome = .ok summary ∧
      summary.groupby = ["variety", "month_date"] ∧ summary.steps.length = 4 := by
  have shown : barley.encoding.get? "y" = some (.field { (default : FieldDef) with
      field := some "yield", type := some .quantitative }) := rfl
  have sourced : ∀ d ∈ barley.fieldsBeside .y, d.hasSource = true :=
    List.all_eq_true.mp (by decide)
  obtain ⟨summary, bins, timeUnits, passed, houtcome, hsteps, hshape⟩ :=
    (summary_pipeline .direct barley .vertical .mean .stderr shown).2.2.2 sourced
  refine ⟨shown, sourced, summary, houtcome, ?_, ?_⟩
  · rw [hshape.each_group]
    decide
  · have hbins : bins.length = 0 := by
      rw [← hshape.each_bin.length_eq]
      decide
    have hunits : timeUnits.length = 1 := by
      rw [← hshape.each_timeUnit.length_eq]
      decide
    simp [hsteps, hbins, hunits, calculations]

end UnitSpec

end LayeredMarks
