import LayeredMarks.Json.Equality
import LayeredMarks.Proofs.Computations
import LayeredMarks.Proofs.Dataflow

/-!
# Which columns may clash

Columns get their names from the texts of a spec, and nothing keeps two of them apart.  A field may
be called `mean_b` while the mean of the field `b` is drawn, and then the aggregate step overwrites
the group key.  This file says when that can happen, and how far two steps that write the same
column can differ: `expand_clashesOnlyWhere`.

## Strategy

* **Computed columns.**  `isReserved_of_writes`: the name of a column that is computed starts with
  an operator, or as those of bounds and spreads do.  The exception is a definition that is binned
  although it is aggregated, since its column is named after the binning.
* **Columns before the aggregation.**  `named_of_mem_before`: such a column is named after its own
  step, so `eq_of_join_eq` and `Binning.entries_eq_of_label_eq` tell what follows from equal names.
  The name of a binning is not reserved.
-/

namespace LayeredMarks

/-- What the names of bounds and spreads start with. -/
def boundStarts : List String := ["lower_whisker_", "upper_whisker_", "extent_"]

/-- The name starts as those of computed columns do: its leading word is an operator, or it is that
of a bound or a spread. -/
def IsReserved (name : String) : Prop :=
  leadingWord name ∈ aggregateOps ∨ ∃ start ∈ boundStarts, ∃ field, name = start ++ field

namespace Pipeline

/-- The aggregate step or a later one writes the column. -/
def Writes (pipeline : Pipeline) (column : String) : Prop :=
  pipeline.Computes column ∨ ∃ expression, .calculate expression column ∈ pipeline.after

/-- Where columns may clash, for a pipeline that is made of the given entries.  A computed column
replaces a group key only if the key has a reserved name, and then no binning has written it; or if
the column belongs to an entry that is both binned and aggregated.  Two steps that write the same
column agree in their field and in what they do as soon as they agree in one of them, or the names
are free of underscores.  A binning is told by its label, and by its parameters if these are
simple. -/
structure ClashesOnlyWhere (pipeline : Pipeline) (entries : List FieldDef) : Prop where
  groups : ∀ key ∈ pipeline.groupby, pipeline.Writes key →
    (IsReserved key ∧
      ∀ binning field, .bin binning field key ∉ pipeline.before) ∨
    ∃ d ∈ entries, d.isComputed = true ∧ d.isBinned = true ∧ d.column = key
  bins : ∀ {binning binning' field field' column},
    .bin binning field column ∈ pipeline.before → .bin binning' field' column ∈ pipeline.before →
    (binning.label = binning'.label ∨ field = field' ∨ (IsWord field ∧ IsWord field')) →
    field = field' ∧ binning.label = binning'.label ∧
      (binning.IsSimple → binning'.IsSimple → binning.entries = binning'.entries)
  timeUnits : ∀ {unit unit' field field' column},
    .timeUnit unit field column ∈ pipeline.before →
    .timeUnit unit' field' column ∈ pipeline.before →
    (unit = unit' ∨ field = field' ∨ (IsWord unit ∧ IsWord unit') ∨
      (IsWord field ∧ IsWord field')) →
    field = field' ∧ unit = unit'
  mixed : ∀ {binning field unit field' column},
    .bin binning field column ∈ pipeline.before →
    .timeUnit unit field' column ∈ pipeline.before → leadingWord unit = "bin"

end Pipeline

/-! ## Computed columns -/

private theorem isReserved_of_mem_columns {field : String} {center : Center} {extent : Extent}
    {column : String} (h : column ∈ (DerivedNames.of field center extent).columns) :
    IsReserved column := by
  rcases List.mem_cons.mp h with rfl | hbound
  · left
    rw [DerivedNames.leadingWord_center]
    cases center <;> decide
  · right
    simp only [DerivedNames.bounds, List.mem_cons, Option.mem_toList] at hbound
    rcases hbound with rfl | rfl | hspread
    · exact ⟨"lower_whisker_", by decide, field, rfl⟩
    · exact ⟨"upper_whisker_", by decide, field, rfl⟩
    · refine ⟨"extent_", by decide, field, ?_⟩
      cases extent <;> simp_all [DerivedNames.of, Extent.boundOps?]

/-- No reserved name is that of a binning. -/
private theorem IsReserved.leadingWord_ne {name : String} (reserved : IsReserved name) :
    leadingWord name ≠ "bin" := by
  rcases reserved with hop | ⟨start, hstart, field, rfl⟩
  · rintro hbin
    rw [hbin] at hop
    exact absurd hop (by decide)
  · simp only [boundStarts, List.mem_cons, List.not_mem_nil, or_false] at hstart
    rcases hstart with rfl | rfl | rfl
    · have hword : leadingWord (DerivedNames.of field .mean .ci).lower = "lower" :=
        DerivedNames.leadingWord_lower _ _ _
      exact fun hbin => absurd (hword.symm.trans hbin) (by decide)
    · have hword : leadingWord (DerivedNames.of field .mean .ci).upper = "upper" :=
        DerivedNames.leadingWord_upper _ _ _
      exact fun hbin => absurd (hword.symm.trans hbin) (by decide)
    · have hspread : (DerivedNames.of field .mean .stderr).spread = some ("extent_" ++ field) := rfl
      have hword := DerivedNames.leadingWord_spread hspread
      exact fun hbin => absurd (hword.symm.trans hbin) (by decide)

section

variable {spec : UnitSpec} {axis : Axis} {axisDef : FieldDef} {center : Center} {extent : Extent}

/-- **Computed columns.**  Their names are reserved, but for entries that are binned although they
are aggregated. -/
theorem isReserved_of_writes {column : String}
    (h : (spec.summaryAround axis axisDef center extent).pipeline.Writes column) :
    IsReserved column ∨
      ∃ d ∈ spec.fieldsBeside axis,
        d.isComputed = true ∧ d.isBinned = true ∧ d.column = column := by
  rcases h with hcomputes | ⟨expression, hcalculate⟩
  · obtain ⟨output, houtput, rfl⟩ := List.mem_map.mp hcomputes
    rcases List.mem_append.mp houtput with hderived | hpassed
    · exact Or.inl (isReserved_of_mem_columns (mem_columns_of_derivedOutputs hderived))
    · obtain ⟨d, hd, hown⟩ := List.mem_filterMap.mp hpassed
      obtain ⟨hcomputed, hcolumn⟩ := FieldDef.isComputed_of_output? hown
      obtain ⟨name, hknown, haggregate, -⟩ := FieldDef.exists_output hcomputed
      cases hbinned : d.isBinned with
      | true => exact Or.inr ⟨d, hd, hcomputed, hbinned, hcolumn.symm⟩
      | false =>
          refine Or.inl (Or.inl ?_)
          rw [hcolumn, FieldDef.leadingWord_column_of_op haggregate hknown hbinned]
          exact hknown
  · exact Or.inl (isReserved_of_mem_columns (mem_columns_of_boundSteps hcalculate))

end

/-! ## Columns before the aggregation -/

namespace FieldDef

theorem binStep?_of_named {d : FieldDef} (named : d.Named) {step : TransformStep}
    (h : d.binStep? = some step) : ∃ binning field, binning.isOn = true ∧
      step = .bin binning field (binning.label ++ "_" ++ field) := by
  obtain ⟨bins, binning, field, hbin, hfield, rfl⟩ := binnedBy_of_binStep? h
  obtain ⟨hnone, hbinned⟩ := (Bool.and_eq_true _ _).mp bins
  have haggregate : d.aggregate = none := by simpa using hnone
  have on : binning.isOn = true := by simpa [isBinned, hbin] using hbinned
  have counts : d.aggregatesBy "count" = false := by simp [aggregatesBy, haggregate]
  obtain ⟨own, hown, hne⟩ := named.field_of_grouping haggregate
  obtain rfl : own = field := Option.some.inj (hown.symm.trans hfield)
  exact ⟨binning, own, on, by rw [column_of_binned hbin on counts hown hne]⟩

theorem timeUnitStep?_of_named {d : FieldDef} (named : d.Named) {step : TransformStep}
    (h : d.timeUnitStep? = some step) :
    ∃ unit field, step = .timeUnit unit field (unit ++ "_" ++ field) := by
  obtain ⟨units, unit, field, hunit, hfield, rfl⟩ := cutBy_of_timeUnitStep? h
  simp only [groupsByTimeUnit, Bool.and_eq_true, Option.isNone_iff_eq_none, Bool.not_eq_true',
    Option.isSome_iff_exists] at units
  obtain ⟨⟨haggregate, unbinned⟩, given, hgiven⟩ := units
  obtain rfl : given = unit :=
    Option.some.inj ((Option.filter_eq_some_iff.mp hgiven).1.symm.trans hunit)
  obtain ⟨own, hown, hne⟩ := named.field_of_grouping haggregate
  obtain rfl : own = field := Option.some.inj (hown.symm.trans hfield)
  exact ⟨given, own, by rw [column_of_timeUnit haggregate unbinned hgiven hown hne]⟩

end FieldDef

section

variable {spec : UnitSpec} {axis : Axis} {axisDef : FieldDef} {center : Center} {extent : Extent}

/-- **Columns before the aggregation.**  A step names its column after itself. -/
private theorem named_of_mem_before (named : spec.Named) {step : TransformStep}
    (h : step ∈ (spec.summaryAround axis axisDef center extent).pipeline.before) :
    (∃ binning field, binning.isOn = true ∧
      step = .bin binning field (binning.label ++ "_" ++ field)) ∨
    ∃ unit field, step = .timeUnit unit field (unit ++ "_" ++ field) := by
  have hnamed : ∀ d ∈ spec.fieldsBeside axis, d.Named :=
    UnitSpec.named_of_mem_fieldsBeside named
  rcases List.mem_append.mp h with hbins | hunits
  · obtain ⟨d, hd, hstep⟩ := List.mem_filterMap.mp hbins
    exact Or.inl (FieldDef.binStep?_of_named (hnamed d hd) hstep)
  · obtain ⟨d, hd, hstep⟩ := List.mem_filterMap.mp hunits
    exact Or.inr (FieldDef.timeUnitStep?_of_named (hnamed d hd) hstep)

private theorem bin_of_mem_before (named : spec.Named) {binning : Binning} {field column : String}
    (h : .bin binning field column ∈
      (spec.summaryAround axis axisDef center extent).pipeline.before) :
    binning.isOn = true ∧ column = binning.label ++ "_" ++ field := by
  rcases named_of_mem_before named h with ⟨_, _, on, hstep⟩ | ⟨_, _, hstep⟩
  · cases hstep
    exact ⟨on, rfl⟩
  · cases hstep

private theorem timeUnit_of_mem_before (named : spec.Named) {unit field column : String}
    (h : .timeUnit unit field column ∈
      (spec.summaryAround axis axisDef center extent).pipeline.before) :
    column = unit ++ "_" ++ field := by
  rcases named_of_mem_before named h with ⟨_, _, -, hstep⟩ | ⟨_, _, hstep⟩
  · cases hstep
  · cases hstep
    rfl

theorem clashesOnlyWhere_summaryAround (named : spec.Named) :
    (spec.summaryAround axis axisDef center extent).pipeline.ClashesOnlyWhere
      (spec.fieldsBeside axis) where
  groups := by
    intro key hkey hwrites
    refine (isReserved_of_writes hwrites).imp_left fun hreserved => ⟨hreserved, ?_⟩
    intro binning field hbin
    obtain ⟨on, hcolumn⟩ := bin_of_mem_before named hbin
    have hword : leadingWord key = "bin" := by
      rw [hcolumn, leadingWord_join, Binning.leadingWord_label on]
    exact hreserved.leadingWord_ne hword
  bins := by
    intro binning binning' field field' column hbin hbin' told
    obtain ⟨-, hcolumn⟩ := bin_of_mem_before named hbin
    obtain ⟨-, hcolumn'⟩ := bin_of_mem_before named hbin'
    obtain ⟨hlabel, hfield⟩ := eq_of_join_eq
      (told.imp_right fun hrest => hrest.imp_right Or.inr) (hcolumn.symm.trans hcolumn')
    exact ⟨hfield, hlabel, fun simple simple' =>
      Binning.entries_eq_of_label_eq simple simple' hlabel⟩
  timeUnits := by
    intro unit unit' field field' column hunit hunit' told
    have hcolumn := timeUnit_of_mem_before named hunit
    have hcolumn' := timeUnit_of_mem_before named hunit'
    exact (eq_of_join_eq told (hcolumn.symm.trans hcolumn')).symm
  mixed := by
    intro binning field unit field' column hbin hunit
    obtain ⟨on, hcolumn⟩ := bin_of_mem_before named hbin
    calc leadingWord unit
        = leadingWord column := by rw [timeUnit_of_mem_before named hunit, leadingWord_join]
      _ = leadingWord binning.label := by rw [hcolumn, leadingWord_join]
      _ = "bin" := Binning.leadingWord_label on

end

/-! ## The expansion -/

/-- **Where columns may clash.**  The steps of an expanded spec, after its own, say what the steps
of a pipeline are in which columns clash only as `Pipeline.ClashesOnlyWhere` says. -/
theorem expand_clashesOnlyWhere {room : Room} {fields : Object} {settings : Settings}
    {result : Object}
    (expanded : (expandErrorBarWithin room fields settings).outcome = .ok result) :
    ∃ (spec : UnitSpec) (orient : Orient) (own : List Json) (pipeline : Pipeline),
      UnitSpec.read fields = .ok spec ∧ spec.orientation = .ok orient ∧
      transformEntries ((fields.get? "transform").getD .null) = .ok own ∧
      result.get? "transform" =
        some (.arr (own ++ pipeline.steps.map fun step => .obj step.toObject)) ∧
      List.Forall₂ TransformStep.ReadAs pipeline.steps
        (pipeline.steps.map fun step => .obj step.toObject) ∧
      pipeline.ClashesOnlyWhere (spec.onlySupported.fieldsBeside orient.axis) := by
  obtain ⟨spec, orient, d, own, hread, -, horient, -, hown, rfl⟩ :=
    expandErrorBarWithin_eq_layered expanded
  have named := UnitSpec.named_onlySupported (UnitSpec.named_of_read hread)
  exact ⟨spec, orient, own, _, hread, horient, hown, UnitSpec.get?_transform_layered ..,
    TransformStep.readAs_map_toObject _, clashesOnlyWhere_summaryAround named⟩

/-- The yield of barley by its binned price, and by the mean price of the bins. -/
private def binnedPrice : Object :=
  [("mark", .str errorBar),
   ("encoding", .obj
     [("x", .obj [("field", .str "price"), ("type", .str "quantitative"), ("bin", .bool true)]),
      ("y", .obj [("field", .str "yield"), ("type", .str "quantitative")]),
      ("detail", .obj [("field", .str "price"), ("aggregate", .str "mean")])])]

theorem binnedPrice_clashesOnlyWhere :
    ∃ (result : Object) (pipeline : Pipeline),
      (expandErrorBarWithin .direct binnedPrice .default).outcome = .ok result ∧
      result.get? "transform" =
        some (.arr (pipeline.steps.map fun step => .obj step.toObject)) ∧
      ∀ key ∈ pipeline.groupby, pipeline.Writes key → IsReserved key := by
  obtain ⟨result, hresult⟩ :
      ∃ result, (expandErrorBarWithin .direct binnedPrice .default).outcome = .ok result :=
    ⟨_, rfl⟩
  obtain ⟨spec, orient, own, pipeline, hread, horient, hown, hsteps, -, hclashes⟩ :=
    expand_clashesOnlyWhere hresult
  cases hread
  cases horient
  cases hown
  refine ⟨result, pipeline, hresult, hsteps, fun key hkey hwrites => ?_⟩
  rcases hclashes.groups key hkey hwrites with ⟨hreserved, -⟩ | ⟨d, hd, hcomputed, hbinned, -⟩
  · exact hreserved
  · -- the price is binned or aggregated, but never both at once
    have hnot := (List.all_eq_true (p := fun d : FieldDef => !(d.isComputed && d.isBinned))).mp
      rfl d hd
    simp [hcomputed, hbinned] at hnot

/-- Fields whose names are those of columns, and definitions whose columns have the same name. -/
private def crossedNames : Object :=
  [("mark", .str errorBar),
   ("encoding", .obj
     [("x", .obj [("field", .str "mean_b"), ("type", .str "nominal")]),
      ("y", .obj [("field", .str "b"), ("type", .str "quantitative")]),
      ("detail", .arr
        [.obj [("field", .str "a"), ("bin", .bool true)],
         .obj [("field", .str "a"), ("bin", .bool true), ("aggregate", .str "mean")],
         .obj [("field", .str "a"), ("bin", .obj [("maxbins", .int 10), ("step", .int 5)])],
         .obj [("field", .str "step_5_a"), ("bin", .bool true)],
         .obj [("field", .str "a"), ("bin", .obj [("nice", .bool true)])],
         .obj [("field", .str "a"), ("bin", .obj [("nice", .str "True")])],
         .obj [("field", .str "maxbins_10_a"), ("timeUnit", .str "bin")],
         .obj [("field", .str "day_date"), ("timeUnit", .str "month")],
         .obj [("field", .str "date"), ("timeUnit", .str "month_day")]])])]

/-- Every kind of clash does occur: with the center, with an entry that is binned although it is
aggregated, of binnings of different fields and of different parameters, of a binning and a time
unit, and of time units. -/
theorem crossedNames_clash :
    ∃ (result : Object) (pipeline : Pipeline),
      (expandErrorBarWithin .direct crossedNames .default).outcome = .ok result ∧
      result.get? "transform" =
        some (.arr (pipeline.steps.map fun step => .obj step.toObject)) ∧
      (∀ key ∈ ["mean_b", "bin_maxbins_10_a"], key ∈ pipeline.groupby ∧ pipeline.Computes key) ∧
      (.bin (.parameters [("maxbins", .int 10), ("step", .int 5)]) "a" "bin_maxbins_10_step_5_a" ∈
          pipeline.before ∧
        .bin (.flag true) "step_5_a" "bin_maxbins_10_step_5_a" ∈ pipeline.before) ∧
      (.bin (.parameters [("nice", .bool true)]) "a" "bin_nice_True_a" ∈ pipeline.before ∧
        .bin (.parameters [("nice", .str "True")]) "a" "bin_nice_True_a" ∈ pipeline.before) ∧
      (.bin (.flag true) "a" "bin_maxbins_10_a" ∈ pipeline.before ∧
        .timeUnit "bin" "maxbins_10_a" "bin_maxbins_10_a" ∈ pipeline.before) ∧
      (.timeUnit "month" "day_date" "month_day_date" ∈ pipeline.before ∧
        .timeUnit "month_day" "date" "month_day_date" ∈ pipeline.before) := by
  let pipeline : Pipeline :=
    { before :=
        [.bin (.flag true) "a" "bin_maxbins_10_a",
         .bin (.parameters [("maxbins", .int 10), ("step", .int 5)]) "a" "bin_maxbins_10_step_5_a",
         .bin (.flag true) "step_5_a" "bin_maxbins_10_step_5_a",
         .bin (.parameters [("nice", .bool true)]) "a" "bin_nice_True_a",
         .bin (.parameters [("nice", .str "True")]) "a" "bin_nice_True_a",
         .timeUnit "bin" "maxbins_10_a" "bin_maxbins_10_a",
         .timeUnit "month" "day_date" "month_day_date",
         .timeUnit "month_day" "date" "month_day_date"]
      outputs :=
        [⟨"mean", some "b", "mean_b"⟩, ⟨"stderr", some "b", "extent_b"⟩,
         ⟨"mean", some "a", "bin_maxbins_10_a"⟩]
      groupby :=
        ["mean_b", "bin_maxbins_10_a", "bin_maxbins_10_step_5_a", "bin_maxbins_10_step_5_a",
         "bin_nice_True_a", "bin_nice_True_a", "bin_maxbins_10_a", "month_day_date",
         "month_day_date"]
      after := boundSteps (.of "b" .mean .stderr) }
  have htransform :
      ((expandErrorBarWithin .direct crossedNames .default).outcome.toOption.bind fun result =>
        result.get? "transform") =
          some (.arr (pipeline.steps.map fun step => .obj step.toObject)) := by
    decide +kernel
  cases hresult : (expandErrorBarWithin .direct crossedNames .default).outcome with
  | error failure => simp [hresult, Except.toOption] at htransform
  | ok result =>
      rw [hresult] at htransform
      refine ⟨result, pipeline, rfl, htransform, ?_, ?_, ?_, ?_, ?_⟩
      · simp [pipeline, Pipeline.Computes]
      all_goals simp [pipeline]

end LayeredMarks
