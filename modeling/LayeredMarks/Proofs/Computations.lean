import LayeredMarks.Proofs.ColumnNames
import Mathlib.Data.List.Nodup

/-!
# What the name of a computed column tells

Several channels may aggregate the same field, and one may aggregate the summarized field once more.
Then two outputs have the same name, and this does no harm as long as they compute the same.  The
names are joined from an operator and a field, and either may hold what looks like a part of the
other, so this needs a proof: `UnitSpec.summary_computations`.

A definition that is binned although it is aggregated is an exception, since its column is named
after the binning.

## Strategy

* **Operators first.**  The name of an output starts with its operator, which is a single word, so
  that what follows is the field (`OperatorFirst.agrees`).
* **Bounds.**  The other columns of the summarized field have names that start with no operator
  (`DerivedNames.leadingWord_of_mem_bounds`), and each is computed once
  (`DerivedNames.nodup_columns`).
-/

namespace LayeredMarks

/-! ## Computations -/

/-- What a step computes for a column. -/
inductive Computation where
  /-- An operator is applied to a field. -/
  | aggregated (op : String) (field : Option String)
  /-- An expression is evaluated. -/
  | calculated (expression : String)

/-- The same is computed; a count is the same for every field. -/
def Computation.Agrees : Computation → Computation → Prop
  | aggregated op field, aggregated op' field' => op = op' ∧ (op ≠ "count" → field = field')
  | calculated expression, calculated expression' => expression = expression'
  | _, _ => False

theorem Computation.agrees_refl (computation : Computation) : computation.Agrees computation := by
  cases computation <;> simp [Agrees]

/-- The column of an output, with what is computed for it. -/
def AggregateOutput.computation (output : AggregateOutput) : String × Computation :=
  (output.column, .aggregated output.op output.field)

/-- The columns that an aggregate or a calculate step writes, with what is computed for them. -/
def TransformStep.computations : TransformStep → Fields Computation
  | aggregate outputs _ => outputs.map AggregateOutput.computation
  | calculate expression column => [(column, .calculated expression)]
  | bin .. | timeUnit .. => []

/-- What is computed from the summarized field. -/
def derivedComputations (names : DerivedNames) (center : Center) (extent : Extent) :
    Fields Computation :=
  (derivedEntries names center extent).map AggregateOutput.computation ++
    (calculations names extent).flatMap TransformStep.computations

/-- What is computed for the definitions of other channels. -/
def passedComputations (entries : List FieldDef) : Fields Computation :=
  (entries.filterMap FieldDef.output?).map AggregateOutput.computation

/-! ## Names that start with an operator -/

/-- The column is named after the operator that computes it, and after its field unless the operator
counts. -/
def OperatorFirst (column : String) : Computation → Prop
  | .aggregated op field => op ∈ aggregateOps ∧ leadingWord column = op ∧
      (op ≠ "count" → ∃ name, field = some name ∧ column = op ++ "_" ++ name)
  | .calculated _ => False

/-- **Operators first.**  Such a name tells what is computed. -/
theorem OperatorFirst.agrees {column : String} {first second : Computation}
    (h : OperatorFirst column first) (h' : OperatorFirst column second) :
    first.Agrees second := by
  cases first with
  | calculated expression => exact absurd h not_false
  | aggregated op field =>
      cases second with
      | calculated expression => exact absurd h' not_false
      | aggregated op' field' =>
          obtain ⟨-, hword, hjoined⟩ := h
          obtain ⟨-, hword', hjoined'⟩ := h'
          obtain rfl : op = op' := hword.symm.trans hword'
          refine ⟨rfl, fun counts => ?_⟩
          obtain ⟨name, rfl, hcolumn⟩ := hjoined counts
          obtain ⟨name', rfl, hcolumn'⟩ := hjoined' counts
          rw [(eq_of_join_eq (Or.inl rfl) (hcolumn.symm.trans hcolumn')).2]

theorem OperatorFirst.leadingWord_mem {column : String} {computation : Computation}
    (h : OperatorFirst column computation) : leadingWord column ∈ aggregateOps := by
  cases computation with
  | calculated expression => exact absurd h not_false
  | aggregated op field => exact h.2.1 ▸ h.1

namespace FieldDef

variable {d : FieldDef} {output : AggregateOutput}

theorem operatorFirst_of_output? (named : d.Named) (unbinned : d.isBinned = false)
    (h : d.output? = some output) :
    OperatorFirst output.computation.1 output.computation.2 := by
  obtain ⟨op, known, haggregate, houtput⟩ := exists_output (isComputed_of_output? h).1
  obtain rfl : (⟨op, d.field, d.column⟩ : AggregateOutput) = output :=
    Option.some.inj (houtput.symm.trans h)
  refine ⟨known, leadingWord_column_of_op haggregate known unbinned, fun counts => ?_⟩
  rcases named with ⟨field, hfield, hne⟩ | hcount
  · exact ⟨field, hfield, column_of_op haggregate known unbinned counts hfield hne⟩
  · rw [haggregate, Option.some.injEq, Aggregate.op.injEq] at hcount
    exact absurd hcount counts

/-- An output is named after an operator, or after a binning. -/
theorem leadingWord_of_output? (h : d.output? = some output) :
    leadingWord output.column ∈ "bin" :: aggregateOps := by
  obtain ⟨hcomputed, hcolumn⟩ := isComputed_of_output? h
  obtain ⟨op, known, haggregate, -⟩ := exists_output hcomputed
  rw [hcolumn]
  cases hbinned : d.isBinned with
  | false =>
      rw [leadingWord_column_of_op haggregate known hbinned]
      exact List.mem_cons_of_mem _ known
  | true =>
      cases counts : d.aggregatesBy "count" with
      | true =>
          rw [column, counts, if_pos rfl]
          decide
      | false =>
          rw [isBinned_eq] at hbinned
          obtain ⟨binning, hbinning⟩ := Option.isSome_iff_exists.mp hbinned
          obtain ⟨hbin, on⟩ := Option.filter_eq_some_iff.mp hbinning
          rw [leadingWord_column counts (transformName?_of_binned hbin on),
            Binning.leadingWord_label on]
          exact List.mem_cons_self ..

end FieldDef

/-! ## The columns of the summarized field -/

namespace DerivedNames

/-- The columns that place the ends of the whiskers. -/
def bounds (names : DerivedNames) : List String :=
  names.lower :: names.upper :: names.spread.toList

/-- The columns that are computed from the summarized field. -/
def columns (names : DerivedNames) : List String := names.center :: names.bounds

/-- **Bounds.**  Their names start with words that are no operators. -/
theorem leadingWord_of_mem_bounds {field : String} {center : Center} {extent : Extent}
    {column : String} (h : column ∈ (DerivedNames.of field center extent).bounds) :
    leadingWord column ∈ ["lower", "upper", "extent"] := by
  simp only [bounds, List.mem_cons, Option.mem_toList] at h
  rcases h with rfl | rfl | hspread
  · rw [leadingWord_lower]
    decide
  · rw [leadingWord_upper]
    decide
  · rw [leadingWord_spread hspread]
    decide

theorem nodup_columns (field : String) (center : Center) (extent : Extent) :
    (DerivedNames.of field center extent).columns.Nodup := by
  -- even the leading words are distinct
  apply List.Nodup.of_map leadingWord
  have hspread : (DerivedNames.of field center .stderr).spread = some ("extent_" ++ field) := rfl
  have hextent := leadingWord_spread hspread
  rw [columns, bounds, List.map_cons, List.map_cons, List.map_cons, leadingWord_center,
    leadingWord_lower, leadingWord_upper]
  cases extent <;> simp only [DerivedNames.of, Extent.boundOps?, Option.isSome, if_true,
    Bool.false_eq_true, if_false, Option.toList, List.map_cons, List.map_nil, hextent] <;>
    cases center <;> decide

end DerivedNames

section

variable {field : String} {center : Center} {extent : Extent}

/-- What is computed from the summarized field is one column for each name. -/
theorem keys_derivedComputations :
    (derivedComputations (.of field center extent) center extent).keys.Perm
      (DerivedNames.of field center extent).columns := by
  cases extent with
  | ci => exact .refl _
  | iqr => exact .refl _
  | stderr => exact (List.reverse_perm (DerivedNames.of field center .stderr).bounds).cons _
  | stdev => exact (List.reverse_perm (DerivedNames.of field center .stdev).bounds).cons _

theorem mem_columns_of_derivedOutputs {output : AggregateOutput}
    (h : output ∈ derivedOutputs field center extent) :
    output.column ∈ (DerivedNames.of field center extent).columns := by
  rw [derivedOutputs_eq] at h
  have hcomputed := List.mem_append_left
    ((calculations (.of field center extent) extent).flatMap TransformStep.computations)
    (List.mem_map_of_mem (f := AggregateOutput.computation) h)
  exact keys_derivedComputations.subset (Fields.mem_keys_of_mem hcomputed)

theorem mem_columns_of_boundSteps {expression column : String}
    (h : .calculate expression column ∈ boundSteps (.of field center extent)) :
    column ∈ (DerivedNames.of field center extent).columns := by
  rw [boundSteps_eq] at h
  have hcomputed := List.mem_append_right
    ((derivedEntries (.of field center extent) center extent).map AggregateOutput.computation)
    (List.mem_flatMap_of_mem (f := TransformStep.computations) h (List.mem_singleton_self _))
  exact keys_derivedComputations.subset (Fields.mem_keys_of_mem hcomputed)

theorem nodup_derivedComputations :
    (derivedComputations (.of field center extent) center extent).keys.Nodup :=
  keys_derivedComputations.nodup_iff.mpr (DerivedNames.nodup_columns field center extent)

theorem center_mem_derivedComputations :
    ((DerivedNames.of field center extent).center,
      .aggregated (Vocabulary.word center) (some field)) ∈
        derivedComputations (.of field center extent) center extent := by
  cases extent <;> exact List.mem_cons_self ..

/-- The center is named after its operator, and every other column after none. -/
theorem operatorFirst_of_mem_derived {entry : String × Computation}
    (h : entry ∈ derivedComputations (.of field center extent) center extent) :
    OperatorFirst entry.1 entry.2 ∨ leadingWord entry.1 ∉ aggregateOps := by
  have hcolumn : entry.1 ∈ (DerivedNames.of field center extent).columns :=
    keys_derivedComputations.subset (Fields.mem_keys_of_mem h)
  rcases List.mem_cons.mp hcolumn with hcenter | hbound
  · left
    have hfound := Fields.get?_of_mem nodup_derivedComputations h
    rw [hcenter, Fields.get?_of_mem nodup_derivedComputations center_mem_derivedComputations]
      at hfound
    rw [hcenter, ← Option.some.inj hfound]
    refine ⟨by cases center <;> decide, DerivedNames.leadingWord_center .., fun _ => ?_⟩
    exact ⟨field, rfl, rfl⟩
  · right
    have hword := DerivedNames.leadingWord_of_mem_bounds hbound
    generalize leadingWord entry.1 = word at hword
    simp only [List.mem_cons, List.not_mem_nil, or_false] at hword
    rcases hword with rfl | rfl | rfl <;> decide

end

/-! ## The computations of a summary -/

theorem mem_passedComputations {entries : List FieldDef} {entry : String × Computation} :
    entry ∈ passedComputations entries ↔
      ∃ d ∈ entries, ∃ output, d.output? = some output ∧ output.computation = entry := by
  simp only [passedComputations, List.mem_map, List.mem_filterMap]
  constructor
  · rintro ⟨output, ⟨d, hd, houtput⟩, hentry⟩
    exact ⟨d, hd, output, houtput, hentry⟩
  · rintro ⟨d, hd, output, houtput, hentry⟩
    exact ⟨output, ⟨d, hd, houtput⟩, hentry⟩

/-- No definition takes the name of a bound. -/
theorem notMem_bounds_of_passed {entries : List FieldDef} {entry : String × Computation}
    (h : entry ∈ passedComputations entries) (field : String) (center : Center) (extent : Extent) :
    entry.1 ∉ (DerivedNames.of field center extent).bounds := by
  intro hbound
  obtain ⟨d, -, output, houtput, rfl⟩ := mem_passedComputations.mp h
  have hoperator := FieldDef.leadingWord_of_output? houtput
  have hword := DerivedNames.leadingWord_of_mem_bounds hbound
  rw [AggregateOutput.computation] at hword
  generalize leadingWord output.column = word at hoperator hword
  simp only [List.mem_cons, List.not_mem_nil, or_false] at hword
  rcases hword with rfl | rfl | rfl <;> exact absurd hoperator (by decide)

/-- Where the definitions are not binned, what is computed for a name is told by the name. -/
theorem agrees_of_column_eq {field : String} {center : Center} {extent : Extent}
    {entries : List FieldDef} (named : ∀ d ∈ entries, d.Named)
    (unbinned : ∀ d ∈ entries, d.isBinned = false) {first second : String × Computation}
    (h : first ∈ derivedComputations (.of field center extent) center extent ++
      passedComputations entries)
    (h' : second ∈ derivedComputations (.of field center extent) center extent ++
      passedComputations entries) (same : first.1 = second.1) : first.2.Agrees second.2 := by
  have passed {entry : String × Computation} (hentry : entry ∈ passedComputations entries) :
      OperatorFirst entry.1 entry.2 := by
    obtain ⟨d, hd, output, houtput, rfl⟩ := mem_passedComputations.mp hentry
    exact FieldDef.operatorFirst_of_output? (named d hd) (unbinned d hd) houtput
  have derived {entry other : String × Computation}
      (hentry : entry ∈ derivedComputations (.of field center extent) center extent)
      (hother : OperatorFirst other.1 other.2) (heq : entry.1 = other.1) :
      OperatorFirst entry.1 entry.2 :=
    (operatorFirst_of_mem_derived hentry).resolve_right
      (not_not_intro (heq ▸ hother.leadingWord_mem))
  rcases List.mem_append.mp h with hfirst | hfirst <;>
    rcases List.mem_append.mp h' with hsecond | hsecond
  · have hfound := Fields.get?_of_mem nodup_derivedComputations hfirst
    rw [same, Fields.get?_of_mem nodup_derivedComputations hsecond] at hfound
    rw [Option.some.inj hfound]
    exact Computation.agrees_refl _
  · exact (derived hfirst (passed hsecond) same).agrees (same ▸ passed hsecond)
  · exact (passed hfirst).agrees (same ▸ derived hsecond (passed hfirst) same.symm)
  · exact (passed hfirst).agrees (same ▸ passed hsecond)

namespace UnitSpec

private theorem computations_before {spec : UnitSpec} {axis : Axis} {axisDef : FieldDef}
    {center : Center} {extent : Extent} :
    let summary := spec.summaryAround axis axisDef center extent
    (summary.binSteps ++ summary.timeUnitSteps).flatMap TransformStep.computations = [] := by
  intro summary
  rw [List.flatMap_eq_nil_iff]
  intro step hstep
  rcases List.mem_append.mp hstep with hbin | hunit
  · obtain ⟨d, -, hown⟩ := List.mem_filterMap.mp hbin
    obtain ⟨-, binning, field, -, -, rfl⟩ := FieldDef.binnedBy_of_binStep? hown
    rfl
  · obtain ⟨d, -, hown⟩ := List.mem_filterMap.mp hunit
    obtain ⟨-, unit, field, -, -, rfl⟩ := FieldDef.cutBy_of_timeUnitStep? hown
    rfl

/-- The steps compute the columns of the summarized field and those of the other definitions. -/
theorem computations_summaryAround {spec : UnitSpec} {axis : Axis} {axisDef : FieldDef}
    {center : Center} {extent : Extent} :
    ((spec.summaryAround axis axisDef center extent).steps.flatMap
      TransformStep.computations).Perm
      (derivedComputations (.of (axisDef.field.getD "") center extent) center extent ++
        passedComputations (spec.fieldsBeside axis)) := by
  rw [steps_summaryAround, List.flatMap_append, List.flatMap_append, computations_before,
    List.nil_append, List.flatMap_singleton, TransformStep.computations, List.map_append,
    derivedComputations, passedComputations, passedOutputs, List.append_assoc, List.append_assoc]
  -- the calculations come last among the steps
  exact List.perm_append_comm.append_left _

/-- **What the name of a computed column tells.**  Let the entries be the definitions beside the
summarized axis, which are named as all of a spec that has been read (`named_of_read`).  The steps
compute columns of the summarized field and columns of entries.  As long as the entries are not
binned, two columns of one name are computed alike.  The names for a summarized field are distinct,
whatever it is called, and no entry takes that of a bound. -/
theorem summary_computations {spec : UnitSpec} (named : spec.Named) {orient : Orient}
    {center : Center} {extent : Extent} {summary : Summary}
    (h : (spec.summary orient center extent).outcome = .ok summary) :
    ∃ axisDef, spec.encoding.get? orient.axis.channel = some (.field axisDef) ∧
      let entries := spec.fieldsBeside orient.axis
      let derived :=
        derivedComputations (.of (axisDef.field.getD "") center extent) center extent
      let unbinned := derived ++ passedComputations (entries.filter fun d => !d.isBinned)
      (summary.steps.flatMap TransformStep.computations).Perm
        (derived ++ passedComputations entries) ∧
      (∀ first ∈ unbinned, ∀ second ∈ unbinned, first.1 = second.1 →
        first.2.Agrees second.2) ∧
      ∀ field center extent, (DerivedNames.of field center extent).columns.Nodup ∧
        ∀ entry ∈ passedComputations entries,
          entry.1 ∉ (DerivedNames.of field center extent).bounds := by
  obtain ⟨axisDef, shown, -, rfl⟩ := summary_eq_ok h
  refine ⟨axisDef, shown, computations_summaryAround, ?_, fun field center extent =>
    ⟨DerivedNames.nodup_columns field center extent,
      fun entry hentry => notMem_bounds_of_passed hentry field center extent⟩⟩
  intro first hfirst second hsecond same
  refine agrees_of_column_eq ?_ ?_ hfirst hsecond same
  · intro d hd
    exact named_of_mem_fieldsBeside named d (List.mem_of_mem_filter hd)
  · intro d hd
    simpa using List.of_mem_filter hd

end UnitSpec

/-- The yield of barley with its own mean among the details, a maximum whose field is called like a
bound, a count, and a mean that is binned as well. -/
private def crowdedNames : Object :=
  [("mark", .str errorBar),
   ("encoding", .obj
     [("y", .obj [("field", .str "b_c"), ("type", .str "quantitative")]),
      ("detail", .arr
        [.obj [("field", .str "b_c"), ("aggregate", .str "mean")],
         .obj [("field", .str "whisker_b_c"), ("aggregate", .str "max")],
         .obj [("aggregate", .str "count")],
         .obj [("field", .str "b_c"), ("aggregate", .str "mean"), ("bin", .bool true)]])])]

/-- The mean is there twice, and both times it is computed alike. -/
theorem crowdedNames_computations :
    ∃ spec summary, UnitSpec.read crowdedNames = .ok spec ∧
      (spec.summary .vertical .mean .stderr).outcome = .ok summary ∧
      (summary.steps.flatMap TransformStep.computations).map Prod.fst =
        ["mean_b_c", "extent_b_c", "mean_b_c", "max_whisker_b_c", "count_*", "bin_maxbins_10_b_c",
          "upper_whisker_b_c", "lower_whisker_b_c"] ∧
      let unbinned := derivedComputations (.of "b_c" .mean .stderr) .mean .stderr ++
        passedComputations ((spec.fieldsBeside .y).filter fun d => !d.isBinned)
      ∀ first ∈ unbinned, ∀ second ∈ unbinned, first.1 = second.1 →
        first.2.Agrees second.2 := by
  obtain ⟨spec, hspec⟩ : ∃ spec, UnitSpec.read crowdedNames = .ok spec := ⟨_, rfl⟩
  obtain ⟨summary, hsummary⟩ :
      ∃ summary, (spec.summary .vertical .mean .stderr).outcome = .ok summary := by
    cases hspec
    exact ⟨_, rfl⟩
  obtain ⟨axisDef, hshown, -, hagrees, -⟩ :=
    UnitSpec.summary_computations (UnitSpec.named_of_read hspec) hsummary
  cases hspec
  cases hsummary
  cases hshown
  exact ⟨_, _, rfl, rfl, rfl, hagrees⟩

end LayeredMarks
