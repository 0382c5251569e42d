import LayeredMarks.Proofs.Absorbed

/-!
# What an expansion reports

An expansion reports what it changes in a spec, in the order in which it comes to it:

```text
dropped channels     one warning each, in the order of the encoding
center and extent    when just one of the median and the interquartile range is used
ignored aggregate    when the summarized axis has an aggregate other than `errorbar`
```

Nothing is reported about a spec that cannot be read, and nothing else about any other.  The warning
about an aggregate shows it.  Where the aggregate has no text the expansion fails instead, but no
spec that has been read from a text has such an aggregate.  Main statement: `expand_warnings`.

## Strategy

A sequence reports what its first stage reports, and what follows if that stage ends well
(`Logged.warnings_bind`).

* **Before the orientation.**  The first two kinds of warnings are reported whether or not an axis
  can be chosen, for no stage before them fails once the spec is read.
* **The orientation.**  `summarizedField_warnings`: where an axis is chosen it shows a field, so its
  aggregate is looked at.
* **After it.**  The later stages are silent (`summaryWithin_warnings`, `expandWithin_warnings`).
  They may fail, but that does not take back what has been reported.
-/

namespace LayeredMarks

/-! ## The ignored aggregate -/

namespace UnitSpec

/-- The aggregate that the summary ignores: that of the summarized axis, unless it is the one that
singles the axis out. -/
def ignoredAggregate? (spec : UnitSpec) : Option Aggregate :=
  match spec.orientation with
  | .ok orient =>
    ((spec.continuousField? orient.axis).bind FieldDef.aggregate).filter fun aggregate =>
      !aggregate.isOp errorBar
  | .error _ => none

/-- The warnings about the ignored aggregate: one, if there is such an aggregate and it can be shown
in a given room. -/
def aggregateWarnings (room : Room) (spec : UnitSpec) : List Diagnostic :=
  match spec.ignoredAggregate? with
  | none => []
  | some aggregate =>
    match aggregate.toJson.writingFault? .message room with
    | none => [.customAggregate aggregate.toJson.shown]
    | some _ => []

section

variable {spec : UnitSpec} {orient : Orient} {d : FieldDef}

/-- **The orientation.**  The axis that is chosen shows a field, whose aggregate is ignored. -/
theorem summarizedField_warnings (chosen : spec.continuousField? orient.axis = some d) :
    (spec.summarizedField orient).warnings = customAggregate d := by
  rw [summarizedField, (continuousField?_eq_some.mp chosen).1]
  rfl

theorem customAggregate_eq (horient : spec.orientation = .ok orient)
    (chosen : spec.continuousField? orient.axis = some d) :
    customAggregate d = (spec.ignoredAggregate?.map fun aggregate =>
      .customAggregate aggregate.toJson.shown).toList := by
  simp only [ignoredAggregate?, horient, chosen, Option.bind_some, customAggregate]
  cases d.aggregate with
  | none => rfl
  | some aggregate => cases hown : aggregate.isOp errorBar <;> simp [Option.filter, hown]

/-- What keeps the aggregate of the chosen axis from being shown is the ignored aggregate. -/
theorem aggregateFault?_eq (horient : spec.orientation = .ok orient)
    (chosen : spec.continuousField? orient.axis = some d) (room : Room) :
    spec.aggregateFault? room orient.axis = spec.ignoredAggregate?.bind fun aggregate =>
      aggregate.toJson.writingFault? .message room := by
  simp only [aggregateFault?, (continuousField?_eq_some.mp chosen).1, ignoredAggregate?, horient,
    chosen, Option.bind_some, ChannelDef.fieldDef?]

/-- The aggregate is shown before it is reported. -/
theorem aggregateWarnings_eq (horient : spec.orientation = .ok orient)
    (chosen : spec.continuousField? orient.axis = some d) (room : Room) :
    spec.aggregateWarnings room =
      if (spec.aggregateFault? room orient.axis).isSome then [] else customAggregate d := by
  rw [aggregateFault?_eq horient chosen, customAggregate_eq horient chosen, aggregateWarnings]
  cases spec.ignoredAggregate? with
  | none => rfl
  | some aggregate =>
      cases hfault : aggregate.toJson.writingFault? .message room <;> simp [hfault]

/-- What comes after the aggregate is silent. -/
theorem summaryWithin_warnings (horient : spec.orientation = .ok orient)
    (chosen : spec.continuousField? orient.axis = some d) (room : Room) (center : Center)
    (extent : Extent) :
    (spec.summaryWithin room orient center extent).warnings =
      spec.aggregateWarnings (room - 2) := by
  rw [summaryWithin, Logged.warnings_bind, Logged.warnings_pass, List.nil_append,
    Logged.outcome_pass, aggregateWarnings_eq horient chosen]
  cases spec.aggregateFault? (room - 2) orient.axis with
  | some fault => rfl
  | none =>
      have hnaming (axisDef : FieldDef) :
          (do
            Logged.pass ((spec.namingFault? (room - 2) orient.axis).map .unshown)
            Logged.ofChecked (spec.summaryOf orient.axis axisDef center extent)).warnings = [] := by
        rw [Logged.warnings_bind_of_silent, Logged.warnings_pass]
        exact fun _ => Logged.warnings_ofChecked _
      exact (Logged.warnings_bind_of_silent _ hnaming).trans (summarizedField_warnings chosen)

end

/-- Where there is an ignored aggregate, an axis has been chosen. -/
theorem exists_chosen_of_ignored {spec : UnitSpec} {aggregate : Aggregate}
    (h : spec.ignoredAggregate? = some aggregate) :
    spec.hasNoContinuousAxis = false ∧ spec.summarizesBoth = false ∧
      ∃ orient d, spec.orientation = .ok orient ∧ spec.continuousField? orient.axis = some d := by
  rcases spec.orientation_cases with ⟨-, herror⟩ | ⟨-, -, herror⟩ | hchosen
  · simp [ignoredAggregate?, herror] at h
  · simp [ignoredAggregate?, herror] at h
  · exact hchosen

theorem aggregateWarnings_onlySupported (spec : UnitSpec) (room : Room) :
    spec.onlySupported.aggregateWarnings room = spec.aggregateWarnings room := by
  simp only [aggregateWarnings, ignoredAggregate?, orientation_onlySupported,
    continuousField?_onlySupported]

/-! ## The stages in order -/

theorem expandedSummaryWithin_warnings (room : Room) (spec : UnitSpec) (settings : Settings) :
    (spec.expandedSummaryWithin room settings).warnings =
      spec.droppedChannels ++
        unusualPair (spec.mark.resolve settings).1 (spec.mark.resolve settings).2 ++
        spec.aggregateWarnings (room - 2) := by
  simp only [expandedSummaryWithin, expandedBy, Logged.warnings_bind, Logged.warnings_warn,
    Logged.outcome_warn, orientation_onlySupported, List.append_assoc]
  congr 2
  rcases spec.orientation_cases with ⟨-, herror⟩ | ⟨-, -, herror⟩ | ⟨-, -, orient, d, horient, hd⟩
  · simp [aggregateWarnings, ignoredAggregate?, herror, Logged.ofOrientation, Logged.fail]
  · simp [aggregateWarnings, ignoredAggregate?, herror, Logged.ofOrientation, Logged.fail]
  · rw [← continuousField?_onlySupported] at hd
    rw [← aggregateWarnings_onlySupported]
    simp only [horient, Logged.ofOrientation, Logged.warnings_pure, Logged.outcome_pure,
      List.nil_append]
    rw [← orientation_onlySupported] at horient
    exact summaryWithin_warnings horient hd room _ _

/-- **After the orientation.**  Nothing more is reported, whether or not the stages fail. -/
theorem expandWithin_warnings (room : Room) (spec : UnitSpec) (settings : Settings) :
    (spec.expandWithin room settings).warnings =
      (spec.expandedSummaryWithin room settings).warnings := by
  apply Logged.warnings_bind_of_silent
  intro summary
  rw [Logged.warnings_bind_of_silent, Logged.warnings_require]
  intro _
  rw [Logged.warnings_bind_of_silent]
  · rfl
  · intro own
    rw [Logged.warnings_bind_of_silent, Logged.warnings_require]
    exact fun _ => rfl

/-- An aggregate that cannot be shown ends the expansion. -/
theorem expandWithin_of_unshown {room : Room} {spec : UnitSpec} (named : spec.Named)
    {aggregate : Aggregate} (ignored : spec.ignoredAggregate? = some aggregate)
    {fault : Json.WritingFault}
    (unshown : aggregate.toJson.writingFault? .message (room - 2) = some fault)
    (settings : Settings) :
    (spec.expandWithin room settings).outcome = .error (.unshown fault) := by
  obtain ⟨hsome, hboth, orient, d, horient, hd⟩ := exists_chosen_of_ignored ignored
  have hfault : spec.summaryFault? (room - 2) = some fault := by
    have haggregate := aggregateFault?_eq horient hd (room - 2)
    rw [ignored, Option.bind_some, unshown] at haggregate
    have hsupported : spec.onlySupported.aggregateFault? (room - 2) orient.axis = some fault := by
      rw [aggregateFault?, get?_onlySupported, ← haggregate, aggregateFault?]
    rw [summaryFault?, horient]
    simp only [hsupported]
    rfl
  have hending := expandWithin_ending named room settings
  simpa only [hsome, hboth, hfault, Bool.false_eq_true, if_false] using hending

/-- The encoding of a spec lists the channels of its object. -/
theorem keys_encoding_of_read {fields : Object} {spec : UnitSpec}
    (h : UnitSpec.read fields = .ok spec) : (channelsOf fields).keys = spec.encoding.keys := by
  refine Checked.each_map ?_ (readChannels_channelsOf h)
  intro entry pair hpair
  obtain ⟨channel, -, rfl⟩ := Checked.map_eq_ok.mp hpair
  rfl

theorem eq_of_mem_aggregateWarnings {room : Room} {spec : UnitSpec} {warning : Diagnostic}
    (h : warning ∈ spec.aggregateWarnings room) :
    ∃ aggregate : Aggregate, warning = .customAggregate aggregate.toJson.shown := by
  unfold aggregateWarnings at h
  split at h
  · cases h
  · split at h
    · exact ⟨_, List.mem_singleton.mp h⟩
    · cases h

end UnitSpec

theorem expandErrorBarWithin_warnings_of_error {room : Room} {fields : Object} {failure : Failure}
    (h : (UnitSpec.readWithin (room - 1) fields).outcome = .error failure) (settings : Settings) :
    (expandErrorBarWithin room fields settings).warnings = [] := by
  have hsilent : (UnitSpec.readWithin (room - 1) fields).warnings = [] := by
    rw [UnitSpec.readWithin, Logged.warnings_bind_of_silent, Logged.warnings_pass]
    exact fun _ => Logged.warnings_ofChecked _
  rw [expandErrorBarWithin, Logged.bind_of_error h, hsilent]

/-- A median that goes with its own extent is never reported. -/
theorem MarkDef.resolve_of_median {mark : MarkDef} {settings : Settings} (own : mark.extent = none)
    (median : (mark.resolve settings).1 = .median) : (mark.resolve settings).2 = .iqr := by
  have hcenter : mark.center.getD settings.center = .median := median
  simp [MarkDef.resolve, own, hcenter]

theorem unusualPair_eq (center : Center) (extent : Extent) :
    unusualPair center extent =
      if decide (center = .median) = decide (extent = .iqr) then []
      else [.unusualPair (Vocabulary.word center) (Vocabulary.word extent)] := by
  cases center <;> cases extent <;> rfl

/-- No part that is drawn goes by a wrong name. -/
theorem Part.primitiveOf_name (part : Part) :
    Part.primitiveOf (.str part.name) = ([], part.primitive) := by
  cases part <;> rfl

/-! ## The expansion -/

/-- **What an expansion reports.**  Nothing if the spec cannot be read.  Otherwise, and whatever
fails later: one warning for each channel that is dropped, one when just one of the median and the
interquartile range is used, and one for the aggregate that the summary ignores, in this order.  An
aggregate that cannot be shown ends the expansion in place of its warning; no spec that has been
read from a text has one.  No part is ever looked up under a wrong name. -/
theorem expand_warnings (room : Room) (fields : Object) (settings : Settings) :
    let reading := (UnitSpec.readWithin (room - 1) fields).outcome
    let expansion := expandErrorBarWithin room fields settings
    (∀ failure, reading = .error failure → expansion.warnings = []) ∧
    (∀ spec, reading = .ok spec →
      let center := (spec.mark.resolve settings).1
      let extent := (spec.mark.resolve settings).2
      expansion.warnings =
        ((channelsOf fields).keys.filter (· ∉ UnitSpec.supportedChannels)).map
            (Diagnostic.droppedChannel · errorBar none) ++
          (if decide (center = .median) = decide (extent = .iqr) then []
            else [.unusualPair (Vocabulary.word center) (Vocabulary.word extent)]) ++
          (match spec.ignoredAggregate? with
            | none => []
            | some aggregate =>
              match aggregate.toJson.writingFault? .message (room - 3) with
              | none => [.customAggregate aggregate.toJson.shown]
              | some _ => []) ∧
      (spec.mark.extent = none → center = .median → extent = .iqr) ∧
      ∀ aggregate fault, spec.ignoredAggregate? = some aggregate →
        aggregate.toJson.writingFault? .message (room - 3) = some fault →
        expansion.outcome = .error (.unshown fault) ∧
          ∀ text, Json.read room text ≠ .ok (.obj fields)) ∧
    (∀ name, Diagnostic.unknownPart name ∉ expansion.warnings) ∧
    ∀ part : Part, Part.primitiveOf (.str part.name) = ([], part.primitive) := by
  have hread (spec : UnitSpec)
      (h : (UnitSpec.readWithin (room - 1) fields).outcome = .ok spec) :
      (expandErrorBarWithin room fields settings).warnings =
        spec.droppedChannels ++
          unusualPair (spec.mark.resolve settings).1 (spec.mark.resolve settings).2 ++
          spec.aggregateWarnings (room - 3) := by
    have hroom : room - 1 - 2 = room - 3 := Nat.sub_sub room 1 2
    rw [expandErrorBarWithin_of_read h, UnitSpec.expandWithin_warnings,
      UnitSpec.expandedSummaryWithin_warnings, hroom]
  refine ⟨fun failure h => expandErrorBarWithin_warnings_of_error h settings, ?_, ?_,
    Part.primitiveOf_name⟩
  · intro spec h
    have hfields := (UnitSpec.readWithin_eq_ok.mp h).2
    have hkeys := UnitSpec.keys_encoding_of_read hfields
    refine ⟨?_, MarkDef.resolve_of_median, fun aggregate fault hignored hfault => ⟨?_, ?_⟩⟩
    · rw [hread spec h, UnitSpec.droppedChannels, ← hkeys, unusualPair_eq]
      rfl
    · rw [expandErrorBarWithin_of_read h]
      exact UnitSpec.expandWithin_of_unshown (UnitSpec.named_of_read hfields) hignored
        (by rwa [Nat.sub_sub]) settings
    · intro text htext
      obtain ⟨-, -, orient, d, horient, hd⟩ := UnitSpec.exists_chosen_of_ignored hignored
      have hshown := UnitSpec.isShown_of_text htext hfields
      have hnone := hshown.aggregateFault?_eq_none
        (Nat.sub_le_sub_left (by decide : 3 ≤ 6) room) orient.axis
      rw [UnitSpec.aggregateFault?_eq horient hd, hignored, Option.bind_some, hfault] at hnone
      cases hnone
  · intro name hmem
    cases h : (UnitSpec.readWithin (room - 1) fields).outcome with
    | error failure => simp [expandErrorBarWithin_warnings_of_error h settings] at hmem
    | ok spec =>
        rw [hread spec h, List.mem_append, List.mem_append] at hmem
        rcases hmem with (hdropped | hpair) | hignored
        · simp [UnitSpec.droppedChannels] at hdropped
        · rw [unusualPair] at hpair
          split at hpair <;> simp at hpair
        · obtain ⟨aggregate, hreported⟩ := UnitSpec.eq_of_mem_aggregateWarnings hignored
          cases hreported

/-- The median yield of barley by variety, between the bounds of a confidence interval, with two
channels that are not drawn and a transform that is none. -/
private def overloadedYield : Object :=
  [("mark", .obj [("type", .str errorBar), ("center", .str "median"), ("extent", .str "ci")]),
   ("transform", .bool true),
   ("encoding", .obj
     [("shape", .obj [("field", .str "site"), ("type", .str "nominal")]),
      ("x", .obj [("field", .str "yield"), ("type", .str "quantitative"),
        ("aggregate", .str "sum")]),
      ("y", .obj [("field", .str "variety"), ("type", .str "nominal")]),
      ("tooltip", .null)])]

theorem overloadedYield_warnings :
    (expandErrorBarWithin .direct overloadedYield .default).outcome =
        .error (.transformNotIterable (.bool true)) ∧
      (expandErrorBarWithin .direct overloadedYield .default).warnings =
        [.droppedChannel "shape" errorBar none, .droppedChannel "tooltip" errorBar none,
         .unusualPair "median" "ci", .customAggregate "sum"] := by
  obtain ⟨spec, hspec, hresolve, hignored⟩ :
      ∃ spec, (UnitSpec.readWithin (.direct - 1) overloadedYield).outcome = .ok spec ∧
        spec.mark.resolve .default = (.median, .ci) ∧
        spec.ignoredAggregate? = some (.op "sum") :=
    ⟨_, rfl, rfl, rfl⟩
  obtain ⟨-, hwarnings, -, -⟩ := expand_warnings .direct overloadedYield .default
  refine ⟨rfl, ?_⟩
  rw [(hwarnings spec hspec).1, hresolve, hignored]
  rfl

end LayeredMarks
