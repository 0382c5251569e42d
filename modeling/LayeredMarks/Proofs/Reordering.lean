import LayeredMarks.Proofs.Warnings

/-!
# The order of the channels

An encoding is an object, so the order of its channels should not matter to an expansion.  But the
walk over the channels goes from one to the next and appends what it finds to lists.  This file
proves that nothing depends on the order except for the order of

* the warnings about dropped channels,
* the bin steps, the time unit steps and the group keys of the summary,
* the outputs of the aggregate step behind those from which the error bar is drawn,
* the values that have no text where a name has to show them, of which the first is reported.

Main statement: `expand_reordered`.

## Strategy

* **Reading.**  Channels are read one by one, so they are read in any order once they all have been
  (`Checked.each_perm`).  A channel that is read is not refused on the way, and it is the same
  channels that need room (`readWithin_reordered`).
* **The orientation.**  An axis is found by its name.
* **Names.**  Each order meets the same values that cannot be shown, if there are any; the first of
  them is its failure (`isSome_summaryFault?_reordered`).
* **The summary.**  What a channel contributes depends on that channel alone, hence the entries
  beside the axis are the same in another order: `pipeline_sameUpToOrder`.
* **Layers.**  No two channels of a layer have the same name, so that none of them is written over
  another; that leaves the same channels in another order (`encoding_perm`).
-/

namespace LayeredMarks

/-! ## Reading in another order -/

namespace Descent

theorem andThen_ne_refused {first next : Descent} (hfirst : first ≠ .refused)
    (hnext : next ≠ .refused) : first.andThen next ≠ .refused := by
  cases first with
  | complete => exact hnext
  | refused => exact absurd rfl hfirst
  | broken failure => exact hfirst

theorem passing_ne_refused (obstacle : Option Failure) : passing obstacle ≠ .refused := by
  cases obstacle <;> simp [passing]

theorem eq_complete {descent : Descent} (hrefused : descent ≠ .refused)
    (hbroken : descent.failure? = none) : descent = .complete := by
  cases descent with
  | complete => rfl
  | refused => exact absurd rfl hrefused
  | broken failure => cases hbroken

end Descent

namespace ChannelDef

theorem descentOfItems_eq_complete {room : Room} {items : List Json} :
    descentOfItems room items = .complete ↔ ∀ item ∈ items, descent room item = .complete := by
  induction items with
  | nil => simp [descentOfItems]
  | cons item rest ih => simp [descentOfItems, Descent.andThen_eq_complete, ih]

mutual

/-- A definition that has no issues is not refused on the way to its items. -/
theorem descent_ne_refused {value : Json} {channel : ChannelDef} (h : read value = .ok channel)
    (room : Room) : descent room value ≠ .refused := by
  cases value with
  | obj fields =>
      rw [read] at h
      rw [descent, descentOfObject, h]
      exact Descent.andThen_ne_refused (Descent.passing_ne_refused _)
        (Descent.andThen_ne_refused (Descent.passing_ne_refused _) (by simp [Descent.ofChecked]))
  | arr items =>
      rw [read] at h
      obtain ⟨channels, hitems, -⟩ := Checked.map_eq_ok.mp h
      rw [descent]
      exact Descent.andThen_ne_refused (Descent.passing_ne_refused _)
        (descentOfItems_ne_refused hitems (room - 2))
  | _ => exact Descent.passing_ne_refused _

theorem descentOfItems_ne_refused {items : List Json} {channels : List ChannelDef}
    (h : readItems items = .ok channels) (room : Room) : descentOfItems room items ≠ .refused := by
  cases items with
  | nil => simp [descentOfItems]
  | cons item rest =>
      rw [readItems] at h
      obtain ⟨first, hfirst, htail⟩ := Checked.andThen_eq_ok.mp h
      obtain ⟨others, hrest, -⟩ := Checked.map_eq_ok.mp htail
      rw [descentOfItems]
      exact Descent.andThen_ne_refused (descent_ne_refused hfirst room)
        (descentOfItems_ne_refused hrest room)

end

/-- Channels that are read find room in one order if they do in another. -/
theorem descentOfItems_perm {items others : List Json} (perm : items.Perm others)
    {channels : List ChannelDef} (h : readItems items = .ok channels) {room : Room}
    (fits : (descentOfItems room items).failure? = none) :
    descentOfItems room others = .complete := by
  have hcomplete : descentOfItems room items = .complete :=
    Descent.eq_complete (descentOfItems_ne_refused h room) fits
  rw [descentOfItems_eq_complete] at hcomplete ⊢
  exact fun item hitem => hcomplete item (perm.mem_iff.mpr hitem)

end ChannelDef

namespace UnitSpec

theorem readItems_of_readChannels {channels : Object} {encoding : Encoding}
    (h : readChannels channels = .ok encoding) :
    ChannelDef.readItems (channels.map Prod.snd) = .ok (encoding.map Prod.snd) := by
  rw [ChannelDef.readItems_eq_each, Checked.each_eq_ok, List.map_map, List.map_map]
  refine Checked.each_map ?_ h
  intro entry pair hpair
  obtain ⟨channel, hchannel, rfl⟩ := Checked.map_eq_ok.mp hpair
  exact hchannel

/-- **Reading.**  A spec that is read is read with its channels in any other order, and only their
order is different then. -/
theorem readWithin_reordered {room : Room} {fields channels : Object} {spec : UnitSpec}
    (perm : (channelsOf fields).Perm channels)
    (h : (UnitSpec.readWithin room fields).outcome = .ok spec) :
    ∃ encoding : Encoding, spec.encoding.Perm encoding ∧
      (UnitSpec.readWithin room (fields.put "encoding" (.obj channels))).outcome =
        .ok { spec with encoding } := by
  obtain ⟨hfits, hread⟩ := UnitSpec.readWithin_eq_ok.mp h
  have hown := readChannels_channelsOf hread
  obtain ⟨encoding, hchannels, hperm⟩ := Checked.each_perm perm hown
  refine ⟨encoding, hperm, UnitSpec.readWithin_eq_ok.mpr ⟨?_, ?_⟩⟩
  · -- every channel is complete, so no order of them needs more room
    simp only [obstacle?, Option.orElse_eq_orElse, Option.orElse_eq_or,
      Option.or_eq_none_iff] at hfits ⊢
    have hdescent : (ChannelDef.descentOfItems (room - 4)
        ((channelsOf fields).map Prod.snd)).failure? = none := by
      unfold channelsOf
      split
      · rename_i own hvalue
        simpa [descentOfChannels, hvalue] using hfits.2
      · rfl
    have hcomplete := ChannelDef.descentOfItems_perm (perm.map Prod.snd)
      (readItems_of_readChannels hown) hdescent
    rw [Fields.get?_put_of_ne _ _ (by decide), Fields.get?_put_self]
    exact ⟨hfits.1, by rw [Option.getD_some, descentOfChannels, hcomplete]; rfl⟩
  · obtain ⟨hmark, -, hselection, hprojection, houter⟩ := UnitSpec.read_eq_ok.mp hread
    have hother {key : String} (hne : key ≠ "encoding") :
        (fields.put "encoding" (.obj channels)).get? key = fields.get? key :=
      Fields.get?_put_of_ne _ _ hne
    refine UnitSpec.read_eq_ok.mpr ⟨?_, ?_, ?_, ?_, ?_⟩
    · obtain ⟨value, hvalue, hmarked⟩ := Reading.required_eq_ok.mp hmark
      exact Reading.required_eq_ok.mpr ⟨value, (hother (by decide)).trans hvalue, hmarked⟩
    · rw [Reading.withDefault, Fields.get?_put_self]
      exact Checked.under_eq_ok.mpr hchannels
    · rw [hother (by decide)]
      exact hselection
    · rw [hother (by decide)]
      exact hprojection
    · refine Eq.trans ?_ houter
      exact Fields.filter_put_of_false (p := fun name => decide (name ∉ absorbedNames)) _ _
        (by decide)

end UnitSpec

/-! ## The orientation -/

namespace UnitSpec

variable {spec : UnitSpec} {encoding : Encoding}

theorem continuousField?_reordered (perm : spec.encoding.Perm encoding)
    (distinct : spec.encoding.keys.Nodup) (axis : Axis) :
    { spec with encoding }.continuousField? axis = spec.continuousField? axis := by
  rw [continuousField?, ← Fields.get?_of_perm perm distinct, continuousField?]

/-- **The orientation.**  It is chosen by what is found under the names of the axes. -/
theorem orientation_reordered (perm : spec.encoding.Perm encoding)
    (distinct : spec.encoding.keys.Nodup) :
    { spec with encoding }.orientation = spec.orientation := by
  unfold orientation
  rw [continuousField?_reordered perm distinct, continuousField?_reordered perm distinct]

theorem ignoredAggregate?_reordered (perm : spec.encoding.Perm encoding)
    (distinct : spec.encoding.keys.Nodup) :
    { spec with encoding }.ignoredAggregate? = spec.ignoredAggregate? := by
  unfold ignoredAggregate?
  rw [orientation_reordered perm distinct]
  cases spec.orientation with
  | error failure => rfl
  | ok orient => simp only [continuousField?_reordered perm distinct]

theorem encoding_onlySupported_reordered (perm : spec.encoding.Perm encoding) :
    spec.onlySupported.encoding.Perm { spec with encoding }.onlySupported.encoding :=
  perm.filter _

end UnitSpec

/-! ## What cannot be shown -/

/-- A value cannot be shown for one of two reasons. -/
theorem Json.fault_of_shown {room : Room} {value : Json} {fault : WritingFault}
    (h : value.writingFault? .message room = some fault) :
    fault = .integerTooLong ∨ fault = .shownTooDeep := by
  induction room generalizing value with
  | zero =>
      rw [writingFault?] at h
      exact Or.inr (Option.some.inj h).symm
  | succ room ih =>
      cases value with
      | int n =>
          rw [writingFault?] at h
          split at h
          · exact Or.inl (Option.some.inj h).symm
          · cases h
      | arr items =>
          rw [writingFault?, writingFaultOfItems?_eq] at h
          obtain ⟨item, -, hitem⟩ := List.exists_of_findSome?_eq_some h
          exact ih hitem
      | obj fields =>
          rw [writingFault?, writingFaultOfFields?_eq] at h
          obtain ⟨entry, -, hentry⟩ := List.exists_of_findSome?_eq_some h
          exact ih hentry
      | _ => cases h

theorem FieldDef.fault_of_naming {room : Room} {d : FieldDef} {fault : Json.WritingFault}
    (h : d.namingFault? room = some fault) : fault = .integerTooLong ∨ fault = .shownTooDeep := by
  unfold namingFault? at h
  split at h
  · cases h
  · split at h
    · unfold Binning.labelFault? at h
      split at h
      · cases h
      · obtain ⟨entry, -, hentry⟩ := List.exists_of_findSome?_eq_some h
        exact Json.fault_of_shown hentry
    · obtain ⟨aggregate, -, haggregate⟩ := Option.bind_eq_some_iff.mp h
      exact Json.fault_of_shown haggregate

namespace UnitSpec

variable {spec : UnitSpec} {encoding : Encoding}

theorem fault_of_aggregate {room : Room} {axis : Axis} {fault : Json.WritingFault}
    (h : spec.aggregateFault? room axis = some fault) :
    fault = .integerTooLong ∨ fault = .shownTooDeep := by
  obtain ⟨d, -, hd⟩ := Option.bind_eq_some_iff.mp h
  obtain ⟨aggregate, -, haggregate⟩ := Option.bind_eq_some_iff.mp hd
  exact Json.fault_of_shown haggregate

theorem fault_of_summary (named : spec.Named) {room : Room} {fault : Json.WritingFault}
    (h : spec.summaryFault? room = some fault) :
    fault = .integerTooLong ∨ fault = .shownTooDeep := by
  unfold summaryFault? at h
  split at h
  · rename_i orient _
    simp only [Option.orElse_eq_orElse, Option.orElse_eq_or, Option.or_eq_some_iff] at h
    rcases h with haggregate | ⟨-, hnaming⟩
    · exact fault_of_aggregate haggregate
    · rw [namingFault?_of_sourced
        (hasSource_of_mem_fieldsBeside (named_onlySupported named) orient.axis)] at hnaming
      obtain ⟨entry, -, hentry⟩ := List.exists_of_findSome?_eq_some hnaming
      exact FieldDef.fault_of_naming hentry
  · cases h

/-- **Names.**  Something cannot be shown in one order of the channels if and only if something
cannot be shown in another.  It need not be the same, for the first that cannot be shown counts. -/
theorem isSome_summaryFault?_reordered (named : spec.Named) (perm : spec.encoding.Perm encoding)
    (distinct : spec.encoding.keys.Nodup) (room : Room) :
    ({ spec with encoding }.summaryFault? room).isSome = (spec.summaryFault? room).isSome := by
  have named' : { spec with encoding }.Named :=
    fun entry hentry => named entry (perm.mem_iff.mpr hentry)
  unfold summaryFault?
  rw [orientation_reordered perm distinct]
  cases spec.orientation with
  | error failure => rfl
  | ok orient =>
      have haggregate : { spec with encoding }.onlySupported.aggregateFault? room orient.axis =
          spec.onlySupported.aggregateFault? room orient.axis := by
        rw [aggregateFault?, get?_onlySupported, ← Fields.get?_of_perm perm distinct,
          aggregateFault?, get?_onlySupported]
      have hentries : (spec.onlySupported.fieldsBesideWithin room orient.axis).Perm
          ({ spec with encoding }.onlySupported.fieldsBesideWithin room orient.axis) :=
        ((perm.filter _).filter _).flatMap_right _
      dsimp only
      rw [haggregate,
        namingFault?_of_sourced
          (hasSource_of_mem_fieldsBeside (named_onlySupported named') orient.axis),
        namingFault?_of_sourced
          (hasSource_of_mem_fieldsBeside (named_onlySupported named) orient.axis)]
      simp only [Option.orElse_eq_orElse, Option.orElse_eq_or, Option.isSome_or,
        List.isSome_findSome?]
      rw [Bool.eq_iff_iff]
      simp only [Bool.or_eq_true, List.any_eq_true, hentries.mem_iff]

end UnitSpec

/-! ## The summary -/

/-- Two pipelines that differ only in the order of the bin steps, of the time unit steps, of the
group keys, and of the outputs behind the derived ones. -/
structure Pipeline.SameUpToOrder (derived : List AggregateOutput) (first second : Pipeline) :
    Prop where
  before : ∃ bins timeUnits bins' timeUnits',
    first.before = bins ++ timeUnits ∧ second.before = bins' ++ timeUnits' ∧
    (∀ step ∈ bins, ∃ d : FieldDef, d.BinnedBy step) ∧
    (∀ step ∈ timeUnits, ∃ d : FieldDef, d.CutBy step) ∧
    bins.Perm bins' ∧ timeUnits.Perm timeUnits'
  outputs : ∃ passed passed', first.outputs = derived ++ passed ∧
    second.outputs = derived ++ passed' ∧ passed.Perm passed'
  groupby : first.groupby.Perm second.groupby
  after : first.after = second.after

/-- Two summaries that differ only in the order in which the channels beside the axis are taken up.
-/
structure Summary.SameUpToOrder (derived : List AggregateOutput) (first second : Summary) :
    Prop where
  axis : first.axis = second.axis
  axisDef : first.axisDef = second.axisDef
  names : first.names = second.names
  pipeline : first.pipeline.SameUpToOrder derived second.pipeline
  channels : first.channels.Perm second.channels

namespace UnitSpec

variable {spec other : UnitSpec}

theorem fieldsBeside_perm (perm : spec.encoding.Perm other.encoding) (axis : Axis) :
    (spec.fieldsBeside axis).Perm (other.fieldsBeside axis) :=
  (perm.filter _).flatMap_right _

/-- **The summary.**  The entries beside the axis are the same in another order, and each makes its
own contributions. -/
theorem pipeline_sameUpToOrder (perm : spec.encoding.Perm other.encoding) (axis : Axis)
    (axisDef : FieldDef) (center : Center) (extent : Extent) :
    (spec.summaryAround axis axisDef center extent).pipeline.SameUpToOrder
      (derivedEntries (.of (axisDef.field.getD "") center extent) center extent)
      (other.summaryAround axis axisDef center extent).pipeline := by
  have entries := fieldsBeside_perm perm axis
  refine ⟨?_, ?_, (entries.filter _).map _, rfl⟩
  · refine ⟨_, _, _, _, rfl, rfl, ?_, ?_, entries.filterMap _, entries.filterMap _⟩
    · intro step hstep
      obtain ⟨d, -, hd⟩ := List.mem_filterMap.mp hstep
      exact ⟨d, (FieldDef.binnedBy_of_binStep? hd).2⟩
    · intro step hstep
      obtain ⟨d, -, hd⟩ := List.mem_filterMap.mp hstep
      exact ⟨d, (FieldDef.cutBy_of_timeUnitStep? hd).2⟩
  · -- the derived outputs come first whatever the order of the entries
    rw [← derivedOutputs_eq]
    exact ⟨_, _, rfl, rfl, entries.filterMap _⟩

theorem sameUpToOrder_summaryAround (perm : spec.encoding.Perm other.encoding) (axis : Axis)
    (axisDef : FieldDef) (center : Center) (extent : Extent) :
    Summary.SameUpToOrder
      (derivedEntries (.of (axisDef.field.getD "") center extent) center extent)
      (spec.summaryAround axis axisDef center extent)
      (other.summaryAround axis axisDef center extent) where
  axis := rfl
  axisDef := rfl
  names := rfl
  pipeline := pipeline_sameUpToOrder perm axis axisDef center extent
  channels := (perm.filter _).map _

end UnitSpec

/-! ## Layers -/

theorem Json.copyStepsOfFields_perm {fields others : Object} (perm : fields.Perm others) :
    copyStepsOfFields fields = copyStepsOfFields others := by
  induction perm with
  | nil => rfl
  | cons entry _ ih => simp [copyStepsOfFields, ih]
  | swap first second rest => simp [copyStepsOfFields, Nat.max_left_comm]
  | trans _ _ ih₁ ih₂ => exact ih₁.trans ih₂

/-- The two layers are the same object: they have the same mark, and the same channels, each name
standing for one. -/
def SameLayer (layer other : Object) : Prop :=
  ∃ (mark : Json) (encoding encoding' : Object),
    layer = [("mark", mark), ("encoding", .obj encoding)] ∧
    other = [("mark", mark), ("encoding", .obj encoding')] ∧
    encoding.keys.Nodup ∧ encoding.Perm encoding'

namespace Summary

/-- The channels of the summary have distinct names, and none that is used along its axis. -/
structure Unambiguous (summary : Summary) : Prop where
  distinct : summary.channels.keys.Nodup
  fresh : ∀ name ∈ summary.channels.keys,
    name ≠ summary.axis.channel ∧ name ≠ summary.axis.secondary

variable {derived : List AggregateOutput} {first second : Summary}

theorem keys_along (summary : Summary) (part : Part) (column : Option String) :
    (summary.along part column).keys.Sublist [summary.axis.channel, summary.axis.secondary] := by
  unfold along
  split
  · exact (List.nil_sublist _).cons_cons _
  · exact List.Sublist.refl _

theorem Unambiguous.encoding_eq (clear : first.Unambiguous) (part : Part)
    (column : Option String) :
    first.encoding part column = first.along part column ++ first.beside := by
  refine Fields.merge_eq_append ?_ ?_
  · exact Fields.nodup_keys_filter _ clear.distinct
  · intro name hname halong
    obtain ⟨entry, hentry, rfl⟩ := List.mem_map.mp hname
    have hmem : entry.1 ∈ first.channels.keys :=
      List.mem_map_of_mem (List.mem_of_mem_filter hentry)
    obtain ⟨hchannel, hsecondary⟩ := clear.fresh _ hmem
    have hcases := (first.keys_along part column).subset halong
    simp [hchannel, hsecondary] at hcases

theorem distinct_encoding (summary : Summary) (part : Part) (column : Option String) :
    (summary.encoding part column).keys.Nodup := by
  refine Fields.nodup_keys_merge _ (List.Nodup.sublist (summary.keys_along part column) ?_)
  cases summary.axis <;> decide

theorem Unambiguous.of_sameUpToOrder (clear : first.Unambiguous)
    (same : first.SameUpToOrder derived second) : second.Unambiguous := by
  have names := same.channels.map Prod.fst
  refine ⟨names.nodup_iff.mp clear.distinct, fun name hname => ?_⟩
  rw [← same.axis]
  exact clear.fresh name (names.mem_iff.mpr hname)

theorem along_eq_of_sameUpToOrder (same : first.SameUpToOrder derived second) (part : Part)
    (column : Option String) : first.along part column = second.along part column := by
  unfold along reading position
  rw [same.axis, same.axisDef, same.names]

/-- **Layers.**  The channels along the axis come first, those beside it in their order. -/
theorem encoding_perm (clear : first.Unambiguous) (same : first.SameUpToOrder derived second)
    (part : Part) (column : Option String) :
    (first.encoding part column).Perm (second.encoding part column) := by
  rw [clear.encoding_eq, (clear.of_sameUpToOrder same).encoding_eq,
    along_eq_of_sameUpToOrder same]
  exact (same.channels.filter _).append_left _

theorem layersFit_of_sameUpToOrder (clear : first.Unambiguous)
    (same : first.SameUpToOrder derived second) (room : Room) :
    second.layersFit room = first.layersFit room := by
  rw [layersFit, Json.copySteps, ← Json.copyStepsOfFields_perm (encoding_perm clear same _ _),
    layersFit, Json.copySteps]

theorem layers_of_sameUpToOrder (clear : first.Unambiguous)
    (same : first.SameUpToOrder derived second) (mark : MarkDef) (settings : Settings) :
    List.Forall₂ SameLayer (first.layers mark settings) (second.layers mark settings) := by
  have hslots : List.Forall₂ Eq first.slots second.slots := by
    rw [List.forall₂_eq_eq_eq, slots, slots, same.names]
  refine List.rel_filterMap ?_ hslots
  rintro ⟨part, column⟩ _ rfl
  show Option.Rel SameLayer (first.layer? mark settings part column)
    (second.layer? mark settings part column)
  rw [layer?_eq, layer?_eq]
  split
  · exact Option.Rel.some ⟨_, _, _, rfl, rfl, first.distinct_encoding part column,
      encoding_perm clear same part column⟩
  · exact Option.Rel.none

end Summary

namespace UnitSpec

variable {spec : UnitSpec}

/-- The channels beside the axis keep the names of the spec, which are none of those along it. -/
theorem unambiguous_summaryAround (distinct : spec.encoding.keys.Nodup) (axis : Axis)
    (axisDef : FieldDef) (center : Center) (extent : Extent) :
    (spec.onlySupported.summaryAround axis axisDef center extent).Unambiguous := by
  have hkeys : (spec.onlySupported.summaryAround axis axisDef center extent).channels.keys =
      (spec.onlySupported.channelsBeside axis).keys := by
    simp [summaryAround, Fields.keys]
  refine ⟨?_, fun name hname => ?_⟩
  · rw [hkeys]
    exact Fields.nodup_keys_filter _ (Fields.nodup_keys_filter _ distinct)
  · rw [hkeys] at hname
    obtain ⟨entry, hentry, rfl⟩ := List.mem_map.mp hname
    obtain ⟨hown, hchannel⟩ := List.mem_filter.mp hentry
    have hsupported : entry.1 ∈ supportedChannels := by simpa using (List.mem_filter.mp hown).2
    have hne : entry.1 ≠ axis.channel := by simpa using hchannel
    refine ⟨hne, ?_⟩
    rintro heq
    exact axis.secondary_notMem_supported (heq ▸ hsupported)

end UnitSpec

/-! ## The expansion -/

/-- Two results that differ only in the order of channels: everything but the transform and the
layers is the same, the steps of the transform are the spec's own and those of pipelines that differ
only in their order, and the layers are the same in the same order. -/
def SameUpToOrder (derived : List AggregateOutput) (result other : Object) : Prop :=
  ∃ (outer : Object) (own : List Json) (pipeline pipeline' : Pipeline)
    (layers layers' : List Object),
    result = (outer.put "transform" (.arr
      (own ++ pipeline.steps.map fun step => .obj step.toObject))).put "layer"
        (.arr (layers.map .obj)) ∧
    other = (outer.put "transform" (.arr
      (own ++ pipeline'.steps.map fun step => .obj step.toObject))).put "layer"
        (.arr (layers'.map .obj)) ∧
    pipeline.SameUpToOrder derived pipeline' ∧ List.Forall₂ SameLayer layers layers'

/-- Two faults of values that cannot be shown: one is too long, and the other is nested too deep. -/
inductive IsOtherFault : Json.WritingFault → Json.WritingFault → Prop where
  | deepAfterLong : IsOtherFault .integerTooLong .shownTooDeep
  | longAfterDeep : IsOtherFault .shownTooDeep .integerTooLong

theorem IsOtherFault.of_ne {fault fault' : Json.WritingFault}
    (h : fault = .integerTooLong ∨ fault = .shownTooDeep)
    (h' : fault' = .integerTooLong ∨ fault' = .shownTooDeep) (hne : fault ≠ fault') :
    IsOtherFault fault fault' := by
  rcases h with rfl | rfl <;> rcases h' with rfl | rfl
  · exact absurd rfl hne
  · exact .deepAfterLong
  · exact .longAfterDeep
  · exact absurd rfl hne

namespace UnitSpec

variable {spec : UnitSpec} {encoding : Encoding}

theorem expandWithin_outcome_of_summary {room : Room} {settings : Settings} {summary : Summary}
    (h : (spec.expandedSummaryWithin room settings).outcome = .ok summary) :
    (spec.expandWithin room settings).outcome =
      if spec.outerFits room then
        spec.ownTransform.outcome.bind fun own =>
          if summary.layersFit room then .ok (spec.layered settings summary own)
          else .error (.nestedTooDeep .step)
      else .error (.nestedTooDeep .step) := by
  simp only [expandWithin, Logged.outcome_bind, h, Except.bind, Logged.outcome_require]
  cases spec.outerFits room with
  | false => rfl
  | true =>
      cases spec.ownTransform.outcome with
      | error failure => rfl
      | ok own => cases summary.layersFit room <;> rfl

theorem layered_of_sameUpToOrder {first second : Summary} {derived : List AggregateOutput}
    (clear : first.Unambiguous) (same : first.SameUpToOrder derived second) (settings : Settings)
    (own : List Json) :
    SameUpToOrder derived (spec.layered settings first own)
      ({ spec with encoding }.layered settings second own) := by
  refine ⟨spec.passedOn, own, first.pipeline, second.pipeline, _, _, ?_, ?_, same.pipeline,
    Summary.layers_of_sameUpToOrder clear same spec.mark settings⟩
  · rw [layered, Summary.pipeline_steps]
  · rw [layered, Summary.pipeline_steps]
    rfl

/-- An expansion fails with its summary. -/
theorem expandWithin_outcome_of_error {room : Room} {settings : Settings} {failure : Failure}
    (h : (spec.expandedSummaryWithin room settings).outcome = .error failure) :
    (spec.expandWithin room settings).outcome = .error failure := by
  rw [expandWithin, Logged.outcome_bind, h]
  rfl

/-- What can fail behind the summary reads the outer fields, or the layers, which differ in the
order of their keys only. -/
theorem expandWithin_outcome_of_sameUpToOrder {room : Room} {settings : Settings}
    {first second : Summary} {derived : List AggregateOutput}
    (hfirst : (spec.expandedSummaryWithin room settings).outcome = .ok first)
    (hsecond : ({ spec with encoding }.expandedSummaryWithin room settings).outcome = .ok second)
    (clear : first.Unambiguous) (same : first.SameUpToOrder derived second) :
    (∃ failure, (spec.expandWithin room settings).outcome = .error failure ∧
      ({ spec with encoding }.expandWithin room settings).outcome = .error failure) ∨
    ∃ result other, (spec.expandWithin room settings).outcome = .ok result ∧
      ({ spec with encoding }.expandWithin room settings).outcome = .ok other ∧
      SameUpToOrder derived result other := by
  have houter : { spec with encoding }.outerFits room = spec.outerFits room := rfl
  have hown : { spec with encoding }.ownTransform = spec.ownTransform := rfl
  have hfits := Summary.layersFit_of_sameUpToOrder clear same room
  rw [expandWithin_outcome_of_summary hfirst, expandWithin_outcome_of_summary hsecond, houter, hown]
  cases spec.outerFits room with
  | false => exact Or.inl ⟨_, rfl, rfl⟩
  | true =>
      cases spec.ownTransform.outcome with
      | error failure => exact Or.inl ⟨failure, rfl, rfl⟩
      | ok own =>
          simp only [if_true, Except.bind, hfits]
          cases Summary.layersFit room _ with
          | false => exact Or.inl ⟨_, rfl, rfl⟩
          | true =>
              exact Or.inr ⟨_, _, rfl, rfl, layered_of_sameUpToOrder clear same settings own⟩

/-- Specs whose channels are in another order fail for the same reason, or are both expanded, or
each fails for what it comes to first of two values that cannot be shown. -/
theorem expandWithin_outcome_reordered (named : spec.Named) (perm : spec.encoding.Perm encoding)
    (distinct : spec.encoding.keys.Nodup) (room : Room) (settings : Settings) :
    let first := (spec.expandWithin room settings).outcome
    let second := ({ spec with encoding }.expandWithin room settings).outcome
    (∃ failure, first = .error failure ∧ second = .error failure) ∨
    (∃ orient d result other, spec.orientation = .ok orient ∧
      spec.continuousField? orient.axis = some d ∧ first = .ok result ∧ second = .ok other ∧
      let center := (spec.mark.resolve settings).1
      let extent := (spec.mark.resolve settings).2
      SameUpToOrder
        (derivedEntries (.of (d.field.getD "") center extent) center extent) result other) ∨
    ∃ fault fault', spec.summaryFault? (room - 2) = some fault ∧ IsOtherFault fault fault' ∧
      first = .error (.unshown fault) ∧ second = .error (.unshown fault') := by
  have named' : { spec with encoding }.Named :=
    fun entry hentry => named entry (perm.mem_iff.mpr hentry)
  obtain ⟨hrefused, hchosen⟩ := expandedSummaryWithin_outcome named room settings
  obtain ⟨hrefused', hchosen'⟩ := expandedSummaryWithin_outcome named' room settings
  rw [orientation_reordered perm distinct] at hrefused' hchosen'
  have hunoriented {failure : OrientationFailure} (herror : spec.orientation = .error failure) :
      ∃ failure, (spec.expandWithin room settings).outcome = .error failure ∧
        ({ spec with encoding }.expandWithin room settings).outcome = .error failure :=
    ⟨_, expandWithin_outcome_of_error (hrefused _ herror),
      expandWithin_outcome_of_error (hrefused' _ herror)⟩
  rcases spec.orientation_cases with ⟨-, herror⟩ | ⟨-, -, herror⟩ | ⟨-, -, orient, d, horient, hd⟩
  · exact Or.inl (hunoriented herror)
  · exact Or.inl (hunoriented herror)
  · have hsummary := hchosen orient d horient hd
    have hsummary' := hchosen' orient d horient
      ((continuousField?_reordered perm distinct orient.axis).trans hd)
    have hshown := isSome_summaryFault?_reordered named perm distinct (room - 2)
    cases hfault : spec.summaryFault? (room - 2) with
    | some fault =>
        rw [hfault, Option.isSome_some, Option.isSome_iff_exists] at hshown
        obtain ⟨fault', hfault'⟩ := hshown
        rw [hfault] at hsummary
        rw [hfault'] at hsummary'
        have hfails := expandWithin_outcome_of_error hsummary
        have hfails' := expandWithin_outcome_of_error hsummary'
        by_cases heq : fault = fault'
        · subst heq
          exact Or.inl ⟨_, hfails, hfails'⟩
        · refine Or.inr (Or.inr ⟨fault, fault', rfl, ?_, hfails, hfails'⟩)
          exact .of_ne (fault_of_summary named hfault) (fault_of_summary named' hfault') heq
    | none =>
        rw [hfault] at hshown hsummary
        rw [Option.isSome_none, Option.isSome_eq_false_iff, Option.isNone_iff_eq_none] at hshown
        rw [hshown] at hsummary'
        have clear := unambiguous_summaryAround distinct orient.axis { d with aggregate := none }
          (spec.mark.resolve settings).1 (spec.mark.resolve settings).2
        have same := sameUpToOrder_summaryAround (encoding_onlySupported_reordered perm)
          orient.axis { d with aggregate := none } (spec.mark.resolve settings).1
          (spec.mark.resolve settings).2
        rcases expandWithin_outcome_of_sameUpToOrder hsummary hsummary' clear same with
          hfailed | ⟨result, other, hresult, hother, hsame⟩
        · exact Or.inl hfailed
        · exact Or.inr (Or.inl ⟨orient, d, result, other, horient, hd, hresult, hother, hsame⟩)

/-- What an expansion reports after the dropped channels. -/
def laterWarnings (room : Room) (spec : UnitSpec) (settings : Settings) : List Diagnostic :=
  unusualPair (spec.mark.resolve settings).1 (spec.mark.resolve settings).2 ++
    spec.aggregateWarnings (room - 2)

theorem expandWithin_warnings_eq (room : Room) (spec : UnitSpec) (settings : Settings) :
    (spec.expandWithin room settings).warnings =
      spec.droppedChannels ++ spec.laterWarnings room settings := by
  rw [expandWithin_warnings, expandedSummaryWithin_warnings, List.append_assoc, laterWarnings]

theorem laterWarnings_reordered (perm : spec.encoding.Perm encoding)
    (distinct : spec.encoding.keys.Nodup) (room : Room) (settings : Settings) :
    { spec with encoding }.laterWarnings room settings = spec.laterWarnings room settings := by
  rw [laterWarnings, aggregateWarnings, ignoredAggregate?_reordered perm distinct, laterWarnings,
    aggregateWarnings]

theorem droppedChannel_notMem_laterWarnings (room : Room) (spec : UnitSpec) (settings : Settings)
    (channel mark : String) (condition : Option String) :
    .droppedChannel channel mark condition ∉ spec.laterWarnings room settings := by
  intro hmem
  rcases List.mem_append.mp hmem with hpair | hignored
  · rw [unusualPair] at hpair
    split at hpair <;> simp at hpair
  · obtain ⟨aggregate, hreported⟩ := eq_of_mem_aggregateWarnings hignored
    cases hreported

end UnitSpec

/-- **The order of the channels.**  A spec that is read is read with its channels in any other
order.  Either both are expanded, and the results differ only in the order of what the channels
contribute, or both fail for the same reason; and the warnings differ only in the order of those
about dropped channels.

The failures can only be different where a name has to show an integer that is too long and another
one a value that is nested too deep.  No spec that has been read from a text holds both. -/
theorem expand_reordered {room : Room} {fields channels : Object} {spec : UnitSpec}
    (read : (UnitSpec.readWithin (room - 1) fields).outcome = .ok spec)
    (distinct : (channelsOf fields).keys.Nodup) (perm : (channelsOf fields).Perm channels)
    (settings : Settings) :
    let reordered := fields.put "encoding" (.obj channels)
    let first := expandErrorBarWithin room fields settings
    let second := expandErrorBarWithin room reordered settings
    ((∃ failure, first.outcome = .error failure ∧ second.outcome = .error failure) ∨
      (∃ orient d result other, spec.orientation = .ok orient ∧
        spec.continuousField? orient.axis = some d ∧
        first.outcome = .ok result ∧ second.outcome = .ok other ∧
        let center := (spec.mark.resolve settings).1
        let extent := (spec.mark.resolve settings).2
        SameUpToOrder (derivedEntries (.of (d.field.getD "") center extent) center extent)
          result other) ∨
      ∃ fault fault', IsOtherFault fault fault' ∧ first.outcome = .error (.unshown fault) ∧
        second.outcome = .error (.unshown fault') ∧
        ∀ text, Json.read room text ≠ .ok (.obj fields)) ∧
    let dropped (channels : Object) :=
      (channels.keys.filter (· ∉ UnitSpec.supportedChannels)).map
        (Diagnostic.droppedChannel · errorBar none)
    (dropped (channelsOf fields)).Perm (dropped channels) ∧
    ∃ rest, first.warnings = dropped (channelsOf fields) ++ rest ∧
      second.warnings = dropped channels ++ rest ∧
      ∀ channel mark condition, .droppedChannel channel mark condition ∉ rest := by
  intro reordered first second
  obtain ⟨encoding, hperm, hread⟩ := UnitSpec.readWithin_reordered perm read
  have hspec := (UnitSpec.readWithin_eq_ok.mp read).2
  have hkeys := UnitSpec.keys_encoding_of_read hspec
  have hkeys' : channels.keys = encoding.keys := by
    have hown : channelsOf reordered = channels := by
      rw [channelsOf, Fields.get?_put_self]
    rw [← hown]
    exact UnitSpec.keys_encoding_of_read (UnitSpec.readWithin_eq_ok.mp hread).2
  have hdistinct : spec.encoding.keys.Nodup := hkeys ▸ distinct
  have hfirst : first = spec.expandWithin (room - 1) settings :=
    expandErrorBarWithin_of_read read settings
  have hsecond : second = { spec with encoding }.expandWithin (room - 1) settings :=
    expandErrorBarWithin_of_read hread settings
  rw [hfirst, hsecond]
  refine ⟨?_, ((perm.map Prod.fst).filter _).map _, spec.laterWarnings (room - 1) settings, ?_, ?_,
    spec.droppedChannel_notMem_laterWarnings (room - 1) settings⟩
  · refine (UnitSpec.expandWithin_outcome_reordered (UnitSpec.named_of_read hspec) hperm hdistinct
      (room - 1) settings).imp_right (Or.imp_right ?_)
    rintro ⟨fault, fault', hfault, hother, hfails, hfails'⟩
    refine ⟨fault, fault', hother, hfails, hfails', fun text htext => ?_⟩
    rw [Nat.sub_sub, UnitSpec.summaryFault?_of_text htext hspec] at hfault
    cases hfault
  · rw [UnitSpec.expandWithin_warnings_eq, UnitSpec.droppedChannels, ← hkeys]
  · rw [UnitSpec.expandWithin_warnings_eq, UnitSpec.laterWarnings_reordered hperm hdistinct,
      UnitSpec.droppedChannels, ← hkeys']

/-- The yield of barley by variety and month, with a tooltip. -/
private def monthlyYield : Object :=
  [("mark", .str errorBar),
   ("encoding", .obj
     [("x", .obj [("field", .str "variety"), ("type", .str "nominal")]),
      ("tooltip", .null),
      ("y", .obj [("field", .str "yield"), ("type", .str "quantitative")]),
      ("detail", .obj [("field", .str "date"), ("timeUnit", .str "month")])])]

theorem monthlyYield_reordered :
    ∃ result other,
      (expandErrorBarWithin .direct monthlyYield .default).outcome = .ok result ∧
      (expandErrorBarWithin .direct
        (monthlyYield.put "encoding" (.obj (channelsOf monthlyYield).reverse)) .default).outcome =
          .ok other ∧
      SameUpToOrder (derivedEntries (.of "yield" .mean .stderr) .mean .stderr) result other ∧
      (expandErrorBarWithin .direct monthlyYield .default).warnings =
        [.droppedChannel "tooltip" errorBar none] := by
  obtain ⟨spec, result, hspec, hresult, hwarnings⟩ :
      ∃ spec result, (UnitSpec.readWithin (.direct - 1) monthlyYield).outcome = .ok spec ∧
        (expandErrorBarWithin .direct monthlyYield .default).outcome = .ok result ∧
        (expandErrorBarWithin .direct monthlyYield .default).warnings =
          [.droppedChannel "tooltip" errorBar none] :=
    ⟨_, _, rfl, rfl, rfl⟩
  have distinct : (channelsOf monthlyYield).keys.Nodup := by decide
  have perm : (channelsOf monthlyYield).Perm (channelsOf monthlyYield).reverse :=
    (List.reverse_perm _).symm
  obtain ⟨⟨failure, hfirst, -⟩ | ⟨orient, d, result', other, horient, hd, hresult', hother, hsame⟩ |
      ⟨fault, fault', -, hfirst, -⟩, -⟩ := expand_reordered hspec distinct perm .default
  · rw [hresult] at hfirst
    cases hfirst
  · cases hspec
    cases horient
    cases hd
    exact ⟨_, _, hresult', hother, hsame, hwarnings⟩
  · rw [hresult] at hfirst
    cases hfirst

end LayeredMarks
