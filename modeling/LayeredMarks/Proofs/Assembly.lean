import LayeredMarks.Proofs.Dataflow

/-!
# How layers are put together

The layers of an expanded spec stand in six slots, in the order in which they are drawn.  A slot is
empty when its part is not shown.  All layers have the other channels in common, and differ in their
mark and in what they read along the summarized axis:

```text
bar           center
line          center
lower ticks   lower bound
upper ticks   upper bound
whisker       lower bound, and the upper bound on the secondary channel
point         center
```

Main statement: `expand_assembly`.

## Strategy

* **Shown parts.**  `MarkDef.draws_eq`: of the setting on the mark and the configured one, the first
  that is there decides.
* **Channels.**  The channels along the axis and those beside it have different names
  (`disjoint_along_beside`), so a layer lists the one behind the other: `encoding_eq`.  Hence no
  channel of the spec can take the place of a bound.
* **Slots.**  `layer?_slot_eq`: each of the places that `Summary.slots` lists is one of the six
  slots.
-/

namespace LayeredMarks

/-! ## Parts that are shown -/

namespace MarkDef

/-- Whether a part is shown: the mark shows or styles it, or the mark leaves it open and it is not
hidden by the settings. -/
def shows (mark : MarkDef) (settings : Settings) (part : Part) : Bool :=
  match mark.parts.get part, settings.parts.get part with
  | some .hidden, _ => false
  | some .shown, _ => true
  | some (.styled _), _ => true
  | none, .hidden => false
  | none, .shown => true
  | none, .styled _ => true

/-- The properties of the mark that draws a part. -/
def propertiesOf (mark : MarkDef) (settings : Settings) (part : Part) : Object :=
  let configured := (settings.parts.get part).properties
  mark.propertiesFor part.name configured (Fields.merge [("type", .str part.primitive)] configured)

@[simp] theorem setting?_name (mark : MarkDef) (part : Part) :
    mark.setting? part.name = mark.parts.get part := by
  have hname : Part.ofName? part.name = some part := by cases part <;> decide
  rw [setting?, hname, Option.bind_some]

theorem draws_eq (mark : MarkDef) (settings : Settings) (part : Part) :
    mark.draws part.name (some (settings.parts.get part)) = mark.shows settings part := by
  rw [draws, setting?_name, Option.getD_some, shows]
  rcases mark.parts.get part with _ | _ | _ | _
  · cases settings.parts.get part <;> rfl
  all_goals rfl

end MarkDef

/-- A part has a layer exactly when it is shown. -/
theorem Summary.layer?_eq (summary : Summary) (mark : MarkDef) (settings : Settings) (part : Part)
    (column : Option String) :
    summary.layer? mark settings part column =
      if mark.shows settings part then
        some [("mark", .obj (mark.propertiesOf settings part)),
          ("encoding", .obj (summary.encoding part column))]
      else none := by
  simp only [layer?, mark.draws_eq settings part]
  rfl

/-! ## Slots -/

/-- A place in which a part is drawn, from the back to the front. -/
inductive Slot where
  | bar
  | line
  | lowerTicks
  | upperTicks
  | whisker
  | point
deriving DecidableEq, Repr, Inhabited

namespace Slot

/-- All slots, in the order in which they are drawn. -/
def all : List Slot := [bar, line, lowerTicks, upperTicks, whisker, point]

/-- The part that is drawn in the slot. -/
def part : Slot → Part
  | bar => .bar
  | line => .line
  | lowerTicks => .ticks
  | upperTicks => .ticks
  | whisker => .whisker
  | point => .point

/-- The column that a layer reads along the summarized axis. -/
def column (slot : Slot) (names : DerivedNames) : String :=
  match slot with
  | bar | line | point => names.center
  | lowerTicks | whisker => names.lower
  | upperTicks => names.upper

/-- The column that a layer reads on the secondary channel: the whisker ends at the upper bound, and
no other part ends anywhere. -/
def farColumn? (slot : Slot) (names : DerivedNames) : Option String :=
  match slot with
  | whisker => some names.upper
  | _ => none

end Slot

/-- Properties under a key; nothing when there are none. -/
def propertiesUnder (key : String) : Option Object → Object
  | some (entry :: rest) => [(key, .obj (entry :: rest))]
  | some [] => []
  | none => []

namespace FieldDef

/-- What the channel of the summarized axis tells besides its column: the type, and the scale and
the axis where these have properties. -/
def placement (d : FieldDef) (type : MeasureType) : Object :=
  ("type", .str (Vocabulary.word type)) ::
    (propertiesUnder "scale" d.scale ++ propertiesUnder "axis" d.axis)

/-- A field that takes values on a scale has one of two types. -/
theorem type_of_isContinuous {d : FieldDef} (h : d.isContinuous = true) :
    ∃ type, d.type = some type ∧ (type = .quantitative ∨ type = .temporal) := by
  unfold isContinuous isDiscrete at h
  cases htype : d.type with
  | none => simp [htype] at h
  | some type =>
      cases type with
      | quantitative => exact ⟨_, rfl, Or.inl rfl⟩
      | temporal => exact ⟨_, rfl, Or.inr rfl⟩
      | _ => simp [htype] at h

end FieldDef

/-- The encoding of the layer in a slot: the column along the axis, the far end, and the channels
that all layers have in common. -/
def Slot.encoding (slot : Slot) (axis : Axis) (names : DerivedNames) (placement common : Object) :
    Object :=
  (axis.channel, .obj (("field", .str (slot.column names)) :: placement)) ::
    ((slot.farColumn? names).toList.map fun column =>
      (axis.secondary, .obj [("field", .str column)])) ++ common

/-! ## The channels that layers have in common -/

namespace UnitSpec

/-- The channels of a spec that all layers have in common, as their own transforms leave them. -/
private def common (spec : UnitSpec) (axis : Axis) : Object :=
  Fields.merge [] (((spec.onlySupported.channelsBeside axis).map fun entry =>
    (entry.1, entry.2.readingColumns)).filter fun entry => entry.1 ∉ ["color", "size"])

private theorem mem_keys_common (spec : UnitSpec) (axis : Axis) {name : String} :
    name ∈ (spec.common axis).keys ↔
      name ∈ spec.encoding.keys ∧ name ∈ supportedChannels ∧
        name ∉ [axis.channel, "color", "size"] := by
  rw [common, Fields.mem_keys_merge]
  simp only [Fields.keys, List.map_nil, List.not_mem_nil, false_or, List.mem_map, List.mem_filter,
    channelsBeside, Fields.erase, onlySupported, decide_eq_true_eq, List.mem_cons, not_or]
  constructor
  · rintro ⟨entry, ⟨⟨own, ⟨⟨hmem, hsupported⟩, haxis⟩, rfl⟩, hother⟩, rfl⟩
    exact ⟨⟨own, hmem, rfl⟩, hsupported, haxis, hother⟩
  · rintro ⟨⟨own, hmem, rfl⟩, hsupported, haxis, hother⟩
    exact ⟨_, ⟨⟨own, ⟨⟨hmem, hsupported⟩, haxis⟩, rfl⟩, hother⟩, rfl⟩

private theorem exists_channel_of_mem_common {spec : UnitSpec} {axis : Axis} {name : String}
    {value : Json} (h : (name, value) ∈ spec.common axis) :
    ∃ channel, (name, channel) ∈ spec.encoding ∧ value = channel.readingColumns := by
  rcases Fields.mem_merge h with hnil | hmem
  · simp at hnil
  · obtain ⟨⟨_, channel⟩, hown, hentry⟩ := List.mem_map.mp (List.mem_of_mem_filter hmem)
    obtain ⟨rfl, rfl⟩ := Prod.mk.inj hentry
    exact ⟨channel, List.mem_of_mem_filter (List.mem_of_mem_filter hown), rfl⟩

end UnitSpec

/-! ## Layers -/

section

variable {spec : UnitSpec} {axis : Axis} {d : FieldDef} {type : MeasureType} {center : Center}
  {extent : Extent}

/-- The column that a place of the summary gives for its part. -/
private def Slot.given? (slot : Slot) (names : DerivedNames) : Option String :=
  match slot with
  | .lowerTicks => some names.lower
  | .upperTicks => some names.upper
  | _ => none

private theorem Summary.slots_eq (summary : Summary) :
    summary.slots = Slot.all.map fun slot => (slot.part, slot.given? summary.names) := rfl

private theorem position_eq (htype : d.type = some type) (aggregate : Option Aggregate) :
    (spec.summaryAround axis { d with aggregate } center extent).position = d.placement type := by
  simp only [Summary.position, UnitSpec.summaryAround, htype, FieldDef.placement, Option.map_some]
  cases d.scale with
  | none => cases d.axis with
    | none => rfl
    | some entries => cases entries <;> rfl
  | some scale =>
      cases scale <;> cases d.axis with
      | none => rfl
      | some entries => cases entries <;> rfl

private theorem along_eq (htype : d.type = some type) (aggregate : Option Aggregate) (slot : Slot) :
    let summary := spec.summaryAround axis { d with aggregate } center extent
    summary.along slot.part (slot.given? summary.names) =
      slot.encoding axis summary.names (d.placement type) [] := by
  intro summary
  have haxis : summary.axis = axis := rfl
  have hposition : summary.position = d.placement type := position_eq htype aggregate
  -- a bound has a name, so the ticks read the column that they are given
  have hlower : summary.names.lower ≠ "" := by
    simp [summary, UnitSpec.summaryAround, DerivedNames.of]
  have hupper : summary.names.upper ≠ "" := by
    simp [summary, UnitSpec.summaryAround, DerivedNames.of]
  cases slot <;>
    simp [Summary.along, Slot.part, Part.isSinglePoint, Slot.given?, Slot.encoding, Slot.column,
      Slot.farColumn?, Summary.reading, haxis, hposition, hlower, hupper, Option.filter]

/-- No channel that is drawn beside the axis has a name that is used along it. -/
theorem disjoint_along_beside (slot : Slot) (placement : Object) (names : DerivedNames) :
    ∀ name ∈ (spec.onlySupported.summaryAround axis d center extent).beside.keys,
      name ∉ (slot.encoding axis names placement []).keys := by
  intro name hname halong
  obtain ⟨entry, hentry, rfl⟩ := List.mem_map.mp hname
  obtain ⟨hne, channel, hchannel, -⟩ := UnitSpec.feeds_beside hentry
  have hsupported : entry.1 ∈ UnitSpec.supportedChannels := by
    simpa using (List.mem_filter.mp hchannel).2
  have hkeys : (slot.encoding axis names placement []).keys ⊆ [axis.channel, axis.secondary] := by
    cases slot <;> simp [Slot.encoding, Slot.farColumn?, Fields.keys]
  have hcases : entry.1 = axis.channel ∨ entry.1 = axis.secondary := by simpa using hkeys halong
  rcases hcases with hchannel | hsecondary
  · exact hne hchannel
  · rw [hsecondary] at hsupported
    exact axis.secondary_notMem_supported hsupported

private theorem encoding_eq (htype : d.type = some type) (aggregate : Option Aggregate)
    (slot : Slot) :
    let summary := spec.onlySupported.summaryAround axis { d with aggregate } center extent
    summary.encoding slot.part (slot.given? summary.names) =
      slot.encoding axis summary.names (d.placement type) (spec.common axis) := by
  intro summary
  have hdisjoint : ∀ name ∈ summary.beside.keys,
      name ∉ (slot.encoding axis summary.names (d.placement type) []).keys :=
    disjoint_along_beside slot _ _
  have hcommon : Fields.merge [] summary.beside = spec.common axis := rfl
  calc summary.encoding slot.part (slot.given? summary.names)
      = (slot.encoding axis summary.names (d.placement type) []).merge summary.beside := by
        rw [Summary.encoding, along_eq htype aggregate slot]
    _ = slot.encoding axis summary.names (d.placement type) [] ++
          Fields.merge [] summary.beside := by
        simpa using Fields.merge_append_of_disjoint _ [] _ hdisjoint
    _ = slot.encoding axis summary.names (d.placement type) (spec.common axis) := by
        rw [hcommon]
        simp [Slot.encoding]

/-- **One slot.**  It is empty unless its part is shown. -/
private theorem layer?_slot_eq (htype : d.type = some type) (aggregate : Option Aggregate)
    (mark : MarkDef) (settings : Settings) (slot : Slot) :
    let summary := spec.onlySupported.summaryAround axis { d with aggregate } center extent
    summary.layer? mark settings slot.part (slot.given? summary.names) =
      if mark.shows settings slot.part then
        some [("mark", .obj (mark.propertiesOf settings slot.part)),
          ("encoding", .obj
            (slot.encoding axis summary.names (d.placement type) (spec.common axis)))]
      else none := by
  intro summary
  rw [Summary.layer?_eq, encoding_eq htype aggregate slot]

private theorem layers_eq (htype : d.type = some type) (aggregate : Option Aggregate)
    (mark : MarkDef) (settings : Settings) :
    let summary := spec.onlySupported.summaryAround axis { d with aggregate } center extent
    summary.layers mark settings =
      (Slot.all.filter fun slot => mark.shows settings slot.part).map fun slot =>
        [("mark", .obj (mark.propertiesOf settings slot.part)),
          ("encoding", .obj
            (slot.encoding axis summary.names (d.placement type) (spec.common axis)))] := by
  intro summary
  rw [Summary.layers, Summary.slots_eq, List.filterMap_map, ← List.filterMap_eq_map,
    List.filterMap_filter]
  exact List.filterMap_congr fun slot _ => layer?_slot_eq htype aggregate mark settings slot

end

/-! ## The expansion -/

/-- **How layers are put together.**  The layers of an expanded spec are those of the slots whose
part is shown, in the order in which they are drawn.  Each has the mark of its part and reads its
columns along the summarized axis; the channels that an error bar draws otherwise stand in all
layers alike, but for the color and the size. -/
theorem expand_assembly {room : Room} {fields : Object} {settings : Settings} {result : Object}
    (expanded : (expandErrorBarWithin room fields settings).outcome = .ok result) :
    ∃ (spec : UnitSpec) (orient : Orient) (d : FieldDef) (type : MeasureType) (common : Object),
      UnitSpec.read fields = .ok spec ∧ spec.orientation = .ok orient ∧
      spec.continuousField? orient.axis = some d ∧
      d.type = some type ∧ (type = .quantitative ∨ type = .temporal) ∧
      (∀ name, name ∈ common.keys ↔ name ∈ spec.encoding.keys ∧
        name ∈ UnitSpec.supportedChannels ∧ name ∉ [orient.axis.channel, "color", "size"]) ∧
      common.keys.Nodup ∧
      (∀ name value, (name, value) ∈ common →
        ∃ channel, (name, channel) ∈ spec.encoding ∧ value = channel.readingColumns) ∧
      let names := DerivedNames.of (d.field.getD "") (spec.mark.resolve settings).1
        (spec.mark.resolve settings).2
      result.get? "layer" = some (.arr
        ((Slot.all.filter fun slot => spec.mark.shows settings slot.part).map fun slot => .obj
          [("mark", .obj (spec.mark.propertiesOf settings slot.part)),
           ("encoding", .obj
             (slot.encoding orient.axis names (d.placement type) common))])) := by
  obtain ⟨spec, orient, d, own, hread, -, horient, hd, -, rfl⟩ :=
    expandErrorBarWithin_eq_layered expanded
  obtain ⟨type, htype, hscale⟩ :=
    FieldDef.type_of_isContinuous (UnitSpec.continuousField?_eq_some.mp hd).2
  refine ⟨spec, orient, d, type, spec.common orient.axis, hread, horient, hd, htype, hscale,
    fun name => spec.mem_keys_common orient.axis, ?_, fun name value =>
    UnitSpec.exists_channel_of_mem_common, ?_⟩
  · exact Fields.nodup_keys_merge _ List.nodup_nil
  · rw [UnitSpec.get?_layer_layered, layers_eq htype none, List.map_map]
    rfl

/-- The yield of barley by variety, with ticks in place of the whisker. -/
private def tickedYield : Object :=
  [("mark", .obj [("type", .str errorBar), ("ticks", .obj [("size", .int 8)]),
     ("whisker", .bool false)]),
   ("encoding", .obj
     [("x", .obj [("field", .str "yield"), ("type", .str "quantitative"),
        ("scale", .obj [("zero", .bool false)]), ("axis", .obj [])]),
      ("x2", .obj [("value", .int 3)]),
      ("y", .obj [("field", .str "variety"), ("type", .str "nominal")]),
      ("size", .obj [("field", .str "area"), ("type", .str "quantitative")])])]

theorem tickedYield_assembly :
    ∃ (result common : Object) (layer : Slot → Object),
      (expandErrorBarWithin .direct tickedYield .default).outcome = .ok result ∧
      result.get? "layer" =
        some (.arr ([Slot.lowerTicks, .upperTicks, .point].map fun slot => .obj (layer slot))) ∧
      (layer .lowerTicks).get? "encoding" = some (.obj
        (("x", .obj [("field", .str "lower_whisker_yield"), ("type", .str "quantitative"),
          ("scale", .obj [("zero", .bool false)])]) :: common)) ∧
      ∀ name, name ∈ common.keys ↔ name = "y" := by
  obtain ⟨result, hresult⟩ :
      ∃ result, (expandErrorBarWithin .direct tickedYield .default).outcome = .ok result :=
    ⟨_, rfl⟩
  obtain ⟨spec, orient, d, type, common, hread, horient, hd, htype, -, hkeys, -, -, hlayers⟩ :=
    expand_assembly hresult
  cases hread
  cases horient
  cases hd
  cases htype
  refine ⟨result, common, _, hresult, hlayers, rfl, fun name => ?_⟩
  rw [hkeys]
  constructor
  · rintro ⟨hown, hsupported, hother⟩
    have hmem : name ∈ ["x", "x2", "y", "size"] := hown
    have hnot : name ∉ ["x", "color", "size"] := hother
    simp only [List.mem_cons, List.not_mem_nil, or_false, not_or] at hmem hnot
    rcases hmem with rfl | rfl | rfl | rfl
    · exact absurd rfl hnot.1
    · simp [UnitSpec.supportedChannels] at hsupported
    · rfl
    · exact absurd rfl hnot.2.2
  · rintro rfl
    exact ⟨by decide, by decide, by decide⟩

end LayeredMarks
