import LayeredMarks.Proofs.Reordering

/-!
# What layers keep of a channel

A field definition is written into the layers anew, so that it reads the column of its own
transform.  Its other properties are kept, whatever they are, but for those that are null
(`FieldDef.rewritten_readingColumn`).  The definition of a value is kept with its nulls.

Main statement: `expand_properties`, for every layer and every channel in it that is neither that of
the summarized axis nor a color nor a size.

## Strategy

A property comes to a layer in four stages: the object is read, the definition is changed, it is
written, and the channel is merged into the encoding of the layer.

* **Reading.**  `Reading.optional_eq_ok` says what is read of a known property; any other is an
  extra.
* **Writing.**  What is found in an object that has been written is found either among the known
  properties or among the extras (`FieldDef.get?_readingColumn`).
* **Merging.**  Channels have distinct names, so that the entry of a channel is not written over.
-/

namespace LayeredMarks

/-! ## One definition -/

/-- The property under a key, unless it is null. -/
def Fields.nonNull? (properties : Object) (key : String) : Option Json :=
  (Fields.get? properties key).filter fun value => !value.isNull

namespace FieldDef

/-- The properties that say which column of the data is shown, and under which type. -/
def sourceNames : List String := ["field", "type", "aggregate", "bin", "timeUnit", "time_unit"]

/-- The object stands in a layer for the field definition with the given properties. -/
structure Rewritten (properties written : Object) : Prop where
  field : ∃ d, read properties = .ok d ∧ written.get? "field" = some (.str d.column)
  type : Option.Rel
    (fun given word => ∃ type : MeasureType, Vocabulary.read given = .ok type ∧
      word = .str (Vocabulary.word type))
    (properties.nonNull? "type") (written.get? "type")
  /-- The transform has been carried out. -/
  carriedOut : ∀ key ∈ ["aggregate", "bin", "timeUnit"], written.get? key = none
  /-- Beside a time unit, one under the other name is a property like any other. -/
  otherTimeUnit : written.get? "time_unit" =
    if (properties.get? "timeUnit").isSome then properties.nonNull? "time_unit" else none
  kept : ∀ key ∉ sourceNames, written.get? key = properties.nonNull? key

variable {properties : Object} {d : FieldDef}

/-- An object is read as it is. -/
private theorem map_obj_of_optional {key : String} {a : Option Object}
    (h : Reading.optional properties key Reading.object = .ok a) :
    a.map .obj = properties.nonNull? key := by
  have hrel : Option.Rel _ (properties.nonNull? key) a := Reading.optional_eq_ok.mp h
  generalize properties.nonNull? key = found at hrel
  cases hrel with
  | none => rfl
  | @some value fields hread =>
      cases value with
      | obj own => rw [Checked.ok.inj hread, Option.map_some]
      | _ => simp [Reading.object, Checked.fail] at hread

theorem timeUnitName_of_first {value : Json} (h : properties.get? "timeUnit" = some value) :
    timeUnitName properties = "timeUnit" := by
  simp [timeUnitName, Reading.nameOf, h]

theorem timeUnitName_of_other {value : Json} (first : properties.get? "timeUnit" = none)
    (h : properties.get? "time_unit" = some value) : timeUnitName properties = "time_unit" := by
  simp [timeUnitName, Reading.nameOf, first, h]

theorem timeUnitName_mem (properties : Object) : timeUnitName properties ∈ sourceNames := by
  unfold timeUnitName Reading.nameOf
  split <;> decide

/-- The names of the properties that are known; the others are extras. -/
def knownNames (properties : Object) : List String :=
  ["field", "type", "aggregate", "bin", timeUnitName properties, "scale", "axis"]

/-- The known properties of a definition that reads its column. -/
def shownProperties (d : FieldDef) : Fields (Option Json) :=
  [("field", some (.str d.column)), ("type", d.type.map fun type => .str (Vocabulary.word type)),
   ("aggregate", none), ("bin", none), ("timeUnit", none), ("scale", d.scale.map .obj),
   ("axis", d.axis.map .obj)]

/-- What is found under a key is a known property of the definition, or an extra. -/
theorem get?_readingColumn (distinct : properties.keys.Nodup) (h : read properties = .ok d)
    (key : String) :
    d.readingColumn.toObject.get? key = (d.shownProperties.get? key).join.or
      (if key ∈ knownNames properties then none else properties.nonNull? key) := by
  have hwritten : d.readingColumn.toObject =
      Fields.ofOptions d.shownProperties ++ d.extras.filter fun entry => !entry.2.isNull := rfl
  have hknown : d.shownProperties.keys.Nodup := by
    change ["field", "type", "aggregate", "bin", "timeUnit", "scale", "axis"].Nodup
    decide
  have hextras : (properties.filter fun entry => entry.1 ∉ knownNames properties) = d.extras :=
    (FieldDef.read_eq_ok.mp h).2.2.2.2.2.2.2
  rw [hwritten, Fields.get?_append, Fields.get?_ofOptions hknown, ← hextras,
    Fields.get?_filter_of_nodup (Fields.nodup_keys_filter _ distinct),
    Fields.get?_filter_of_nodup distinct]
  congr 1
  unfold Fields.nonNull?
  rcases properties.get? key with _ | value
  · simp
  · by_cases hkey : key ∈ knownNames properties <;> simp [hkey, Option.filter]

variable (distinct : properties.keys.Nodup) (h : read properties = .ok d)

include distinct h

private theorem rewritten_type :
    Option.Rel
      (fun given word => ∃ type : MeasureType, Vocabulary.read given = .ok type ∧
        word = .str (Vocabulary.word type))
      (properties.nonNull? "type") (d.readingColumn.toObject.get? "type") := by
  have hwritten : d.readingColumn.toObject.get? "type" =
      d.type.map fun type => .str (Vocabulary.word type) := by
    simp [get?_readingColumn distinct h, shownProperties, Fields.get?_cons, knownNames]
  have hrel : Option.Rel _ (properties.nonNull? "type") d.type :=
    Reading.optional_eq_ok.mp (FieldDef.read_eq_ok.mp h).2.1
  rw [hwritten]
  generalize properties.nonNull? "type" = given, d.type = type at hrel
  cases hrel with
  | none => exact .none
  | some hread => exact .some ⟨_, Checked.ofExcept_eq_ok.mp hread, rfl⟩

private theorem rewritten_carriedOut {key : String}
    (hkey : key ∈ ["aggregate", "bin", "timeUnit"]) :
    d.readingColumn.toObject.get? key = none := by
  rw [get?_readingColumn distinct h]
  simp only [List.mem_cons, List.not_mem_nil, or_false] at hkey
  rcases hkey with rfl | rfl | rfl
  · rfl
  · rfl
  · cases hfirst : properties.get? "timeUnit" with
    | none => simp [shownProperties, Fields.get?_cons, Fields.nonNull?, hfirst]
    | some value =>
        simp [shownProperties, Fields.get?_cons, knownNames, timeUnitName_of_first hfirst]

private theorem rewritten_otherTimeUnit :
    d.readingColumn.toObject.get? "time_unit" =
      if (properties.get? "timeUnit").isSome then properties.nonNull? "time_unit" else none := by
  have hextra : Fields.get? d.shownProperties "time_unit" = none := rfl
  rw [get?_readingColumn distinct h, hextra]
  cases hfirst : properties.get? "timeUnit" with
  | some value => simp [knownNames, timeUnitName_of_first hfirst]
  | none =>
      cases hother : properties.get? "time_unit" with
      | some value => simp [knownNames, timeUnitName_of_other hfirst hother]
      | none => simp [Fields.nonNull?, hother]

private theorem rewritten_kept {key : String} (hkey : key ∉ sourceNames) :
    d.readingColumn.toObject.get? key = properties.nonNull? key := by
  obtain ⟨-, -, -, -, -, hscale, haxis, -⟩ := FieldDef.read_eq_ok.mp h
  rw [get?_readingColumn distinct h]
  by_cases hscaleKey : key = "scale"
  · subst hscaleKey
    simp [shownProperties, Fields.get?_cons, knownNames, map_obj_of_optional hscale]
  by_cases haxisKey : key = "axis"
  · subst haxisKey
    simp [shownProperties, Fields.get?_cons, knownNames, map_obj_of_optional haxis]
  -- any other key is that of an extra
  have hunit : key ≠ timeUnitName properties := by
    rintro rfl
    exact hkey (timeUnitName_mem properties)
  simp only [sourceNames, List.mem_cons, List.not_mem_nil, or_false, not_or] at hkey
  simp [shownProperties, Fields.get?_cons, knownNames, hkey, hunit, hscaleKey, haxisKey]

theorem rewritten_readingColumn : Rewritten properties d.readingColumn.toObject where
  field := ⟨d, h, rfl⟩
  type := rewritten_type distinct h
  carriedOut := fun _ hkey => rewritten_carriedOut distinct h hkey
  otherTimeUnit := rewritten_otherTimeUnit distinct h
  kept := fun _ hkey => rewritten_kept distinct h hkey

end FieldDef

/-- Nothing is lost of the definition of a value. -/
theorem ValueDef.get?_toObject_ofObject (properties : Object) (key : String) :
    (ofObject properties).toObject.get? key = properties.get? key := by
  rw [toObject, ofObject, Fields.get?_append]
  by_cases hkey : key = "value"
  · subst hkey
    cases properties.get? "value" <;> simp [Fields.ofOptions, Fields.get?_cons]
  · cases properties.get? "value" <;>
      simp [Fields.ofOptions, Fields.get?_cons, hkey, Fields.get?_erase_of_ne]

/-! ## One channel -/

/-- The entry stands in a layer for an entry of a spec: that of a field is written anew, and that of
a value is kept. -/
def StandsForEntry (given written : Json) : Prop :=
  ∀ properties : Object, given = .obj properties → properties.keys.Nodup →
    ∃ shown : Object, written = .obj shown ∧
      if ChannelDef.definesField properties then FieldDef.Rewritten properties shown
      else ∀ key, shown.get? key = properties.get? key

/-- The channel stands in a layer for a channel of a spec: a list does so item by item. -/
def StandsFor : Json → Json → Prop
  | .arr items, written => ∃ shown, written = .arr shown ∧ List.Forall₂ StandsForEntry items shown
  | given, written => StandsForEntry given written

namespace ChannelDef

theorem standsForEntry_of_read {given : Json} {channel : ChannelDef}
    (h : read given = .ok channel) : StandsForEntry given channel.entryReadingColumns := by
  rintro properties rfl distinct
  rw [read, readObject] at h
  cases hdefines : definesField properties with
  | true =>
      rw [hdefines, if_pos rfl] at h
      obtain ⟨d, hd, rfl⟩ := Checked.map_eq_ok.mp h
      exact ⟨_, rfl, by simpa using FieldDef.rewritten_readingColumn distinct hd⟩
  | false =>
      rw [hdefines, if_neg (by decide)] at h
      obtain rfl := Checked.ok.inj h
      exact ⟨_, rfl, by simpa using ValueDef.get?_toObject_ofObject properties⟩

/-- Only a list is read as a list. -/
theorem readingColumns_of_readObject {properties : Object} {channel : ChannelDef}
    (h : readObject properties = .ok channel) :
    channel.readingColumns = channel.entryReadingColumns := by
  unfold readObject at h
  split at h
  · obtain ⟨d, -, rfl⟩ := Checked.map_eq_ok.mp h
    rfl
  · obtain rfl := Checked.ok.inj h
    rfl

theorem standsFor_of_read {given : Json} {channel : ChannelDef} (h : read given = .ok channel) :
    StandsFor given channel.readingColumns := by
  cases given with
  | arr items =>
      rw [read, readItems_eq_each] at h
      obtain ⟨channels, hitems, rfl⟩ := Checked.map_eq_ok.mp h
      rw [Checked.each_eq_ok, ← List.forall₂_eq_eq_eq, List.forall₂_map_left_iff,
        List.forall₂_map_right_iff] at hitems
      refine ⟨_, rfl, ?_⟩
      rw [List.forall₂_map_right_iff]
      exact hitems.imp fun _ _ => standsForEntry_of_read
  | obj properties =>
      have hentry := standsForEntry_of_read h
      rw [read] at h
      rw [readingColumns_of_readObject h]
      exact hentry
  | _ => exact fun properties hobj => by cases hobj

end ChannelDef

/-! ## One layer -/

namespace UnitSpec

/-- A channel is read by itself, so that what is found under its name is what has been read
there. -/
theorem get?_of_readChannels {channels : Object} {encoding : Encoding}
    (h : readChannels channels = .ok encoding) {name : String} {value : Json}
    (hvalue : channels.get? name = some value) :
    ∃ channel, encoding.get? name = some channel ∧ ChannelDef.read value = .ok channel := by
  unfold readChannels at h
  induction channels generalizing encoding with
  | nil => simp at hvalue
  | cons entry rest ih =>
      obtain ⟨first, own⟩ := entry
      obtain ⟨pair, hpair, htail⟩ := Checked.andThen_eq_ok.mp h
      obtain ⟨channel, hchannel, rfl⟩ := Checked.map_eq_ok.mp hpair
      obtain ⟨others, hothers, rfl⟩ := Checked.map_eq_ok.mp htail
      rw [Fields.get?_cons] at hvalue ⊢
      by_cases hname : name = first
      · rw [if_pos hname] at hvalue ⊢
        obtain rfl := Option.some.inj hvalue
        exact ⟨channel, rfl, hchannel⟩
      · rw [if_neg hname] at hvalue ⊢
        exact ih hothers hvalue

/-- Beside the axis, the channels that are drawn read the columns of their definitions. -/
theorem get?_channels_summaryAround (spec : UnitSpec) {axis : Axis} (axisDef : FieldDef)
    (center : Center) (extent : Extent) {name : String} (hsupported : name ∈ supportedChannels)
    (hname : name ≠ axis.channel) :
    (spec.onlySupported.summaryAround axis axisDef center extent).channels.get? name =
      (spec.encoding.get? name).map ChannelDef.readingColumns := by
  rw [summaryAround, Fields.get?_map, channelsBeside, Fields.get?_erase_of_ne _ hname,
    onlySupported,
    Fields.get?_filter (p := fun name => name ∈ supportedChannels) _ (by simpa using hsupported)]

end UnitSpec

/-- A channel of the summary that is shown stands in every layer. -/
theorem Summary.Unambiguous.get?_encoding {summary : Summary} (clear : summary.Unambiguous)
    {name : String} (shown : name ∉ ["color", "size"]) {entry : Json}
    (h : summary.channels.get? name = some entry) (part : Part) (column : Option String) :
    (summary.encoding part column).get? name = some entry := by
  have hbeside : summary.beside.get? name = some entry := by
    rw [beside, Fields.get?_filter (p := fun name => name ∉ ["color", "size"]) _
      (by simpa using shown), h]
  have hdistinct : summary.beside.keys.Nodup := Fields.nodup_keys_filter _ clear.distinct
  rw [encoding, Fields.get?_merge _ hdistinct, hbeside, Option.some_or]

/-- **What layers keep of a channel.**  In every layer there stands an entry for every channel that
can be drawn, but for the summarized axis, color and size.  The definitions of fields in it, the
channel's own or those among the items of its list, keep all properties that are not null, and get
no other than a field and a type. -/
theorem expand_properties {room : Room} {fields : Object} {settings : Settings} {result : Object}
    (distinct : (channelsOf fields).keys.Nodup)
    (expanded : (expandErrorBarWithin room fields settings).outcome = .ok result) :
    ∃ (spec : UnitSpec) (orient : Orient) (layers : List Json),
      UnitSpec.read fields = .ok spec ∧ spec.orientation = .ok orient ∧
      result.get? "layer" = some (.arr layers) ∧
      ∀ layer ∈ layers, ∃ encoding : Object, layer.get? "encoding" = some (.obj encoding) ∧
        ∀ name ∈ UnitSpec.supportedChannels, name ≠ orient.axis.channel →
          name ∉ ["color", "size"] → ∀ given, (channelsOf fields).get? name = some given →
            ∃ written, encoding.get? name = some written ∧ StandsFor given written := by
  obtain ⟨spec, orient, d, own, hread, -, horient, -, -, rfl⟩ :=
    expandErrorBarWithin_eq_layered expanded
  refine ⟨spec, orient, _, hread, horient, UnitSpec.get?_layer_layered _ _ _ _, ?_⟩
  intro layer hlayer
  obtain ⟨object, hobject, rfl⟩ := List.mem_map.mp hlayer
  obtain ⟨⟨part, column⟩, -, hsome⟩ := List.mem_filterMap.mp hobject
  refine ⟨_, Summary.layer?_encoding hsome, fun name hsupported haxis hshown given hgiven => ?_⟩
  obtain ⟨channel, hchannel, hchannelRead⟩ :=
    UnitSpec.get?_of_readChannels (UnitSpec.readChannels_channelsOf hread) hgiven
  have hencoding : spec.encoding.keys.Nodup := UnitSpec.keys_encoding_of_read hread ▸ distinct
  refine ⟨channel.readingColumns, ?_, ChannelDef.standsFor_of_read hchannelRead⟩
  apply (UnitSpec.unambiguous_summaryAround hencoding _ _ _ _).get?_encoding hshown
  rw [UnitSpec.get?_channels_summaryAround spec _ _ _ hsupported haxis, hchannel, Option.map_some]

/-- A variety on a titled axis, in an order that is given. -/
private def titledVariety : Object :=
  [("sort", .str "-x"), ("field", .str "variety"), ("type", .str "Nominal"),
   ("axis", .obj [("title", .str "Variety"), ("labels", .null)])]

/-- The yield of the varieties, with the month of each. -/
private def yieldBy (variety : Object) : Object :=
  [("mark", .str errorBar),
   ("encoding", .obj
     [("x", .obj [("field", .str "yield"), ("type", .str "quantitative")]),
      ("y", .obj variety),
      ("detail", .arr [.obj [("field", .str "date"), ("timeUnit", .str "month")]])])]

theorem titledVariety_properties :
    (channelsOf (yieldBy titledVariety)).keys.Nodup ∧
    ∃ result layers,
      (expandErrorBarWithin .direct (yieldBy titledVariety) .default).outcome = .ok result ∧
      result.get? "layer" = some (.arr layers) ∧
      ∀ layer ∈ layers, ∃ encoding written : Object,
        layer.get? "encoding" = some (.obj encoding) ∧ encoding.get? "y" = some (.obj written) ∧
        written.get? "sort" = some (.str "-x") ∧
        written.get? "axis" = some (.obj [("title", .str "Variety"), ("labels", .null)]) := by
  have distinct : (channelsOf (yieldBy titledVariety)).keys.Nodup := by decide
  obtain ⟨result, hresult⟩ : ∃ result,
      (expandErrorBarWithin .direct (yieldBy titledVariety) .default).outcome = .ok result :=
    ⟨_, rfl⟩
  obtain ⟨spec, orient, layers, hread, horient, hlayers, hkept⟩ :=
    expand_properties distinct hresult
  cases hread
  cases horient
  refine ⟨distinct, result, layers, hresult, hlayers, fun layer hlayer => ?_⟩
  obtain ⟨encoding, hencoding, hchannels⟩ := hkept layer hlayer
  obtain ⟨written, hwritten, hstands⟩ :=
    hchannels "y" (by decide) (by decide) (by decide) (.obj titledVariety) rfl
  obtain ⟨shown, rfl, hrewritten⟩ := hstands titledVariety rfl (by decide)
  have hfield : FieldDef.Rewritten titledVariety shown := hrewritten
  exact ⟨encoding, shown, hencoding, hwritten, hfield.kept "sort" (by decide),
    hfield.kept "axis" (by decide)⟩

/-- A variety without an axis, in no order. -/
private def bareVariety : Object :=
  [("field", .str "variety"), ("type", .str "nominal"), ("axis", .null), ("sort", .null)]

/-- A null says that there is to be no axis, and no order.  It is lost in the layers. -/
theorem bareVariety_nullsLost :
    bareVariety.get? "axis" = some .null ∧ bareVariety.get? "sort" = some .null ∧
    ∃ (result encoding written : Object) (layer : Json) (others : List Json),
      (expandErrorBarWithin .direct (yieldBy bareVariety) .default).outcome = .ok result ∧
      result.get? "layer" = some (.arr (layer :: others)) ∧
      layer.get? "encoding" = some (.obj encoding) ∧ encoding.get? "y" = some (.obj written) ∧
      written.get? "axis" = none ∧ written.get? "sort" = none :=
  ⟨rfl, rfl, _, _, _, _, _, rfl, rfl, rfl, rfl, rfl, rfl⟩

end LayeredMarks
