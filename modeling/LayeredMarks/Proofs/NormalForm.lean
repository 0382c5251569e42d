import LayeredMarks.Proofs.ChannelProperties

/-!
# Written channels are in normal form

A channel may be given in many spellings: words in capitals, a boolean as a word or a number, nulls
for properties that are not there, a time unit under either of two names.  It is written in one of
them.  What has been written is read again as the same definition, and written as it stands, with
one exception: an object that names its time unit `time_unit` beside a null `timeUnit` is read as
having none, and the other name is kept as a property like any other, so that it is taken for the
time unit the next time.

Main statement: `ChannelDef.readWithin_toJson`, for channels of any kind and lists of them.

## Strategy

* **Fields.**  Every known property is read from the value that has been written for it
  (`Reading.optional_of_map`), and the extras are the rest, provided that the time unit is not taken
  from among them (`ExtrasApart.read_toObject`, `ExtrasApart.timeUnitName_toObject`).
* **Values.**  `ValueDef.ofObject_toObject`: nothing but the order of the keys changes.
* **Lists.**  A list is in normal form when its items are (`isNormal_arr`).  What holds of all
  channels is proved by `ReadingCases`, one case for each kind.
* **Room.**  Nothing is nested deeper than it was (`descent_toJson`).
-/

namespace LayeredMarks

/-! ## Reading what has been written -/

/-- A field that holds what has been written for a value is read as that value. -/
theorem Reading.optional_of_map {α : Type} {fields : Object} {key : String} {write : α → Json}
    {a : Option α} (h : fields.get? key = a.map write) {read : Json → Checked α}
    (reads : ∀ a, read (write a) = .ok a) (given : ∀ a, write a ≠ .null) :
    optional fields key read = .ok a := by
  cases a with
  | none => rw [optional, withDefault, h, Option.map_none]
  | some a => exact optional_of_get? h (reads a) (given a)

theorem MeasureType.read_word (type : MeasureType) :
    Checked.ofExcept (Vocabulary.read (.str (Vocabulary.word type))) = .ok type := by
  cases type <;> rfl

namespace Aggregate

theorem read_toJson (aggregate : Aggregate) : read aggregate.toJson = .ok aggregate := by
  cases aggregate <;> rfl

theorem toJson_ne_null (aggregate : Aggregate) : aggregate.toJson ≠ .null := by
  cases aggregate <;> simp [toJson]

end Aggregate

namespace Binning

theorem read_toJson (binning : Binning) : read binning.toJson = .ok binning := by
  cases binning <;> rfl

theorem toJson_ne_null (binning : Binning) : binning.toJson ≠ .null := by
  cases binning <;> simp [toJson]

end Binning

namespace FieldDef

/-! ## Field definitions -/

/-- The names under which the known properties are written. -/
def writtenNames : List String := ["field", "type", "aggregate", "bin", "timeUnit", "scale", "axis"]

/-- The known properties as they are written. -/
def writtenProperties (d : FieldDef) : Fields (Option Json) :=
  [("field", d.field.map .str), ("type", d.type.map fun type => .str (Vocabulary.word type)),
   ("aggregate", d.aggregate.map Aggregate.toJson), ("bin", d.bin.map Binning.toJson),
   ("timeUnit", d.timeUnit.map .str), ("scale", d.scale.map .obj), ("axis", d.axis.map .obj)]

/-- The definition without the extras that are null. -/
def withoutNulls (d : FieldDef) : FieldDef :=
  { d with extras := d.extras.filter fun entry => !entry.2.isNull }

theorem toObject_eq (d : FieldDef) :
    d.toObject = Fields.ofOptions d.writtenProperties ++ d.withoutNulls.extras := rfl

theorem toObject_withoutNulls (d : FieldDef) : d.withoutNulls.toObject = d.toObject := by
  simp [toObject, withoutNulls, List.filter_filter]

/-- No extra has the name under which a known property is written. -/
def ExtrasApart (d : FieldDef) : Prop :=
  ∀ key ∈ writtenNames, key ∉ d.extras.keys

section

variable {properties : Object} {d : FieldDef}

theorem get?_timeUnit_of_other (h : timeUnitName properties ≠ "timeUnit") :
    properties.get? "timeUnit" = none := by
  cases hfirst : properties.get? "timeUnit" with
  | none => rfl
  | some value => exact absurd (timeUnitName_of_first hfirst) h

/-- The time unit is read from the name that has been chosen, unless there is a null. -/
theorem timeUnit_of_read (h : read properties = .ok d) :
    Option.Rel (fun value unit => Reading.text value = .ok unit)
      (properties.nonNull? (timeUnitName properties)) d.timeUnit := by
  obtain ⟨-, -, -, -, hunit, -⟩ := FieldDef.read_eq_ok.mp h
  exact Reading.optional_eq_ok.mp hunit

theorem mem_extras_of_read (h : read properties = .ok d) {entry : String × Json} :
    entry ∈ d.extras ↔ entry ∈ properties ∧ entry.1 ∉ knownNames properties := by
  have hextras : (properties.filter fun entry => entry.1 ∉ knownNames properties) = d.extras :=
    (FieldDef.read_eq_ok.mp h).2.2.2.2.2.2.2
  rw [← hextras, List.mem_filter, decide_eq_true_iff]

theorem extrasApart_of_read (h : read properties = .ok d) : d.ExtrasApart := by
  intro key hkey hmem
  obtain ⟨⟨name, value⟩, hentry, rfl⟩ := List.mem_map.mp hmem
  obtain ⟨hgiven, hother⟩ := (mem_extras_of_read h).mp hentry
  by_cases hname : timeUnitName properties = "timeUnit"
  · exact hother (by rw [knownNames, hname]; exact hkey)
  · -- only a time unit under that name could be left over, and there is none
    have hunit : name = "timeUnit" := by
      simp only [writtenNames, knownNames, List.mem_cons, List.not_mem_nil, or_false,
        not_or] at hkey hother
      grind
    subst hunit
    have hsome : (properties.get? "timeUnit").isSome = true :=
      (Fields.isSome_get? properties "timeUnit").mpr (Fields.mem_keys_of_mem hgiven)
    rw [get?_timeUnit_of_other hname] at hsome
    exact absurd hsome (by decide)

/-- Under the name of a known property there is what has been written for it. -/
theorem ExtrasApart.get?_toObject (apart : d.ExtrasApart) {key : String} {value : Option Json}
    (h : (key, value) ∈ d.writtenProperties) : d.toObject.get? key = value := by
  have hdistinct : d.writtenProperties.keys.Nodup := by
    change writtenNames.Nodup
    decide
  have hextras : key ∉ d.withoutNulls.extras.keys := fun hmem =>
    apart key (Fields.mem_keys_of_mem h) ((List.filter_sublist.map Prod.fst).subset hmem)
  rw [toObject_eq, Fields.get?_append, Fields.get?_eq_none_of_notMem hextras, Option.or_none,
    Fields.get?_ofOptions hdistinct, Fields.get?_of_mem hdistinct h, Option.join_some]

/-- Under any other name there is an extra, if it is not null. -/
theorem get?_toObject_of_notMem {key : String} (hkey : key ∉ writtenNames) :
    d.toObject.get? key = d.withoutNulls.extras.get? key := by
  have hknown : key ∉ (Fields.ofOptions d.writtenProperties).keys := fun hmem =>
    hkey ((Fields.keys_ofOptions_sublist d.writtenProperties).subset hmem)
  rw [toObject_eq, Fields.get?_append, Fields.get?_eq_none_of_notMem hknown, Option.none_or]

/-- The extras are what is left of a written definition beside its known properties. -/
theorem ExtrasApart.filter_toObject (apart : d.ExtrasApart) :
    (d.toObject.filter fun entry => entry.1 ∉ writtenNames) = d.withoutNulls.extras := by
  have hknown : (Fields.ofOptions d.writtenProperties).filter
      (fun entry => entry.1 ∉ writtenNames) = [] := by
    rw [List.filter_eq_nil_iff]
    intro entry hentry
    have hname : entry.1 ∈ writtenNames :=
      (Fields.keys_ofOptions_sublist d.writtenProperties).subset (Fields.mem_keys_of_mem hentry)
    simpa using hname
  have hextras : d.withoutNulls.extras.filter (fun entry => entry.1 ∉ writtenNames) =
      d.withoutNulls.extras := by
    rw [List.filter_eq_self]
    intro entry hentry
    have hother : entry.1 ∉ writtenNames := fun hname =>
      apart entry.1 hname (Fields.mem_keys_of_mem (List.mem_of_mem_filter hentry))
    simpa using hother
  rw [toObject_eq, List.filter_append, hknown, hextras, List.nil_append]

/-- **Reading a written definition.**  If the time unit is taken from where it has been written,
the definition is the same but for its nulls. -/
theorem ExtrasApart.read_toObject (apart : d.ExtrasApart)
    (unit : timeUnitName d.toObject = "timeUnit") : read d.toObject = .ok d.withoutNulls := by
  have found {key : String} {value : Option Json} (h : (key, value) ∈ d.writtenProperties) :
      d.toObject.get? key = value := apart.get?_toObject h
  have hfield : d.toObject.get? "field" = d.field.map .str := found (by simp [writtenProperties])
  have htype : d.toObject.get? "type" = d.type.map fun type => .str (Vocabulary.word type) :=
    found (by simp [writtenProperties])
  have haggregate : d.toObject.get? "aggregate" = d.aggregate.map Aggregate.toJson :=
    found (by simp [writtenProperties])
  have hbin : d.toObject.get? "bin" = d.bin.map Binning.toJson :=
    found (by simp [writtenProperties])
  have hunit : d.toObject.get? (timeUnitName d.toObject) = d.timeUnit.map .str :=
    unit ▸ found (by simp [writtenProperties])
  have hscale : d.toObject.get? "scale" = d.scale.map .obj := found (by simp [writtenProperties])
  have haxis : d.toObject.get? "axis" = d.axis.map .obj := found (by simp [writtenProperties])
  refine FieldDef.read_eq_ok.mpr ⟨?_, ?_, ?_, ?_, ?_, ?_, ?_, ?_⟩
  · exact Reading.optional_of_map hfield (fun _ => rfl) (by simp)
  · exact Reading.optional_of_map htype MeasureType.read_word (by simp)
  · exact Reading.optional_of_map haggregate Aggregate.read_toJson Aggregate.toJson_ne_null
  · exact Reading.optional_of_map hbin Binning.read_toJson Binning.toJson_ne_null
  · exact Reading.optional_of_map hunit (fun _ => rfl) (by simp)
  · exact Reading.optional_of_map hscale (fun _ => rfl) (by simp)
  · exact Reading.optional_of_map haxis (fun _ => rfl) (by simp)
  · rw [unit]
    exact apart.filter_toObject

/-- A written type is a word, which is looked up in any room that was enough for the type. -/
theorem obstacle?_toObject (h : read properties = .ok d) {room : Room}
    (fits : obstacle? room properties = none) : obstacle? room d.toObject = none := by
  have htype : d.toObject.get? "type" = d.type.map fun type => .str (Vocabulary.word type) :=
    (extrasApart_of_read h).get?_toObject (by simp [writtenProperties])
  obtain ⟨-, hread, -⟩ := FieldDef.read_eq_ok.mp h
  rw [Reading.optional_eq_ok] at hread
  unfold obstacle? at fits ⊢
  rw [htype]
  generalize (properties.get? "type").filter _ = given at hread fits
  generalize d.type = type at hread
  cases hread with
  | none => rfl
  | some _ =>
      rw [Option.bind_some] at fits
      split at fits
      · cases fits
      · rename_i hroom
        simp only [Option.map_some, Option.filter, Json.isNull, Bool.not_false, if_true,
          Option.bind_some, if_neg hroom]
        rfl

theorem Named.definesField_toObject (named : d.Named) (apart : d.ExtrasApart) :
    ChannelDef.definesField d.toObject = true := by
  have hfield : d.toObject.get? "field" = d.field.map .str :=
    apart.get?_toObject (by simp [writtenProperties])
  have haggregate : d.toObject.get? "aggregate" = d.aggregate.map Aggregate.toJson :=
    apart.get?_toObject (by simp [writtenProperties])
  rw [ChannelDef.definesField, hfield, haggregate]
  rcases named with ⟨field, hsome, hne⟩ | hcount
  · simp [hsome, Json.isGiven, hne]
  · simp [hcount, Aggregate.toJson, Json.isText]

/-! ## Hidden time units -/

/-- The object names its time unit `time_unit` beside a null `timeUnit`, so that the null is read
and the time unit is an extra. -/
def HidesTimeUnit (properties : Object) : Prop :=
  ChannelDef.definesField properties = true ∧ properties.get? "timeUnit" = some .null ∧
    ∃ given, ("time_unit", given) ∈ properties ∧ given ≠ .null

/-- The definition has no time unit, but it has one among its extras. -/
def TimeUnitLeft (d : FieldDef) : Prop :=
  d.timeUnit = none ∧ ∃ given, ("time_unit", given) ∈ d.withoutNulls.extras

theorem timeUnitLeft_of_hides (h : read properties = .ok d) (hides : HidesTimeUnit properties) :
    d.TimeUnitLeft := by
  obtain ⟨-, hfirst, given, hgiven, hne⟩ := hides
  have hname : timeUnitName properties = "timeUnit" := timeUnitName_of_first hfirst
  constructor
  · have hunit := timeUnit_of_read h
    rw [hname, Fields.nonNull?, hfirst] at hunit
    generalize d.timeUnit = unit at hunit
    cases hunit
    rfl
  · have hextra : ("time_unit", given) ∈ d.extras := by
      rw [mem_extras_of_read h, knownNames, hname]
      exact ⟨hgiven, by simp⟩
    exact ⟨given, List.mem_filter.mpr ⟨hextra, by simpa [Json.isNull_eq_false] using hne⟩⟩

theorem hides_of_timeUnitLeft (h : read properties = .ok d)
    (defines : ChannelDef.definesField properties = true) (left : d.TimeUnitLeft) :
    HidesTimeUnit properties := by
  obtain ⟨hnone, given, hmem⟩ := left
  obtain ⟨hextra, hgiven⟩ := List.mem_filter.mp hmem
  obtain ⟨hproperty, hknown⟩ := (mem_extras_of_read h).mp hextra
  have hname : timeUnitName properties ≠ "time_unit" := by
    intro heq
    exact hknown (by simp [knownNames, heq])
  refine ⟨defines, ?_, given, hproperty, by simpa [Json.isNull_eq_false] using hgiven⟩
  cases hfirst : properties.get? "timeUnit" with
  | none =>
      obtain ⟨other, hother⟩ := Option.isSome_iff_exists.mp
        ((Fields.isSome_get? properties "time_unit").mpr (Fields.mem_keys_of_mem hproperty))
      exact absurd (timeUnitName_of_other hfirst hother) hname
  | some value =>
      -- whatever is no null would have been read
      have hunit := timeUnit_of_read h
      rw [timeUnitName_of_first hfirst, Fields.nonNull?, hfirst, hnone] at hunit
      cases value with
      | null => rfl
      | _ => cases hunit

theorem ExtrasApart.get?_timeUnit (apart : d.ExtrasApart) :
    d.toObject.get? "timeUnit" = d.timeUnit.map .str :=
  apart.get?_toObject (by simp [writtenProperties])

theorem exists_otherTimeUnit :
    (∃ given, d.toObject.get? "time_unit" = some given) ↔
      ∃ given, ("time_unit", given) ∈ d.withoutNulls.extras := by
  rw [get?_toObject_of_notMem (by decide), ← Option.isSome_iff_exists, Fields.isSome_get?,
    Fields.keys, List.mem_map]
  constructor
  · rintro ⟨⟨name, given⟩, hmem, rfl⟩
    exact ⟨given, hmem⟩
  · rintro ⟨given, hmem⟩
    exact ⟨_, hmem, rfl⟩

/-- A written definition names its time unit as it has been written, unless there is one left among
its extras. -/
theorem ExtrasApart.timeUnitName_toObject (apart : d.ExtrasApart) :
    timeUnitName d.toObject = "timeUnit" ↔ ¬ d.TimeUnitLeft := by
  rw [timeUnitName, Reading.nameOf, apart.get?_timeUnit, TimeUnitLeft, ← exists_otherTimeUnit,
    ← Option.isSome_iff_exists]
  cases d.timeUnit <;> simp

/-- What was left of a time unit is found when the definition is read again. -/
theorem TimeUnitLeft.found {again : FieldDef} (left : d.TimeUnitLeft) (apart : d.ExtrasApart)
    (h : read d.toObject = .ok again) : ∃ unit, again.timeUnit = some unit := by
  obtain ⟨given, hgiven⟩ := exists_otherTimeUnit.mpr left.2
  have hfirst : d.toObject.get? "timeUnit" = none := by
    rw [apart.get?_timeUnit, left.1, Option.map_none]
  have hnull : given.isNull = false := by
    rw [get?_toObject_of_notMem (by decide)] at hgiven
    simpa using List.of_mem_filter (Fields.mem_of_get? hgiven)
  have hunit := timeUnit_of_read h
  rw [timeUnitName_of_other hfirst hgiven, Fields.nonNull?, hgiven] at hunit
  simp only [Option.filter, hnull] at hunit
  generalize again.timeUnit = unit at hunit ⊢
  cases hunit
  exact ⟨_, rfl⟩

end

end FieldDef

/-! ## Definitions of values -/

namespace ValueDef

/-- A definition that has been written is read as itself. -/
theorem ofObject_toObject (properties : Object) :
    ofObject (ofObject properties).toObject = ofObject properties := by
  have hvalue : (ofObject properties).toObject.get? "value" = properties.get? "value" :=
    get?_toObject_ofObject properties "value"
  have hextras : (ofObject properties).toObject.erase "value" = properties.erase "value" := by
    rw [toObject, ofObject, Fields.erase, List.filter_append]
    cases properties.get? "value" <;> simp [Fields.ofOptions, Fields.erase, List.filter_filter]
  rw [ofObject, hvalue, hextras, ofObject]

theorem definesField_toObject (properties : Object) :
    ChannelDef.definesField (ofObject properties).toObject =
      ChannelDef.definesField properties := by
  simp only [ChannelDef.definesField, get?_toObject_ofObject]

end ValueDef

/-! ## Induction along a reading -/

/-- The value is neither an object nor a list. -/
def Json.IsScalar : Json → Prop
  | .obj _ | .arr _ => False
  | _ => True

namespace ChannelDef

theorem itemsToJson_eq_map (channels : List ChannelDef) :
    itemsToJson channels = channels.map toJson := by
  induction channels with
  | nil => rfl
  | cons channel rest ih => rw [itemsToJson, ih, List.map_cons]

theorem read_of_isScalar {value : Json} (scalar : value.IsScalar) :
    read value = .ok (.raw value) := by
  cases value with
  | obj _ => exact absurd scalar not_false
  | arr _ => exact absurd scalar not_false
  | _ => rfl

/-- The cases of an induction over values and the channels they are read as. -/
structure ReadingCases (motive : Json → ChannelDef → Prop) : Prop where
  field : ∀ properties d, definesField properties = true → FieldDef.read properties = .ok d →
    motive (.obj properties) (.field d)
  value : ∀ properties, definesField properties = false →
    motive (.obj properties) (.value (ValueDef.ofObject properties))
  list : ∀ items channels, List.Forall₂ motive items channels → motive (.arr items) (.list channels)
  raw : ∀ value, value.IsScalar → motive value (.raw value)

namespace ReadingCases

variable {motive : Json → ChannelDef → Prop}

mutual

theorem of_read (cases : ReadingCases motive) {value : Json} {channel : ChannelDef}
    (h : read value = .ok channel) : motive value channel := by
  cases value with
  | obj properties =>
      rw [read, readObject] at h
      cases hdefines : definesField properties with
      | true =>
          rw [hdefines, if_pos rfl] at h
          obtain ⟨d, hd, rfl⟩ := Checked.map_eq_ok.mp h
          exact cases.field properties d hdefines hd
      | false =>
          rw [hdefines, if_neg (by decide)] at h
          obtain rfl := Checked.ok.inj h
          exact cases.value properties hdefines
  | arr items =>
      rw [read] at h
      obtain ⟨channels, hitems, rfl⟩ := Checked.map_eq_ok.mp h
      exact cases.list items channels (cases.of_readItems hitems)
  | _ =>
      obtain rfl := Checked.ok.inj h
      exact cases.raw _ trivial

theorem of_readItems (cases : ReadingCases motive) {items : List Json}
    {channels : List ChannelDef} (h : readItems items = .ok channels) :
    List.Forall₂ motive items channels := by
  cases items with
  | nil =>
      obtain rfl := Checked.ok.inj h
      exact .nil
  | cons item rest =>
      rw [readItems] at h
      obtain ⟨first, hfirst, htail⟩ := Checked.andThen_eq_ok.mp h
      obtain ⟨others, hrest, rfl⟩ := Checked.map_eq_ok.mp htail
      exact .cons (cases.of_read hfirst) (cases.of_readItems hrest)

end

end ReadingCases

end ChannelDef

/-! ## Normal forms -/

/-- The objects that are reached through lists. -/
def Json.reached : Json → List Object
  | .obj fields => [fields]
  | .arr items => reachedIn items
  | _ => []
where
  reachedIn : List Json → List Object
    | [] => []
    | item :: rest => item.reached ++ reachedIn rest

theorem Json.reached_arr (items : List Json) :
    (Json.arr items).reached = items.flatMap reached := by
  rw [reached]
  induction items with
  | nil => rfl
  | cons item rest ih => rw [reached.reachedIn, ih, List.flatMap_cons]

theorem Json.IsScalar.reached_eq_nil {value : Json} (scalar : value.IsScalar) :
    value.reached = [] := by
  cases value with
  | obj _ => exact absurd scalar not_false
  | arr _ => exact absurd scalar not_false
  | _ => rfl

namespace ChannelDef

/-- The value is read as a channel, and written as it stands. -/
def IsNormal (value : Json) : Prop :=
  ∃ channel, read value = .ok channel ∧ channel.toJson = value

theorem isNormal_items (items : List Json) :
    (∃ channels, readItems items = .ok channels ∧ channels.map toJson = items) ↔
      ∀ item ∈ items, IsNormal item := by
  induction items with
  | nil => simp [readItems]
  | cons item rest ih =>
      rw [List.forall_mem_cons, ← ih]
      constructor
      · rintro ⟨channels, hread, hwritten⟩
        rw [readItems] at hread
        obtain ⟨first, hfirst, htail⟩ := Checked.andThen_eq_ok.mp hread
        obtain ⟨others, hrest, rfl⟩ := Checked.map_eq_ok.mp htail
        obtain ⟨hitem, hothers⟩ := List.cons.inj hwritten
        exact ⟨⟨first, hfirst, hitem⟩, others, hrest, hothers⟩
      · rintro ⟨⟨first, hfirst, hitem⟩, others, hrest, hothers⟩
        refine ⟨first :: others, ?_, ?_⟩
        · rw [readItems, hfirst, hrest]
          rfl
        · rw [List.map_cons, hitem, hothers]

theorem isNormal_arr (items : List Json) :
    IsNormal (.arr items) ↔ ∀ item ∈ items, IsNormal item := by
  rw [← isNormal_items]
  constructor
  · rintro ⟨channel, hread, hwritten⟩
    rw [read] at hread
    obtain ⟨channels, hitems, rfl⟩ := Checked.map_eq_ok.mp hread
    rw [toJson, itemsToJson_eq_map] at hwritten
    exact ⟨channels, hitems, Json.arr.inj hwritten⟩
  · rintro ⟨channels, hitems, hwritten⟩
    refine ⟨.list channels, ?_, ?_⟩
    · rw [read, hitems]
      rfl
    · rw [toJson, itemsToJson_eq_map, hwritten]

/-- The definition of a field is in normal form as it is written, unless a time unit is left. -/
theorem isNormal_field {d : FieldDef} (named : d.Named) (apart : d.ExtrasApart) :
    IsNormal (.obj d.toObject) ↔ ¬ d.TimeUnitLeft := by
  have hread : read (.obj d.toObject) = (FieldDef.read d.toObject).map field := by
    rw [read, readObject, named.definesField_toObject apart, if_pos rfl]
  constructor
  · rintro ⟨channel, hchannel, hwritten⟩ left
    rw [hread] at hchannel
    obtain ⟨again, hagain, rfl⟩ := Checked.map_eq_ok.mp hchannel
    -- the time unit that is found now is written under a name that was free before
    obtain ⟨unit, hunit⟩ := left.found apart hagain
    have hnew : again.toObject.get? "timeUnit" = some (.str unit) := by
      rw [(FieldDef.extrasApart_of_read hagain).get?_timeUnit, hunit, Option.map_some]
    have hold : d.toObject.get? "timeUnit" = none := by
      rw [apart.get?_timeUnit, left.1, Option.map_none]
    rw [Json.obj.inj hwritten, hold] at hnew
    cases hnew
  · intro hnone
    have hunit := apart.timeUnitName_toObject.mpr hnone
    refine ⟨.field d.withoutNulls, ?_, ?_⟩
    · rw [hread, apart.read_toObject hunit]
      rfl
    · rw [toJson, FieldDef.toObject_withoutNulls]

theorem isNormal_value {properties : Object} (h : definesField properties = false) :
    IsNormal (.obj (ValueDef.ofObject properties).toObject) := by
  refine ⟨.value (ValueDef.ofObject properties), ?_, rfl⟩
  rw [read, readObject, ValueDef.definesField_toObject, h, ValueDef.ofObject_toObject]
  rfl

theorem isNormal_of_isScalar {value : Json} (scalar : value.IsScalar) : IsNormal value :=
  ⟨.raw value, read_of_isScalar scalar, rfl⟩

/-- A channel that has been read is in normal form as it is written, unless a time unit is hidden in
one of the objects. -/
theorem isNormal_toJson {value : Json} {channel : ChannelDef} (h : read value = .ok channel) :
    IsNormal channel.toJson ↔
      ∀ properties ∈ value.reached, ¬ FieldDef.HidesTimeUnit properties := by
  refine ReadingCases.of_read (motive := fun value channel => IsNormal channel.toJson ↔
    ∀ properties ∈ value.reached, ¬ FieldDef.HidesTimeUnit properties) ?_ h
  constructor
  case field =>
    intro properties d defines hread
    rw [toJson, Json.reached, List.forall_mem_singleton, isNormal_field
      (FieldDef.named_of_read hread defines) (FieldDef.extrasApart_of_read hread)]
    exact not_congr ⟨FieldDef.hides_of_timeUnitLeft hread defines,
      FieldDef.timeUnitLeft_of_hides hread⟩
  case value =>
    intro properties hvalue
    rw [toJson, Json.reached, List.forall_mem_singleton]
    refine iff_of_true (isNormal_value hvalue) fun hides => ?_
    rw [hides.1] at hvalue
    cases hvalue
  case list =>
    intro items channels hitems
    rw [toJson, itemsToJson_eq_map, isNormal_arr, Json.reached_arr, List.forall_mem_map]
    induction hitems with
    | nil => simp
    | cons hfirst _ ih =>
        rw [List.forall_mem_cons, hfirst, ih, List.flatMap_cons, List.forall_mem_append]
  case raw =>
    intro value scalar
    rw [toJson, scalar.reached_eq_nil]
    exact iff_of_true (isNormal_of_isScalar scalar) (by simp)

/-- No time unit is hidden in what has been written. -/
theorem not_hidesTimeUnit_of_mem_reached {value : Json} {channel : ChannelDef}
    (h : read value = .ok channel) :
    ∀ properties ∈ channel.toJson.reached, ¬ FieldDef.HidesTimeUnit properties := by
  refine ReadingCases.of_read (motive := fun _ channel =>
    ∀ properties ∈ channel.toJson.reached, ¬ FieldDef.HidesTimeUnit properties) ?_ h
  constructor
  case field =>
    intro properties d _ hread
    rw [toJson, Json.reached, List.forall_mem_singleton]
    rintro ⟨-, hfirst, -⟩
    -- a time unit that is written is a text
    rw [(FieldDef.extrasApart_of_read hread).get?_timeUnit] at hfirst
    cases hunit : d.timeUnit <;> simp [hunit] at hfirst
  case value =>
    intro properties hvalue
    rw [toJson, Json.reached, List.forall_mem_singleton]
    rintro ⟨hfield, -⟩
    rw [ValueDef.definesField_toObject, hvalue] at hfield
    cases hfield
  case list =>
    intro items channels hitems
    rw [toJson, itemsToJson_eq_map, Json.reached_arr]
    induction hitems with
    | nil => simp
    | cons hfirst _ ih =>
        rw [List.map_cons, List.flatMap_cons, List.forall_mem_append]
        exact ⟨hfirst, ih⟩
  case raw =>
    intro value scalar
    rw [toJson, scalar.reached_eq_nil]
    simp

end ChannelDef

/-! ## Channels without fields -/

/-- The values are equal up to the order of the keys in objects that are reached through lists. -/
inductive Json.SameAs : Json → Json → Prop
  | refl (value : Json) : SameAs value value
  | obj {fields others : Object} (h : ∀ key, fields.get? key = others.get? key) :
      SameAs (.obj fields) (.obj others)
  | arr {items others : List Json} (h : List.Forall₂ SameAs items others) :
      SameAs (.arr items) (.arr others)

namespace ChannelDef

/-- Where no object shows a field, what is written is what has been read. -/
theorem sameAs_toJson {value : Json} {channel : ChannelDef} (h : read value = .ok channel)
    (fieldless : ∀ properties ∈ value.reached, definesField properties = false) :
    value.SameAs channel.toJson := by
  revert fieldless
  refine ReadingCases.of_read (motive := fun value channel =>
    (∀ properties ∈ value.reached, definesField properties = false) →
      value.SameAs channel.toJson) ?_ h
  constructor
  case field =>
    intro properties d defines _ fieldless
    rw [Json.reached, List.forall_mem_singleton, defines] at fieldless
    cases fieldless
  case value =>
    intro properties _ _
    exact .obj fun key => (ValueDef.get?_toObject_ofObject properties key).symm
  case list =>
    intro items channels hitems fieldless
    rw [toJson, itemsToJson_eq_map]
    rw [Json.reached_arr] at fieldless
    refine .arr ?_
    induction hitems with
    | nil => exact .nil
    | cons hfirst _ ih =>
        rw [List.flatMap_cons, List.forall_mem_append] at fieldless
        exact .cons (hfirst fieldless.1) (ih fieldless.2)
  case raw =>
    intro value _ _
    exact .refl value

/-! ## Room -/

theorem readWithin_eq_ok {room : Room} {value : Json} {channel : ChannelDef} :
    (readWithin room value).outcome = .ok channel ↔
      (descent room value).failure? = none ∧ read value = .ok channel := by
  rw [readWithin, Logged.outcome_bind, Logged.outcome_pass]
  cases (descent room value).failure? with
  | some failure => simp [Except.bind]
  | none => cases read value <;> simp [Except.bind]

theorem failure?_descentOfItems {room : Room} {items : List Json}
    (fits : ∀ item ∈ items, (descent room item).failure? = none) :
    (descentOfItems room items).failure? = none := by
  induction items with
  | nil => rfl
  | cons item rest ih =>
      obtain ⟨hitem, hrest⟩ := List.forall_mem_cons.mp fits
      exact Descent.failure?_andThen_eq_none hitem (ih hrest)

theorem failure?_descent_obj {room : Room} {fields : Object} (fits : obstacle? room = none)
    (defines : definesField fields = true → FieldDef.obstacle? room fields = none) :
    (descent room (.obj fields)).failure? = none := by
  rw [descent, fits, descentOfObject]
  refine Descent.failure?_andThen_eq_none rfl (Descent.failure?_andThen_eq_none ?_
    (Descent.failure?_ofChecked _))
  rw [Descent.failure?_passing]
  split
  · rename_i hfield
    exact defines hfield
  · rfl

/-- A channel that has found room finds it again as it is written. -/
theorem descent_toJson {value : Json} {channel : ChannelDef} (h : read value = .ok channel)
    {room : Room} (fits : (descent room value).failure? = none) :
    (descent room channel.toJson).failure? = none := by
  have hcomplete : descent room value = .complete :=
    Descent.eq_complete (descent_ne_refused h room) fits
  -- in any room, since the items of a list have less of it
  suffices ∀ room, descent room value = .complete →
      (descent room channel.toJson).failure? = none from this room hcomplete
  refine ReadingCases.of_read (motive := fun value channel => ∀ room,
    descent room value = .complete → (descent room channel.toJson).failure? = none) ?_ h
  constructor
  case field =>
    intro properties d defines hread room hcomplete
    rw [descent, descentOfObject, if_pos defines, Descent.andThen_eq_complete,
      Descent.andThen_eq_complete, Descent.passing_eq_complete,
      Descent.passing_eq_complete] at hcomplete
    obtain ⟨hroom, hfield, -⟩ := hcomplete
    exact failure?_descent_obj hroom fun _ => FieldDef.obstacle?_toObject hread hfield
  case value =>
    intro properties fieldless room hcomplete
    rw [descent, Descent.andThen_eq_complete, Descent.passing_eq_complete] at hcomplete
    refine failure?_descent_obj hcomplete.1 fun hfield => ?_
    rw [ValueDef.definesField_toObject, fieldless] at hfield
    cases hfield
  case list =>
    intro items channels hitems room hcomplete
    rw [descent, Descent.andThen_eq_complete, Descent.passing_eq_complete,
      descentOfItems_eq_complete] at hcomplete
    obtain ⟨hroom, hall⟩ := hcomplete
    rw [toJson, itemsToJson_eq_map, descent, hroom]
    refine Descent.failure?_andThen_eq_none rfl (failure?_descentOfItems ?_)
    rw [List.forall_mem_map]
    clear hroom
    induction hitems with
    | nil => simp
    | cons hfirst _ ih =>
        rw [List.forall_mem_cons] at hall ⊢
        exact ⟨hfirst _ hall.1, ih hall.2⟩
  case raw =>
    intro value _ room hcomplete
    rw [toJson, hcomplete]
    rfl

/-! ## Reading, writing and reading again -/

/-- In the given room, the value is read as a channel and written as it stands. -/
def IsNormalWithin (room : Room) (value : Json) : Prop :=
  ∃ channel, (readWithin room value).outcome = .ok channel ∧ channel.toJson = value

/-- Where there is room for a value, it does not matter how much. -/
theorem isNormalWithin_iff {room : Room} {value : Json}
    (fits : (descent room value).failure? = none) :
    IsNormalWithin room value ↔ IsNormal value := by
  simp [IsNormalWithin, IsNormal, readWithin_eq_ok, fits]

/-- **Written channels are in normal form.**  Let a value be read as a channel, whatever it is and
however deep its lists.  What is written for the channel is read again and written as it stands,
unless one of the objects in the value hides a time unit; after a second reading there is no such
exception.  If no object shows a field, what is written is the value itself. -/
theorem readWithin_toJson {room : Room} {value : Json} {channel : ChannelDef}
    (accepted : (readWithin room value).outcome = .ok channel) :
    (IsNormalWithin room channel.toJson ↔
      ∀ properties ∈ value.reached, ¬ FieldDef.HidesTimeUnit properties) ∧
    (∀ again, (readWithin room channel.toJson).outcome = .ok again →
      IsNormalWithin room again.toJson) ∧
    ((∀ properties ∈ value.reached, definesField properties = false) →
      value.SameAs channel.toJson) := by
  obtain ⟨fits, hread⟩ := readWithin_eq_ok.mp accepted
  have hfits : (descent room channel.toJson).failure? = none := descent_toJson hread fits
  refine ⟨?_, ?_, sameAs_toJson hread⟩
  · rw [isNormalWithin_iff hfits, isNormal_toJson hread]
  · intro again haccepted
    obtain ⟨-, hagain⟩ := readWithin_eq_ok.mp haccepted
    rw [isNormalWithin_iff (descent_toJson hagain hfits), isNormal_toJson hagain]
    exact not_hidesTimeUnit_of_mem_reached hread

/-- The details of a plot: a field with words in capitals and a time unit under its second name, and
a list of a counted field and a value. -/
private def details : Json :=
  .arr [.obj [("sort", .null), ("field", .str "date"), ("type", .str " Temporal"),
      ("time_unit", .str "month"), ("bin", .str "no")],
    .arr [.obj [("aggregate", .str "count"), ("timeUnit", .null)],
      .obj [("scale", .null), ("value", .null)], .int 1]]

theorem details_toJson :
    ∃ channel, (readWithin .direct details).outcome = .ok channel ∧
      channel.toJson = .arr [.obj [("field", .str "date"), ("type", .str "temporal"),
          ("bin", .bool false), ("timeUnit", .str "month")],
        .arr [.obj [("aggregate", .str "count")],
          .obj [("value", .null), ("scale", .null)], .int 1]] ∧
      IsNormalWithin .direct channel.toJson := by
  obtain ⟨channel, hchannel⟩ :
      ∃ channel, (readWithin .direct details).outcome = .ok channel := ⟨_, rfl⟩
  refine ⟨channel, hchannel, ?_, (readWithin_toJson hchannel).1.mpr ?_⟩
  · cases hchannel
    rfl
  · have hreached : details.reached =
        [[("sort", .null), ("field", .str "date"), ("type", .str " Temporal"),
          ("time_unit", .str "month"), ("bin", .str "no")],
         [("aggregate", .str "count"), ("timeUnit", .null)],
         [("scale", .null), ("value", .null)]] := rfl
    rw [hreached]
    simp [FieldDef.HidesTimeUnit, Fields.get?_cons]

/-- A date with a month under the second name of a time unit, and null under the first. -/
private def hiddenMonth : Json :=
  .obj [("field", .str "date"), ("type", .str "temporal"), ("timeUnit", .null),
    ("time_unit", .str "month")]

/-- The month is written as a property like any other, and as the time unit the next time. -/
theorem hiddenMonth_toJson :
    ∃ channel again, (readWithin .direct hiddenMonth).outcome = .ok channel ∧
      channel.toJson = .obj [("field", .str "date"), ("type", .str "temporal"),
        ("time_unit", .str "month")] ∧
      (readWithin .direct channel.toJson).outcome = .ok again ∧
      again.toJson = .obj [("field", .str "date"), ("type", .str "temporal"),
        ("timeUnit", .str "month")] ∧
      ¬ IsNormalWithin .direct channel.toJson := by
  refine ⟨_, _, rfl, rfl, rfl, rfl, ?_⟩
  rintro ⟨other, hother, hwritten⟩
  cases hother
  have hunit : some (Json.str "month") = none :=
    congrArg (fun value => value.get? "timeUnit") hwritten
  cases hunit

end ChannelDef

end LayeredMarks
