import LayeredMarks.UnitSpec

/-!
# What a spec guarantees once it is read

The expansion takes for granted that a field definition names its field or counts.  Nothing in the
type `FieldDef` says so; it holds because `ChannelDef.read` takes an object for a field definition
only when it does.  This file carries that fact from the objects of a spec to the definitions that
its channels hold.

Main statements: every channel of a spec that has been read has been read from some value
(`UnitSpec.parsed_of_read`), and hence every field definition in it is named
(`UnitSpec.named_of_read`).
-/

namespace LayeredMarks

open Reading

/-! ## One equation for each field of a record -/

theorem FieldDef.read_eq_ok {fields : Object} {d : FieldDef} :
    FieldDef.read fields = .ok d ↔
      optional fields "field" text = .ok d.field ∧
      optional fields "type" (fun value => .ofExcept (Vocabulary.read value)) = .ok d.type ∧
      optional fields "aggregate" Aggregate.read = .ok d.aggregate ∧
      optional fields "bin" Binning.read = .ok d.bin ∧
      optional fields (timeUnitName fields) text = .ok d.timeUnit ∧
      optional fields "scale" object = .ok d.scale ∧
      optional fields "axis" object = .ok d.axis ∧
      (fields.filter fun entry => entry.1 ∉
        ["field", "type", "aggregate", "bin", timeUnitName fields, "scale", "axis"]) =
          d.extras := by
  simp only [read, Checked.seq_eq_ok, Checked.fmap_eq_ok, Checked.ok.injEq]
  constructor
  · rintro ⟨_, ⟨_, ⟨_, ⟨_, ⟨_, ⟨_, ⟨_, ⟨_, hfield, rfl⟩, _, htype, rfl⟩, _, haggregate, rfl⟩,
      _, hbin, rfl⟩, _, hunit, rfl⟩, _, hscale, rfl⟩, _, haxis, rfl⟩, _, rfl, rfl⟩
    exact ⟨hfield, htype, haggregate, hbin, hunit, hscale, haxis, rfl⟩
  · rintro ⟨hfield, htype, haggregate, hbin, hunit, hscale, haxis, hextras⟩
    exact ⟨_, ⟨_, ⟨_, ⟨_, ⟨_, ⟨_, ⟨_, ⟨_, hfield, rfl⟩, _, htype, rfl⟩, _, haggregate, rfl⟩,
      _, hbin, rfl⟩, _, hunit, rfl⟩, _, hscale, rfl⟩, _, haxis, rfl⟩, _, hextras, rfl⟩

theorem MarkDef.readParts_eq_ok {fields : Object} {parts : PerPart (Option PartSetting)} :
    MarkDef.readParts fields = .ok parts ↔
      ∀ part, optional fields (Part.name part) readSetting = .ok (parts.get part) := by
  simp only [readParts, Checked.seq_eq_ok, Checked.fmap_eq_ok]
  constructor
  · rintro ⟨_, ⟨_, ⟨_, ⟨_, ⟨_, hbar, rfl⟩, _, hline, rfl⟩, _, hpoint, rfl⟩, _, hticks, rfl⟩, _,
      hwhisker, rfl⟩ part
    cases part with
    | bar => exact hbar
    | line => exact hline
    | point => exact hpoint
    | ticks => exact hticks
    | whisker => exact hwhisker
  · intro h
    exact ⟨_, ⟨_, ⟨_, ⟨_, ⟨_, h .bar, rfl⟩, _, h .line, rfl⟩, _, h .point, rfl⟩, _, h .ticks, rfl⟩,
      _, h .whisker, rfl⟩

theorem MarkDef.readFields_eq_ok {fields : Object} {mark : MarkDef} :
    MarkDef.readFields fields = .ok mark ↔
      withDefault fields "type" readType () = .ok () ∧
      optional fields "center" (fun value => .ofExcept (Vocabulary.read value)) = .ok mark.center ∧
      optional fields "extent" (fun value => .ofExcept (Vocabulary.read value)) = .ok mark.extent ∧
      optional fields "orient" (fun value => .ofExcept (Vocabulary.read value)) = .ok mark.orient ∧
      optional fields "color" text = .ok mark.color ∧
      optional fields "opacity" number = .ok mark.opacity ∧
      (∀ part, optional fields (Part.name part) readSetting = .ok (mark.parts.get part)) ∧
      noOthers fields propertyNames = .ok () := by
  simp only [readFields, Checked.seq_eq_ok, Checked.fmap_eq_ok, ← MarkDef.readParts_eq_ok]
  constructor
  · rintro ⟨_, ⟨_, ⟨_, ⟨_, ⟨_, ⟨_, ⟨_, ⟨_, htype, rfl⟩, _, hcenter, rfl⟩, _, hextent, rfl⟩, _,
      horient, rfl⟩, _, hcolor, rfl⟩, _, hopacity, rfl⟩, _, hparts, rfl⟩, _, hothers, rfl⟩
    exact ⟨htype, hcenter, hextent, horient, hcolor, hopacity, hparts, hothers⟩
  · rintro ⟨htype, hcenter, hextent, horient, hcolor, hopacity, hparts, hothers⟩
    exact ⟨_, ⟨_, ⟨_, ⟨_, ⟨_, ⟨_, ⟨_, ⟨_, htype, rfl⟩, _, hcenter, rfl⟩, _, hextent, rfl⟩, _,
      horient, rfl⟩, _, hcolor, rfl⟩, _, hopacity, rfl⟩, _, hparts, rfl⟩, _, hothers, rfl⟩

theorem UnitSpec.read_eq_ok {fields : Object} {spec : UnitSpec} :
    UnitSpec.read fields = .ok spec ↔
      required fields "mark" readMark = .ok spec.mark ∧
      withDefault fields "encoding" readEncoding [] = .ok spec.encoding ∧
      (fields.get? "selection").getD .null = spec.selection ∧
      (fields.get? "projection").getD .null = spec.projection ∧
      (fields.filter fun entry => entry.1 ∉ absorbedNames) = spec.outer := by
  simp only [read, Checked.seq_eq_ok, Checked.fmap_eq_ok]
  constructor
  · rintro ⟨_, ⟨_, hmark, rfl⟩, _, hencoding, rfl⟩
    exact ⟨hmark, hencoding, rfl, rfl, rfl⟩
  · rintro ⟨hmark, hencoding, hselection, hprojection, houter⟩
    refine ⟨_, ⟨_, hmark, rfl⟩, _, hencoding, ?_⟩
    rw [hselection, hprojection, houter]

/-! ## Field definitions are named -/

/-- The definition names a field, or it counts rows and needs none. -/
def FieldDef.Named (d : FieldDef) : Prop :=
  (∃ field, d.field = some field ∧ field ≠ "") ∨ d.aggregate = some (.op "count")

private theorem optional_text_of_given {fields : Object} {key : String} {a : Option String}
    (h : optional fields key text = .ok a) (given : (fields.get? key).any Json.isGiven = true) :
    ∃ s, a = some s ∧ s ≠ "" := by
  obtain ⟨value, hvalue, hgiven⟩ := (Option.any_eq_true _ _).mp given
  rw [optional_eq_ok, hvalue] at h
  cases value with
  | str s =>
      cases h with
      | some hread =>
          have hne : s ≠ "" := by simpa [Json.isGiven] using hgiven
          exact ⟨s, by simpa [text, eq_comm] using hread, hne⟩
  | null => simp [Json.isGiven] at hgiven
  | _ =>
      cases h with
      | some hread => simp [text, Checked.fail] at hread

private theorem optional_aggregate_of_count {fields : Object} {a : Option Aggregate}
    (h : optional fields "aggregate" Aggregate.read = .ok a)
    (counts : (fields.get? "aggregate").any (Json.isText "count") = true) :
    a = some (.op "count") := by
  obtain ⟨value, hvalue, hcount⟩ := (Option.any_eq_true _ _).mp counts
  cases value with
  | str s =>
      obtain rfl : s = "count" := by simpa [Json.isText] using hcount
      have hread : optional fields "aggregate" Aggregate.read = .ok (some (.op "count")) :=
        optional_of_get? hvalue rfl (by simp)
      exact Checked.ok.inj (h.symm.trans hread)
  | _ => simp [Json.isText] at hcount

theorem FieldDef.named_of_read {fields : Object} {d : FieldDef} (h : FieldDef.read fields = .ok d)
    (defines : ChannelDef.definesField fields = true) : d.Named := by
  obtain ⟨hfield, -, haggregate, -⟩ := FieldDef.read_eq_ok.mp h
  rcases (Bool.or_eq_true _ _).mp defines with given | counts
  · exact Or.inl (optional_text_of_given hfield given)
  · exact Or.inr (optional_aggregate_of_count haggregate counts)

/-- A definition without aggregate that is named has a field to read. -/
theorem FieldDef.Named.field_of_grouping {d : FieldDef} (named : d.Named)
    (grouping : d.aggregate = none) : ∃ field, d.field = some field ∧ field ≠ "" := by
  rcases named with hfield | hcount
  · exact hfield
  · rw [grouping] at hcount
    simp at hcount

/-! ## From a value to its channel -/

namespace ChannelDef

theorem readItems_eq_each (items : List Json) : readItems items = Checked.each read items := by
  induction items with
  | nil => rfl
  | cons item rest ih => simp [readItems, Checked.each, ih]

theorem fieldDef?_eq_some {channel : ChannelDef} {d : FieldDef} :
    channel.fieldDef? = some d ↔ channel = .field d := by
  cases channel <;> simp [fieldDef?]

/-- A field definition that has been read is that of an object that defines a field. -/
theorem eq_obj_of_read {value : Json} {d : FieldDef} (h : read value = .ok (.field d)) :
    ∃ properties, value = .obj properties ∧ definesField properties = true ∧
      FieldDef.read properties = .ok d := by
  cases value with
  | obj properties =>
      rw [read, readObject] at h
      split at h
      · rename_i defines
        obtain ⟨own, hown, hd⟩ := Checked.map_eq_ok.mp h
        cases hd
        exact ⟨properties, rfl, defines, hown⟩
      · simp at h
  | arr items =>
      rw [read] at h
      obtain ⟨_, -, hlist⟩ := Checked.map_eq_ok.mp h
      simp at hlist
  | _ => simp [read] at h

/-- The items of a list are read one by one. -/
theorem eq_arr_of_read {value : Json} {items : List ChannelDef} (h : read value = .ok (.list items))
    {item : ChannelDef} (hitem : item ∈ items) :
    ∃ values, value = .arr values ∧ ∃ given ∈ values, read given = .ok item := by
  cases value with
  | arr values =>
      rw [read, readItems_eq_each] at h
      obtain ⟨channels, hitems, hlist⟩ := Checked.map_eq_ok.mp h
      cases hlist
      have hmem : Checked.ok item ∈ values.map read := by
        rw [Checked.each_eq_ok.mp hitems]
        exact List.mem_map_of_mem hitem
      exact ⟨values, rfl, List.mem_map.mp hmem⟩
  | obj properties =>
      rw [read, readObject] at h
      split at h
      · obtain ⟨_, -, hfield⟩ := Checked.map_eq_ok.mp h
        simp at hfield
      · simp at h
  | _ => simp [read] at h

/-- The channel is what some value is read as. -/
def Parsed (channel : ChannelDef) : Prop := ∃ value, read value = .ok channel

namespace Parsed

theorem exists_object {d : FieldDef} (h : (ChannelDef.field d).Parsed) :
    ∃ properties, definesField properties = true ∧ FieldDef.read properties = .ok d := by
  obtain ⟨value, hread⟩ := h
  obtain ⟨properties, -, hproperties⟩ := eq_obj_of_read hread
  exact ⟨properties, hproperties⟩

theorem named {d : FieldDef} (h : (ChannelDef.field d).Parsed) : d.Named := by
  obtain ⟨properties, defines, hread⟩ := h.exists_object
  exact FieldDef.named_of_read hread defines

theorem item {items : List ChannelDef} (h : (list items).Parsed) {item : ChannelDef}
    (hitem : item ∈ items) : item.Parsed := by
  obtain ⟨value, hread⟩ := h
  obtain ⟨_, -, given, -, hgiven⟩ := eq_arr_of_read hread hitem
  exact ⟨given, hgiven⟩

theorem named_of_mem_directFields {channel : ChannelDef} (h : channel.Parsed) {d : FieldDef}
    (hd : d ∈ channel.directFields) : d.Named := by
  cases channel with
  | field own =>
      obtain rfl := List.mem_singleton.mp hd
      exact h.named
  | list items =>
      obtain ⟨item, hitem, hown⟩ := List.mem_filterMap.mp hd
      obtain rfl := fieldDef?_eq_some.mp hown
      exact (h.item hitem).named
  | _ => simp [directFields] at hd

end Parsed

end ChannelDef

/-! ## From a spec to its encoding -/

namespace UnitSpec

/-- Every channel of the spec has been read. -/
def Parsed (spec : UnitSpec) : Prop := ∀ entry ∈ spec.encoding, entry.2.Parsed

/-- A channel of a spec is read from the object under its key `encoding`. -/
theorem mem_encoding_of_read {fields : Object} {spec : UnitSpec}
    (h : UnitSpec.read fields = .ok spec) {entry : String × ChannelDef}
    (hmem : entry ∈ spec.encoding) :
    ∃ channels, fields.get? "encoding" = some (.obj channels) ∧
      ∃ given ∈ channels, ChannelDef.read given.2 = .ok entry.2 := by
  obtain ⟨-, hencoding, -⟩ := UnitSpec.read_eq_ok.mp h
  unfold withDefault at hencoding
  cases hvalue : fields.get? "encoding" with
  | none =>
      have hempty : spec.encoding = [] := by simpa [hvalue, eq_comm] using hencoding
      simp [hempty] at hmem
  | some value =>
      rw [hvalue] at hencoding
      rw [Checked.under_eq_ok] at hencoding
      cases value with
      | null =>
          have hempty : spec.encoding = [] := by simpa [readEncoding, eq_comm] using hencoding
          simp [hempty] at hmem
      | obj channels =>
          rw [readEncoding, readChannels, Checked.each_eq_ok] at hencoding
          have hread : Checked.ok entry ∈ spec.encoding.map Checked.ok :=
            List.mem_map_of_mem hmem
          rw [← hencoding] at hread
          obtain ⟨given, hgiven, hentry⟩ := List.mem_map.mp hread
          obtain ⟨channel, hchannel, rfl⟩ := Checked.map_eq_ok.mp hentry
          exact ⟨channels, rfl, given, hgiven, hchannel⟩
      | _ => simp [readEncoding, Checked.fail] at hencoding

theorem parsed_of_read {fields : Object} {spec : UnitSpec} (h : UnitSpec.read fields = .ok spec) :
    spec.Parsed := by
  intro entry hmem
  obtain ⟨_, -, given, -, hgiven⟩ := mem_encoding_of_read h hmem
  exact ⟨given.2, hgiven⟩

/-- Every field definition that a channel of the spec holds directly is named. -/
def Named (spec : UnitSpec) : Prop :=
  ∀ entry ∈ spec.encoding, ∀ d ∈ entry.2.directFields, d.Named

theorem Parsed.named {spec : UnitSpec} (parsed : spec.Parsed) : spec.Named :=
  fun entry hentry _ hd => (parsed entry hentry).named_of_mem_directFields hd

theorem named_of_read {fields : Object} {spec : UnitSpec} (h : UnitSpec.read fields = .ok spec) :
    spec.Named :=
  (parsed_of_read h).named

end UnitSpec

end LayeredMarks
