import LayeredMarks.Proofs.NormalForm

/-!
# Where field definitions stand in a summary

A channel may hold lists inside of lists, and what is written for it has the same lists.  At each
position in them there is what was there before, but for the field definitions, which read the
columns of their transforms and make the groups of the summary.

The walk over the channels looks at a channel itself and at the items of its list.  A definition
further inside is written as it has been read: it reads its field instead of the column, and makes
no group (`nestedMonth_notGrouped`).

Main statement: `UnitSpec.summary_positions`.

## Strategy

* **Positions.**  `ChannelDef.at?` and `Json.at?` recurse on the path, so that what has been written
  for a channel is followed item by item: `Parsed.at?_toJson`, and `Parsed.at?_readingColumns` for
  the two outer levels.
* **Definitions.**  `ExtrasApart.isReadIn`: what is written for a definition reads its column, and
  no property is left that asks for a transform.
* **Groups.**  `mem_directFields`: the definitions that make groups are those on the two outer
  levels.
-/

namespace LayeredMarks

/-! ## Positions -/

/-- The items of a list, none for any other value. -/
def Json.items : Json → List Json
  | arr items => items
  | _ => []

/-- What stands at a position in nested lists: the path names an item on each level. -/
def Json.at? (value : Json) : List Nat → Option Json
  | [] => some value
  | i :: path => value.items[i]?.bind fun item => item.at? path

namespace ChannelDef

/-- The items of a list, none for any other channel. -/
def items : ChannelDef → List ChannelDef
  | list items => items
  | _ => []

/-- What stands at a position in nested lists: the path names an item on each level. -/
def at? (channel : ChannelDef) : List Nat → Option ChannelDef
  | [] => some channel
  | i :: path => channel.items[i]?.bind fun item => item.at? path

/-- The definitions that a channel holds directly are those on its two outer levels. -/
theorem mem_directFields {channel : ChannelDef} {d : FieldDef} :
    d ∈ channel.directFields ↔ ∃ path, path.length ≤ 1 ∧ channel.at? path = some (.field d) := by
  constructor
  · intro hd
    cases channel with
    | field own =>
        obtain rfl := List.mem_singleton.mp hd
        exact ⟨[], by simp, rfl⟩
    | list items =>
        obtain ⟨item, hitem, hown⟩ := List.mem_filterMap.mp hd
        obtain ⟨i, hi⟩ := List.mem_iff_getElem?.mp hitem
        obtain rfl := fieldDef?_eq_some.mp hown
        exact ⟨[i], by simp, by simp [at?, ChannelDef.items, hi]⟩
    | _ => simp [directFields] at hd
  · rintro ⟨path, hlength, hd⟩
    rcases path with _ | ⟨i, _ | ⟨j, path⟩⟩
    · obtain rfl := Option.some.inj hd
      exact List.mem_singleton_self d
    · obtain ⟨item, hitem, hfield⟩ := Option.bind_eq_some_iff.mp hd
      obtain rfl := Option.some.inj hfield
      cases channel with
      | list items => exact List.mem_filterMap.mpr ⟨_, List.mem_of_getElem? hitem, rfl⟩
      | _ => simp [ChannelDef.items] at hitem
    · simp at hlength

/-! ## What is written at a position -/

/-- What is written for a channel at a position: field definitions on the two outer levels read
their columns. -/
def writtenAt (path : List Nat) (channel : ChannelDef) : Json :=
  match path with
  | [] => channel.readingColumns
  | [_] => channel.entryReadingColumns
  | _ => channel.toJson

theorem writtenAt_outer {path : List Nat} (d : FieldDef) (h : path.length ≤ 1) :
    writtenAt path (.field d) = .obj d.readingColumn.toObject := by
  rcases path with _ | ⟨_, _ | _⟩
  · rfl
  · rfl
  · simp at h

theorem writtenAt_inner {path : List Nat} (d : FieldDef) (h : 1 < path.length) :
    writtenAt path (.field d) = .obj d.toObject := by
  rcases path with _ | ⟨_, _ | _⟩
  · simp at h
  · simp at h
  · rfl

theorem writtenAt_value (path : List Nat) (d : ValueDef) :
    writtenAt path (.value d) = .obj d.toObject := by
  rcases path with _ | ⟨_, _ | _⟩ <;> rfl

theorem writtenAt_raw (path : List Nat) (value : Json) : writtenAt path (.raw value) = value := by
  rcases path with _ | ⟨_, _ | _⟩ <;> rfl

theorem exists_writtenAt_list (path : List Nat) (items : List ChannelDef) :
    ∃ values, writtenAt path (.list items) = .arr values ∧ values.length = items.length := by
  rcases path with _ | ⟨_, _ | _⟩
  · exact ⟨_, rfl, List.length_map ..⟩
  · exact ⟨_, rfl, by rw [itemsToJson_eq_map, List.length_map]⟩
  · exact ⟨_, rfl, by rw [itemsToJson_eq_map, List.length_map]⟩

namespace Parsed

variable {channel : ChannelDef}

theorem isScalar {value : Json} (h : (ChannelDef.raw value).Parsed) : value.IsScalar := by
  obtain ⟨given, hread⟩ := h
  refine ReadingCases.of_read (motive := fun _ channel =>
    ∀ value, channel = .raw value → value.IsScalar) ?_ hread value rfl
  constructor
  case raw =>
    rintro _ scalar value ⟨⟩
    exact scalar
  all_goals
    intros
    contradiction

theorem of_mem_items (h : channel.Parsed) {item : ChannelDef} (hitem : item ∈ channel.items) :
    item.Parsed := by
  cases channel with
  | list items => exact h.item hitem
  | _ => simp [ChannelDef.items] at hitem

theorem items_toJson (h : channel.Parsed) : channel.toJson.items = channel.items.map toJson := by
  cases channel with
  | list items => exact itemsToJson_eq_map items
  | raw value =>
      have scalar := h.isScalar
      cases value with
      | arr _ => exact absurd scalar not_false
      | _ => rfl
  | _ => rfl

theorem items_entryReadingColumns (h : channel.Parsed) :
    channel.entryReadingColumns.items = channel.items.map toJson := by
  cases channel with
  | field d => rfl
  | _ => exact h.items_toJson

theorem items_readingColumns (h : channel.Parsed) :
    channel.readingColumns.items = channel.items.map entryReadingColumns := by
  cases channel with
  | list items => rfl
  | field d => rfl
  | _ => exact h.items_toJson

/-- Items that are written one by one are found where they stood. -/
private theorem at?_cons {value : Json} {i : Nat} {path : List Nat}
    {write write' : ChannelDef → Json}
    (hitems : value.items = channel.items.map write)
    (hpath : ∀ item ∈ channel.items, (write item).at? path = (item.at? path).map write') :
    value.at? (i :: path) = (channel.at? (i :: path)).map write' := by
  rw [Json.at?, ChannelDef.at?, hitems, List.getElem?_map]
  cases hitem : channel.items[i]? with
  | none => rfl
  | some item => exact hpath item (List.mem_of_getElem? hitem)

theorem at?_toJson (h : channel.Parsed) (path : List Nat) :
    channel.toJson.at? path = (channel.at? path).map toJson := by
  induction path generalizing channel with
  | nil => rfl
  | cons i path ih => exact at?_cons h.items_toJson fun item hitem => ih (h.of_mem_items hitem)

/-- **Positions.**  At every position there is what is written for the channel's own. -/
theorem at?_readingColumns (h : channel.Parsed) (path : List Nat) :
    channel.readingColumns.at? path = (channel.at? path).map (writtenAt path) := by
  rcases path with _ | ⟨i, _ | ⟨j, path⟩⟩
  · rfl
  · exact at?_cons h.items_readingColumns fun item _ => rfl
  · refine at?_cons h.items_readingColumns fun item hitem => ?_
    have hparsed := h.of_mem_items hitem
    exact at?_cons hparsed.items_entryReadingColumns fun inner hinner =>
      (hparsed.of_mem_items hinner).at?_toJson path

/-- What stands in a channel that has been read has been read itself. -/
theorem at? (h : channel.Parsed) {path : List Nat} {inner : ChannelDef}
    (hinner : channel.at? path = some inner) : inner.Parsed := by
  induction path generalizing channel with
  | nil =>
      obtain rfl := Option.some.inj hinner
      exact h
  | cons i path ih =>
      obtain ⟨item, hitem, hrest⟩ := Option.bind_eq_some_iff.mp hinner
      exact ih (h.of_mem_items (List.mem_of_getElem? hitem)) hrest

end Parsed

end ChannelDef

/-! ## Definitions -/

namespace FieldDef

/-- The object reads the column of the definition, and asks for no transform of its own. -/
structure IsReadIn (d : FieldDef) (written : Object) : Prop where
  field : written.get? "field" = some (.str d.column)
  carriedOut : ∀ key ∈ ["aggregate", "bin", "timeUnit"], written.get? key = none

/-- **Definitions.**  What is written for a definition that has been read reads its column. -/
theorem ExtrasApart.isReadIn {d : FieldDef} (apart : d.ExtrasApart) :
    d.IsReadIn d.readingColumn.toObject := by
  have hreading : d.readingColumn.ExtrasApart := apart
  constructor
  · exact hreading.get?_toObject (List.mem_cons_self ..)
  · intro key hkey
    refine hreading.get?_toObject ?_
    simp only [List.mem_cons, List.not_mem_nil, or_false] at hkey
    rcases hkey with rfl | rfl | rfl <;> simp [writtenProperties, readingColumn]

end FieldDef

namespace ChannelDef

/-- The value is written for the channel: it has the same lists, and at each position what was there
before, but for the field definitions on the two outer levels, which read their columns. -/
structure IsWrittenAs (channel : ChannelDef) (shown : Json) : Prop where
  nowhere : ∀ path, channel.at? path = none → shown.at? path = none
  lists : ∀ path items, channel.at? path = some (.list items) →
    ∃ values, shown.at? path = some (.arr values) ∧ values.length = items.length
  outer : ∀ path d, channel.at? path = some (.field d) → path.length ≤ 1 →
    shown.at? path = some (.obj d.readingColumn.toObject) ∧ d.IsReadIn d.readingColumn.toObject
  /-- Further inside, a definition is written as it has been read. -/
  inner : ∀ path d, channel.at? path = some (.field d) → 1 < path.length →
    shown.at? path = some (.obj d.toObject)
  values : ∀ path d, channel.at? path = some (.value d) → shown.at? path = some (.obj d.toObject)
  raws : ∀ path given, channel.at? path = some (.raw given) → shown.at? path = some given

theorem Parsed.isWrittenAs {channel : ChannelDef} (h : channel.Parsed) :
    channel.IsWrittenAs channel.readingColumns := by
  have found {path : List Nat} {inner : ChannelDef} (hinner : channel.at? path = some inner) :
      channel.readingColumns.at? path = some (writtenAt path inner) := by
    rw [h.at?_readingColumns, hinner, Option.map_some]
  constructor
  case nowhere =>
    intro path hnone
    rw [h.at?_readingColumns, hnone, Option.map_none]
  case lists =>
    intro path items hlist
    obtain ⟨values, hvalues, hlength⟩ := exists_writtenAt_list path items
    exact ⟨values, by rw [found hlist, hvalues], hlength⟩
  case outer =>
    intro path d hd hlength
    obtain ⟨properties, -, hread⟩ := (h.at? hd).exists_object
    rw [found hd, writtenAt_outer d hlength]
    exact ⟨rfl, (FieldDef.extrasApart_of_read hread).isReadIn⟩
  case inner =>
    intro path d hd hlength
    rw [found hd, writtenAt_inner d hlength]
  case values =>
    intro path d hd
    rw [found hd, writtenAt_value]
  case raws =>
    intro path given hgiven
    rw [found hgiven, writtenAt_raw]

end ChannelDef

/-! ## The channels of a summary -/

namespace UnitSpec

/-- The group keys are the columns of the definitions without aggregate on the two outer levels. -/
theorem mem_groupby_summaryAround {spec : UnitSpec} {axis : Axis} {axisDef : FieldDef}
    {center : Center} {extent : Extent} {key : String} :
    key ∈ (spec.summaryAround axis axisDef center extent).groupby ↔
      ∃ entry ∈ spec.channelsBeside axis, ∃ path d, path.length ≤ 1 ∧
        entry.2.at? path = some (.field d) ∧ d.aggregate = none ∧ d.column = key := by
  simp only [summaryAround, fieldsBeside, List.mem_map, List.mem_filter, List.mem_flatMap,
    Option.isNone_iff_eq_none, ChannelDef.mem_directFields]
  constructor
  · rintro ⟨d, ⟨⟨entry, hentry, path, hlength, hd⟩, grouping⟩, hkey⟩
    exact ⟨entry, hentry, path, d, hlength, hd, grouping, hkey⟩
  · rintro ⟨entry, hentry, path, d, hlength, hd, grouping, hkey⟩
    exact ⟨d, ⟨⟨entry, hentry, path, hlength, hd⟩, grouping⟩, hkey⟩

/-- **Where field definitions stand in a summary.**  The channels beside the summarized axis are
written in their order and under their names, with the same lists.  Field definitions of a channel
itself, or among the items of its list, read their columns; the groups are those of the ones that
have no aggregate.  All others are written as they have been read. -/
theorem summary_positions {spec : UnitSpec} (parsed : spec.Parsed) {orient : Orient}
    {center : Center} {extent : Extent} {summary : Summary}
    (h : (spec.summary orient center extent).outcome = .ok summary) :
    List.Forall₂ (fun entry written => entry.1 = written.1 ∧ entry.2.IsWrittenAs written.2)
      (spec.channelsBeside orient.axis) summary.channels ∧
    ∀ key, key ∈ summary.groupby ↔
      ∃ entry ∈ spec.channelsBeside orient.axis, ∃ path d, path.length ≤ 1 ∧
        entry.2.at? path = some (.field d) ∧ d.aggregate = none ∧ d.column = key := by
  obtain ⟨axisDef, -, -, rfl⟩ := summary_eq_ok h
  refine ⟨?_, fun key => mem_groupby_summaryAround⟩
  rw [summaryAround, List.forall₂_map_right_iff, List.forall₂_same]
  intro entry hentry
  exact ⟨rfl, (parsed entry (List.mem_of_mem_filter hentry)).isWrittenAs⟩

end UnitSpec

/-- The yield of barley by the details that are given. -/
private def yieldWith (details : List Json) : Object :=
  [("mark", .str errorBar),
   ("encoding", .obj
     [("y", .obj [("field", .str "yield"), ("type", .str "quantitative")]),
      ("detail", .arr details)])]

private def month : Json := .obj [("field", .str "date"), ("timeUnit", .str "month")]

theorem monthAndSite_positions :
    ∃ (spec : UnitSpec) (summary : Summary) (shown : Json) (written : Object),
      UnitSpec.read (yieldWith [month, .arr [.obj [("field", .str "site")], .int 1]]) = .ok spec ∧
      (spec.summary .vertical .mean .stderr).outcome = .ok summary ∧
      summary.channels = [("detail", shown)] ∧
      shown.at? [0] = some (.obj written) ∧ written.get? "field" = some (.str "month_date") ∧
      written.get? "timeUnit" = none ∧ shown.at? [1, 1] = some (.int 1) ∧
      shown.at? [1, 2] = none ∧ "month_date" ∈ summary.groupby := by
  obtain ⟨spec, hspec⟩ : ∃ spec, UnitSpec.read
      (yieldWith [month, .arr [.obj [("field", .str "site")], .int 1]]) = .ok spec := ⟨_, rfl⟩
  obtain ⟨summary, hsummary⟩ :
      ∃ summary, (spec.summary .vertical .mean .stderr).outcome = .ok summary := by
    cases hspec
    exact ⟨_, rfl⟩
  obtain ⟨hchannels, hgroups⟩ :=
    UnitSpec.summary_positions (UnitSpec.parsed_of_read hspec) hsummary
  cases hspec
  cases hsummary
  obtain ⟨⟨-, hshown⟩, -⟩ := List.forall₂_cons.mp hchannels
  obtain ⟨hwritten, hread⟩ := hshown.outer [0] _ rfl (by decide)
  exact ⟨_, _, _, _, rfl, rfl, rfl, hwritten, hread.field,
    hread.carriedOut "timeUnit" (by decide), hshown.raws [1, 1] _ rfl, hshown.nowhere [1, 2] rfl,
    (hgroups "month_date").mpr ⟨_, List.mem_cons_self .., [0], _, by decide, rfl, rfl, rfl⟩⟩

/-- A month inside of two lists is shown as it was given, and makes no groups. -/
theorem nestedMonth_notGrouped :
    ∃ (spec : UnitSpec) (summary : Summary) (channel : ChannelDef) (d : FieldDef) (shown : Json)
      (written : Object),
      UnitSpec.read (yieldWith [.arr [month]]) = .ok spec ∧
      (spec.summary .vertical .mean .stderr).outcome = .ok summary ∧
      spec.encoding.get? "detail" = some channel ∧ channel.at? [0, 0] = some (.field d) ∧
      summary.channels.get? "detail" = some shown ∧ shown.at? [0, 0] = some (.obj written) ∧
      written.get? "field" = some (.str "date") ∧ written.get? "timeUnit" = some (.str "month") ∧
      d.aggregate = none ∧ d.column = "month_date" ∧ summary.groupby = [] :=
  ⟨_, _, _, _, _, _, rfl, rfl, rfl, rfl, rfl, rfl, rfl, rfl, rfl, rfl, rfl⟩

end LayeredMarks
