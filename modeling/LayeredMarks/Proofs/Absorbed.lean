import LayeredMarks.Proofs.Assembly

/-!
# What an expansion absorbs

A selection, a projection and the channels that an error bar cannot draw leave no trace in the
expanded spec, and neither do the color and the size unless they show a field.  Two specs that
differ only there have the same result or fail for the same reason, and their warnings differ only
in the channels that are dropped: `expand_absorbed`.

## Strategy

It is enough to compare a spec with its own part that is looked at, `UnitSpec.drawn`: specs that
differ only in what is absorbed have this part in common (`drawn_eq`).

* **Warnings.**  Channels that are dropped are reported first, and the part that is looked at has
  none of them.
* **Entries.**  A color or a size without a field contributes no entry (`fieldsBeside_drawn`), so
  the steps of the summary are the same.
* **Layers.**  The summary keeps such a channel, but no layer shows it: layers depend only on what a
  summary shows (`Summary.visible`).
-/

namespace LayeredMarks

/-! ## The part of a spec that is looked at -/

/-- The channels that are looked at whatever they hold. -/
def shownChannels : List String := ["x", "y", "detail", "opacity"]

/-- The channels that are looked at where they show a field. -/
def groupingChannels : List String := ["color", "size"]

/-- Whether a channel of an encoding is looked at. -/
def ChannelDef.isRead (entry : String × ChannelDef) : Bool :=
  entry.1 ∈ shownChannels || entry.1 ∈ groupingChannels && !entry.2.directFields.isEmpty

namespace UnitSpec

/-- The part of a spec that its expansion looks at. -/
def drawn (spec : UnitSpec) : UnitSpec :=
  { spec with
    encoding := spec.encoding.filter ChannelDef.isRead
    selection := .null
    projection := .null }

theorem mem_supportedChannels_iff {name : String} :
    name ∈ supportedChannels ↔ name ∈ shownChannels ∨ name ∈ groupingChannels := by
  simp only [supportedChannels, shownChannels, groupingChannels, List.mem_cons, List.not_mem_nil,
    or_false]
  tauto

theorem mem_supported_of_isRead {entry : String × ChannelDef}
    (h : ChannelDef.isRead entry = true) : entry.1 ∈ supportedChannels := by
  simp only [ChannelDef.isRead, Bool.or_eq_true, Bool.and_eq_true, decide_eq_true_eq] at h
  exact mem_supportedChannels_iff.mpr (h.imp_right And.left)

/-- Of the channels that an error bar draws, only those that may show a field are not looked at. -/
theorem isRead_of_supported {entry : String × ChannelDef} (h : entry.1 ∈ supportedChannels) :
    ChannelDef.isRead entry =
      (decide (entry.1 ∉ groupingChannels) || !entry.2.directFields.isEmpty) := by
  have hdisjoint : ∀ name ∈ shownChannels, name ∉ groupingChannels := by decide
  unfold ChannelDef.isRead
  rcases mem_supportedChannels_iff.mp h with hshown | hgrouping
  · simp [hshown, hdisjoint _ hshown]
  · have hnot : entry.1 ∉ shownChannels := fun hshown => hdisjoint _ hshown hgrouping
    simp [hnot, hgrouping]

theorem onlySupported_drawn (spec : UnitSpec) : spec.drawn.onlySupported = spec.drawn := by
  have hall : spec.drawn.encoding.filter (fun entry => entry.1 ∈ supportedChannels) =
      spec.drawn.encoding := by
    rw [List.filter_eq_self]
    intro entry hentry
    exact decide_eq_true (mem_supported_of_isRead (List.mem_filter.mp hentry).2)
  rw [onlySupported, hall]

theorem droppedChannels_drawn (spec : UnitSpec) : spec.drawn.droppedChannels = [] := by
  have hnone : spec.drawn.encoding.keys.filter (· ∉ supportedChannels) = [] := by
    rw [List.filter_eq_nil_iff]
    intro name hname
    obtain ⟨entry, hentry, rfl⟩ := List.mem_map.mp hname
    simpa using mem_supported_of_isRead (List.mem_filter.mp hentry).2
  rw [droppedChannels, hnone, List.map_nil]

/-- The axes are looked at whatever they hold. -/
theorem get?_drawn (spec : UnitSpec) (axis : Axis) :
    spec.drawn.encoding.get? axis.channel = spec.encoding.get? axis.channel := by
  apply Fields.get?_filter_of_forall
  intro channel
  cases axis <;> rfl

theorem orientation_drawn (spec : UnitSpec) : spec.drawn.orientation = spec.orientation := by
  simp only [orientation, continuousField?, get?_drawn]
  rfl

/-! ## Entries -/

private theorem flatMap_filter_of_nil {α β : Type} {p : α → Bool} {f : α → List β} {as : List α}
    (h : ∀ a ∈ as, p a = false → f a = []) : (as.filter p).flatMap f = as.flatMap f := by
  induction as with
  | nil => rfl
  | cons a rest ih =>
      have hrest := ih fun b hb => h b (List.mem_cons_of_mem _ hb)
      cases hp : p a with
      | true => simp [hp, hrest]
      | false => simp [hp, hrest, h a (List.mem_cons_self ..) hp]

theorem channelsBeside_drawn (spec : UnitSpec) (axis : Axis) :
    spec.drawn.channelsBeside axis =
      (spec.onlySupported.channelsBeside axis).filter ChannelDef.isRead := by
  simp only [channelsBeside, Fields.erase, drawn, onlySupported, List.filter_filter]
  apply List.filter_congr
  intro entry _
  cases hread : ChannelDef.isRead entry with
  | false => simp
  | true => simp [mem_supported_of_isRead hread]

private theorem supported_of_mem_channelsBeside {spec : UnitSpec} {axis : Axis}
    {entry : String × ChannelDef} (h : entry ∈ spec.onlySupported.channelsBeside axis) :
    entry.1 ∈ supportedChannels := by
  simpa using (List.mem_filter.mp (List.mem_of_mem_filter h)).2

/-- **Entries.**  A channel that is not looked at contributes none. -/
theorem fieldsBeside_drawn (spec : UnitSpec) (axis : Axis) :
    spec.drawn.fieldsBeside axis = spec.onlySupported.fieldsBeside axis := by
  rw [fieldsBeside, channelsBeside_drawn, fieldsBeside]
  apply flatMap_filter_of_nil
  intro entry hentry hread
  rw [isRead_of_supported (supported_of_mem_channelsBeside hentry), Bool.or_eq_false_iff] at hread
  simpa using hread.2

end UnitSpec

/-! ## Layers -/

namespace Summary

/-- The summary with those channels only that layers show. -/
def visible (summary : Summary) : Summary := { summary with channels := summary.beside }

theorem encoding_visible (summary : Summary) (part : Part) (column : Option String) :
    summary.visible.encoding part column = summary.encoding part column := by
  have hbeside : summary.visible.beside = summary.beside := by
    simp [beside, visible, List.filter_filter]
  rw [encoding, hbeside, encoding]
  rfl

theorem layersFit_visible (summary : Summary) (room : Room) :
    summary.visible.layersFit room = summary.layersFit room := by
  rw [layersFit, encoding_visible, layersFit]

theorem layers_visible (summary : Summary) (mark : MarkDef) (settings : Settings) :
    summary.visible.layers mark settings = summary.layers mark settings := by
  have hslots : summary.visible.slots = summary.slots := rfl
  unfold layers
  rw [hslots]
  apply List.filterMap_congr
  intro slot _
  rw [layer?_eq, layer?_eq, encoding_visible]

end Summary

namespace UnitSpec

theorem layered_visible (spec : UnitSpec) (settings : Settings) (summary : Summary)
    (own : List Json) :
    spec.layered settings summary.visible own = spec.layered settings summary own := by
  rw [layered, Summary.layers_visible]
  rfl

/-- **Layers.**  What is not looked at is not visible. -/
theorem visible_summaryAround_drawn (spec : UnitSpec) (axis : Axis) (axisDef : FieldDef)
    (center : Center) (extent : Extent) :
    (spec.drawn.summaryAround axis axisDef center extent).visible =
      (spec.onlySupported.summaryAround axis axisDef center extent).visible := by
  have hbeside : (spec.drawn.summaryAround axis axisDef center extent).beside =
      (spec.onlySupported.summaryAround axis axisDef center extent).beside := by
    simp only [Summary.beside, summaryAround, channelsBeside_drawn, List.filter_map,
      List.filter_filter]
    congr 1
    apply List.filter_congr
    intro entry hentry
    rw [isRead_of_supported (supported_of_mem_channelsBeside hentry)]
    cases hgrouping : decide (entry.1 ∉ groupingChannels) <;>
      simp_all [groupingChannels]
  rw [Summary.visible, Summary.visible, hbeside]
  simp only [summaryAround, fieldsBeside_drawn]

theorem aggregateFault?_drawn (room : Room) (spec : UnitSpec) (axis : Axis) :
    spec.drawn.aggregateFault? room axis = spec.onlySupported.aggregateFault? room axis := by
  rw [aggregateFault?, get?_drawn, aggregateFault?, get?_onlySupported]

/-- A channel that is not looked at has no columns to name. -/
theorem namingFault?_drawn (room : Room) (spec : UnitSpec) (axis : Axis) :
    spec.drawn.namingFault? room axis = spec.onlySupported.namingFault? room axis := by
  rw [namingFault?, fieldsBesideWithin, channelsBeside_drawn, namingFault?, fieldsBesideWithin,
    flatMap_filter_of_nil]
  intro entry hentry hread
  rw [isRead_of_supported (supported_of_mem_channelsBeside hentry), Bool.or_eq_false_iff] at hread
  have hnone : entry.2.directFields = [] := by simpa using hread.2
  rw [← ChannelDef.map_snd_directFieldsWithin room, List.map_eq_nil_iff] at hnone
  exact hnone

theorem summaryWithin_drawn (room : Room) (spec : UnitSpec) (orient : Orient) (center : Center)
    (extent : Extent) :
    (spec.drawn.summaryWithin room orient center extent).map Summary.visible =
      (spec.onlySupported.summaryWithin room orient center extent).map Summary.visible := by
  have haxis : spec.drawn.summarizedField orient = spec.onlySupported.summarizedField orient := by
    rw [summarizedField, get?_drawn, summarizedField, get?_onlySupported]
  simp only [summaryWithin, aggregateFault?_drawn, haxis, namingFault?_drawn, Logged.map_bind]
  congr 1
  funext _
  congr 1
  funext axisDef
  congr 1
  funext _
  have hvisible := visible_summaryAround_drawn spec orient.axis axisDef center extent
  rw [summaryOf_eq, summaryOf_eq, fieldsBeside_drawn]
  cases (spec.onlySupported.fieldsBeside orient.axis).all FieldDef.hasSource with
  | false => rfl
  | true => simpa [Logged.ofChecked, Logged.map, Except.map] using hvisible

theorem expandedSummaryWithin_drawn (room : Room) (spec : UnitSpec) (settings : Settings) :
    (spec.expandedSummaryWithin room settings).map Summary.visible =
      .warn spec.droppedChannels >>= fun _ =>
        (spec.drawn.expandedSummaryWithin room settings).map Summary.visible := by
  have hmark : spec.drawn.mark = spec.mark := rfl
  have hwarn : Logged.warn [] = pure () := rfl
  simp only [expandedSummaryWithin, expandedBy, Logged.map_bind, droppedChannels_drawn,
    onlySupported_drawn, hmark, orientation_onlySupported, orientation_drawn, summaryWithin_drawn,
    hwarn, Logged.bind_of_pure]

/-- The expansion of a spec after its summary. -/
private def afterSummary (room : Room) (spec : UnitSpec) (settings : Settings) (summary : Summary) :
    Logged Object := do
  .require (spec.outerFits room)
  let own ← spec.ownTransform
  .require (summary.layersFit room)
  pure (spec.layered settings summary own)

private theorem expandWithin_eq_visible (room : Room) (spec : UnitSpec) (settings : Settings) :
    spec.expandWithin room settings =
      (spec.expandedSummaryWithin room settings).map Summary.visible >>=
        spec.afterSummary room settings := by
  rw [Logged.bind_map]
  simp only [afterSummary, Summary.layersFit_visible, layered_visible]
  rfl

theorem expandWithin_drawn (room : Room) (spec : UnitSpec) (settings : Settings) :
    spec.expandWithin room settings =
      .warn spec.droppedChannels >>= fun _ => spec.drawn.expandWithin room settings := by
  have hafter : spec.drawn.afterSummary room settings = spec.afterSummary room settings := rfl
  rw [expandWithin_eq_visible room spec, expandedSummaryWithin_drawn, Logged.bind_assoc]
  simp only [expandWithin_eq_visible room spec.drawn, hafter]

end UnitSpec

/-! ## Objects -/

namespace Json

/-- Whether the value defines a field. -/
def showsField : Json → Bool
  | obj fields => ChannelDef.definesField fields
  | _ => false

/-- Whether the value defines a field, or is a list with such a value among its items. -/
def holdsField : Json → Bool
  | arr items => items.any showsField
  | other => other.showsField

end Json

/-- Whether an entry of the object under `encoding` is looked at. -/
def isReadEntry (entry : String × Json) : Bool :=
  entry.1 ∈ shownChannels || entry.1 ∈ groupingChannels && entry.2.holdsField

/-- The entries of the object under `encoding`; none if there is no object. -/
def channelsOf (fields : Object) : Object :=
  match fields.get? "encoding" with
  | some (.obj channels) => channels
  | _ => []

/-- The objects of two specs differ only in what an expansion absorbs. -/
structure SameButAbsorbed (first second : Object) : Prop where
  mark : first.get? "mark" = second.get? "mark"
  outer : (first.filter fun entry => entry.1 ∉ UnitSpec.absorbedNames) =
    second.filter fun entry => entry.1 ∉ UnitSpec.absorbedNames
  channels : (channelsOf first).filter isReadEntry = (channelsOf second).filter isReadEntry

namespace ChannelDef

theorem isSome_fieldDef?_of_read {value : Json} {channel : ChannelDef}
    (h : read value = .ok channel) : channel.fieldDef?.isSome = value.showsField := by
  cases value with
  | obj fields =>
      rw [read, readObject] at h
      cases hdefines : definesField fields with
      | true =>
          simp only [hdefines, if_true] at h
          obtain ⟨d, -, rfl⟩ := Checked.map_eq_ok.mp h
          simp [fieldDef?, Json.showsField, hdefines]
      | false =>
          simp only [hdefines, Bool.false_eq_true, if_false, Checked.ok.injEq] at h
          simp [← h, fieldDef?, Json.showsField, hdefines]
  | arr items =>
      rw [read] at h
      obtain ⟨_, -, rfl⟩ := Checked.map_eq_ok.mp h
      rfl
  | _ =>
      simp only [read, Checked.ok.injEq] at h
      simp [← h, fieldDef?, Json.showsField]

private theorem isEmpty_filterMap_of_each {values : List Json} {items : List ChannelDef}
    (h : Checked.each read values = .ok items) :
    (!(items.filterMap fieldDef?).isEmpty) = values.any Json.showsField := by
  induction values generalizing items with
  | nil =>
      obtain rfl : [] = items := Checked.ok.inj h
      rfl
  | cons value rest ih =>
      obtain ⟨item, hitem, htail⟩ := Checked.andThen_eq_ok.mp h
      obtain ⟨tail, hrest, rfl⟩ := Checked.map_eq_ok.mp htail
      have hshows := isSome_fieldDef?_of_read hitem
      rw [List.any_cons, ← hshows, ← ih hrest]
      cases hdef : item.fieldDef? <;> simp [hdef]

/-- What is read holds a definition directly exactly when the value does. -/
theorem isEmpty_directFields_of_read {value : Json} {channel : ChannelDef}
    (h : read value = .ok channel) : (!channel.directFields.isEmpty) = value.holdsField := by
  cases value with
  | arr values =>
      rw [read] at h
      obtain ⟨items, hitems, rfl⟩ := Checked.map_eq_ok.mp h
      rw [readItems_eq_each] at hitems
      exact isEmpty_filterMap_of_each hitems
  | obj fields =>
      have hshows := isSome_fieldDef?_of_read h
      rw [Json.holdsField, ← hshows]
      · cases channel with
        | list items =>
            -- an object is never read as a list
            rw [read, readObject] at h
            split at h
            · obtain ⟨_, -, hfield⟩ := Checked.map_eq_ok.mp h
              simp at hfield
            · simp at h
        | _ => rfl
      · simp
  | _ =>
      simp only [read, Checked.ok.injEq] at h
      simp [← h, directFields, Json.holdsField, Json.showsField]

end ChannelDef

namespace UnitSpec

theorem readChannels_channelsOf {fields : Object} {spec : UnitSpec}
    (h : UnitSpec.read fields = .ok spec) :
    readChannels (channelsOf fields) = .ok spec.encoding := by
  obtain ⟨-, hencoding, -⟩ := UnitSpec.read_eq_ok.mp h
  unfold Reading.withDefault at hencoding
  unfold channelsOf
  cases hvalue : fields.get? "encoding" with
  | none => simpa [hvalue, readChannels, Checked.each] using hencoding
  | some value =>
      rw [hvalue, Checked.under_eq_ok] at hencoding
      cases value with
      | obj channels => exact hencoding
      | null => simpa [readEncoding, readChannels, Checked.each] using hencoding
      | _ => simp [readEncoding, Checked.fail] at hencoding

/-- Specs that differ only in what is absorbed have in common what is looked at. -/
theorem drawn_eq {first second : Object} (same : SameButAbsorbed first second)
    {spec other : UnitSpec} (hfirst : UnitSpec.read first = .ok spec)
    (hsecond : UnitSpec.read second = .ok other) : spec.drawn = other.drawn := by
  have hread {fields : Object} {found : UnitSpec} (h : UnitSpec.read fields = .ok found) :
      readChannels ((channelsOf fields).filter isReadEntry) = .ok found.drawn.encoding := by
    refine Checked.each_filter ?_ (readChannels_channelsOf h)
    intro entry _ hentry
    obtain ⟨channel, hchannel, rfl⟩ := Checked.map_eq_ok.mp hentry
    simp only [isReadEntry, ChannelDef.isRead, ChannelDef.isEmpty_directFields_of_read hchannel]
  have hencoding : spec.drawn.encoding = other.drawn.encoding := by
    have hspec := hread hfirst
    rw [same.channels, hread hsecond] at hspec
    exact (Checked.ok.inj hspec).symm
  obtain ⟨hmark, -, -, -, houter⟩ := UnitSpec.read_eq_ok.mp hfirst
  obtain ⟨hmark', -, -, -, houter'⟩ := UnitSpec.read_eq_ok.mp hsecond
  obtain ⟨value, hvalue, hreadMark⟩ := Reading.required_eq_ok.mp hmark
  obtain ⟨value', hvalue', hreadMark'⟩ := Reading.required_eq_ok.mp hmark'
  have hmarks : spec.mark = other.mark := by
    obtain rfl : value = value' := by
      rw [same.mark, hvalue'] at hvalue
      exact (Option.some.inj hvalue).symm
    exact Checked.ok.inj (hreadMark.symm.trans hreadMark')
  have houters : spec.outer = other.outer := by rw [← houter, ← houter', same.outer]
  simp only [drawn] at hencoding ⊢
  rw [hmarks, houters, hencoding]

end UnitSpec

/-! ## The expansion -/

/-- **What an expansion absorbs.**  Two specs that are read, and differ only in what is absorbed,
have the same outcome.  Each is expanded with the warnings about its own dropped channels, and after
these with the same warnings. -/
theorem expand_absorbed {room : Room} {first second : Object} {spec other : UnitSpec}
    (same : SameButAbsorbed first second)
    (hfirst : (UnitSpec.readWithin (room - 1) first).outcome = .ok spec)
    (hsecond : (UnitSpec.readWithin (room - 1) second).outcome = .ok other)
    (settings : Settings) :
    (expandErrorBarWithin room first settings).outcome =
        (expandErrorBarWithin room second settings).outcome ∧
      ∃ rest,
        (expandErrorBarWithin room first settings).warnings = spec.droppedChannels ++ rest ∧
        (expandErrorBarWithin room second settings).warnings = other.droppedChannels ++ rest := by
  have hdrawn := UnitSpec.drawn_eq same (UnitSpec.readWithin_eq_ok.mp hfirst).2
    (UnitSpec.readWithin_eq_ok.mp hsecond).2
  rw [expandErrorBarWithin_of_read hfirst, expandErrorBarWithin_of_read hsecond,
    UnitSpec.expandWithin_drawn (room - 1) spec, UnitSpec.expandWithin_drawn (room - 1) other,
    ← hdrawn]
  exact ⟨rfl, (spec.drawn.expandWithin (room - 1) settings).warnings, rfl, rfl⟩

/-- The yield of barley by variety. -/
private def plainYield : Object :=
  [("mark", .str errorBar),
   ("encoding", .obj
     [("x", .obj [("field", .str "yield"), ("type", .str "quantitative")]),
      ("y", .obj [("field", .str "variety"), ("type", .str "nominal")])])]

/-- The same with a selection and a projection, a shape for each site, a color and two sizes. -/
private def adornedYield : Object :=
  [("selection", .obj [("brush", .obj [("type", .str "interval")])]),
   ("mark", .str errorBar),
   ("encoding", .obj
     [("color", .obj [("value", .str "red")]),
      ("x", .obj [("field", .str "yield"), ("type", .str "quantitative")]),
      ("shape", .obj [("field", .str "site"), ("type", .str "nominal")]),
      ("y", .obj [("field", .str "variety"), ("type", .str "nominal")]),
      ("size", .arr [.obj [("value", .int 3)], .arr [.obj [("field", .str "area")]]])]),
   ("projection", .str "mercator")]

theorem adornedYield_absorbed :
    ∃ result, (expandErrorBarWithin .direct plainYield .default).outcome = .ok result ∧
      (expandErrorBarWithin .direct adornedYield .default).outcome = .ok result ∧
      (expandErrorBarWithin .direct plainYield .default).warnings = [] ∧
      (expandErrorBarWithin .direct adornedYield .default).warnings =
        [.droppedChannel "shape" errorBar none] := by
  obtain ⟨result, hresult, hwarnings⟩ :
      ∃ result, (expandErrorBarWithin .direct plainYield .default).outcome = .ok result ∧
        (expandErrorBarWithin .direct plainYield .default).warnings = [] :=
    ⟨_, rfl, rfl⟩
  obtain ⟨spec, hspec, hnone⟩ :
      ∃ spec, (UnitSpec.readWithin (.direct - 1) plainYield).outcome = .ok spec ∧
        spec.droppedChannels = [] :=
    ⟨_, rfl, rfl⟩
  obtain ⟨other, hother, hshape⟩ :
      ∃ other, (UnitSpec.readWithin (.direct - 1) adornedYield).outcome = .ok other ∧
        other.droppedChannels = [.droppedChannel "shape" errorBar none] :=
    ⟨_, rfl, rfl⟩
  have same : SameButAbsorbed plainYield adornedYield := ⟨rfl, rfl, rfl⟩
  obtain ⟨hsame, rest, hfirst, hsecond⟩ := expand_absorbed same hspec hother .default
  obtain rfl : rest = [] := by
    rw [hwarnings, hnone] at hfirst
    exact hfirst.symm
  exact ⟨result, hresult, hsame ▸ hresult, hwarnings, by rw [hsecond, hshape]; rfl⟩

end LayeredMarks
