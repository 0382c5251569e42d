import LayeredMarks.Proofs.Assembly

/-!
# Filling in the defaults

What a mark leaves open is decided by the settings, and by a table when it is the orientation.  If
all of that is written into the mark, the expansion stays the same; and then the settings matter
only for the properties that they give to the parts: `expand_filledIn`.

## Strategy

* **Marks.**  `MarkDef.filledIn` writes what was decided into a mark.  A filled-in mark resolves to
  the same center and extent under all settings (`resolve_filledIn`), and it shows the same parts
  (`shows_filledIn`).
* **Specs.**  `expandWithin_congr`: an expansion looks at mark and settings only through the center
  and the extent, the orientation, and the parts that are shown with their properties.
* **Objects.**  `read_filledFields`: writing the decisions into the object of a spec, and reading
  it, gives the spec with the filled-in mark.
-/

namespace LayeredMarks

/-! ## Marks -/

/-- A value for each part, from a function. -/
def PerPart.tabulate {α : Type} (f : Part → α) : PerPart α :=
  ⟨f .bar, f .line, f .point, f .ticks, f .whisker⟩

@[simp] theorem PerPart.get_tabulate {α : Type} (f : Part → α) (part : Part) :
    (tabulate f).get part = f part := by
  cases part <;> rfl

/-- The settings give each part the same properties, whether they show it or not. -/
def Settings.SameProperties (first second : Settings) : Prop :=
  ∀ part, (first.parts.get part).properties = (second.parts.get part).properties

namespace MarkDef

/-- The mark with all decisions written into it. -/
def filledIn (mark : MarkDef) (settings : Settings) (orient : Orient) : MarkDef :=
  { mark with
    center := some (mark.resolve settings).1
    extent := some (mark.resolve settings).2
    orient := some orient
    parts := .tabulate fun part =>
      some ((mark.parts.get part).getD (.ofBool (settings.parts.get part).isDrawn)) }

variable {mark : MarkDef} {settings : Settings} {orient : Orient}

theorem resolve_filledIn (other : Settings) :
    (mark.filledIn settings orient).resolve other = mark.resolve settings := rfl

theorem shows_eq (mark : MarkDef) (settings : Settings) (part : Part) :
    mark.shows settings part =
      ((mark.parts.get part).getD (settings.parts.get part)).isDrawn := by
  unfold shows
  rcases mark.parts.get part with _ | _ | _ | _
  · cases settings.parts.get part <;> rfl
  all_goals rfl

theorem shows_filledIn (other : Settings) (part : Part) :
    (mark.filledIn settings orient).shows other part = mark.shows settings part := by
  rw [shows_eq, shows_eq]
  cases hpart : mark.parts.get part <;> simp [filledIn, hpart]

/-- What is filled in brings no properties along. -/
theorem propertiesOf_filledIn {first second : Settings} (same : first.SameProperties second)
    (part : Part) :
    (mark.filledIn settings orient).propertiesOf first part = mark.propertiesOf second part := by
  have hown :
      (((mark.filledIn settings orient).parts.get part).map PartSetting.properties).getD [] =
        ((mark.parts.get part).map PartSetting.properties).getD [] := by
    cases hpart : mark.parts.get part <;> simp [filledIn, hpart]
  unfold propertiesOf propertiesFor
  rw [setting?_name, setting?_name, hown, same part]
  rfl

end MarkDef

/-! ## Specs -/

theorem Summary.layers_congr {mark other : MarkDef} {settings otherSettings : Settings}
    (shows : ∀ part, mark.shows settings part = other.shows otherSettings part)
    (properties : ∀ part, mark.propertiesOf settings part = other.propertiesOf otherSettings part)
    (summary : Summary) : summary.layers mark settings = summary.layers other otherSettings := by
  unfold layers
  apply List.filterMap_congr
  intro slot _
  rw [layer?_eq, layer?_eq, shows, properties]

namespace UnitSpec

/-- **Specs.**  The mark and the settings matter for four things only. -/
theorem expandWithin_congr {spec other : UnitSpec} {settings otherSettings : Settings}
    (encoding : spec.encoding = other.encoding) (outer : spec.outer = other.outer)
    (orientation : spec.orientation = other.orientation)
    (resolve : spec.mark.resolve settings = other.mark.resolve otherSettings)
    (shows : ∀ part, spec.mark.shows settings part = other.mark.shows otherSettings part)
    (properties : ∀ part,
      spec.mark.propertiesOf settings part = other.mark.propertiesOf otherSettings part)
    (room : Room) : spec.expandWithin room settings = other.expandWithin room otherSettings := by
  have hdropped : spec.droppedChannels = other.droppedChannels := by
    rw [droppedChannels, droppedChannels, encoding]
  have hbelow (orient : Orient) (center : Center) (extent : Extent) :
      spec.onlySupported.summaryWithin room orient center extent =
        other.onlySupported.summaryWithin room orient center extent := by
    unfold summaryWithin aggregateFault? namingFault? fieldsBesideWithin summarizedField summaryOf
      channelsBeside onlySupported
    rw [encoding]
  have hsummary : spec.expandedSummaryWithin room settings =
      other.expandedSummaryWithin room otherSettings := by
    unfold expandedSummaryWithin expandedBy
    simp only [hdropped, resolve, orientation_onlySupported, orientation, hbelow]
  have hlayered (summary : Summary) (own : List Json) :
      spec.layered settings summary own = other.layered otherSettings summary own := by
    rw [layered, layered, passedOn, passedOn, outer, summary.layers_congr shows properties]
  unfold expandWithin outerFits ownTransform
  simp only [hsummary, outer, hlayered]

variable {spec : UnitSpec} {settings : Settings} {orient : Orient}

/-- The spec with all decisions written into its mark. -/
def filledIn (spec : UnitSpec) (settings : Settings) (orient : Orient) : UnitSpec :=
  { spec with mark := spec.mark.filledIn settings orient }

/-- An orientation that was chosen is chosen again when the mark asks for it. -/
theorem orientationOfBoth_of_chosen {own : Option Orient} {x y : FieldDef}
    (chosen : orientationOfBoth own x y = .ok orient) :
    orientationOfBoth (some orient) x y = .ok orient := by
  unfold orientationOfBoth at chosen ⊢
  cases hy : x.aggregate.isNone && y.aggregatesBy errorBar with
  | true => simpa [hy] using chosen
  | false =>
      cases hx : y.aggregate.isNone && x.aggregatesBy errorBar with
      | true => simpa [hy, hx] using chosen
      | false =>
          cases hboth : x.aggregatesBy errorBar && y.aggregatesBy errorBar with
          | true => simp [hy, hx, hboth] at chosen
          | false => simp

theorem orientation_filledIn (chosen : spec.orientation = .ok orient) :
    (spec.filledIn settings orient).orientation = .ok orient := by
  have hfield (axis : Axis) :
      (spec.filledIn settings orient).continuousField? axis = spec.continuousField? axis := rfl
  unfold orientation at chosen ⊢
  rw [hfield, hfield]
  cases hx : spec.continuousField? .x with
  | none =>
      cases hy : spec.continuousField? .y with
      | none => simp [hx, hy] at chosen
      | some y => simpa [hx, hy] using chosen
  | some x =>
      cases hy : spec.continuousField? .y with
      | none => simpa [hx, hy] using chosen
      | some y =>
          simp only [hx, hy] at chosen ⊢
          exact orientationOfBoth_of_chosen chosen

theorem expandWithin_filledIn (chosen : spec.orientation = .ok orient) (room : Room) :
    (spec.filledIn settings orient).expandWithin room settings =
      spec.expandWithin room settings := by
  apply expandWithin_congr
  · rfl
  · rfl
  · rw [orientation_filledIn chosen, chosen]
  · exact MarkDef.resolve_filledIn settings
  · exact fun part => MarkDef.shows_filledIn settings part
  · exact fun part => MarkDef.propertiesOf_filledIn (fun _ => rfl) part

/-- Settings matter for a spec that is filled in only through the properties of the parts. -/
theorem expandWithin_filledIn_congr {first second : Settings} (same : first.SameProperties second)
    (room : Room) :
    (spec.filledIn settings orient).expandWithin room first =
      (spec.filledIn settings orient).expandWithin room second := by
  apply expandWithin_congr rfl rfl rfl
  · rfl
  · intro part
    calc (spec.mark.filledIn settings orient).shows first part
        = spec.mark.shows settings part := MarkDef.shows_filledIn first part
      _ = (spec.mark.filledIn settings orient).shows second part :=
          (MarkDef.shows_filledIn second part).symm
  · intro part
    calc (spec.mark.filledIn settings orient).propertiesOf first part
        = spec.mark.propertiesOf second part := MarkDef.propertiesOf_filledIn same part
      _ = (spec.mark.filledIn settings orient).propertiesOf second part :=
          (MarkDef.propertiesOf_filledIn (fun _ => rfl) part).symm

end UnitSpec

/-! ## Objects -/

/-- The properties of a mark; a text is short for a mark of that type. -/
def markFields : Json → Object
  | .obj properties => properties
  | type => [("type", type)]

namespace MarkDef

/-- What is decided about a mark, under the names of its properties.  Parts that the mark sets
itself are left alone. -/
def decisions (mark : MarkDef) (settings : Settings) (orient : Orient) : Fields (Option Json) :=
  [("center", some (.str (Vocabulary.word (mark.resolve settings).1))),
   ("extent", some (.str (Vocabulary.word (mark.resolve settings).2))),
   ("orient", some (.str (Vocabulary.word orient)))] ++
  Part.all.map fun part => (part.name,
    if (mark.parts.get part).isNone then some (.bool (settings.parts.get part).isDrawn) else none)

end MarkDef

/-- The object of a spec with all decisions written into its mark. -/
def filledFields (fields : Object) (mark : MarkDef) (settings : Settings) (orient : Orient) :
    Object :=
  let properties := markFields ((fields.get? "mark").getD .null)
  fields.put "mark" (.obj (properties.merge (Fields.ofOptions (mark.decisions settings orient))))

section

variable {fields : Object} {mark : MarkDef} {spec : UnitSpec} {settings : Settings}
  {orient : Orient}

theorem UnitSpec.readMark_eq_readFields {value : Json} (h : UnitSpec.readMark value = .ok mark) :
    MarkDef.readFields (markFields value) = .ok mark := by
  cases value with
  | str type => exact h
  | obj properties => exact h
  | _ => simp [readMark, MarkDef.read, Checked.fail] at h

theorem MarkDef.keys_decisions : Fields.keys (mark.decisions settings orient) =
    ["center", "extent", "orient", "bar", "line", "point", "ticks", "whisker"] := rfl

theorem MarkDef.get?_merge_decisions (properties : Object) (key : String) :
    (properties.merge (Fields.ofOptions (mark.decisions settings orient))).get? key =
      (Fields.get? (mark.decisions settings orient) key).join.or (properties.get? key) := by
  have hnodup : (Fields.keys (mark.decisions settings orient)).Nodup := by
    rw [keys_decisions]
    decide
  rw [Fields.get?_merge _ ((Fields.keys_ofOptions_sublist _).nodup hnodup),
    Fields.get?_ofOptions hnodup]

theorem MarkDef.get?_decisions_name (part : Part) :
    (Fields.get? (mark.decisions settings orient) part.name).join =
      if (mark.parts.get part).isNone then some (.bool (settings.parts.get part).isDrawn)
      else none := by
  cases part <;> rfl

/-- Reading gives the decisions back. -/
theorem MarkDef.readFields_merge_decisions {properties : Object}
    (h : MarkDef.readFields properties = .ok mark) :
    MarkDef.readFields
        (properties.merge (Fields.ofOptions (mark.decisions settings orient))) =
      .ok (mark.filledIn settings orient) := by
  obtain ⟨htype, -, -, -, hcolor, hopacity, hparts, hothers⟩ := MarkDef.readFields_eq_ok.mp h
  have hget (key : String) :
      Fields.get? (properties.merge (Fields.ofOptions (mark.decisions settings orient))) key = _ :=
    MarkDef.get?_merge_decisions properties key
  refine MarkDef.readFields_eq_ok.mpr ⟨?_, ?_, ?_, ?_, ?_, ?_, ?_, ?_⟩
  · exact (Reading.withDefault_congr (hget "type") _ _).trans htype
  · refine Reading.optional_of_get? (hget "center") ?_ (by simp)
    cases (mark.resolve settings).1 <;> rfl
  · refine Reading.optional_of_get? (hget "extent") ?_ (by simp)
    cases (mark.resolve settings).2 <;> rfl
  · refine Reading.optional_of_get? (hget "orient") ?_ (by simp)
    cases orient <;> rfl
  · exact (Reading.optional_congr (hget "color") _).trans hcolor
  · exact (Reading.optional_congr (hget "opacity") _).trans hopacity
  · intro part
    have hname := hget part.name
    rw [MarkDef.get?_decisions_name] at hname
    cases hpart : mark.parts.get part with
    | some setting =>
        have hkept : (mark.filledIn settings orient).parts.get part = some setting := by
          simp [MarkDef.filledIn, hpart]
        have hown := hparts part
        rw [hpart] at hname hown
        rw [hkept, ← hown]
        exact Reading.optional_congr hname _
    | none =>
        have hfilled : (mark.filledIn settings orient).parts.get part =
            some (.ofBool (settings.parts.get part).isDrawn) := by
          simp [MarkDef.filledIn, hpart]
        rw [hpart] at hname
        rw [hfilled]
        refine Reading.optional_of_get? hname ?_ (by simp)
        cases (settings.parts.get part).isDrawn <;> rfl
  · rw [Reading.noOthers_eq_ok] at hothers ⊢
    intro key hkey
    rcases (Fields.mem_keys_merge _ _).mp hkey with hown | hdecided
    · exact hothers key hown
    · have hnames : Fields.keys (mark.decisions settings orient) ⊆ propertyNames := by
        rw [MarkDef.keys_decisions]
        decide
      exact hnames ((Fields.keys_ofOptions_sublist _).subset hdecided)

/-- The decisions are words, so nothing that is filled in stands in the way of the reading. -/
theorem MarkDef.obstacle?_merge_decisions {properties : Object}
    (h : MarkDef.readFields properties = .ok mark) (room : Room) :
    MarkDef.obstacle? room
        (.obj (properties.merge (Fields.ofOptions (mark.decisions settings orient)))) = none := by
  obtain ⟨htype, -⟩ := MarkDef.readFields_eq_ok.mp h
  have htypes : (properties.get? "type").filter (fun type => !type.isText errorBar) = none := by
    rw [Reading.withDefault] at htype
    cases hvalue : properties.get? "type" with
    | none => rfl
    | some value =>
        have hread : MarkDef.readType value = .ok () := by
          rw [hvalue] at htype
          exact Checked.under_eq_ok.mp htype
        unfold MarkDef.readType at hread
        split at hread
        · rename_i hname
          simp [hname]
        · cases hread
  have hget (key : String) :
      Fields.get? (properties.merge (Fields.ofOptions (mark.decisions settings orient))) key = _ :=
    MarkDef.get?_merge_decisions properties key
  have hlookup (room : Room) (word : String) :
      Vocabulary.lookupFailure? room (.str word) = none := rfl
  have hkept : Fields.get? (mark.decisions settings orient) "type" = none := rfl
  have hcenter : Fields.get? (mark.decisions settings orient) "center" = some (some (.str _)) := rfl
  have hextent : Fields.get? (mark.decisions settings orient) "extent" = some (some (.str _)) := rfl
  have horient : Fields.get? (mark.decisions settings orient) "orient" = some (some (.str _)) := rfl
  simp [MarkDef.obstacle?, Json.get?, hget, hkept, hcenter, hextent, horient, htypes, hlookup]

theorem UnitSpec.obstacle?_filledFields {room : Room}
    (h : (UnitSpec.readWithin room fields).outcome = .ok spec) :
    UnitSpec.obstacle? room (filledFields fields spec.mark settings orient) = none := by
  obtain ⟨hnone, hread⟩ := UnitSpec.readWithin_eq_ok.mp h
  obtain ⟨hmark, -⟩ := UnitSpec.read_eq_ok.mp hread
  obtain ⟨value, hvalue, hvalueRead⟩ := Reading.required_eq_ok.mp hmark
  have hencoding : (filledFields fields spec.mark settings orient).get? "encoding" =
      fields.get? "encoding" := Fields.get?_put_of_ne _ _ (by decide)
  have hfilled : (filledFields fields spec.mark settings orient).get? "mark" = some _ :=
    Fields.get?_put_self _ _ _
  simp only [UnitSpec.obstacle?, Option.orElse_eq_orElse, Option.orElse_eq_or,
    Option.or_eq_none_iff] at hnone ⊢
  rw [hfilled, hencoding, hvalue]
  exact ⟨MarkDef.obstacle?_merge_decisions (readMark_eq_readFields hvalueRead) room, hnone.2⟩

theorem UnitSpec.read_filledFields (h : UnitSpec.read fields = .ok spec) :
    UnitSpec.read (filledFields fields spec.mark settings orient) =
      .ok (spec.filledIn settings orient) := by
  obtain ⟨hmark, hencoding, hselection, hprojection, houter⟩ := UnitSpec.read_eq_ok.mp h
  have hother {key : String} (hne : key ≠ "mark") :
      (filledFields fields spec.mark settings orient).get? key = fields.get? key :=
    Fields.get?_put_of_ne _ _ hne
  obtain ⟨value, hvalue, hread⟩ := Reading.required_eq_ok.mp hmark
  refine UnitSpec.read_eq_ok.mpr ⟨?_, ?_, ?_, ?_, ?_⟩
  · refine Reading.required_eq_ok.mpr ⟨_, Fields.get?_put_self _ _ _, ?_⟩
    rw [hvalue]
    exact MarkDef.readFields_merge_decisions (readMark_eq_readFields hread)
  · exact (Reading.withDefault_congr (hother (by decide)) _ _).trans hencoding
  · rw [hother (by decide)]
    exact hselection
  · rw [hother (by decide)]
    exact hprojection
  · refine Eq.trans ?_ houter
    exact Fields.filter_put_of_false (p := fun name => decide (name ∉ absorbedNames)) _ _
      (by decide)

end

/-! ## The expansion -/

/-- **Filling in the defaults.**  Writing the decisions into the mark of a spec that is expanded
changes neither the result nor the warnings.  After that, settings that give the parts the same
properties all have the same result and the same warnings. -/
theorem expand_filledIn {room : Room} {fields : Object} {settings : Settings} {result : Object}
    (expanded : (expandErrorBarWithin room fields settings).outcome = .ok result) :
    ∃ (spec : UnitSpec) (orient : Orient),
      UnitSpec.read fields = .ok spec ∧ spec.orientation = .ok orient ∧
      let filled := filledFields fields spec.mark settings orient
      expandErrorBarWithin room filled settings = expandErrorBarWithin room fields settings ∧
      ∀ first second : Settings, first.SameProperties second →
        expandErrorBarWithin room filled first = expandErrorBarWithin room filled second := by
  obtain ⟨spec, orient, -, -, hread, hwithin, horient, -⟩ :=
    expandErrorBarWithin_eq_layered expanded
  have hfilled (other : Settings) :
      expandErrorBarWithin room (filledFields fields spec.mark settings orient) other =
        (spec.filledIn settings orient).expandWithin (room - 1) other := by
    apply expandErrorBarWithin_of_read
    rw [UnitSpec.readWithin_eq_ok]
    exact ⟨UnitSpec.obstacle?_filledFields hwithin, UnitSpec.read_filledFields hread⟩
  refine ⟨spec, orient, hread, horient, ?_, fun first second same => ?_⟩
  · rw [hfilled, expandErrorBarWithin_of_read hwithin]
    exact UnitSpec.expandWithin_filledIn horient (room - 1)
  · rw [hfilled, hfilled]
    exact UnitSpec.expandWithin_filledIn_congr same (room - 1)

/-- The yield of barley by variety, with the whisker hidden. -/
private def hiddenWhisker : Object :=
  [("mark", .obj [("type", .str errorBar), ("whisker", .bool false), ("extent", .null)]),
   ("encoding", .obj
     [("x", .obj [("field", .str "yield"), ("type", .str "quantitative")]),
      ("y", .obj [("field", .str "variety"), ("type", .str "nominal")])])]

theorem hiddenWhisker_filledIn :
    ∃ result, (expandErrorBarWithin .direct hiddenWhisker .default).outcome = .ok result ∧
      ∀ settings : Settings, Settings.SameProperties settings .default →
        (expandErrorBarWithin .direct
          (hiddenWhisker.put "mark" (.obj
            [("type", .str errorBar), ("whisker", .bool false), ("extent", .str "stderr"),
             ("center", .str "mean"), ("orient", .str "horizontal"), ("bar", .bool false),
             ("line", .bool false), ("point", .bool true), ("ticks", .bool false)]))
          settings).outcome = .ok result := by
  obtain ⟨result, hresult⟩ :
      ∃ result, (expandErrorBarWithin .direct hiddenWhisker .default).outcome = .ok result :=
    ⟨_, rfl⟩
  obtain ⟨spec, orient, hread, horient, hsame, hall⟩ := expand_filledIn hresult
  cases hread
  cases horient
  refine ⟨result, hresult, fun settings same => ?_⟩
  rw [← hresult, ← hsame]
  exact congrArg Logged.outcome (hall settings .default same)

end LayeredMarks
