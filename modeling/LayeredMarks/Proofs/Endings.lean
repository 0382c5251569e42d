import LayeredMarks.Expansion.Nesting
import LayeredMarks.Proofs.Pipeline

/-!
# How an expansion ends

A spec is expanded, or there is a reason why not.  This file lists the reasons in the order in which
they are looked for, and proves that there is no other: `Registry.expand_ending`.

## Strategy

The stages of an expansion are sequenced by `>>=`, so the outcome is that of the first stage that
fails.  Each stage gets one lemma that says when it fails.

* **The mark.**  `expand_of_namesErrorBar`: only the error bar has an expander.
* **The orientation.**  `orientation_cases`: an axis that is chosen shows a continuous field, so
  that the summary never meets an axis without one.
* **The summary.**  `expandedSummaryWithin_outcome`: the definitions of a spec that has been read
  are named (`UnitSpec.named_of_read`), hence no step of the pipeline lacks its field, and all that
  can be missing is the text of a name.
* **The spec's own transform.**  `transformEntries_eq`: only `true` and numbers other than zero are
  given without having entries.

What has no text and what there is no room for are the reasons that have nothing to do with the
grammar of specs: values are shown in complaints, warnings and names, and lists of channels, outer
fields and the encodings of layers each need room.
-/

namespace LayeredMarks

/-! ## The mark -/

/-- Whether the mark of a spec is the error bar: a text, or an object with that type. -/
def namesErrorBar (fields : Object) : Bool :=
  let mark := (fields.get? "mark").getD .null
  mark.isText errorBar || (mark.get? "type").any (Json.isText errorBar)

private theorem isText_iff {text : String} {value : Json} :
    value.isText text = true ↔ value = .str text := by
  cases value <;> simp [Json.isText]

namespace Registry

theorem namesErrorBar_iff {fields : Object} :
    namesErrorBar fields = true ↔ typeValue fields = .str errorBar := by
  unfold namesErrorBar typeValue
  cases (fields.get? "mark").getD .null with
  | obj properties =>
      cases htype : Fields.get? properties "type" with
      | none => simp [Json.isText, Json.get?, htype]
      | some type => simpa [Json.isText, Json.get?, htype] using isText_iff
  | str text => simp [Json.isText, Json.get?]
  | _ => simp [Json.isText, Json.get?]

/-- Why the mark of a spec without a mark type cannot be shown in a given room, if it cannot. -/
def markFault? (room : Room) (fields : Object) : Option Json.WritingFault :=
  match typeValue fields with
  | .str _ => none
  | found => found.writingFault? .message room

/-- A spec that has been read from a text can be shown where it has no mark type. -/
theorem markFault?_of_text {room : Nat} {text : String} {fields : Object}
    (h : Json.read room text = .ok (.obj fields)) : markFault? (room - 3 + 1) fields = none := by
  have hshown : Json.HasText (room - 3 + 1) (typeValue fields) := by
    unfold typeValue
    cases hmark : fields.get? "mark" with
    | none => rfl
    | some mark =>
        have hmark := (Json.hasText_of_read h).get? hmark
        cases mark with
        | obj properties =>
            simp only [Option.getD_some]
            cases htype : Fields.get? properties "type" with
            | none => rfl
            | some type => exact (hmark.get? htype).mono (by omega)
        | _ => exact hmark.mono (by omega)
  unfold markFault?
  split
  · rfl
  · exact hshown

theorem expand_of_namesErrorBar {fields : Object} (h : namesErrorBar fields = true) (room : Room)
    (settings : Settings) :
    (initialWithin room).expand fields settings =
      match Settings.configurationFault? (room - 1) (ownConfiguration fields) with
      | some fault => .fail (.unshown fault)
      | none =>
        expandErrorBarWithin (room - 1) fields (settings.configure (ownConfiguration fields)) := by
  rw [expand, markType, namesErrorBar_iff.mp h]
  simp only [initialWithin, Fields.get?_cons, if_true, Settings.configureWithin]
  cases Settings.configurationFault? (room - 1) (ownConfiguration fields) <;> rfl

theorem expand_of_not_namesErrorBar {fields : Object} (h : namesErrorBar fields = false)
    (room : Room) (settings : Settings) :
    match markFault? (room - 3 + 1) fields with
    | some fault => (initialWithin room).expand fields settings = .fail (.unshown fault)
    | none => ∃ failure, (initialWithin room).expand fields settings = .fail (.spec failure) := by
  have hother : typeValue fields ≠ .str errorBar := by
    intro htype
    rw [namesErrorBar_iff.mpr htype] at h
    simp at h
  rw [expand, markType, markFault?]
  cases hvalue : typeValue fields with
  | str name =>
      have hname : name ≠ errorBar := by
        rintro rfl
        exact hother hvalue
      refine ⟨.unknownMark name, ?_⟩
      simp [initialWithin, Fields.get?_cons, hname]
  | _ =>
      dsimp only [initialWithin]
      rw [← hvalue]
      cases Json.writingFault? .message (room - 3 + 1) (typeValue fields) with
      | some fault => rfl
      | none => exact ⟨_, rfl⟩

/-- What the registry expands has the mark of an error bar, and its expander is asked for it with
the spec's own configuration laid over the settings. -/
theorem expand_eq_ok {room : Room} {fields : Object} {settings : Settings} {result : Object}
    (expanded : ((initialWithin room).expand fields settings).outcome = .ok result) :
    namesErrorBar fields = true ∧
      (initialWithin room).expand fields settings = expandErrorBarWithin (room - 1) fields
        (settings.configure (ownConfiguration fields)) := by
  cases hmark : namesErrorBar fields with
  | false =>
      have hfailed := expand_of_not_namesErrorBar hmark room settings
      split at hfailed
      · rw [hfailed] at expanded
        cases expanded
      · obtain ⟨failure, hfailure⟩ := hfailed
        rw [hfailure] at expanded
        cases expanded
  | true =>
      have hexpand := expand_of_namesErrorBar hmark room settings
      split at hexpand
      · rw [hexpand] at expanded
        cases expanded
      · exact ⟨rfl, hexpand⟩

end Registry

/-! ## The orientation -/

namespace UnitSpec

theorem continuousField?_eq_some {spec : UnitSpec} {axis : Axis} {d : FieldDef} :
    spec.continuousField? axis = some d ↔
      spec.encoding.get? axis.channel = some (.field d) ∧ d.isContinuous = true := by
  unfold continuousField?
  rw [Option.filter_eq_some_iff]
  refine and_congr_left fun _ => ?_
  simp [Option.bind_eq_some_iff, ChannelDef.fieldDef?_eq_some]

/-- Neither axis shows a continuous field. -/
def hasNoContinuousAxis (spec : UnitSpec) : Bool :=
  (spec.continuousField? .x).isNone && (spec.continuousField? .y).isNone

/-- Both axes show continuous fields, and both are singled out. -/
def summarizesBoth (spec : UnitSpec) : Bool :=
  (spec.continuousField? .x).any (FieldDef.aggregatesBy · errorBar) &&
    (spec.continuousField? .y).any (FieldDef.aggregatesBy · errorBar)

/-- There are two reasons for having no orientation; otherwise it is that of a continuous axis. -/
theorem orientation_cases (spec : UnitSpec) :
    (spec.hasNoContinuousAxis = true ∧ spec.orientation = .error .noContinuousAxis) ∨
    (spec.hasNoContinuousAxis = false ∧ spec.summarizesBoth = true ∧
      spec.orientation = .error .bothSummarized) ∨
    (spec.hasNoContinuousAxis = false ∧ spec.summarizesBoth = false ∧
      ∃ orient d, spec.orientation = .ok orient ∧ spec.continuousField? orient.axis = some d) := by
  unfold hasNoContinuousAxis summarizesBoth orientation
  cases hx : spec.continuousField? .x with
  | none =>
      cases hy : spec.continuousField? .y with
      | none => exact Or.inl ⟨rfl, rfl⟩
      | some y => exact Or.inr (Or.inr ⟨rfl, rfl, .vertical, y, rfl, hy⟩)
  | some x =>
      cases hy : spec.continuousField? .y with
      | none => exact Or.inr (Or.inr ⟨rfl, by simp, .horizontal, x, rfl, hx⟩)
      | some y =>
          -- both axes are continuous, so whichever is chosen shows a continuous field
          have hany (orient : Orient) : ∃ d, spec.continuousField? orient.axis = some d := by
            cases orient with
            | vertical => exact ⟨y, hy⟩
            | horizontal => exact ⟨x, hx⟩
          dsimp only [orientationOfBoth, Option.any_some]
          cases hboth : x.aggregatesBy errorBar && y.aggregatesBy errorBar with
          | true =>
              have hnot : x.aggregate.isNone = false ∧ y.aggregate.isNone = false := by
                simp only [Bool.and_eq_true, FieldDef.aggregatesBy] at hboth
                cases hxa : x.aggregate <;> cases hya : y.aggregate <;> simp_all
              exact Or.inr (Or.inl ⟨rfl, rfl, by simp [hnot]⟩)
          | false =>
              refine Or.inr (Or.inr ⟨rfl, rfl, ?_⟩)
              simp only [Bool.false_eq_true, if_false]
              split
              · exact ⟨.vertical, y, rfl, hy⟩
              · split
                · exact ⟨.horizontal, x, rfl, hx⟩
                · obtain ⟨d, hd⟩ := hany (spec.mark.orient.getD .vertical)
                  exact ⟨_, d, rfl, hd⟩

/-! ## The summary -/

/-- Axes are never dropped. -/
theorem get?_onlySupported (spec : UnitSpec) (axis : Axis) :
    spec.onlySupported.encoding.get? axis.channel = spec.encoding.get? axis.channel := by
  have hsupported : axis.channel ∈ supportedChannels := by cases axis <;> decide
  exact Fields.get?_filter (p := fun name => name ∈ supportedChannels) spec.encoding
    (by simpa using hsupported)

theorem continuousField?_onlySupported (spec : UnitSpec) (axis : Axis) :
    spec.onlySupported.continuousField? axis = spec.continuousField? axis := by
  rw [continuousField?, get?_onlySupported, continuousField?]

theorem orientation_onlySupported (spec : UnitSpec) :
    spec.onlySupported.orientation = spec.orientation := by
  unfold orientation
  rw [continuousField?_onlySupported, continuousField?_onlySupported]
  rfl

theorem named_onlySupported {spec : UnitSpec} (named : spec.Named) : spec.onlySupported.Named :=
  fun entry hentry => named entry (List.mem_of_mem_filter hentry)

/-- A summary that is expanded in a given room is the summary. -/
theorem expandedSummary_of_within {room : Room} {spec : UnitSpec} {settings : Settings}
    {summary : Summary} (h : (spec.expandedSummaryWithin room settings).outcome = .ok summary) :
    (spec.expandedSummary settings).outcome = .ok summary := by
  obtain ⟨_, hdropped, h⟩ := Logged.outcome_bind_eq_ok.mp h
  obtain ⟨_, hpair, h⟩ := Logged.outcome_bind_eq_ok.mp h
  obtain ⟨orient, horient, h⟩ := Logged.outcome_bind_eq_ok.mp h
  exact Logged.outcome_bind_eq_ok.mpr ⟨_, hdropped, Logged.outcome_bind_eq_ok.mpr
    ⟨_, hpair, Logged.outcome_bind_eq_ok.mpr ⟨orient, horient, summary_of_summaryWithin h⟩⟩⟩

/-- Why an aggregate cannot be shown or a column cannot be named for the summary of a spec, if the
spec has an orientation and that is so. -/
def summaryFault? (room : Room) (spec : UnitSpec) : Option Json.WritingFault :=
  match spec.orientation with
  | .ok orient =>
    spec.onlySupported.aggregateFault? room orient.axis <|>
      spec.onlySupported.namingFault? room orient.axis
  | .error _ => none

/-- A spec that has been read from a text can be shown wherever its summary shows it. -/
theorem summaryFault?_of_text {room : Nat} {text : String} {fields : Object} {spec : UnitSpec}
    (htext : Json.read room text = .ok (.obj fields)) (hread : UnitSpec.read fields = .ok spec) :
    spec.summaryFault? (room - 3) = none := by
  have hshown := (isShown_of_text htext hread).onlySupported
  unfold summaryFault?
  split
  · rw [hshown.aggregateFault?_eq_none (Nat.sub_le_sub_left (by decide) room),
      hshown.namingFault?_eq_none (fun pos => by omega)]
    rfl
  · rfl

/-- The summary of a spec that is named is never refused: it fails with its orientation, or where
something has no text, or not at all. -/
theorem expandedSummaryWithin_outcome {spec : UnitSpec} (named : spec.Named) (room : Room)
    (settings : Settings) :
    (∀ failure, spec.orientation = .error failure →
      (spec.expandedSummaryWithin room settings).outcome = .error (.orientation failure)) ∧
    (∀ orient d, spec.orientation = .ok orient → spec.continuousField? orient.axis = some d →
      (spec.expandedSummaryWithin room settings).outcome =
        match spec.summaryFault? (room - 2) with
        | some fault => .error (.unshown fault)
        | none =>
          .ok (spec.onlySupported.summaryAround orient.axis { d with aggregate := none }
            (spec.mark.resolve settings).1 (spec.mark.resolve settings).2)) := by
  constructor
  · intro failure hfailure
    simp [expandedSummaryWithin, expandedBy, Logged.outcome_bind, Except.bind,
      orientation_onlySupported, hfailure, Logged.ofOrientation, Logged.fail]
  · intro orient d horient hd
    rw [← continuousField?_onlySupported] at hd
    have shown := (continuousField?_eq_some.mp hd).1
    have hwithin := summaryWithin_outcome room spec.onlySupported orient
      (spec.mark.resolve settings).1 (spec.mark.resolve settings).2 shown
    have hsummary := summary_outcome spec.onlySupported orient (spec.mark.resolve settings).1
      (spec.mark.resolve settings).2 shown
    rw [List.all_eq_true.mpr
      (hasSource_of_mem_fieldsBeside (named_onlySupported named) orient.axis)] at hsummary
    have hstages : (spec.expandedSummaryWithin room settings).outcome =
        (spec.onlySupported.summaryWithin room orient (spec.mark.resolve settings).1
          (spec.mark.resolve settings).2).outcome := by
      simp [expandedSummaryWithin, expandedBy, Logged.outcome_bind, Except.bind,
        orientation_onlySupported, horient, Logged.ofOrientation]
    rw [hstages, hwithin, summaryFault?, horient, hsummary]
    rfl

end UnitSpec

/-! ## The spec's own transform -/

/-- The value is given, but it is none that has entries: `true`, a number other than zero, or a date
or time, which no spec in JSON holds. -/
def Json.isStray : Json → Bool
  | bool value => value
  | int n => n != 0
  | double x => !x.isZero
  | moment _ => true
  | _ => false

theorem transformEntries_eq (value : Json) :
    transformEntries value =
      if value.isStray then .error (.transformNotIterable value)
      else .ok (value.entries?.getD []) := by
  cases value with
  | bool b => cases b <;> rfl
  | _ => simp [transformEntries, Json.entries?, Json.isGiven, Json.isStray]

theorem UnitSpec.outer_get?_of_read {fields : Object} {spec : UnitSpec}
    (h : UnitSpec.read fields = .ok spec) {key : String} (hkey : key ∉ absorbedNames) :
    spec.outer.get? key = fields.get? key := by
  obtain ⟨-, -, -, -, houter⟩ := UnitSpec.read_eq_ok.mp h
  rw [← houter]
  exact Fields.get?_filter (p := fun name => name ∉ absorbedNames) fields (by simpa using hkey)

/-! ## The settings of parts -/

/-- A setting as it is kept between reading a mark and drawing its parts. -/
def PartSetting.kept : Option PartSetting → Json
  | none => .null
  | some hidden => .bool false
  | some shown => .bool true
  | some (styled properties) => .obj properties

theorem PartSetting.read_kept (setting : Option PartSetting) :
    PartSetting.read (PartSetting.kept setting) = .ok setting := by
  rcases setting with _ | _ | _ | _ <;> rfl

theorem PartSetting.readConfigured_kept (setting : PartSetting) :
    PartSetting.readConfigured (PartSetting.kept (some setting)) = .ok setting := by
  rw [readConfigured, read_kept]
  rfl

/-! ## Readings that break off -/

section Depth

variable {failure : Failure}

theorem Json.isDepth_of_showingFailure? {room : Room} {value : Json}
    (h : value.showingFailure? room = some failure) : failure.isDepth = true := by
  unfold showingFailure? at h
  split at h
  · cases h
    rfl
  · cases h

theorem Vocabulary.isDepth_of_lookupFailure? {room : Room} {value : Json}
    (h : lookupFailure? room value = some failure) : failure.isDepth = true := by
  unfold lookupFailure? at h
  split at h
  · exact Json.isDepth_of_showingFailure? h
  · cases h

theorem MarkDef.isDepth_of_obstacle? {room : Room} {mark : Json}
    (h : MarkDef.obstacle? room mark = some failure) : failure.isDepth = true := by
  have hlookup {key : String}
      (h : (mark.get? key).bind (Vocabulary.lookupFailure? (room - 5)) = some failure) :
      failure.isDepth = true := by
    obtain ⟨value, -, hvalue⟩ := Option.bind_eq_some_iff.mp h
    exact Vocabulary.isDepth_of_lookupFailure? hvalue
  simp only [obstacle?, Option.orElse_eq_orElse, Option.orElse_eq_or, Option.or_eq_some_iff] at h
  rcases h with htype | ⟨-, h | ⟨-, h | ⟨-, h⟩⟩⟩
  · obtain ⟨type, -, htype⟩ := Option.bind_eq_some_iff.mp htype
    exact Json.isDepth_of_showingFailure? htype
  all_goals exact hlookup h

theorem FieldDef.isDepth_of_obstacle? {room : Room} {fields : Object}
    (h : FieldDef.obstacle? room fields = some failure) : failure.isDepth = true := by
  obtain ⟨type, -, h⟩ := Option.bind_eq_some_iff.mp h
  split at h
  · cases h
    rfl
  · exact Vocabulary.isDepth_of_lookupFailure? h

namespace ChannelDef

theorem isDepth_of_obstacle? {room : Room} (h : obstacle? room = some failure) :
    failure.isDepth = true := by
  unfold obstacle? at h
  split at h
  · cases h
    rfl
  · split at h
    · cases h
      rfl
    · cases h

theorem isDepth_of_descentOfObject {room : Room} {fields : Object}
    (h : descentOfObject room fields = .broken failure) : failure.isDepth = true := by
  rcases Descent.andThen_eq_broken.mp h with h | ⟨-, h⟩
  · split at h
    · exact FieldDef.isDepth_of_obstacle? (Descent.passing_eq_broken.mp h)
    · cases h
  · exact absurd h (Descent.ofChecked_ne_broken _ _)

mutual

theorem isDepth_of_descent {room : Room} :
    (value : Json) → descent room value = .broken failure → failure.isDepth = true
  | .arr items, h => by
    rcases Descent.andThen_eq_broken.mp h with h | ⟨-, h⟩
    · exact isDepth_of_obstacle? (Descent.passing_eq_broken.mp h)
    · exact isDepth_of_descentOfItems items h
  | .obj fields, h => by
    rcases Descent.andThen_eq_broken.mp h with h | ⟨-, h⟩
    · exact isDepth_of_obstacle? (Descent.passing_eq_broken.mp h)
    · exact isDepth_of_descentOfObject h
  | .null, h | .bool _, h | .int _, h | .double _, h | .str _, h | .moment _, h =>
    isDepth_of_obstacle? (Descent.passing_eq_broken.mp h)

theorem isDepth_of_descentOfItems {room : Room} :
    (items : List Json) → descentOfItems room items = .broken failure → failure.isDepth = true
  | [], h => nomatch h
  | item :: rest, h => by
    rcases Descent.andThen_eq_broken.mp h with h | ⟨-, h⟩
    · exact isDepth_of_descent item h
    · exact isDepth_of_descentOfItems rest h

end

end ChannelDef

/-- A spec that is not read to its end is nested too deep. -/
theorem UnitSpec.isDepth_of_obstacle? {room : Room} {fields : Object}
    (h : UnitSpec.obstacle? room fields = some failure) : failure.isDepth = true := by
  simp only [obstacle?, Option.orElse_eq_orElse, Option.orElse_eq_or, Option.or_eq_some_iff] at h
  rcases h with hmark | ⟨-, hchannels⟩
  · exact MarkDef.isDepth_of_obstacle? hmark
  · have hbroken := Descent.failure?_eq_some.mp hchannels
    unfold descentOfChannels at hbroken
    split at hbroken
    · exact ChannelDef.isDepth_of_descentOfItems _ hbroken
    · cases hbroken

end Depth

/-! ## The stages in order -/

/-- The object is a layered spec: it has a list of steps and a list of layers. -/
def IsLayered (result : Object) : Prop :=
  ∃ steps layers, result.get? "transform" = some (.arr steps) ∧
    result.get? "layer" = some (.arr layers)

theorem UnitSpec.isLayered_layered (spec : UnitSpec) (settings : Settings) (summary : Summary)
    (own : List Json) : IsLayered (spec.layered settings summary own) :=
  ⟨_, _, by rw [layered, Fields.get?_put_of_ne _ _ (by decide), Fields.get?_put_self],
    Fields.get?_put_self _ _ _⟩

/-- Whether there is room for the layers of a spec, if it comes to them. -/
def UnitSpec.layersFit (spec : UnitSpec) (room : Room) (settings : Settings) : Bool :=
  match (spec.expandedSummaryWithin room settings).outcome with
  | .ok summary => summary.layersFit room
  | .error _ => true

theorem UnitSpec.expandWithin_ending {spec : UnitSpec} (named : spec.Named) (room : Room)
    (settings : Settings) :
    let transform := (spec.outer.get? "transform").getD .null
    let outcome := (spec.expandWithin room settings).outcome
    if spec.hasNoContinuousAxis then outcome = .error (.orientation .noContinuousAxis)
    else if spec.summarizesBoth then outcome = .error (.orientation .bothSummarized)
    else match spec.summaryFault? (room - 2) with
      | some fault => outcome = .error (.unshown fault)
      | none =>
        if !spec.outerFits room then outcome = .error (.nestedTooDeep .step)
        else if transform.isStray then outcome = .error (.transformNotIterable transform)
        else if !spec.layersFit room settings then outcome = .error (.nestedTooDeep .step)
        else ∃ result, outcome = .ok result ∧ IsLayered result := by
  obtain ⟨hrefused, hchosen⟩ := expandedSummaryWithin_outcome named room settings
  rcases spec.orientation_cases with ⟨hnone, herror⟩ | ⟨hsome, hboth, herror⟩ |
    ⟨hsome, hboth, orient, d, horient, hd⟩
  · simp [hnone, expandWithin, Logged.outcome_bind, hrefused _ herror, Except.bind]
  · simp [hsome, hboth, expandWithin, Logged.outcome_bind, hrefused _ herror, Except.bind]
  · have hsummary := hchosen orient d horient hd
    cases hfault : spec.summaryFault? (room - 2) with
    | some fault =>
        rw [hfault] at hsummary
        simp [hsome, hboth, expandWithin, Logged.outcome_bind, hsummary, Except.bind]
    | none =>
        -- there is a summary, so what is left are the two copies and the transform between them
        rw [hfault] at hsummary
        simp only [hsome, hboth, Bool.false_eq_true, if_false, expandWithin, layersFit,
          Logged.outcome_bind, hsummary, Except.bind, ownTransform, transformEntries_eq,
          Logged.outcome_require]
        cases spec.outerFits room with
        | false => simp
        | true =>
            cases hstray : ((spec.outer.get? "transform").getD .null).isStray with
            | true => simp
            | false =>
                cases Summary.layersFit room _ with
                | false => simp
                | true => simpa using isLayered_layered spec settings _ _

theorem UnitSpec.readWithin_outcome (room : Room) (fields : Object) :
    (UnitSpec.readWithin room fields).outcome =
      match UnitSpec.obstacle? room fields with
      | some failure => .error failure
      | none => (Logged.ofChecked (UnitSpec.read fields)).outcome := by
  rw [UnitSpec.readWithin, Logged.outcome_bind, Logged.outcome_pass]
  cases UnitSpec.obstacle? room fields <;> rfl

theorem UnitSpec.readWithin_eq_ok {room : Room} {fields : Object} {spec : UnitSpec} :
    (UnitSpec.readWithin room fields).outcome = .ok spec ↔
      UnitSpec.obstacle? room fields = none ∧ UnitSpec.read fields = .ok spec := by
  rw [UnitSpec.readWithin_outcome]
  cases UnitSpec.obstacle? room fields with
  | some failure => simp
  | none => cases UnitSpec.read fields <;> simp

theorem expandErrorBarWithin_outcome (room : Room) (fields : Object) (settings : Settings) :
    (expandErrorBarWithin room fields settings).outcome =
      match UnitSpec.obstacle? (room - 1) fields with
      | some failure => .error failure
      | none =>
        match UnitSpec.read fields with
        | .refused issues => .error (.invalid issues)
        | .ok spec => (spec.expandWithin (room - 1) settings).outcome := by
  rw [expandErrorBarWithin, Logged.outcome_bind, UnitSpec.readWithin_outcome]
  cases UnitSpec.obstacle? (room - 1) fields with
  | some failure => rfl
  | none => cases UnitSpec.read fields <;> rfl

/-- Reading reports no warnings, so what follows it is all of an expansion. -/
theorem expandErrorBarWithin_of_read {room : Room} {fields : Object} {spec : UnitSpec}
    (h : (UnitSpec.readWithin (room - 1) fields).outcome = .ok spec) (settings : Settings) :
    expandErrorBarWithin room fields settings = spec.expandWithin (room - 1) settings := by
  obtain ⟨fits, hread⟩ := UnitSpec.readWithin_eq_ok.mp h
  rw [expandErrorBarWithin, UnitSpec.readWithin_eq fits, hread]
  rfl

/-- A spec that is expanded has been read, with room for its channels. -/
theorem expandErrorBarWithin_eq_ok {room : Room} {fields : Object} {settings : Settings}
    {result : Object} (h : (expandErrorBarWithin room fields settings).outcome = .ok result) :
    ∃ spec, UnitSpec.read fields = .ok spec ∧
      (UnitSpec.readWithin (room - 1) fields).outcome = .ok spec ∧
      (spec.expandWithin (room - 1) settings).outcome = .ok result := by
  obtain ⟨spec, hwithin, hexpanded⟩ := Logged.outcome_bind_eq_ok.mp h
  exact ⟨spec, (UnitSpec.readWithin_eq_ok.mp hwithin).2, hwithin, hexpanded⟩

namespace Registry

/-- The outcome is that of the first condition which holds, in this order: the mark, the spec's own
configuration, what keeps the spec from being read to its end, its issues, its orientation, the
names for its summary, the room for the outer fields, the spec's own transform and the room for the
layers.  Where none of them stands in the way, it is a layered spec. -/
def EndsInOrder (room : Room) (fields : Object) (settings : Settings)
    (outcome : Except Failure Object) : Prop :=
  let transform := (fields.get? "transform").getD .null
  if !namesErrorBar fields then
    match markFault? (room - 3 + 1) fields with
    | some fault => outcome = .error (.unshown fault)
    | none => ∃ failure, outcome = .error (.spec failure)
  else match Settings.configurationFault? (room - 1) (ownConfiguration fields) with
  | some fault => outcome = .error (.unshown fault)
  | none => match UnitSpec.obstacle? (room - 2) fields with
  | some failure => outcome = .error failure ∧ failure.isDepth = true
  | none => match UnitSpec.read fields with
  | .refused issues => outcome = .error (.invalid issues)
  | .ok spec =>
    if spec.hasNoContinuousAxis then outcome = .error (.orientation .noContinuousAxis)
    else if spec.summarizesBoth then outcome = .error (.orientation .bothSummarized)
    else match spec.summaryFault? (room - 4) with
    | some fault => outcome = .error (.unshown fault)
    | none =>
      if !spec.outerFits (room - 2) then outcome = .error (.nestedTooDeep .step)
      else if transform.isStray then outcome = .error (.transformNotIterable transform)
      else if !spec.layersFit (room - 2) (settings.configure (ownConfiguration fields)) then
        outcome = .error (.nestedTooDeep .step)
      else ∃ result, outcome = .ok result ∧ IsLayered result

theorem expand_endsInOrder (room : Room) (fields : Object) (settings : Settings) :
    EndsInOrder room fields settings ((initialWithin room).expand fields settings).outcome := by
  unfold EndsInOrder
  cases hmark : namesErrorBar fields with
  | false =>
      have hfailed := expand_of_not_namesErrorBar hmark room settings
      rw [if_pos (by rfl)]
      cases hfault : markFault? (room - 3 + 1) fields with
      | some fault =>
          rw [hfault] at hfailed
          exact congrArg Logged.outcome hfailed
      | none =>
          rw [hfault] at hfailed
          obtain ⟨failure, hfailure⟩ := hfailed
          exact ⟨failure, congrArg Logged.outcome hfailure⟩
  | true =>
      rw [if_neg (by simp), expand_of_namesErrorBar hmark room settings]
      cases Settings.configurationFault? (room - 1) (ownConfiguration fields) with
      | some fault => rfl
      | none =>
          have houtcome := expandErrorBarWithin_outcome (room - 1) fields
            (settings.configure (ownConfiguration fields))
          -- the registry takes one step, and the expansion another
          have hcopies : room - 1 - 1 = room - 2 := Nat.sub_sub room 1 1
          rw [hcopies] at houtcome
          simp only [houtcome]
          cases hobstacle : UnitSpec.obstacle? (room - 2) fields with
          | some failure => exact ⟨rfl, UnitSpec.isDepth_of_obstacle? hobstacle⟩
          | none =>
              cases hread : UnitSpec.read fields with
              | refused issues => rfl
              | ok spec =>
                  have hending := UnitSpec.expandWithin_ending (UnitSpec.named_of_read hread)
                    (room - 2) (settings.configure (ownConfiguration fields))
                  rw [UnitSpec.outer_get?_of_read hread (by decide)] at hending
                  exact hending

/-- **How an expansion ends.**  Every expansion ends as the first condition has it that holds for
its spec, and in no other way.  Settings of parts are never refused once they have been read. -/
theorem expand_ending (room : Room) (fields : Object) (settings : Settings) :
    EndsInOrder room fields settings ((initialWithin room).expand fields settings).outcome ∧
    (∀ spec, UnitSpec.read fields = .ok spec → ∀ part,
      PartSetting.read (PartSetting.kept (spec.mark.parts.get part)) =
        .ok (spec.mark.parts.get part)) ∧
    (∀ part, PartSetting.readConfigured (PartSetting.kept (some
        ((settings.configure (ownConfiguration fields)).parts.get part))) =
      .ok ((settings.configure (ownConfiguration fields)).parts.get part)) :=
  ⟨expand_endsInOrder room fields settings, fun _ _ _ => PartSetting.read_kept _,
    fun _ => PartSetting.readConfigured_kept _⟩

end Registry

/-! ## A title that is nested too deep -/

/-- A value inside of so many lists. -/
def Json.nested : Nat → Json
  | 0 => .null
  | n + 1 => .arr [nested n]

theorem Json.copySteps_nested (n : Nat) : (Json.nested n).copySteps = 2 * n + 2 := by
  induction n with
  | zero => rfl
  | succ n ih =>
      simp only [nested, copySteps, copyStepsOfItems, ih]
      show (max 3 (max (2 * n + 2) 0 + 2) : Nat) = 2 * (n + 1) + 2
      omega

/-- The spec of an error bar whose title stands inside of so many lists. -/
def deepTitle (depth : Nat) : Object :=
  [("mark", .str errorBar),
   ("encoding", .obj [("x", .obj [("field", .str "a"), ("type", .str "ordinal")]),
     ("y", .obj [("field", .str "b"), ("type", .str "quantitative")])]),
   ("title", .nested depth)]

private theorem deepTitle_read (depth : Nat) :
    ∃ spec, UnitSpec.read (deepTitle depth) = .ok spec ∧ spec.hasNoContinuousAxis = false ∧
      spec.summarizesBoth = false ∧ spec.summaryFault? (Room.direct - 4) = none ∧
      spec.outer = [("title", .nested depth)] :=
  ⟨_, rfl, rfl, rfl, rfl, rfl⟩

private theorem expand_deepTitle {depth : Nat} (deep : 495 < depth) :
    ((Registry.initialWithin .direct).expand (deepTitle depth) .default).outcome =
      .error (.nestedTooDeep .step) := by
  obtain ⟨spec, hread, hsome, hboth, hnames, houter⟩ := deepTitle_read depth
  have hmark : namesErrorBar (deepTitle depth) = true := rfl
  have hsettings : Settings.configurationFault? (Room.direct - 1)
      (Registry.ownConfiguration (deepTitle depth)) = none := rfl
  have hreadable : UnitSpec.obstacle? (Room.direct - 2) (deepTitle depth) = none := rfl
  have hfits : spec.outerFits (Room.direct - 2) = false := by
    rw [UnitSpec.outerFits, houter]
    simp only [Json.copySteps, Json.copyStepsOfFields, Json.copySteps_nested]
    refine decide_eq_false ?_
    show ¬ (max 3 (max (2 * depth + 2) 0 + 2) : Nat) ≤ 995 - 2 - 1
    omega
  have hending := Registry.expand_endsInOrder .direct (deepTitle depth) .default
  simpa [Registry.EndsInOrder, hmark, hsettings, hreadable, hread, hsome, hboth, hnames, hfits]
    using hending

/-- A spec that names the error bar, has no issues, has an orientation and no transform of its own
is not expanded all the same when it has a title inside of 700 lists. -/
theorem deepTitle_nestedTooDeep :
    namesErrorBar (deepTitle 700) = true ∧
    (∃ spec, UnitSpec.read (deepTitle 700) = .ok spec ∧ spec.hasNoContinuousAxis = false ∧
      spec.summarizesBoth = false) ∧
    (deepTitle 700).get? "transform" = none ∧
    ((Registry.initialWithin .direct).expand (deepTitle 700) .default).outcome =
      .error (.nestedTooDeep .step) := by
  obtain ⟨spec, hread, hsome, hboth, -⟩ := deepTitle_read 700
  exact ⟨rfl, ⟨spec, hread, hsome, hboth⟩, rfl, expand_deepTitle (by omega)⟩

end LayeredMarks
