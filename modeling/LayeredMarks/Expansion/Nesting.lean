import LayeredMarks.Expansion
import LayeredMarks.Json.Nesting
import LayeredMarks.Registry

/-!
# Expansions of nested specs

A spec may be nested so deep that there is no room for the work on it.  Channels hold lists inside
of lists, values are shown in complaints, warnings and names, and the outer fields and the encodings
of the layers are copied.  `expandErrorBarWithin` expands a spec in a given room: it fails where a
step finds no room, or where a value has no text, with the warnings that were reported before.

Main statements: where nothing stands in the way, a spec is read and summarized as without a limit
(`UnitSpec.readWithin_eq`, `UnitSpec.summaryWithin_eq`).
-/

namespace LayeredMarks

/-! ## Readings -/

/-- How the reading of nested values ends. -/
inductive Descent where
  | complete
  /-- A definition has issues. -/
  | refused
  /-- The reading breaks off, and nothing is read. -/
  | broken (failure : Failure)
deriving Inhabited

namespace Descent

/-- What follows a reading is only read after a complete one. -/
def andThen (first next : Descent) : Descent :=
  match first with
  | complete => next
  | stopped => stopped

/-- A reading that goes on unless something stands in the way. -/
def passing : (obstacle : Option Failure) → Descent
  | none => complete
  | some failure => broken failure

/-- The end of a reading that does not break off. -/
def ofChecked {α : Type} : Checked α → Descent
  | .ok _ => complete
  | .refused _ => refused

/-- The failure of a reading that breaks off. -/
def failure? : Descent → Option Failure
  | broken failure => some failure
  | _ => none

theorem failure?_eq_some {ending : Descent} {failure : Failure} :
    ending.failure? = some failure ↔ ending = broken failure := by
  cases ending <;> simp [failure?]

theorem andThen_eq_broken {first next : Descent} {failure : Failure} :
    first.andThen next = broken failure ↔
      first = broken failure ∨ first = complete ∧ next = broken failure := by
  cases first <;> simp [andThen]

@[simp] theorem andThen_complete (first : Descent) : first.andThen complete = first := by
  cases first <;> rfl

theorem andThen_assoc (first next last : Descent) :
    (first.andThen next).andThen last = first.andThen (next.andThen last) := by
  cases first <;> rfl

theorem passing_orElse (obstacle other : Option Failure) :
    passing (obstacle <|> other) = (passing obstacle).andThen (passing other) := by
  cases obstacle <;> rfl

theorem andThen_eq_complete {first next : Descent} :
    first.andThen next = complete ↔ first = complete ∧ next = complete := by
  cases first <;> simp [andThen]

theorem failure?_andThen_eq_none {first next : Descent} (hfirst : first.failure? = none)
    (hnext : next.failure? = none) : (first.andThen next).failure? = none := by
  cases first with
  | complete => exact hnext
  | refused => rfl
  | broken failure => exact hfirst

theorem passing_eq_complete {obstacle : Option Failure} :
    passing obstacle = complete ↔ obstacle = none := by
  cases obstacle <;> simp [passing]

theorem failure?_passing (obstacle : Option Failure) : (passing obstacle).failure? = obstacle := by
  cases obstacle <;> rfl

theorem failure?_ofChecked {α : Type} (checked : Checked α) :
    (ofChecked checked).failure? = none := by
  cases checked <;> rfl

theorem passing_eq_broken {obstacle : Option Failure} {failure : Failure} :
    passing obstacle = broken failure ↔ obstacle = some failure := by
  cases obstacle <;> simp [passing]

theorem ofChecked_ne_broken {α : Type} (checked : Checked α) (failure : Failure) :
    ofChecked checked ≠ broken failure := by
  cases checked <;> simp [ofChecked]

end Descent

/-- The failure of a reading that shows a value in a given room, if it breaks off there.  An integer
that is too long makes an issue instead. -/
def Json.showingFailure? (room : Room) (value : Json) : Option Failure :=
  match value.writingFault? .message room with
  | some .shownTooDeep => some (.unshown .shownTooDeep)
  | _ => none

/-- The failure of a reading that looks a value up in a given room, if it breaks off there. -/
def Vocabulary.lookupFailure? (room : Room) (value : Json) : Option Failure :=
  if isShown value then value.showingFailure? room else none

/-- Why the definition of a mark is not read to its end in a given room, if it is not.  A type that
is not the right one is shown three steps deep in the work, words are looked up five steps deep. -/
def MarkDef.obstacle? (room : Room) (mark : Json) : Option Failure :=
  let lookup (key : String) : Option Failure :=
    (mark.get? key).bind (Vocabulary.lookupFailure? (room - 5))
  ((mark.get? "type").filter fun type => !type.isText errorBar).bind
      (Json.showingFailure? (room - 3)) <|>
    lookup "center" <|> lookup "extent" <|> lookup "orient"

/-- Why the definition of a field is not read to its end in a given room, if it is not.  It takes
ten steps when it has a type, which is looked up six steps deep in the work. -/
def FieldDef.obstacle? (room : Room) (fields : Object) : Option Failure :=
  ((fields.get? "type").filter fun type => !type.isNull).bind fun type =>
    if room < 10 then some (.nestedTooDeep .step)
    else Vocabulary.lookupFailure? (room - 6) type

namespace ChannelDef

/-- Why a channel definition is not looked at in a given room, if it is not.  That takes five steps,
and the last of them compares the value. -/
def obstacle? (room : Room) : Option Failure :=
  if room < 4 then some (.nestedTooDeep .step)
  else if room < 5 then some (.nestedTooDeep .comparison)
  else none

/-- How the reading of an object ends. -/
def descentOfObject (room : Room) (fields : Object) : Descent :=
  let obstacle := if definesField fields then FieldDef.obstacle? room fields else none
  (Descent.passing obstacle).andThen (.ofChecked (readObject fields))

mutual

/-- How the reading of a channel ends.  The items of a list are read two steps deeper. -/
def descent (room : Room) : Json → Descent
  | .arr items => (Descent.passing (obstacle? room)).andThen (descentOfItems (room - 2) items)
  | .obj fields => (Descent.passing (obstacle? room)).andThen (descentOfObject room fields)
  | _ => .passing (obstacle? room)

/-- How the reading of the items of a list ends. -/
def descentOfItems (room : Room) : List Json → Descent
  | [] => .complete
  | item :: rest => (descent room item).andThen (descentOfItems room rest)

end

/-- Reads a channel definition in a given room. -/
def readWithin (room : Room) (value : Json) : Logged ChannelDef := do
  .pass (descent room value).failure?
  .ofChecked (read value)

end ChannelDef

namespace UnitSpec

/-- How the reading of the channels of a spec ends. -/
def descentOfChannels (room : Room) (encoding : Json) : Descent :=
  match encoding with
  | .obj channels => ChannelDef.descentOfItems room (channels.map Prod.snd)
  | _ => .complete

/-- Why a spec is not read to its end in a given room, if it is not.  Its channels are read four
steps deep in the work, after its mark. -/
def obstacle? (room : Room) (fields : Object) : Option Failure :=
  MarkDef.obstacle? room ((fields.get? "mark").getD .null) <|>
    (descentOfChannels (room - 4) ((fields.get? "encoding").getD .null)).failure?

/-- Reads a unit spec in a given room. -/
def readWithin (room : Room) (fields : Object) : Logged UnitSpec := do
  .pass (obstacle? room fields)
  .ofChecked (read fields)

theorem readWithin_eq {room : Room} {fields : Object} (h : obstacle? room fields = none) :
    readWithin room fields = .ofChecked (read fields) := by
  rw [readWithin, h]
  exact Logged.bind_of_pure ..

end UnitSpec

/-! ## Summaries -/

/-- The field definitions that a channel holds directly, each with the room that is left for its
name: one step less for those of a list. -/
def ChannelDef.directFieldsWithin (room : Room) : ChannelDef → List (Room × FieldDef)
  | .list items => (items.filterMap fieldDef?).map fun d => (room - 1, d)
  | other => other.directFields.map fun d => (room, d)

theorem ChannelDef.map_snd_directFieldsWithin (room : Room) (channel : ChannelDef) :
    (channel.directFieldsWithin room).map Prod.snd = channel.directFields := by
  cases channel <;> simp [directFieldsWithin, directFields, Function.comp_def]

/-- Why the columns of definitions cannot be named, if they cannot.  They are named in their order,
and one that lacks its field is the last. -/
def FieldDef.namingFaultOfAll? : List (Room × FieldDef) → Option Json.WritingFault
  | [] => none
  | (room, d) :: rest =>
    d.namingFault? room <|> if d.hasSource then namingFaultOfAll? rest else none

namespace UnitSpec

/-- The field definitions that the channels other than that of an axis hold directly, each with the
room that is left for its name. -/
def fieldsBesideWithin (room : Room) (spec : UnitSpec) (axis : Axis) : List (Room × FieldDef) :=
  (spec.channelsBeside axis).flatMap fun entry => entry.2.directFieldsWithin room

/-- Why the aggregate of an axis cannot be shown in a given room, if it has to be and cannot. -/
def aggregateFault? (room : Room) (spec : UnitSpec) (axis : Axis) : Option Json.WritingFault :=
  ((spec.encoding.get? axis.channel).bind ChannelDef.fieldDef?).bind fun d =>
    (d.aggregate.filter fun aggregate => !aggregate.isOp errorBar).bind fun aggregate =>
      aggregate.toJson.writingFault? .message room

/-- Why the columns beside an axis cannot be named in a given room, if they cannot. -/
def namingFault? (room : Room) (spec : UnitSpec) (axis : Axis) : Option Json.WritingFault :=
  FieldDef.namingFaultOfAll? (spec.fieldsBesideWithin room axis)

/-- The summary of a spec in a given room.  The aggregate of its axis is shown and its columns are
named two steps deep in the work. -/
def summaryWithin (room : Room) (spec : UnitSpec) (orient : Orient) (center : Center)
    (extent : Extent) : Logged Summary := do
  .pass ((spec.aggregateFault? (room - 2) orient.axis).map .unshown)
  let axisDef ← spec.summarizedField orient
  .pass ((spec.namingFault? (room - 2) orient.axis).map .unshown)
  .ofChecked (spec.summaryOf orient.axis axisDef center extent)

theorem summaryWithin_eq {room : Room} {spec : UnitSpec} {orient : Orient}
    (shown : spec.aggregateFault? (room - 2) orient.axis = none)
    (named : spec.namingFault? (room - 2) orient.axis = none) (center : Center) (extent : Extent) :
    spec.summaryWithin room orient center extent = spec.summary orient center extent := by
  rw [summaryWithin, shown, named]
  rfl

/-- The summary of a unit spec as it is expanded in a given room. -/
def expandedSummaryWithin (room : Room) (spec : UnitSpec) (settings : Settings) :
    Logged Summary :=
  spec.expandedBy settings (summaryWithin room)

end UnitSpec

/-! ## Copies -/

/-- Whether there is room for the outer fields of a spec, which are copied one step deep in the
work. -/
def UnitSpec.outerFits (room : Room) (spec : UnitSpec) : Bool :=
  (Json.obj spec.outer).copySteps ≤ room - 1

/-- Whether there is room for the encodings of the layers, which are copied two steps deep in the
work.  They are copied for every part, drawn or not, and that of the whisker is the largest. -/
def Summary.layersFit (room : Room) (summary : Summary) : Bool :=
  (Json.obj (summary.encoding .whisker none)).copySteps ≤ room - 2

/-! ## Expansions -/

/-- Expands a unit spec in a given room.  The outer fields are copied before the spec's own
transform is looked at, the encodings of the layers after that. -/
def UnitSpec.expandWithin (room : Room) (spec : UnitSpec) (settings : Settings) :
    Logged Object := do
  let summary ← spec.expandedSummaryWithin room settings
  .require (spec.outerFits room)
  let own ← spec.ownTransform
  .require (summary.layersFit room)
  pure (spec.layered settings summary own)

/-- Expands the unit spec of a JSON object in a given room. -/
def expandErrorBarWithin (room : Room) (fields : Object) (settings : Settings) : Logged Object := do
  let spec ← UnitSpec.readWithin (room - 1) fields
  spec.expandWithin (room - 1) settings

/-- The registry with the expander for error bars alone, in a given room. -/
def Registry.initialWithin (room : Room) : Registry :=
  ⟨room, [(errorBar, expandErrorBarWithin (room - 1))]⟩

end LayeredMarks
