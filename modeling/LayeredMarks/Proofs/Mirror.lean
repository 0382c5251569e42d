import LayeredMarks.Proofs.Endings
import Mathlib.Logic.Equiv.Basic

/-!
# Exchanging the axes

`UnitSpec.mirror` exchanges the channels `x` and `y` of a spec and turns the orientation of its
mark.  The expansion treats the axes alike, although it looks at `x` first: a mirrored spec expands
to the same transform and to the same layers with exchanged channels, or fails for the same reason,
with the same warnings (`expandWithin_mirror`).

The one exception is a tie.  When nothing tells which of two continuous axes is meant, the summary
is vertical, and so is that of the mirrored spec (`orientation_of_isTied`).

## Strategy

* **Renaming.**  A renaming of channels that is injective commutes with every operation on named
  values: `get?_rename`, `put_rename`, `merge_rename`, `erase_rename`, `filter_rename`.
* **The decision.**  `orientation_mirror`: the table of orientations is symmetric but for ties.
* **The summary.**  `expandedSummaryWithin_mirror`: steps and names of columns do not mention
  channels, so only the axis and the names of the other channels change (`Summary.mirror`).
* **The layers.**  `layers_mirror`: each layer keeps its mark, and its channels are exchanged.

The spec is renamed along `x` and `y` alone, the layers along `x2` and `y2` as well.  On channels
that an error bar draws the two renamings agree (`swapLayer_eq_swap`).
-/

namespace LayeredMarks

/-! ## Named values under other names -/

namespace Fields

variable {α : Type} {f : String → String}

/-- The values under other names, in the same order. -/
def rename (f : String → String) (fields : Fields α) : Fields α :=
  fields.map fun entry => (f entry.1, entry.2)

@[simp] theorem rename_nil : rename f ([] : Fields α) = [] := rfl

@[simp] theorem rename_cons (name : String) (value : α) (rest : Fields α) :
    rename f ((name, value) :: rest) = (f name, value) :: rename f rest := rfl

theorem get?_rename (inj : Function.Injective f) (fields : Fields α) (key : String) :
    (fields.rename f).get? (f key) = fields.get? key := by
  induction fields with
  | nil => rfl
  | cons entry rest ih =>
      obtain ⟨name, value⟩ := entry
      simp only [rename_cons, get?_cons, inj.eq_iff, ih]

theorem put_rename (inj : Function.Injective f) (fields : Fields α) (key : String) (value : α) :
    (fields.rename f).put (f key) value = (fields.put key value).rename f := by
  induction fields with
  | nil => rfl
  | cons entry rest ih =>
      obtain ⟨name, old⟩ := entry
      by_cases h : name = key
      · simp [put, h]
      · simp [put, h, inj.eq_iff, ih]

theorem merge_rename (inj : Function.Injective f) (base upper : Fields α) :
    (base.rename f).merge (upper.rename f) = (base.merge upper).rename f := by
  induction upper generalizing base with
  | nil => rfl
  | cons entry rest ih =>
      obtain ⟨name, value⟩ := entry
      have hput := ih (base.put name value)
      rw [← put_rename inj] at hput
      exact hput

theorem filter_rename {p : String → Bool} (fixed : ∀ name, p (f name) = p name)
    (fields : Fields α) :
    (fields.rename f).filter (fun entry => p entry.1) =
      rename f (fields.filter fun entry => p entry.1) := by
  simp only [rename, List.filter_map, Function.comp_def, fixed]

theorem erase_rename (inj : Function.Injective f) (fields : Fields α) (key : String) :
    (fields.rename f).erase (f key) = (fields.erase key).rename f := by
  simp only [erase, rename, List.filter_map, Function.comp_def, ne_eq, inj.eq_iff]

end Fields

theorem Json.copySteps_rename (f : String → String) (fields : Object) :
    (Json.obj (fields.rename f)).copySteps = (Json.obj fields).copySteps := by
  have hfields : copyStepsOfFields (fields.rename f) = copyStepsOfFields fields := by
    induction fields with
    | nil => rfl
    | cons entry rest ih =>
        obtain ⟨name, value⟩ := entry
        simp only [Fields.rename_cons, copyStepsOfFields, ih]
  simp only [copySteps, hfields]

/-! ## The other axis -/

namespace Axis

/-- The other axis. -/
def flip : Axis → Axis
  | x => y
  | y => x

/-- Exchanges the channels of the axes. -/
def swap : Equiv.Perm String := Equiv.swap "x" "y"

/-- Exchanges the channels of the axes and their secondary channels. -/
def swapLayer : Equiv.Perm String := (Equiv.swap "x" "y").trans (Equiv.swap "x2" "y2")

theorem swap_channel (axis : Axis) : swap axis.channel = axis.flip.channel := by
  cases axis <;> decide

theorem swapLayer_channel (axis : Axis) : swapLayer axis.channel = axis.flip.channel := by
  cases axis <;> decide

theorem swapLayer_secondary (axis : Axis) : swapLayer axis.secondary = axis.flip.secondary := by
  cases axis <;> decide

/-- On channels that an error bar draws, nothing but the axes is exchanged. -/
theorem swapLayer_eq_swap {name : String} (h : name ∈ UnitSpec.supportedChannels) :
    swapLayer name = swap name := by
  revert name
  decide

theorem swap_of_notMem_supported {name : String} (h : name ∉ UnitSpec.supportedChannels) :
    swap name = name := by
  apply Equiv.swap_apply_of_ne_of_ne
  · rintro rfl
    exact h (by decide)
  · rintro rfl
    exact h (by decide)

theorem swap_mem_supported (name : String) :
    swap name ∈ UnitSpec.supportedChannels ↔ name ∈ UnitSpec.supportedChannels := by
  by_cases h : name ∈ UnitSpec.supportedChannels
  · have hswap : ∀ name ∈ UnitSpec.supportedChannels, swap name ∈ UnitSpec.supportedChannels := by
      decide
    exact iff_of_true (hswap name h) h
  · rw [swap_of_notMem_supported h]

end Axis

/-- The other orientation. -/
def Orient.flip : Orient → Orient
  | .vertical => .horizontal
  | .horizontal => .vertical

theorem Orient.axis_flip (orient : Orient) : orient.flip.axis = orient.axis.flip := by
  cases orient <;> rfl

/-! ## Mirrored specs -/

namespace UnitSpec

/-- The spec with the channels of the axes exchanged, and the orientation of its mark turned. -/
def mirror (spec : UnitSpec) : UnitSpec :=
  { spec with
    mark := { spec.mark with orient := spec.mark.orient.map Orient.flip }
    encoding := spec.encoding.rename Axis.swap }

/-- The first definition is singled out by the aggregate `errorbar`, and the second has no
aggregate. -/
def prevails (d other : FieldDef) : Bool := d.aggregatesBy errorBar && other.aggregate.isNone

/-- Nothing tells which of two continuous axes is meant: neither the mark nor the aggregates. -/
def areTied (own : Option Orient) (x y : FieldDef) : Bool :=
  own.isNone && !prevails x y && !prevails y x &&
    !(x.aggregatesBy errorBar && y.aggregatesBy errorBar)

/-- Both axes are continuous, and they are tied. -/
def isTied (spec : UnitSpec) : Bool :=
  match spec.continuousField? .x, spec.continuousField? .y with
  | some x, some y => areTied spec.mark.orient x y
  | _, _ => false

variable {spec : UnitSpec}

theorem mirror_get? (spec : UnitSpec) (axis : Axis) :
    spec.mirror.encoding.get? axis.flip.channel = spec.encoding.get? axis.channel := by
  rw [← axis.swap_channel]
  exact Fields.get?_rename Axis.swap.injective _ _

theorem continuousField?_mirror (spec : UnitSpec) (axis : Axis) :
    spec.mirror.continuousField? axis.flip = spec.continuousField? axis := by
  rw [continuousField?, mirror_get?, continuousField?]

theorem continuousField?_mirror_x (spec : UnitSpec) :
    spec.mirror.continuousField? .x = spec.continuousField? .y :=
  spec.continuousField?_mirror .y

theorem continuousField?_mirror_y (spec : UnitSpec) :
    spec.mirror.continuousField? .y = spec.continuousField? .x :=
  spec.continuousField?_mirror .x

theorem onlySupported_mirror (spec : UnitSpec) :
    spec.mirror.onlySupported = spec.onlySupported.mirror := by
  have hfilter := Fields.filter_rename (f := Axis.swap)
    (p := fun name => decide (name ∈ supportedChannels))
    (fun name => decide_eq_decide.mpr (Axis.swap_mem_supported name)) spec.encoding
  simp only [onlySupported, mirror, hfilter]

/-- The axes are never dropped, and all other channels keep their names. -/
theorem droppedChannels_mirror (spec : UnitSpec) :
    spec.mirror.droppedChannels = spec.droppedChannels := by
  have hkeys : spec.mirror.encoding.keys.filter (· ∉ supportedChannels) =
      spec.encoding.keys.filter (· ∉ supportedChannels) := by
    have hrename : spec.mirror.encoding.keys = spec.encoding.keys.map Axis.swap := by
      simp [mirror, Fields.keys, Fields.rename]
    rw [hrename, List.filter_map]
    simp only [Function.comp_def, Axis.swap_mem_supported]
    calc (spec.encoding.keys.filter (· ∉ supportedChannels)).map Axis.swap
        = (spec.encoding.keys.filter (· ∉ supportedChannels)).map id :=
          List.map_congr_left fun name hname => Axis.swap_of_notMem_supported
            (by simpa using (List.mem_filter.mp hname).2)
      _ = spec.encoding.keys.filter (· ∉ supportedChannels) := List.map_id _
  rw [droppedChannels, hkeys, droppedChannels]

/-! ## The decision -/

theorem prevails_asymm {d other : FieldDef} (h : prevails d other = true) :
    prevails other d = false := by
  have hnone : other.aggregate = none := by
    simp only [prevails, Bool.and_eq_true, Option.isNone_iff_eq_none] at h
    exact h.2
  simp [prevails, FieldDef.aggregatesBy, hnone]

theorem orientationOfBoth_eq (own : Option Orient) (x y : FieldDef) :
    orientationOfBoth own x y =
      if prevails y x then .ok .vertical
      else if prevails x y then .ok .horizontal
      else if x.aggregatesBy errorBar && y.aggregatesBy errorBar then .error .bothSummarized
      else .ok (own.getD .vertical) := by
  unfold orientationOfBoth prevails
  rw [Bool.and_comm (x := x.aggregate.isNone), Bool.and_comm (x := y.aggregate.isNone)]

/-- Between two continuous axes, the decision is symmetric unless it falls back on the vertical. -/
theorem orientationOfBoth_flip {own : Option Orient} {x y : FieldDef}
    (untied : areTied own x y = false) :
    orientationOfBoth (own.map Orient.flip) y x =
      (orientationOfBoth own x y).map Orient.flip := by
  rw [orientationOfBoth_eq, orientationOfBoth_eq, Bool.and_comm]
  cases hx : prevails x y with
  | true =>
      rw [prevails_asymm hx]
      rfl
  | false =>
      cases hy : prevails y x with
      | true => rfl
      | false =>
          cases hboth : x.aggregatesBy errorBar && y.aggregatesBy errorBar with
          | true => rfl
          | false =>
              cases own with
              | none => simp [areTied, hx, hy, hboth] at untied
              | some orient => rfl

theorem orientation_mirror (untied : spec.isTied = false) :
    spec.mirror.orientation = spec.orientation.map Orient.flip := by
  unfold orientation
  rw [continuousField?_mirror_x, continuousField?_mirror_y]
  cases hx : spec.continuousField? .x with
  | none => cases spec.continuousField? .y <;> rfl
  | some x =>
      cases hy : spec.continuousField? .y with
      | none => rfl
      | some y =>
          have hboth : areTied spec.mark.orient x y = false := by
            simpa only [isTied, hx, hy] using untied
          exact orientationOfBoth_flip hboth

theorem isTied_mirror (spec : UnitSpec) : spec.mirror.isTied = spec.isTied := by
  unfold isTied
  rw [continuousField?_mirror_x, continuousField?_mirror_y]
  cases spec.continuousField? .x with
  | none => cases spec.continuousField? .y <;> rfl
  | some x =>
      cases spec.continuousField? .y with
      | none => rfl
      | some y =>
          have hown : spec.mirror.mark.orient.isNone = spec.mark.orient.isNone := by simp [mirror]
          simp only [areTied, hown, Bool.and_comm (x.aggregatesBy errorBar), Bool.and_right_comm]

/-- A tie is broken in the same way on both sides, which is not symmetric. -/
theorem orientation_of_isTied (tied : spec.isTied = true) :
    spec.orientation = .ok .vertical ∧ spec.mirror.orientation = .ok .vertical := by
  have hvertical {other : UnitSpec} (h : other.isTied = true) :
      other.orientation = .ok .vertical := by
    unfold isTied at h
    cases hx : other.continuousField? .x with
    | none => simp [hx] at h
    | some x =>
        cases hy : other.continuousField? .y with
        | none => simp [hx, hy] at h
        | some y =>
            simp only [hx, hy, areTied, Bool.and_eq_true, Bool.not_eq_true',
              Option.isNone_iff_eq_none] at h
            obtain ⟨⟨⟨hown, hxy⟩, hyx⟩, hboth⟩ := h
            simp [orientation, hx, hy, orientationOfBoth_eq, hxy, hyx, hboth, hown]
  exact ⟨hvertical tied, hvertical (spec.isTied_mirror.trans tied)⟩

end UnitSpec

/-! ## The summary -/

/-- The summary along the other axis: the same columns, in exchanged channels. -/
def Summary.mirror (summary : Summary) : Summary :=
  { summary with
    axis := summary.axis.flip
    channels := summary.channels.rename Axis.swapLayer }

namespace UnitSpec

variable {spec : UnitSpec}

theorem channelsBeside_mirror (spec : UnitSpec) (axis : Axis) :
    spec.mirror.channelsBeside axis.flip = (spec.channelsBeside axis).rename Axis.swap := by
  rw [channelsBeside, ← axis.swap_channel]
  exact Fields.erase_rename Axis.swap.injective _ _

theorem fieldsBeside_mirror (spec : UnitSpec) (axis : Axis) :
    spec.mirror.fieldsBeside axis.flip = spec.fieldsBeside axis := by
  rw [fieldsBeside, channelsBeside_mirror, Fields.rename, List.flatMap_map, fieldsBeside]

theorem summaryAround_mirror (supported : ∀ entry ∈ spec.encoding, entry.1 ∈ supportedChannels)
    (axis : Axis) (axisDef : FieldDef) (center : Center) (extent : Extent) :
    spec.mirror.summaryAround axis.flip axisDef center extent =
      (spec.summaryAround axis axisDef center extent).mirror := by
  have hchannels : ((spec.channelsBeside axis).rename Axis.swap).map
        (fun entry => (entry.1, entry.2.readingColumns)) =
      Fields.rename Axis.swapLayer
        ((spec.channelsBeside axis).map fun entry => (entry.1, entry.2.readingColumns)) := by
    -- the two renamings differ on secondary channels only, and none of these is left
    simp only [Fields.rename, List.map_map]
    apply List.map_congr_left
    intro entry hentry
    simp only [Function.comp_def, Axis.swapLayer_eq_swap
      (supported entry (List.mem_of_mem_filter hentry))]
  simp only [summaryAround, Summary.mirror, fieldsBeside_mirror, channelsBeside_mirror, hchannels]

theorem aggregateFault?_mirror (room : Room) (spec : UnitSpec) (axis : Axis) :
    spec.mirror.aggregateFault? room axis.flip = spec.aggregateFault? room axis := by
  rw [aggregateFault?, mirror_get?, aggregateFault?]

theorem namingFault?_mirror (room : Room) (spec : UnitSpec) (axis : Axis) :
    spec.mirror.namingFault? room axis.flip = spec.namingFault? room axis := by
  rw [namingFault?, fieldsBesideWithin, channelsBeside_mirror, Fields.rename, List.flatMap_map,
    namingFault?, fieldsBesideWithin]

theorem summaryWithin_mirror (room : Room)
    (supported : ∀ entry ∈ spec.encoding, entry.1 ∈ supportedChannels) {orient : Orient}
    {d : FieldDef} (shown : spec.encoding.get? orient.axis.channel = some (.field d))
    (center : Center) (extent : Extent) :
    spec.mirror.summaryWithin room orient.flip center extent =
      (spec.summaryWithin room orient center extent).map Summary.mirror := by
  have hshown : spec.mirror.encoding.get? orient.flip.axis.channel = some (.field d) := by
    rw [Orient.axis_flip, mirror_get?, shown]
  have haxis : spec.mirror.summarizedField orient.flip = spec.summarizedField orient := by
    simp only [summarizedField, shown, hshown, Option.bind_some, ChannelDef.fieldDef?]
  rw [summaryWithin, haxis, Orient.axis_flip, aggregateFault?_mirror, namingFault?_mirror,
    summaryWithin]
  simp only [Logged.map_bind]
  -- nothing that is shown or named depends on the channels, so the two summaries are left
  congr 1
  funext _
  congr 1
  funext axisDef
  congr 1
  funext _
  rw [summaryOf_eq, summaryOf_eq, fieldsBeside_mirror, summaryAround_mirror supported]
  cases (spec.fieldsBeside orient.axis).all FieldDef.hasSource <;> rfl

theorem expandedSummaryWithin_mirror (room : Room) (untied : spec.isTied = false)
    (settings : Settings) :
    spec.mirror.expandedSummaryWithin room settings =
      (spec.expandedSummaryWithin room settings).map Summary.mirror := by
  have supported : ∀ entry ∈ spec.onlySupported.encoding, entry.1 ∈ supportedChannels :=
    fun entry hentry => by simpa using (List.mem_filter.mp hentry).2
  simp only [expandedSummaryWithin, expandedBy, Logged.map_bind, droppedChannels_mirror,
    onlySupported_mirror]
  -- both warn alike before they choose an orientation
  congr 1
  funext _
  congr 1
  funext _
  rw [← onlySupported_mirror, orientation_onlySupported, orientation_onlySupported,
    orientation_mirror untied]
  rcases spec.orientation_cases with ⟨-, herror⟩ | ⟨-, -, herror⟩ | ⟨-, -, orient, d, horient, hd⟩
  · rw [herror]
    rfl
  · rw [herror]
    rfl
  · rw [horient, onlySupported_mirror]
    rw [← continuousField?_onlySupported] at hd
    have hsummary := summaryWithin_mirror room supported (continuousField?_eq_some.mp hd).1
      (spec.mark.resolve settings).1 (spec.mark.resolve settings).2
    exact hsummary

end UnitSpec

/-! ## The layers -/

namespace Summary

theorem along_mirror (summary : Summary) (part : Part) (column : Option String) :
    summary.mirror.along part column = (summary.along part column).rename Axis.swapLayer := by
  unfold along
  cases part.isSinglePoint with
  | true => simp [mirror, Axis.swapLayer_channel, reading, position]
  | false => simp [mirror, Axis.swapLayer_channel, Axis.swapLayer_secondary, reading, position]

theorem beside_mirror (summary : Summary) :
    summary.mirror.beside = summary.beside.rename Axis.swapLayer := by
  have hfixed (name : String) :
      decide (Axis.swapLayer name ∉ ["color", "size"]) = decide (name ∉ ["color", "size"]) := by
    have hcolor : Axis.swapLayer "color" = "color" := by decide
    have hsize : Axis.swapLayer "size" = "size" := by decide
    have heq (other : String) (h : Axis.swapLayer other = other) :
        Axis.swapLayer name = other ↔ name = other := by
      constructor
      · intro hname
        exact Axis.swapLayer.injective (hname.trans h.symm)
      · rintro rfl
        exact h
    simp [heq _ hcolor, heq _ hsize]
  exact Fields.filter_rename (p := fun name => decide (name ∉ ["color", "size"])) hfixed _

theorem encoding_mirror (summary : Summary) (part : Part) (column : Option String) :
    summary.mirror.encoding part column =
      (summary.encoding part column).rename Axis.swapLayer := by
  rw [encoding, along_mirror, beside_mirror, Fields.merge_rename Axis.swapLayer.injective, encoding]

theorem layersFit_mirror (summary : Summary) (room : Room) :
    summary.mirror.layersFit room = summary.layersFit room := by
  rw [layersFit, encoding_mirror, Json.copySteps_rename, layersFit]

end Summary

/-- The two layers have the same mark, and their channels are exchanged. -/
def LayersExchanged (layer mirrored : Object) : Prop :=
  ∃ (mark : Json) (encoding : Object),
    layer = [("mark", mark), ("encoding", .obj encoding)] ∧
    mirrored = [("mark", mark), ("encoding", .obj (encoding.rename Axis.swapLayer))]

/-- Whether a part is drawn, and with which mark, does not depend on the summary. -/
private theorem Summary.layer?_cases (mark : MarkDef) (settings : Settings) (part : Part) :
    (∀ (summary : Summary) (column : Option String),
      summary.layer? mark settings part column = none) ∨
    ∃ drawn, ∀ (summary : Summary) (column : Option String),
      summary.layer? mark settings part column =
        some [("mark", drawn), ("encoding", .obj (summary.encoding part column))] := by
  cases hdraws : mark.draws part.name (some (settings.parts.get part)) with
  | false => exact Or.inl fun summary column => by simp [layer?, hdraws]
  | true =>
      let styled := (settings.parts.get part).properties
      let generated := Fields.merge [("type", .str part.primitive)] styled
      refine Or.inr ⟨.obj (mark.propertiesFor part.name styled generated), fun summary column => ?_⟩
      simp only [layer?, hdraws, if_true]
      rfl

theorem Summary.layers_mirror (summary : Summary) (spec : UnitSpec) (settings : Settings) :
    List.Forall₂ LayersExchanged (summary.layers spec.mark settings)
      (summary.mirror.layers spec.mirror.mark settings) := by
  have hslots : List.Forall₂ Eq summary.slots summary.mirror.slots := by
    rw [List.forall₂_eq_eq_eq]
    rfl
  refine List.rel_filterMap ?_ hslots
  rintro ⟨part, column⟩ _ rfl
  show Option.Rel LayersExchanged (summary.layer? spec.mark settings part column)
    (summary.mirror.layer? spec.mark settings part column)
  rcases layer?_cases spec.mark settings part with hnone | ⟨drawn, hdrawn⟩
  · rw [hnone, hnone]
    exact Option.Rel.none
  · rw [hdrawn, hdrawn, encoding_mirror]
    exact Option.Rel.some ⟨drawn, _, rfl, rfl⟩

/-! ## The expansion -/

namespace UnitSpec

variable {spec : UnitSpec}

/-- The summary of a spec and its own transform, if there is room for all copies. -/
def prepared (room : Room) (spec : UnitSpec) (settings : Settings) :
    Logged (Summary × List Json) := do
  let summary ← spec.expandedSummaryWithin room settings
  .require (spec.outerFits room)
  let own ← spec.ownTransform
  .require (summary.layersFit room)
  pure (summary, own)

theorem expandWithin_eq_prepared (room : Room) (spec : UnitSpec) (settings : Settings) :
    spec.expandWithin room settings =
      (spec.prepared room settings).map fun found => spec.layered settings found.1 found.2 := by
  simp only [prepared, Logged.map_bind]
  rfl

theorem prepared_mirror (room : Room) (untied : spec.isTied = false) (settings : Settings) :
    spec.mirror.prepared room settings =
      (spec.prepared room settings).map fun found => (found.1.mirror, found.2) := by
  simp only [prepared, Logged.map_bind, expandedSummaryWithin_mirror room untied, Logged.bind_map,
    Summary.layersFit_mirror]
  rfl

theorem layered_mirror (spec : UnitSpec) (settings : Settings) (summary : Summary)
    (own : List Json) :
    spec.mirror.layered settings summary.mirror own =
      (spec.layered settings summary own).put "layer"
        (.arr ((summary.mirror.layers spec.mirror.mark settings).map .obj)) := by
  rw [layered, layered, Fields.put_put]
  rfl

/-- **Exchanging the axes.**  Unless it is tied, a mirrored spec is expanded with the same warnings
as the spec, and it fails for the same reason or differs in its layers alone, which have exchanged
channels. -/
theorem expandWithin_mirror (room : Room) (spec : UnitSpec) (settings : Settings)
    (untied : spec.isTied = false) :
    let original := spec.expandWithin room settings
    let mirrored := spec.mirror.expandWithin room settings
    mirrored.warnings = original.warnings ∧
    (∀ failure, original.outcome = .error failure → mirrored.outcome = .error failure) ∧
    (∀ result, original.outcome = .ok result →
      ∃ layers exchanged, result.get? "layer" = some (.arr (layers.map .obj)) ∧
        List.Forall₂ LayersExchanged layers exchanged ∧
        mirrored.outcome = .ok (result.put "layer" (.arr (exchanged.map .obj)))) := by
  rw [expandWithin_eq_prepared, expandWithin_eq_prepared, prepared_mirror room untied]
  refine ⟨rfl, ?_, ?_⟩
  · intro failure h
    cases hfound : (spec.prepared room settings).outcome with
    | error other => simpa [Logged.map, hfound, Except.map] using h
    | ok found => simp [Logged.map, hfound, Except.map] at h
  · intro result h
    cases hfound : (spec.prepared room settings).outcome with
    | error other => simp [Logged.map, hfound, Except.map] at h
    | ok found =>
        obtain ⟨summary, own⟩ := found
        have hresult : result = spec.layered settings summary own := by
          simpa [Logged.map, hfound, Except.map, eq_comm] using h
        refine ⟨_, _, ?_, summary.layers_mirror spec settings, ?_⟩
        · rw [hresult]
          exact Fields.get?_put_self _ _ _
        · rw [hresult, ← layered_mirror, Logged.map, Logged.map, hfound]
          rfl

/-- Yield over area: the field that is summarized is singled out by its aggregate. -/
private def singledOut : UnitSpec :=
  { (default : UnitSpec) with
    encoding :=
      [("x", .field { (default : FieldDef) with
          field := some "yield", type := some .quantitative, aggregate := some (.op errorBar) }),
       ("detail", .field { (default : FieldDef) with field := some "site", type := some .nominal }),
       ("y", .field { (default : FieldDef) with
          field := some "area", type := some .quantitative })] }

theorem singledOut_mirror :
    singledOut.isTied = false ∧
    ∃ result layers exchanged,
      (singledOut.expandWithin .direct .default).outcome = .ok result ∧
      result.get? "layer" = some (.arr (layers.map .obj)) ∧ layers.length = 2 ∧
      List.Forall₂ LayersExchanged layers exchanged ∧
      (singledOut.mirror.expandWithin .direct .default).outcome =
        .ok (result.put "layer" (.arr (exchanged.map .obj))) := by
  have untied : singledOut.isTied = false := rfl
  obtain ⟨result, whisker, point, hresult, hdrawn⟩ : ∃ result whisker point,
      (singledOut.expandWithin .direct .default).outcome = .ok result ∧
      result.get? "layer" = some (.arr [.obj whisker, .obj point]) :=
    ⟨_, _, _, rfl, rfl⟩
  obtain ⟨-, -, hmirror⟩ := expandWithin_mirror .direct singledOut .default untied
  obtain ⟨layers, exchanged, hlayers, hexchanged, hmirrored⟩ := hmirror result hresult
  refine ⟨untied, result, layers, exchanged, hresult, hlayers, ?_, hexchanged, hmirrored⟩
  have hsame : layers.map Json.obj = [.obj whisker, .obj point] :=
    Json.arr.inj (Option.some.inj (hlayers.symm.trans hdrawn))
  simpa using congrArg List.length hsame

end UnitSpec

end LayeredMarks
