import LayeredMarks.Proofs.Assembly

/-!
# Which mark properties prevail

The mark of a layer is put together from five lists of properties, one written over the other, and
the configured ones are written twice: under the color and the opacity of the error bar, and once
more with the generated mark.  Any of the lists may hold any name.  This file says what stands under
a name in the end.  Of the following, the first that says anything about the name prevails:

1. the properties that the error bar gives for the part,
2. the style, which is made of the name of the part,
3. the configured properties of the part,
4. the type of the primitive mark, and the color and the opacity of the error bar.

Main statement: `Summary.layer?_properties`.

## Strategy

`Fields.get?_merge` says that the upper of two lists prevails.  Applied to all five lists it leaves
a chain with the configured properties at two places, and the lower place never counts, because all
that stands between the two has the names of the fourth item (`get?_propertiesOf`).
-/

namespace LayeredMarks

namespace MarkDef

/-- The properties that the error bar gives for a part. -/
def ownProperties (mark : MarkDef) (part : Part) : Object :=
  ((mark.parts.get part).map PartSetting.properties).getD []

/-- What is generated under a name: the type of the primitive mark, and the color and the opacity of
the error bar.  An empty color is none; an opacity of zero is one. -/
def generatedProperty (mark : MarkDef) (part : Part) (name : String) : Option Json :=
  if name = "type" then some (.str part.primitive)
  else if name = "color" then (mark.color.filter (· ≠ "")).map .str
  else if name = "opacity" then mark.opacity.map .double
  else none

/-- The property that prevails under a name, if there is any. -/
def propertyAt (mark : MarkDef) (settings : Settings) (part : Part) (name : String) : Option Json :=
  ((mark.ownProperties part).get? name).or <|
    if name = "style" then some (.str ("errorbar-" ++ part.name))
    else ((settings.parts.get part).properties.get? name).or (mark.generatedProperty part name)

variable {mark : MarkDef} {settings : Settings} {part : Part}

/-- The color and the opacity of the error bar, where it has any. -/
private def colorEntries (mark : MarkDef) : Fields (Option Json) :=
  [("color", (mark.color.filter (· ≠ "")).map .str), ("opacity", mark.opacity.map .double)]

private theorem propertiesOf_eq (mark : MarkDef) (settings : Settings) (part : Part) :
    mark.propertiesOf settings part =
      (((((settings.parts.get part).properties.merge (Fields.ofOptions mark.colorEntries)).merge
        (Fields.merge [("type", .str part.primitive)] (settings.parts.get part).properties)).put
          "style" (.str ("errorbar-" ++ part.name))).merge (mark.ownProperties part)) := by
  rw [propertiesOf, propertiesFor, setting?_name]
  rfl

private theorem nodup_keys_colorEntries (mark : MarkDef) : mark.colorEntries.keys.Nodup := by
  show ["color", "opacity"].Nodup
  decide

/-- Without configured properties, a name stands for the type, the color or the opacity. -/
private theorem get?_generated (mark : MarkDef) (part : Part) (name : String) :
    (Fields.get? [("type", .str part.primitive)] name).or
        ((Fields.ofOptions mark.colorEntries).get? name) = mark.generatedProperty part name := by
  have hcolors : (Fields.ofOptions mark.colorEntries).get? name =
      if name = "color" then (mark.color.filter (· ≠ "")).map .str
      else if name = "opacity" then mark.opacity.map .double
      else none := by
    rw [Fields.get?_ofOptions mark.nodup_keys_colorEntries, colorEntries, Fields.get?_cons,
      Fields.get?_cons]
    split_ifs <;> rfl
  rw [hcolors, generatedProperty, Fields.get?_cons]
  split_ifs <;> rfl

/-- **The chain of properties.**  What stands under a name is the property that prevails. -/
theorem get?_propertiesOf (ownDistinct : (mark.ownProperties part).keys.Nodup)
    (configuredDistinct : (settings.parts.get part).properties.keys.Nodup) (name : String) :
    (mark.propertiesOf settings part).get? name = mark.propertyAt settings part name := by
  have hcolors : (Fields.ofOptions mark.colorEntries).keys.Nodup :=
    mark.nodup_keys_colorEntries.sublist (Fields.keys_ofOptions_sublist _)
  have htemplate : (Fields.merge [("type", .str part.primitive)]
      (settings.parts.get part).properties).keys.Nodup :=
    Fields.nodup_keys_merge _ (by simp [Fields.keys])
  rw [propertiesOf_eq, Fields.get?_merge _ ownDistinct, propertyAt]
  congr 1
  by_cases hstyle : name = "style"
  · rw [hstyle, Fields.get?_put_self, if_pos rfl]
  · rw [Fields.get?_put_of_ne _ _ hstyle, if_neg hstyle, Fields.get?_merge _ htemplate,
      Fields.get?_merge _ configuredDistinct, Fields.get?_merge _ hcolors, ← get?_generated]
    -- a configured property hides the color and the opacity, so it does not count once more below
    cases (settings.parts.get part).properties.get? name <;> simp

theorem nodup_keys_propertiesOf
    (configuredDistinct : (settings.parts.get part).properties.keys.Nodup) :
    (mark.propertiesOf settings part).keys.Nodup := by
  rw [propertiesOf_eq]
  exact Fields.nodup_keys_merge _ (Fields.nodup_keys_put _ _
    (Fields.nodup_keys_merge _ (Fields.nodup_keys_merge _ configuredDistinct)))

end MarkDef

/-- **Which mark properties prevail.**  A part that is shown has a layer.  Its mark has the property
that prevails under each name, and no property under a name for which there is none. -/
theorem Summary.layer?_properties (summary : Summary) {mark : MarkDef} {settings : Settings}
    {part : Part} (column : Option String)
    (ownDistinct : (mark.ownProperties part).keys.Nodup)
    (configuredDistinct : (settings.parts.get part).properties.keys.Nodup)
    (shown : mark.shows settings part = true) :
    ∃ layer properties : Object, summary.layer? mark settings part column = some layer ∧
      layer.get? "mark" = some (.obj properties) ∧ properties.keys.Nodup ∧
      (∀ name, properties.get? name = mark.propertyAt settings part name) ∧
      ∀ name, name ∈ properties.keys ↔ (mark.propertyAt settings part name).isSome = true := by
  have hproperties := MarkDef.get?_propertiesOf ownDistinct configuredDistinct
  refine ⟨[("mark", .obj (mark.propertiesOf settings part)),
    ("encoding", .obj (summary.encoding part column))], _, ?_, rfl,
    MarkDef.nodup_keys_propertiesOf configuredDistinct, hproperties, fun name => ?_⟩
  · rw [summary.layer?_eq, if_pos shown]
  · rw [← hproperties, Fields.isSome_get?]

/-- A transparent red error bar with filled blue points and with ticks. -/
private def filledPoint : MarkDef :=
  { (default : MarkDef) with
    color := some "red"
    opacity := some (.ofDecimal false 0 0)
    parts := { (default : PerPart (Option PartSetting)) with
      point := some (.styled [("filled", .bool true), ("color", .str "blue")])
      ticks := some .shown } }

/-- Settings under which points are large green circles. -/
private def circledPoint : Settings :=
  { Settings.default with
    parts := { Settings.default.parts with
      point := .styled [("style", .str "dot"), ("type", .str "circle"), ("size", .int 3),
        ("color", .str "green")] } }

/-- The color is that of the points, the type and the size are configured, the opacity is that of
the error bar, and the style is the generated one.  The parts whose type is not configured are drawn
by their own primitive marks. -/
theorem filledPoint_properties :
    (filledPoint.ownProperties .point).keys.Nodup ∧
    (circledPoint.parts.get .point).properties.keys.Nodup ∧
    filledPoint.shows circledPoint .point = true ∧
    (∃ layer properties : Object,
      (default : Summary).layer? filledPoint circledPoint .point none = some layer ∧
      layer.get? "mark" = some (.obj properties) ∧
      properties.get? "color" = some (.str "blue") ∧
      properties.get? "type" = some (.str "circle") ∧
      properties.get? "size" = some (.int 3) ∧
      properties.get? "opacity" = some (.double (.ofDecimal false 0 0)) ∧
      properties.get? "style" = some (.str "errorbar-point") ∧
      "filled" ∈ properties.keys ∧ "stroke" ∉ properties.keys) ∧
    ∀ drawn ∈ [(Part.ticks, "tick"), (Part.whisker, "rule")], ∃ layer properties : Object,
      (default : Summary).layer? filledPoint circledPoint drawn.1 none = some layer ∧
      layer.get? "mark" = some (.obj properties) ∧
      properties.get? "type" = some (.str drawn.2) := by
  have ownDistinct (part : Part) : (filledPoint.ownProperties part).keys.Nodup := by
    cases part <;> decide
  have configuredDistinct (part : Part) : (circledPoint.parts.get part).properties.keys.Nodup := by
    cases part <;> decide
  have shown : filledPoint.shows circledPoint .point = true := rfl
  refine ⟨ownDistinct .point, configuredDistinct .point, shown, ?_, ?_⟩
  · obtain ⟨layer, properties, hlayer, hmark, -, hproperties, hkeys⟩ :=
      (default : Summary).layer?_properties none (ownDistinct .point) (configuredDistinct .point)
        shown
    refine ⟨layer, properties, hlayer, hmark,
      hproperties "color", hproperties "type", hproperties "size", hproperties "opacity",
      hproperties "style", (hkeys "filled").mpr rfl, ?_⟩
    intro hstroke
    exact absurd ((hkeys "stroke").mp hstroke) (by decide)
  · intro drawn hdrawn
    have hshown : filledPoint.shows circledPoint drawn.1 = true := by
      revert hdrawn drawn
      decide
    obtain ⟨layer, properties, hlayer, hmark, -, hproperties, -⟩ :=
      (default : Summary).layer?_properties none (ownDistinct drawn.1) (configuredDistinct drawn.1)
        hshown
    refine ⟨layer, properties, hlayer, hmark, ?_⟩
    rw [hproperties "type"]
    simp only [List.mem_cons, List.not_mem_nil, or_false] at hdrawn
    rcases hdrawn with rfl | rfl <;> rfl

end LayeredMarks
