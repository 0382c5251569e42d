import LayeredMarks.Json.Pairs
import LayeredMarks.Settings
import LayeredMarks.Summary

/-!
# Layers

Each part that is drawn becomes a layer: a primitive mark and an encoding that reads the computed
columns.  Later layers are drawn over earlier ones.

The properties of a mark are laid one over the other: the configured ones of the part, the color
and the opacity of the error bar, the generated mark, the style, and last those that the error bar
itself gives for the part.
-/

namespace LayeredMarks

/-- The properties of a mark; a text is short for a mark of that type. -/
def markProperties : Json → Except Json.PairFailure Object
  | .str type => .ok [("type", .str type)]
  | value => value.asFields Json.keyText

namespace MarkDef

/-- The properties of the mark that draws a part. -/
def propertiesFor (mark : MarkDef) (part : String) (configured generated : Object) : Object :=
  let colors : Object :=
    Fields.ofOptions [("color", (mark.color.filter (· ≠ "")).map .str),
      ("opacity", mark.opacity.map .double)]
  let own := ((mark.setting? part).map PartSetting.properties).getD []
  (((configured.merge colors).merge generated).put "style" (.str (errorBar ++ "-" ++ part))).merge
    own

/-- Whether the part is drawn: the mark's own setting decides, else the configured one; without
either it is. -/
def draws (mark : MarkDef) (part : String) (configured : Option PartSetting) : Bool :=
  (PartSetting.effective (mark.setting? part) (configured.getD .shown)).isDrawn

/-- A template whose mark is given its final properties. -/
def finish (mark : MarkDef) (part : String) (configured : Option PartSetting)
    (generated template : Object) : Object :=
  let properties := (configured.map PartSetting.properties).getD []
  template.put "mark" (.obj (mark.propertiesFor part properties generated))

/-- Why a template gives no layer. -/
inductive TemplateFailure where
  /-- The template has no mark. -/
  | noMark
  /-- The mark of the template has no properties. -/
  | mark (failure : Json.PairFailure)
deriving Inhabited

/-- The layers that draw a part after a template: none when the part is not drawn, else one. -/
def layersAfter (mark : MarkDef) (part : String) (configured : Option PartSetting)
    (template : Object) : Except TemplateFailure (List Object) :=
  if mark.draws part configured then
    match template.get? "mark" with
    | some value =>
      match markProperties value with
      | .ok generated => .ok [mark.finish part configured generated template]
      | .error failure => .error (.mark failure)
    | none => .error .noMark
  else .ok []

end MarkDef

namespace Summary

/-- What the summarized channel of every layer tells besides its field. -/
def position (summary : Summary) : Object :=
  let given (key : String) (properties : Option Object) : String × Option Json :=
    (key, (properties.filter fun entries => !entries.isEmpty).map .obj)
  Fields.ofOptions
    [("type", some (.ofText? (summary.axisDef.type.map Vocabulary.word))),
     given "scale" summary.axisDef.scale, given "axis" summary.axisDef.axis]

/-- The summarized channel of a layer, reading a column. -/
def reading (summary : Summary) (column : String) : Json :=
  .obj (("field", .str column) :: summary.position)

/-- The channels of a layer along the summarized axis: a part at a single point reads one column,
the center unless another is given; the whisker spans from the lower bound to the upper. -/
def along (summary : Summary) (part : Part) (column : Option String) : Object :=
  if part.isSinglePoint then
    let column := (column.filter (· ≠ "")).getD summary.names.center
    [(summary.axis.channel, summary.reading column)]
  else
    [(summary.axis.channel, summary.reading summary.names.lower),
     (summary.axis.secondary, .obj [("field", .str summary.names.upper)])]

/-- The other channels that a layer shows.  The color goes with the mark, and the size is not
shown. -/
def beside (summary : Summary) : Object :=
  summary.channels.filter fun entry => entry.1 ∉ ["color", "size"]

/-- The encoding of a layer. -/
def encoding (summary : Summary) (part : Part) (column : Option String) : Object :=
  (summary.along part column).merge summary.beside

/-- The layer of a part, if it is drawn. -/
def layer? (summary : Summary) (mark : MarkDef) (settings : Settings) (part : Part)
    (column : Option String) : Option Object :=
  let configured := settings.parts.get part
  if mark.draws part.name (some configured) then
    let generated := Fields.merge [("type", .str part.primitive)] configured.properties
    let template : Object :=
      [("mark", .obj generated), ("encoding", .obj (summary.encoding part column))]
    some (mark.finish part.name (some configured) generated template)
  else none

/-- The places in which parts are drawn, from the back to the front, with the columns they read. -/
def slots (summary : Summary) : List (Part × Option String) :=
  [(.bar, none), (.line, none), (.ticks, some summary.names.lower),
   (.ticks, some summary.names.upper), (.whisker, none), (.point, none)]

/-- The layers of all parts that are drawn. -/
def layers (summary : Summary) (mark : MarkDef) (settings : Settings) : List Object :=
  summary.slots.filterMap fun slot => summary.layer? mark settings slot.1 slot.2

end Summary

end LayeredMarks
