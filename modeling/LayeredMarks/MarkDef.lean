import LayeredMarks.Part
import LayeredMarks.PartSetting
import LayeredMarks.Reading

/-!
# Mark definitions

The mark of a spec may fix the center, the extent and the orientation, color all parts alike, and
set each part by itself.  Whatever it leaves open is decided by the settings.
-/

namespace LayeredMarks

/-- The mark type, which is also the aggregate that singles out the summarized axis. -/
def errorBar : String := "errorbar"

/-- The definition of an error bar mark. -/
structure MarkDef where
  center : Option Center
  extent : Option Extent
  orient : Option Orient
  color : Option String
  opacity : Option Double
  parts : PerPart (Option PartSetting)
deriving Inhabited

namespace MarkDef

/-- The names of all properties. -/
def propertyNames : List String :=
  ["type", "center", "extent", "orient", "color", "opacity", "bar", "line", "point", "ticks",
   "whisker"]

/-- The type of the mark; any type but the one is a misfit. -/
def readType (value : Json) : Checked Unit :=
  if value.isText errorBar then .ok ()
  else .fail (.misfit (.showing value (.otherMark value)))

/-- A boolean in any of its spellings or an object; anything else has two issues, one for either. -/
def readSetting : Json → Checked PartSetting
  | .obj properties => .ok (.styled properties)
  | value =>
    match (Reading.flag value).map PartSetting.ofBool with
    | .ok setting => .ok setting
    | refused => .refused ((refused.under (.key "bool")).issues ++
        [⟨[.key "dict[str,any]"], .notObject⟩])

/-- The settings of all parts. -/
def readParts (fields : Object) : Checked (PerPart (Option PartSetting)) :=
  let setting (part : Part) := Reading.optional fields part.name readSetting
  PerPart.mk <$> setting .bar <*> setting .line <*> setting .point <*> setting .ticks <*>
    setting .whisker

/-- Reads the definition of a mark from the fields of an object. -/
def readFields (fields : Object) : Checked MarkDef :=
  let word {α : Type} [Vocabulary α] (key : String) : Checked (Option α) :=
    Reading.optional fields key fun value => .ofExcept (Vocabulary.read value)
  (fun (_ : Unit) center extent orient color opacity parts (_ : Unit) =>
      (⟨center, extent, orient, color, opacity, parts⟩ : MarkDef))
    <$> Reading.withDefault fields "type" readType ()
    <*> word "center"
    <*> word "extent"
    <*> word "orient"
    <*> Reading.optional fields "color" Reading.text
    <*> Reading.optional fields "opacity" Reading.number
    <*> readParts fields
    <*> Reading.noOthers fields propertyNames

/-- Reads the definition of a mark, which is an object. -/
def read : Json → Checked MarkDef
  | .obj fields => readFields fields
  | _ => .fail (.notRecord "ErrorBarDef")

/-- The setting of the part with this name; other names have none. -/
def setting? (mark : MarkDef) (name : String) : Option PartSetting :=
  (Part.ofName? name).bind mark.parts.get

end MarkDef

end LayeredMarks
