import LayeredMarks.Json.Nesting
import LayeredMarks.Part
import LayeredMarks.PartSetting
import LayeredMarks.Text.Blank
import LayeredMarks.Text.Case

/-!
# Settings

Settings decide what a mark leaves open: the center, the extent, and how each part is drawn.  They
are built in layers, each laid over the one before.  A layer names the settings that it changes; a
value that does not fit leaves the setting as it was.

A value that does not fit is shown in a complaint before that is dropped.  Where it has no text, no
settings come of the layer: `configureWithin` is `configure` in a given room.
-/

namespace LayeredMarks

/-- What a mark leaves open. -/
structure Settings where
  center : Center
  extent : Extent
  parts : PerPart PartSetting

namespace Settings

/-- The settings where nothing is configured: mean and standard error, as point and whisker. -/
def default : Settings where
  center := .mean
  extent := .stderr
  parts := { bar := .hidden, line := .hidden, point := .shown, ticks := .hidden, whisker := .shown }

instance : Inhabited Settings := ⟨Settings.default⟩

/-- The setting of the part with this name; other names are hidden. -/
def part (settings : Settings) (name : String) : PartSetting :=
  match Part.ofName? name with
  | some part => settings.parts.get part
  | none => .hidden

/-- Whether a loose value means yes: a number does unless it is zero, a text when it is one of a few
words. -/
def isYes : Json → Bool
  | .bool b => b
  | .int n => n != 0
  | .double x => !x.isZero
  | .str s => Text.lowerCase (Text.trim s) ∈ ["1", "true", "t", "yes", "y", "on"]
  | _ => false

/-- The setting of a part from a layer; texts mean yes or no. -/
def readPart : Json → Except Misfit PartSetting
  | .str s => .ok (.ofBool (isYes (.str s)))
  | value => PartSetting.readConfigured value

/-! ## Layers -/

/-- Changes a setting to what a layer gives for it under a key, if that can be read. -/
def change {α : Type} (layer : Object) (key : String) (read : Json → Except Misfit α)
    (update : Settings → α → Settings) (settings : Settings) : Settings :=
  match (layer.get? key).map read with
  | some (.ok value) => update settings value
  | _ => settings

/-- Lays the values of a part over the settings. -/
def changePart (layer : Object) (settings : Settings) (part : Part) : Settings :=
  settings |> change layer part.name readPart fun s value =>
    { s with parts := s.parts.set part value }

/-- Lays the entries of an object over the settings. -/
def overlay (settings : Settings) (layer : Object) : Settings :=
  Part.all.foldl (changePart layer) <|
    change layer "extent" Vocabulary.read (fun s extent => { s with extent }) <|
      change layer "center" Vocabulary.read (fun s center => { s with center }) settings

/-- Lays a configuration over the settings: its object under `errorbar`, if it has one. -/
def configure (settings : Settings) (configuration : Json) : Settings :=
  match configuration.get? "errorbar" with
  | some (.obj layer) => settings.overlay layer
  | _ => settings

/-! ## Values that do not fit -/

/-- Whether the value of a part has to be shown: it is none that may stand there. -/
def showsPart : Json → Bool
  | .null | .bool _ | .str _ | .obj _ => false
  | _ => true

/-- The values of a configuration that have to be shown, in the order in which they are read. -/
def valuesShown (configuration : Json) : List Json :=
  match configuration.get? "errorbar" with
  | some (.obj layer) =>
    (["center", "extent"].filterMap fun key =>
        (Fields.get? layer key).filter Vocabulary.isShown) ++
      Part.all.filterMap fun part => (Fields.get? layer part.name).filter showsPart
  | _ => []

/-- Why a configuration cannot be laid over settings, if it cannot.  The values that do not fit are
shown four steps deep in the work. -/
def configurationFault? (room : Room) (configuration : Json) : Option Json.WritingFault :=
  (valuesShown configuration).findSome? (Json.writingFault? .message (room - 4))

/-- Lays a configuration over the settings, if all values that do not fit can be shown. -/
def configureWithin (room : Room) (settings : Settings) (configuration : Json) :
    Except Json.WritingFault Settings :=
  match configurationFault? room configuration with
  | some fault => .error fault
  | none => .ok (settings.configure configuration)

/-! ## Variables -/

/-- The names of all settings. -/
def names : List String := "center" :: "extent" :: Part.all.map Part.name

/-- The variable of a setting: its name in capitals behind a stem. -/
def variableName (stem name : String) : String := stem ++ "ERRORBAR_" ++ Text.upperCase name

/-- What the variables of an environment say; an empty variable says nothing. -/
def ofVariables (stem : String) (valueOf : String → Option String) : Json :=
  let entry (name : String) : String × Option Json :=
    (name, ((valueOf (variableName stem name)).filter (· ≠ "")).map .str)
  .obj [("errorbar", .obj (Fields.ofOptions (names.map entry)))]

/-- What the names of variables begin with, unless something else is asked for. -/
def defaultStem : String := "COMPOSITEMARK_"

end Settings

end LayeredMarks
