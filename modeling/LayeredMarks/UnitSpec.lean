import LayeredMarks.ChannelDef
import LayeredMarks.MarkDef
import LayeredMarks.Diagnostic

/-!
# Unit specs

A unit spec names a mark and says what each channel shows.  Its selection and its projection are
taken up by the expansion and do not appear in the result; all other fields are handed through.
-/

namespace LayeredMarks

/-- A unit spec whose mark is an error bar. -/
structure UnitSpec where
  mark : MarkDef
  encoding : Encoding
  selection : Json
  projection : Json
  /-- All other fields, as they are. -/
  outer : Object
deriving Inhabited

namespace UnitSpec

/-- The fields that a unit spec does not hand through. -/
def absorbedNames : List String := ["mark", "encoding", "selection", "projection"]

/-- The mark of a spec: a text is short for a mark of that type. -/
def readMark : Json → Checked MarkDef
  | .str type => MarkDef.readFields [("type", .str type)]
  | value => MarkDef.read value

/-- Reads the channels one by one; the first that is refused ends the reading. -/
def readChannels (channels : Object) : Checked Encoding :=
  .each (fun entry => (ChannelDef.read entry.2).map fun channel => (entry.1, channel)) channels

/-- The encoding of a spec: null is an empty one. -/
def readEncoding : Json → Checked Encoding
  | .null => .ok []
  | .obj channels => readChannels channels
  | found => .fail (.misfit (.encodingNotObject found))

/-- Reads a unit spec. -/
def read (fields : Object) : Checked UnitSpec :=
  (fun mark encoding =>
      { mark, encoding
        selection := (fields.get? "selection").getD .null
        projection := (fields.get? "projection").getD .null
        outer := fields.filter fun entry => entry.1 ∉ absorbedNames })
    <$> Reading.required fields "mark" readMark
    <*> Reading.withDefault fields "encoding" readEncoding []

/-! ## Channels that the mark can draw -/

/-- The channels that an error bar draws. -/
def supportedChannels : List String := ["x", "y", "color", "detail", "opacity", "size"]

/-- The spec without the channels that an error bar cannot draw. -/
def onlySupported (spec : UnitSpec) : UnitSpec :=
  { spec with encoding := spec.encoding.filter fun entry => entry.1 ∈ supportedChannels }

/-- A warning for each channel that an error bar cannot draw, in the order of the spec. -/
def droppedChannels (spec : UnitSpec) : List Diagnostic :=
  (spec.encoding.keys.filter (· ∉ supportedChannels)).map fun channel =>
    .droppedChannel channel errorBar none

end UnitSpec

end LayeredMarks
