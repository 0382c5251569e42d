import LayeredMarks.Json.Printer

/-!
# Charts

A layered spec is exported as a page or as an image.  A page needs a list of layers, an image a
converter that is not part of this library.
-/

namespace LayeredMarks

/-- Why a spec cannot be exported. -/
inductive ChartFailure where
  /-- The spec has no list of layers. -/
  | noLayers
  /-- There is no converter for images. -/
  | noConverter
deriving DecidableEq, Repr, Inhabited

/-- The complaint about an export. -/
def ChartFailure.message : ChartFailure → String
  | noLayers => "expanded spec must contain a 'layer' list"
  | noConverter =>
    "Saving PNG/SVG requires the 'vl-convert-python' package (pip install 'compositemark[image]')."

/-- The layers of a layered spec. -/
def chartLayers (layered : Object) : Except ChartFailure (List Json) :=
  match layered.get? "layer" with
  | some (.arr layers) => .ok layers
  | _ => .error .noLayers

/-- A page that holds a layered spec.  Less-than signs are written by their number, so that no
text of the spec can end the element that holds it. -/
def chartPage (layered : Object) : String :=
  let escaped (c : Char) : String := if c = '<' then "\\u003c" else String.singleton c
  "<!DOCTYPE html>\n<html>\n<body>\n<script type=\"application/json\" id=\"spec\">" ++
    String.join ((Json.obj layered).toLine.toList.map escaped) ++ "</script>\n</body>\n</html>\n"

end LayeredMarks
