import LayeredMarks.Json.Nesting
import LayeredMarks.Json.Shown

/-!
# Values that do not fit

A spec is written by hand, so a value may not be one of those that its place takes.  A `Misfit` says
why, and keeps the value that was found.  Most complaints show that value; where it has no text, the
value is a misfit all the same, but the complaint says only that.
-/

namespace LayeredMarks

/-- Why a value does not fit its place. -/
inductive Misfit where
  /-- The value is none of the words of a closed vocabulary. -/
  | unknownWord (subject : String) (words : List String) (found : Json)
  /-- The mark is of another type. -/
  | otherMark (found : Json)
  /-- A part of the mark is given neither a boolean nor properties. -/
  | notPartSetting (found : Json)
  /-- The encoding is no object. -/
  | encodingNotObject (found : Json)
  /-- The complaint would show an integer with more digits than are written. -/
  | integerTooLong
deriving Inhabited

/-- The complaint about a value that does not fit. -/
def Misfit.message : Misfit → String
  | unknownWord subject words found =>
    subject ++ " must be one of " ++ (Json.arr (words.map Json.str)).quoted ++ " (got " ++
      found.quoted ++ ")"
  | otherMark found => "mark type must be 'errorbar' (got " ++ found.quoted ++ ")"
  | notPartSetting found =>
    "part setting must be a bool or a mapping (got " ++ found.quoted ++ ")"
  | encodingNotObject found => "encoding must be a mapping (got " ++ found.kindName ++ ")"
  | integerTooLong => Json.WritingFault.integerTooLong.message

/-- The misfit of a value that the complaint shows. -/
def Misfit.showing (found : Json) (misfit : Misfit) : Misfit :=
  if found.hasLongInteger then integerTooLong else misfit

end LayeredMarks
