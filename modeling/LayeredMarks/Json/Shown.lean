import LayeredMarks.Json.Basic
import LayeredMarks.Decimal.Layout
import LayeredMarks.Text.Quoted

/-!
# How values are shown in messages and names

Complaints show the value that they refuse, and the name of a binned field is made of the values of
its bin parameters.  `quoted` puts texts between quotes; `shown` leaves a text that stands by itself
bare.
-/

namespace LayeredMarks.Json

/-- The texts of numbers that are not finite, in messages and names. -/
def shownSpelling : Decimal.Spelling where
  notANumber := "nan"
  infinite := "inf"

mutual

/-- The value with its texts between quotes. -/
def quoted : Json → String
  | null => "None"
  | bool true => "True"
  | bool false => "False"
  | int n => toString n
  | double x => x.render shownSpelling
  | str s => Text.quoted s
  | arr items => "[" ++ ", ".intercalate (quotedItems items) ++ "]"
  | obj fields => "\x7b" ++ ", ".intercalate (quotedFields fields) ++ "\x7d"
  | moment m => m.quoted

/-- The items of an array, each with its texts between quotes. -/
def quotedItems : List Json → List String
  | [] => []
  | item :: rest => quoted item :: quotedItems rest

/-- The fields of an object, each with its texts between quotes. -/
def quotedFields : List (String × Json) → List String
  | [] => []
  | (key, value) :: rest => (Text.quoted key ++ ": " ++ quoted value) :: quotedFields rest

end

/-- The value as it is shown by itself: a text bare, anything else as `quoted` has it. -/
def shown : Json → String
  | str s => s
  | value => value.quoted

end LayeredMarks.Json
