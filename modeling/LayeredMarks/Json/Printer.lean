import LayeredMarks.Json.Basic
import LayeredMarks.Decimal.Layout
import LayeredMarks.Text.Quoted

/-!
# Writing JSON

A value is written on one line, with a blank behind every comma and colon, or over several lines
with a given number of blanks for each level.  Empty arrays and objects stay closed up.
Characters beyond ASCII are written as they are.  Dates and times have no text in JSON: whoever
writes a value asks `writingFault?` first, and those stand here as texts for completeness.
-/

namespace LayeredMarks.Json

/-- The texts of numbers that are not finite, in JSON text. -/
def writtenSpelling : Decimal.Spelling where
  notANumber := "NaN"
  infinite := "Infinity"

/-- A character inside JSON quotes: the quote, the backslash and the control characters are
escaped. -/
def escapedChar (c : Char) : String :=
  if c = '"' then "\\\""
  else if c = '\\' then "\\\\"
  else if c = '\n' then "\\n"
  else if c = '\r' then "\\r"
  else if c = '\t' then "\\t"
  else if c.toNat = 0x08 then "\\b"
  else if c.toNat = 0x0C then "\\f"
  else if c.toNat < 0x20 then "\\u" ++ Text.hexDigits 4 c.toNat
  else String.singleton c

/-- A text between JSON quotes. -/
def writtenText (text : String) : String :=
  "\"" ++ String.join (text.toList.map escapedChar) ++ "\""

/-- What stands behind an opening bracket and before a closing one, `depth` levels deep: nothing
on a single line, else a line feed and `width` blanks for each level. -/
def lineBreak (width : Option Nat) (depth : Nat) : String :=
  match width with
  | none => ""
  | some n => "\n" ++ String.ofList (List.replicate (n * depth) ' ')

/-- The parts of an array or object between its brackets. -/
def bracketed (width : Option Nat) (depth : Nat) (left right : String) (parts : List String) :
    String :=
  if parts.isEmpty then left ++ right
  else
    let comma := if width.isSome then "," else ", "
    let inner := lineBreak width (depth + 1)
    left ++ inner ++ (comma ++ inner).intercalate parts ++ lineBreak width depth ++ right

mutual

/-- The text of a value that stands `depth` levels deep. -/
def write (width : Option Nat) (depth : Nat) : Json → String
  | null => "null"
  | bool true => "true"
  | bool false => "false"
  | int n => toString n
  | double x => x.render writtenSpelling
  | str s => writtenText s
  | arr items => bracketed width depth "[" "]" (writeItems width (depth + 1) items)
  | obj fields => bracketed width depth "\x7b" "\x7d" (writeFields width (depth + 1) fields)
  | moment m => writtenText m.quoted

/-- The texts of the items of an array. -/
def writeItems (width : Option Nat) (depth : Nat) : List Json → List String
  | [] => []
  | item :: rest => write width depth item :: writeItems width depth rest

/-- The texts of the fields of an object. -/
def writeFields (width : Option Nat) (depth : Nat) : List (String × Json) → List String
  | [] => []
  | (key, value) :: rest =>
    (writtenText key ++ ": " ++ write width depth value) :: writeFields width depth rest

end

/-- The text of a value on one line. -/
def toLine (value : Json) : String := value.write none 0

/-- The text of a value over several lines, with `width` blanks for each level. -/
def toLines (width : Nat) (value : Json) : String := value.write (some width) 0

end LayeredMarks.Json
