import LayeredMarks.Misfit
import LayeredMarks.Text.Blank
import LayeredMarks.Text.Case

/-!
# Closed vocabularies

Measure types, orientations, centers, extents and parts are closed sets of lower-case words.  A word
is read without regard to case and to blanks around it; what is no word is refused with the list of
those that would do.

A value that is no text is shown before it is refused (`isShown`), and that takes room.  Where there
is room for it, `read` says what becomes of it.
-/

namespace LayeredMarks

/-- A closed set of words. -/
class Vocabulary (α : Type) where
  /-- What the words are about, as complaints have it. -/
  subject : String
  /-- The members, in the order in which complaints list them. -/
  members : List α
  /-- The word of a member. -/
  word : α → String

namespace Vocabulary

variable {α : Type} [Vocabulary α]

/-- The words, in order. -/
def words (α : Type) [Vocabulary α] : List String := (members : List α).map word

/-- The member with exactly this word. -/
def ofWord? (text : String) : Option α := members.find? fun member => word member = text

/-- Reads a word without regard to case and blanks around it. -/
def read (value : Json) : Except Misfit α :=
  let member : Option α :=
    match value with
    | .str text => ofWord? (Text.lowerCase (Text.trim text))
    | _ => none
  match member with
  | some member => .ok member
  | none => .error (.showing value (.unknownWord (subject α) (words α) value))

/-- Whether the value has to be shown before it is refused: texts and what is not given are only
compared. -/
def isShown : Json → Bool
  | .str _ => false
  | value => value.isGiven

end Vocabulary

/-! ## Data types and orientation -/

/-- The declared data type of a field. -/
inductive MeasureType where
  | quantitative
  | ordinal
  | temporal
  | nominal
deriving DecidableEq, Repr, Inhabited

instance : Vocabulary MeasureType where
  subject := "type"
  members := [.quantitative, .ordinal, .temporal, .nominal]
  word
    | .quantitative => "quantitative"
    | .ordinal => "ordinal"
    | .temporal => "temporal"
    | .nominal => "nominal"

/-- The layout of the summary: a vertical one summarizes along y, a horizontal one along x. -/
inductive Orient where
  | vertical
  | horizontal
deriving DecidableEq, Repr, Inhabited

instance : Vocabulary Orient where
  subject := "orient"
  members := [.vertical, .horizontal]
  word
    | .vertical => "vertical"
    | .horizontal => "horizontal"

/-- An axis of the plot. -/
inductive Axis where
  | x
  | y
deriving DecidableEq, Repr, Inhabited

namespace Axis

/-- The channel of the axis. -/
def channel : Axis → String
  | x => "x"
  | y => "y"

/-- The channel of the far end of a mark that spans a range on the axis. -/
def secondary (axis : Axis) : String := axis.channel ++ "2"

end Axis

/-- The axis that a summary of this orientation summarizes. -/
def Orient.axis : Orient → Axis
  | .vertical => .y
  | .horizontal => .x

/-! ## Measures of an error bar -/

/-- The central value that is drawn. -/
inductive Center where
  | mean
  | median
deriving DecidableEq, Repr, Inhabited

instance : Vocabulary Center where
  subject := "center"
  members := [.mean, .median]
  word
    | .mean => "mean"
    | .median => "median"

/-- The spread that places the ends of the whiskers. -/
inductive Extent where
  /-- Bootstrapped confidence interval. -/
  | ci
  /-- First and third quartile. -/
  | iqr
  /-- Standard error on either side of the center. -/
  | stderr
  /-- Standard deviation on either side of the center. -/
  | stdev
deriving DecidableEq, Repr, Inhabited

instance : Vocabulary Extent where
  subject := "extent"
  members := [.ci, .iqr, .stderr, .stdev]
  word
    | .ci => "ci"
    | .iqr => "iqr"
    | .stderr => "stderr"
    | .stdev => "stdev"

/-- The aggregate operators that compute the lower and the upper bound at once, for the extents that
have such operators. -/
def Extent.boundOps? : Extent → Option (String × String)
  | .ci => some ("ci0", "ci1")
  | .iqr => some ("q1", "q3")
  | .stderr | .stdev => none

/-! ## Aggregate operators -/

/-- The aggregate operators that a channel may use. -/
def aggregateOps : List String :=
  ["argmax", "argmin", "average", "count", "distinct", "max", "mean", "median", "min", "missing",
   "q1", "q3", "ci0", "ci1", "stderr", "stdev", "stdevp", "sum", "valid", "values", "variance",
   "variancep"]

end LayeredMarks
