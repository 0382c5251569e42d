import LayeredMarks.Issue
import LayeredMarks.Vocabulary

/-!
# Failures

A spec that has issues, that has no mark that can be expanded, whose axes give no orientation, whose
own transform is no list of steps, for whose values there is no room or whose values have no text
where one is needed cannot be expanded.  A `Failure` is the cause; its text is what a user sees.
-/

namespace LayeredMarks

/-- Why no axis can be summarized. -/
inductive OrientationFailure where
  /-- Both axes are singled out. -/
  | bothSummarized
  /-- Neither axis is continuous. -/
  | noContinuousAxis
  /-- The axis of the orientation shows no field. -/
  | notField (orient : Orient)
deriving DecidableEq, Repr, Inhabited

/-- The complaint about an orientation. -/
def OrientationFailure.message : OrientationFailure → String
  | bothSummarized => "Both x and y cannot have aggregate"
  | noContinuousAxis => "Need a valid continuous axis for errorbars"
  | notField orient =>
    orient.axis.channel ++ " must be a field definition for " ++ Vocabulary.word orient ++
      " errorbars"

/-- Why a spec is none that can be expanded. -/
inductive SpecFailure where
  /-- The spec has no mark type. -/
  | noMarkType (found : Json)
  /-- No expander is registered for the mark. -/
  | unknownMark (mark : String)
  /-- The expander of the mark refuses all specs. -/
  | refusedMark (mark : String)
deriving Inhabited

/-- The complaint about a spec. -/
def SpecFailure.message : SpecFailure → String
  | noMarkType found => "unit spec must have a mark type (got " ++ found.quoted ++ ")"
  | unknownMark mark => "Invalid mark type \"" ++ mark ++ "\""
  | refusedMark mark => mark ++ " refused"

/-- Why an expansion fails. -/
inductive Failure where
  /-- The spec has issues. -/
  | invalid (issues : List Issue)
  | orientation (failure : OrientationFailure)
  | spec (failure : SpecFailure)
  /-- The spec's own transform is a value that has no entries. -/
  | transformNotIterable (found : Json)
  /-- A value of the spec is nested too deep. -/
  | nestedTooDeep (overrun : Overrun)
  /-- A value that a complaint, a warning or a name shows has no text. -/
  | unshown (fault : Json.WritingFault)
deriving Inhabited

/-- Whether there was no room for something nested. -/
def Failure.isDepth : Failure → Bool
  | nestedTooDeep _ | unshown .shownTooDeep => true
  | _ => false

/-- The complaint of a failure, on one line. -/
def Failure.message : Failure → String
  | invalid issues =>
    toString issues.length ++ " validation error" ++ (if issues.length = 1 then "" else "s") ++
      " for UnitSpec"
  | orientation failure => failure.message
  | spec failure => failure.message
  | transformNotIterable found => "Value after * must be an iterable, not " ++ found.kindName
  | nestedTooDeep overrun => overrun.message
  | unshown fault => fault.message

end LayeredMarks
