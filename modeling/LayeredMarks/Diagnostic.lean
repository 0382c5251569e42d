/-!
# Warnings

What is odd in a spec but does not stop its expansion is reported as a warning.  All wording of
warnings stands here.
-/

namespace LayeredMarks

/-- A warning. -/
inductive Diagnostic where
  /-- A channel that the mark cannot draw is dropped, possibly only under a condition. -/
  | droppedChannel (channel mark : String) (condition : Option String)
  /-- The center and the extent are seldom combined. -/
  | unusualPair (center extent : String)
  /-- The summarized axis has an aggregate of its own, which is ignored. -/
  | customAggregate (aggregate : String)
  /-- A name that names no part. -/
  | unknownPart (name : String)
deriving DecidableEq, Repr, Inhabited

/-- The text of a warning. -/
def Diagnostic.message : Diagnostic → String
  | droppedChannel channel mark condition =>
    channel ++ " dropped as it is incompatible with \"" ++ mark ++ "\"" ++
      match condition with
      | some text => if text = "" then "." else " when " ++ text ++ "."
      | none => "."
  | unusualPair center extent =>
    center ++ " is not usually used with " ++ extent ++ " for error bar."
  | customAggregate aggregate =>
    "Continuous axis should not have customized aggregation function " ++ aggregate
  | unknownPart name => "wrong ErrorBarPart is used (" ++ name ++ " is entered)"

end LayeredMarks
