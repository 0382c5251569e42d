/-!
# Room for nested work

Nested values are read, written and copied from the outside in: the step for a value stays open
while the steps for the values inside it run.  Only so many steps may be open at once.  What is left
of them is the room of a piece of work; what needs more room fails.
-/

namespace LayeredMarks

/-- The number of steps that may still be opened one inside the other. -/
abbrev Room := Nat

namespace Room

/-- The room of work that is asked for directly. -/
def direct : Room := 995

/-- The room of a run of the program, which keeps three steps open itself. -/
def ofRun : Room := direct - 3

end Room

/-- What there was no room for. -/
inductive Overrun where
  /-- One more step of the work. -/
  | step
  /-- The comparison of two values. -/
  | comparison
deriving DecidableEq, Repr, Inhabited

/-- The complaint about work that needs more room. -/
def Overrun.message : Overrun → String
  | step => "maximum recursion depth exceeded while calling a Python object"
  | comparison => "maximum recursion depth exceeded in comparison"

end LayeredMarks
