import LayeredMarks.Diagnostic
import LayeredMarks.Vocabulary

/-!
# Parts of an error bar

An error bar is drawn as up to five parts, each by a primitive mark.  `PerPart` holds one value for
each of them.
-/

namespace LayeredMarks

/-- A part of an error bar. -/
inductive Part where
  | bar
  | line
  | point
  | ticks
  | whisker
deriving DecidableEq, Repr, Inhabited

instance : Vocabulary Part where
  subject := "part"
  members := [.bar, .line, .point, .ticks, .whisker]
  word
    | .bar => "bar"
    | .line => "line"
    | .point => "point"
    | .ticks => "ticks"
    | .whisker => "whisker"

namespace Part

/-- The name of the part. -/
def name (part : Part) : String := Vocabulary.word part

/-- The part of this name. -/
def ofName? (name : String) : Option Part := Vocabulary.ofWord? name

/-- All parts, in the order in which marks and settings list them. -/
def all : List Part := Vocabulary.members

/-- The primitive mark that draws the part. -/
def primitive : Part → String
  | bar => "bar"
  | line => "line"
  | point => "point"
  | ticks => "tick"
  | whisker => "rule"

/-- The primitive mark for a value that should name a part.  A value that does not is drawn as a
point, with a warning. -/
def primitiveOf (value : Json) : List Diagnostic × String :=
  let part : Option Part :=
    match value with
    | .str name => ofName? name
    | _ => none
  match part with
  | some part => ([], part.primitive)
  | none => ([.unknownPart value.shown], "point")

/-- Whether the part stands at a single derived value; the whisker alone spans two. -/
def isSinglePoint : Part → Bool
  | whisker => false
  | _ => true

end Part

/-- One value for each part. -/
structure PerPart (α : Type) where
  bar : α
  line : α
  point : α
  ticks : α
  whisker : α
deriving DecidableEq, Inhabited

namespace PerPart

variable {α : Type}

/-- The value of a part. -/
def get (values : PerPart α) : Part → α
  | .bar => values.bar
  | .line => values.line
  | .point => values.point
  | .ticks => values.ticks
  | .whisker => values.whisker

/-- Replaces the value of a part. -/
def set (values : PerPart α) (part : Part) (value : α) : PerPart α :=
  match part with
  | .bar => { values with bar := value }
  | .line => { values with line := value }
  | .point => { values with point := value }
  | .ticks => { values with ticks := value }
  | .whisker => { values with whisker := value }

@[simp] theorem get_set_self (values : PerPart α) (part : Part) (value : α) :
    (values.set part value).get part = value := by
  cases part <;> rfl

theorem get_set_of_ne (values : PerPart α) {part other : Part} (value : α) (h : other ≠ part) :
    (values.set part value).get other = values.get other := by
  cases part <;> cases other <;> simp_all [get, set]

end PerPart

end LayeredMarks
