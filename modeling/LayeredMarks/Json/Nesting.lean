import LayeredMarks.Json.Basic
import LayeredMarks.Decimal.Numeral
import LayeredMarks.Room

/-!
# Nested values

A value can be nested so deep that there is no room to copy it, to write it or to show it in a
message.  `copySteps` is the room that a copy needs, and `writingFault?` tells whether a value has a
text in a given room.  Whoever makes a text of a value asks for it: messages and names show values,
and a layered spec is written as JSON.
-/

namespace LayeredMarks.Json

/-! ## Copies -/

mutual

/-- The room that a copy of the value needs: a value without entries takes two steps, and a
container two around those of its entries, or one more than that when it is empty.  A date or a time
is taken apart and put together again. -/
def copySteps : Json → Room
  | arr items => max 3 (copyStepsOfItems items + 2)
  | obj fields => max 3 (copyStepsOfFields fields + 2)
  | moment _ => 5
  | _ => 2

/-- The room that the items of an array need, none for no items. -/
def copyStepsOfItems : List Json → Room
  | [] => 0
  | item :: rest => max (copySteps item) (copyStepsOfItems rest)

/-- The room that the fields of an object need, none for no fields. -/
def copyStepsOfFields : List (String × Json) → Room
  | [] => 0
  | (_, value) :: rest => max (copySteps value) (copyStepsOfFields rest)

end

/-! ## Texts of values -/

/-- Why a value has no text. -/
inductive WritingFault where
  /-- An integer has more digits than are written. -/
  | integerTooLong
  /-- A value that is shown in a message or a name is nested too deep. -/
  | shownTooDeep
  /-- A value that is written as JSON is nested too deep. -/
  | writtenTooDeep
  /-- A date or a time, named by its kind, is written as JSON. -/
  | noJson (kind : String)
deriving DecidableEq, Repr, Inhabited

/-- The complaint about a value that has no text. -/
def WritingFault.message : WritingFault → String
  | integerTooLong =>
    "Exceeds the limit (" ++ toString Numeral.maxIntegerDigits ++
      " digits) for integer string conversion; " ++
      "use sys.set_int_max_str_digits() to increase the limit"
  | shownTooDeep => "maximum recursion depth exceeded while getting the repr of an object"
  | writtenTooDeep => "maximum recursion depth exceeded while calling a Python object"
  | noJson kind => "Object of type " ++ kind ++ " is not JSON serializable"

/-- What the text of a value is for. -/
inductive TextUse where
  /-- It is part of a message or of a name. -/
  | message
  /-- It is written as JSON. -/
  | document
deriving DecidableEq, Repr, Inhabited

/-- The fault of too little room. -/
def TextUse.tooDeep : TextUse → WritingFault
  | message => .shownTooDeep
  | document => .writtenTooDeep

/-- The fault of a date or a time, if it is one. -/
def TextUse.momentFault? (use : TextUse) (moment : Moment) : Option WritingFault :=
  match use with
  | message => none
  | document => some (.noJson moment.kindName)

mutual

/-- The first reason why a value has no text in the given room, if there is any. -/
def writingFault? (use : TextUse) : (room : Room) → Json → Option WritingFault
  | 0, _ => some use.tooDeep
  | _ + 1, int n => if Numeral.isTooLong n then some .integerTooLong else none
  | room + 1, arr items => writingFaultOfItems? use room items
  | room + 1, obj fields => writingFaultOfFields? use room fields
  | _ + 1, moment m => use.momentFault? m
  | _ + 1, _ => none

/-- The first reason why the items of an array have no text. -/
def writingFaultOfItems? (use : TextUse) (room : Room) : List Json → Option WritingFault
  | [] => none
  | item :: rest => writingFault? use room item <|> writingFaultOfItems? use room rest

/-- The first reason why the fields of an object have no text. -/
def writingFaultOfFields? (use : TextUse) (room : Room) :
    List (String × Json) → Option WritingFault
  | [] => none
  | (_, value) :: rest => writingFault? use room value <|> writingFaultOfFields? use room rest

end

theorem writingFaultOfItems?_eq (use : TextUse) (room : Room) (items : List Json) :
    writingFaultOfItems? use room items = items.findSome? (writingFault? use room) := by
  induction items with
  | nil => rfl
  | cons item rest ih =>
    rw [writingFaultOfItems?, List.findSome?_cons, ih]
    cases writingFault? use room item <;> rfl

theorem writingFaultOfFields?_eq (use : TextUse) (room : Room) (fields : List (String × Json)) :
    writingFaultOfFields? use room fields =
      fields.findSome? fun entry => writingFault? use room entry.2 := by
  induction fields with
  | nil => rfl
  | cons entry rest ih =>
    rw [writingFaultOfFields?, List.findSome?_cons, ih]
    cases writingFault? use room entry.2 <;> rfl

mutual

/-- Whether the value holds an integer with more digits than are written. -/
def hasLongInteger : Json → Bool
  | int n => Numeral.isTooLong n
  | arr items => hasLongIntegerInItems items
  | obj fields => hasLongIntegerInFields fields
  | _ => false

/-- Whether one of the items of an array holds such an integer. -/
def hasLongIntegerInItems : List Json → Bool
  | [] => false
  | item :: rest => hasLongInteger item || hasLongIntegerInItems rest

/-- Whether one of the fields of an object holds such an integer. -/
def hasLongIntegerInFields : List (String × Json) → Bool
  | [] => false
  | (_, value) :: rest => hasLongInteger value || hasLongIntegerInFields rest

end

end LayeredMarks.Json
