import LayeredMarks.Expansion

/-!
# The registry of marks

An expander turns the unit spec of one mark type into a layered spec.  The registry holds at most
one expander for each mark type, in the order of their names.

The registry has the room in which it is asked to expand specs: it may have to show the mark of a
spec, or values of the configuration in the spec, and either fails where there is no text to show.
-/

namespace LayeredMarks

/-- Turns a unit spec into a layered spec. -/
abbrev Expander := Object → Settings → Logged Object

/-- The expanders, by mark type. -/
structure Registry where
  /-- The room in which specs are expanded. -/
  room : Room
  entries : List (String × Expander)
deriving Inhabited

namespace Registry

/-- Inserts an expander in the order of the names, in place of one with the same name. -/
def insertEntry (mark : String) (expander : Expander) :
    List (String × Expander) → List (String × Expander)
  | [] => [(mark, expander)]
  | entry :: rest =>
    if mark < entry.1 then (mark, expander) :: entry :: rest
    else if mark = entry.1 then (mark, expander) :: rest
    else entry :: insertEntry mark expander rest

/-- Registers an expander for a mark type, in place of an earlier one. -/
def add (registry : Registry) (mark : String) (expander : Expander) : Registry :=
  { registry with entries := insertEntry mark expander registry.entries }

/-- Forgets the expander of a mark type, if there is one. -/
def remove (registry : Registry) (mark : String) : Registry :=
  { registry with entries := Fields.erase registry.entries mark }

/-- The mark types with an expander, in the order of their names. -/
def marks (registry : Registry) : List String := Fields.keys registry.entries

/-- Whether a mark type has an expander. -/
def contains (registry : Registry) (mark : String) : Bool :=
  (Fields.get? registry.entries mark).isSome

/-- The value that has to be a text for a spec to have a mark type: the mark, or the type of a mark
that is an object. -/
def typeValue (fields : Object) : Json :=
  match (fields.get? "mark").getD .null with
  | .obj properties => (Fields.get? properties "type").getD .null
  | other => other

/-- The mark type of a spec.  A value that is no text is shown in the complaint; the room is what
that takes for the parts of the value. -/
def markType (room : Room) (fields : Object) : Except Failure String :=
  match typeValue fields with
  | .str name => .ok name
  | found =>
    match found.writingFault? .message (room + 1) with
    | some fault => .error (.unshown fault)
    | none => .error (.spec (.noMarkType found))

/-- The configuration in a spec. -/
def ownConfiguration (fields : Object) : Json := (fields.get? "config").getD .null

/-- Expands a spec by the expander of its mark type.  The mark is shown two steps deep in the work.
The spec's own configuration is laid over the settings first, one step deep in the work. -/
def expand (registry : Registry) (fields : Object) (settings : Settings) : Logged Object :=
  match markType (registry.room - 3) fields with
  | .error failure => .fail failure
  | .ok mark =>
    match Fields.get? registry.entries mark with
    | none => .fail (.spec (.unknownMark mark))
    | some expander =>
      match settings.configureWithin (registry.room - 1) (ownConfiguration fields) with
      | .error fault => .fail (.unshown fault)
      | .ok applied => expander fields applied

end Registry

end LayeredMarks
