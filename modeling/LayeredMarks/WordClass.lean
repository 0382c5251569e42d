import LayeredMarks.Json.Pairs
import LayeredMarks.Json.Shown
import LayeredMarks.Text.Blank

/-!
# Word classes

A vocabulary is declared as a class of members, each a name with its word.  The names decide what is
a member:

* a name with two underscores on either side, or one that begins with the name of the class between
  one and two underscores, is an attribute of the class and no member;
* a name with one underscore on either side is reserved; a few of these are known, of which
  `_order_` tells the order of the members and `_ignore_` lists names that are to be left out;
* any other name is a member and may be given only once.

Members whose word an earlier member has are mere aliases of it (`WordClass.distinctMembers`).
-/

namespace LayeredMarks

/-- A vocabulary under its name: each member with its word, in order. -/
structure WordClass where
  name : String
  members : Object
deriving Inhabited

namespace WordClass

/-- The members without those whose word an earlier member has. -/
def distinctMembers : (seen : List Json) → Object → Object
  | _, [] => []
  | seen, (member, word) :: rest =>
    if seen.any (Json.sameKey word) then distinctMembers seen rest
    else (member, word) :: distinctMembers (word :: seen) rest

/-! ## Kinds of names -/

/-- Whether a name begins with the name of the class between one and two underscores, and does not
end in two. -/
def isPrivate (className name : String) : Bool :=
  let stem := "_" ++ className ++ "__"
  stem.length < name.length && stem.toList.isPrefixOf name.toList &&
    (name.toList.drop (name.length - 2) ≠ ['_', '_'])

/-- Whether a name has just so many underscores on either side of something else. -/
def isBetween (underscores : Nat) (name : String) : Bool :=
  let bars := List.replicate underscores '_'
  let inner := (name.toList.drop underscores).take (name.length - 2 * underscores)
  2 * underscores < name.length && bars.isPrefixOf name.toList && bars.isSuffixOf name.toList &&
    inner.head? ≠ some '_' && inner.getLast? ≠ some '_'

/-- The reserved names that are known. -/
def knownReserved : List String :=
  ["_order_", "_generate_next_value_", "_numeric_repr_", "_missing_", "_ignore_", "_iter_member_",
   "_iter_member_by_value_", "_iter_member_by_def_"]

/-- Names that no member can have. -/
def impossibleNames : List String := ["mro", ""]

/-! ## Declarations -/

/-- Why a class cannot be declared. -/
inductive DeclarationFailure where
  /-- A member is given again. -/
  | repeated (name : String) (first : Json)
  /-- A reserved name is not known. -/
  | reserved (name : String)
  /-- A value that is no text stands as a name. -/
  | notName (found : Json)
  /-- Names that are to be left out are members already. -/
  | ignoredLate (names : List String)
  /-- A list of names is a value without entries. -/
  | notIterable (found : Json)
  | impossible (names : List String)
  /-- The name of the class holds a null character. -/
  | nullInName
  /-- The members come in another order than they should. -/
  | otherOrder (names : List String) (given : List Json)
deriving Inhabited

/-- The complaint about a class that cannot be declared. -/
def DeclarationFailure.message : DeclarationFailure → String
  | repeated name first => Text.quoted name ++ " already defined as " ++ first.quoted
  | reserved name =>
    "_sunder_ names, such as " ++ Text.quoted name ++ ", are reserved for future Enum use"
  | notName found =>
    if found.isKey then "object of type '" ++ found.kindName ++ "' has no len()"
    else "unhashable type: '" ++ found.kindName ++ "'"
  | ignoredLate names =>
    "_ignore_ cannot specify already set names: \x7b" ++ ", ".intercalate (names.map Text.quoted) ++
      "\x7d"
  | notIterable found => "'" ++ found.kindName ++ "' object is not iterable"
  | impossible names => "invalid enum member name(s) " ++ ",".intercalate (names.map Text.quoted)
  | nullInName => "type name must not contain null characters"
  | otherOrder names given =>
    "member order does not match _order_:\n  " ++ (Json.arr (names.map .str)).quoted ++ "\n  " ++
      (Json.arr given).quoted

/-- The stretches of a text between blanks and commas, empty ones included, where `current` is what
has been read of the first, latest character first. -/
def stretches (current : List Char) : List Char → List (List Char)
  | [] => [current.reverse]
  | c :: rest =>
    if c = ',' || Text.isBlank c then current.reverse :: stretches [] rest
    else stretches (c :: current) rest

/-- The names that a value lists: those between the blanks and commas of a text, or the entries of
another value. -/
def listedNames (value : Json) : Except DeclarationFailure (List Json) :=
  match value with
  | .str text =>
    .ok (((stretches [] text.toList).filter (!·.isEmpty)).map fun name => .str (String.ofList name))
  | _ =>
    match value.entries? with
    | some entries => .ok entries
    | none => .error (.notIterable value)

/-- A class that is being declared. -/
structure Draft where
  members : Object
  ignored : List Json
  order : Json
deriving Inhabited

/-- Declares a name with its value. -/
def Draft.declare (className : String) (draft : Draft) (name : String) (value : Json) :
    Except DeclarationFailure Draft :=
  if isPrivate className name then .ok draft
  else if isBetween 1 name then
    if name = "_order_" then .ok { draft with order := value }
    else if name = "_ignore_" then do
      let ignored ← listedNames value
      let late := draft.members.keys.filter fun member => ignored.any (Json.isText member)
      if late.isEmpty then .ok { draft with ignored } else .error (.ignoredLate late)
    else if name ∈ knownReserved then .ok draft
    else .error (.reserved name)
  else if isBetween 2 name then
    .ok (if name = "__order__" then { draft with order := value } else draft)
  else
    match draft.members.get? name with
    | some first => .error (.repeated name first)
    | none =>
      if draft.ignored.any (Json.isText name) then .ok draft
      else .ok { draft with members := draft.members.put name value }

/-- Checks the order that is told for the members, if there is one.  Aliases do not count. -/
def checkOrder (members : Object) (order : Json) : Except DeclarationFailure Unit :=
  if !order.isGiven then .ok ()
  else do
    let names := (distinctMembers [] members).keys
    let isAlias (name : Json) : Bool :=
      members.keys.any (name.isText ·) && !names.any (name.isText ·)
    let given := (← listedNames order).filter (!isAlias ·)
    let agree : Bool := given.length = names.length && (given.zip names).all fun (name, member) =>
      name.isText member
    if given.isEmpty || agree then .ok () else .error (.otherOrder names given)

/-- The class of a draft. -/
def Draft.finish (className : String) (draft : Draft) : Except DeclarationFailure WordClass := do
  let impossible := draft.members.keys.filter (· ∈ impossibleNames)
  if !impossible.isEmpty then .error (.impossible impossible)
  else if className.contains '\x00' then .error .nullInName
  else
    checkOrder draft.members draft.order
    .ok ⟨className, draft.members⟩

/-- Declares a class with its names and their values. -/
def declare (className : String) (entries : List (Json × Json)) :
    Except DeclarationFailure WordClass := do
  let step (draft : Draft) (entry : Json × Json) : Except DeclarationFailure Draft :=
    match entry.1 with
    | .str name => draft.declare className name entry.2
    | found => .error (.notName found)
  let draft ← entries.foldlM step ⟨[], [], .null⟩
  draft.finish className

end WordClass

end LayeredMarks
