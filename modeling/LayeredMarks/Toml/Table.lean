import LayeredMarks.Json.Basic

/-!
# Tables of a TOML document

A document fills a tree of tables.  How a table came about decides how it may be written to again: a
table is declared by a header once, a table that dotted keys opened takes more dotted keys but no
header, and a table that was only passed through on the way to a longer name takes either.  A value,
inline tables and arrays included, is closed.

A change that is not allowed gives nothing.
-/

namespace LayeredMarks.Toml

/-- How a table came about. -/
inductive Origin where
  /-- The header of the table itself. -/
  | declared
  /-- A longer header that begins with the name of the table. -/
  | implied
  /-- Dotted keys. -/
  | dotted
deriving DecidableEq, Repr, Inhabited

/-- What stands under a name. -/
inductive Node where
  | value (value : Json)
  | table (origin : Origin) (entries : List (String × Node))
  /-- An array that grows by headers in double brackets: the tables before the last, latest first,
  and the last one, which takes what follows. -/
  | tables (earlier : List (List (String × Node))) (last : List (String × Node))
deriving Inhabited

/-- The entries of a table. -/
abbrev Entries := Fields Node

namespace Entries

/-- Changes the table or the last table of an array under a name, or a new table where there is
nothing yet. -/
def within (entries : Entries) (name : String) (change : Entries → Option Entries) :
    Option Entries :=
  match entries.get? name with
  | none => (change []).map fun inner => entries.put name (.table .implied inner)
  | some (.table origin inner) =>
    (change inner).map fun inner' => entries.put name (.table origin inner')
  | some (.tables earlier last) =>
    (change last).map fun last' => entries.put name (.tables earlier last')
  | some (.value _) => none

/-- Declares the table of a header. -/
def declare : (path : List String) → Entries → Option Entries
  | [], _ => none
  | [name], entries =>
    match entries.get? name with
    | none => some (entries.put name (.table .declared []))
    | some (.table .implied inner) => some (entries.put name (.table .declared inner))
    | _ => none
  | name :: rest, entries => entries.within name (declare rest)

/-- Adds a table to the array of a header in double brackets. -/
def addTable : (path : List String) → Entries → Option Entries
  | [], _ => none
  | [name], entries =>
    match entries.get? name with
    | none => some (entries.put name (.tables [] []))
    | some (.tables earlier last) => some (entries.put name (.tables (last :: earlier) []))
    | _ => none
  | name :: rest, entries => entries.within name (addTable rest)

/-- Writes a value under a dotted key. -/
def insert : (path : List String) → Json → Entries → Option Entries
  | [], _, _ => none
  | [name], value, entries =>
    match entries.get? name with
    | none => some (entries.put name (.value value))
    | some _ => none
  | name :: rest, value, entries =>
    let inner? : Option Entries :=
      match entries.get? name with
      | none => some []
      | some (.table .implied inner) | some (.table .dotted inner) => some inner
      | _ => none
    inner?.bind fun inner =>
      (insert rest value inner).map fun inner' => entries.put name (.table .dotted inner')

/-- Writes a value under a dotted key in the section of a header. -/
def insertUnder : (header path : List String) → Json → Entries → Option Entries
  | [], path, value, entries => insert path value entries
  | name :: header, path, value, entries => entries.within name (insertUnder header path value)

end Entries

mutual

/-- The value of a node. -/
def Node.toJson : Node → Json
  | .value v => v
  | .table _ entries => .obj (entriesToObject entries)
  | .tables earlier last =>
    .arr ((tablesToJson earlier).reverse ++ [.obj (entriesToObject last)])

/-- The values of the entries of a table. -/
def entriesToObject : List (String × Node) → Object
  | [] => []
  | (name, node) :: rest => (name, node.toJson) :: entriesToObject rest

/-- The values of several tables. -/
def tablesToJson : List (List (String × Node)) → List Json
  | [] => []
  | entries :: rest => .obj (entriesToObject entries) :: tablesToJson rest

end

end LayeredMarks.Toml
