import LayeredMarks.Room
import LayeredMarks.Toml.Scalar
import LayeredMarks.Toml.Table

/-!
# Reading TOML

A document is a sequence of lines: entries under the header of their section, headers, comments and
blank lines.  `Toml.read` gives the tables of the whole document as one object, or its first fault:
a line is malformed or writes where it may not, an integer is too long, or a value is nested too
deep.
-/

namespace LayeredMarks.Toml

/-! ## Keys -/

/-- Whether the character may stand in a key without quotes. -/
def isBareKeyCharacter (c : Char) : Bool := c.isAlphanum || c = '_' || c = '-'

/-- Reads one name of a key. -/
def readName (text : List Char) : Option (String × List Char) :=
  match text.span isBareKeyCharacter with
  | ([], _) => readShortText text
  | (name, rest) => some (String.ofList name, rest)

/-- Reads names that are joined by dots, with blanks behind each of them dropped.  `fuel` bounds the
number of names. -/
def readKey : (fuel : Nat) → List Char → Option (List String × List Char)
  | 0, _ => none
  | fuel + 1, text => do
    let (name, rest) ← readName text
    match skipBlanks rest with
    | '.' :: rest' => do
      let (names, rest'') ← readKey fuel (skipBlanks rest')
      some (name :: names, rest'')
    | rest' => some ([name], rest')

/-! ## Values -/

/-- Drops blanks, line feeds and comments.  `fuel` bounds the number of comments. -/
def skipLines : (fuel : Nat) → List Char → Option (List Char)
  | 0, _ => none
  | fuel + 1, text =>
    match text.dropWhile isBlankOrBreak with
    | '#' :: rest => (skipComment ('#' :: rest)).bind (skipLines fuel)
    | rest => some rest

mutual

/-- Reads a value.  `fuel` bounds the nesting and the number of entries together; an array takes two
steps of the room, an inline table three. -/
def readValue : (fuel : Nat) → Room → List Char → Except Fault (Json × List Char)
  | 0, _, _ => .error .malformed
  | fuel + 1, room, text =>
    match text with
    | 't' :: 'r' :: 'u' :: 'e' :: rest => .ok (.bool true, rest)
    | 'f' :: 'a' :: 'l' :: 's' :: 'e' :: rest => .ok (.bool false, rest)
    | '[' :: rest =>
      if room < 4 then .error .tooDeep
      else do
        let (items, rest') ← readItems fuel (room - 2) (← expect (skipLines fuel rest))
        .ok (.arr items, rest')
    | '\x7b' :: rest =>
      if room < 4 then .error .tooDeep
      else
        match skipBlanks rest with
        | '\x7d' :: rest' => .ok (.obj [], rest')
        | rest' => do
          let (entries, rest'') ← readEntries fuel (room - 3) [] rest'
          .ok (.obj (entriesToObject entries), rest'')
    | _ =>
      if room < 3 then .error .tooDeep
      else
        match text with
        | '"' :: _ | '\'' :: _ => (expect (readText text)).map fun found => (.str found.1, found.2)
        | _ => readPlain text

/-- Reads the items of an array up to its closing bracket. -/
def readItems : (fuel : Nat) → Room → List Char → Except Fault (List Json × List Char)
  | 0, _, _ => .error .malformed
  | fuel + 1, room, text =>
    match text with
    | ']' :: rest => .ok ([], rest)
    | _ => do
      let (item, rest) ← readValue fuel room text
      match ← expect (skipLines fuel rest) with
      | ']' :: rest' => .ok ([item], rest')
      | ',' :: rest' => do
        let (items, rest'') ← readItems fuel room (← expect (skipLines fuel rest'))
        .ok (item :: items, rest'')
      | _ => .error .malformed

/-- Reads the entries of an inline table up to its closing brace. -/
def readEntries : (fuel : Nat) → Room → Entries → List Char → Except Fault (Entries × List Char)
  | 0, _, _, _ => .error .malformed
  | fuel + 1, room, entries, text => do
    let (key, value, rest) ← readEntry fuel room text
    let entries' ← expect (entries.insert key value)
    match skipBlanks rest with
    | '\x7d' :: rest' => .ok (entries', rest')
    | ',' :: rest' => readEntries fuel room entries' (skipBlanks rest')
    | _ => .error .malformed

/-- Reads a key and its value, where the room is that of the value.  Reading the key takes as much
as reading a text. -/
def readEntry : (fuel : Nat) → Room → List Char → Except Fault (List String × Json × List Char)
  | 0, _, _ => .error .malformed
  | fuel + 1, room, text =>
    if room < 3 then .error .tooDeep
    else do
      let (key, rest) ← expect (readKey fuel text)
      match rest with
      | '=' :: rest' => do
        let (value, rest'') ← readValue fuel room (skipBlanks rest')
        .ok (key, value, rest'')
      | _ => .error .malformed

end

/-! ## Documents -/

/-- Reads the name between the brackets of a header, and drops the closing brackets. -/
def readHeader (closing : List Char) (text : List Char) : Option (List String × List Char) := do
  let (path, rest) ← readKey (text.length + 1) (skipBlanks text)
  if closing.isPrefixOf rest then some (path, rest.drop closing.length) else none

/-- A document that is being read: the header of the current section, and the tables so far. -/
structure Draft where
  header : List String
  root : Entries

/-- Reads what a line holds besides its comment. -/
def readLine (room : Room) (current : Draft) (text : List Char) :
    Except Fault (Draft × List Char) :=
  match text with
  | [] | '\n' :: _ | '#' :: _ => .ok (current, text)
  | '[' :: '[' :: rest => do
    let (header, rest') ← expect (readHeader [']', ']'] rest)
    .ok ({ header, root := ← expect (current.root.addTable header) }, rest')
  | '[' :: rest => do
    let (header, rest') ← expect (readHeader [']'] rest)
    .ok ({ header, root := ← expect (current.root.declare header) }, rest')
  | _ => do
    let (key, value, rest) ← readEntry (2 * text.length + 2) room text
    let root ← expect (current.root.insertUnder current.header key value)
    .ok ({ current with root }, rest)

/-- Reads the lines of a document.  `fuel` bounds their number. -/
def readLinesFrom (room : Room) : (fuel : Nat) → Draft → List Char → Except Fault Entries
  | 0, _, _ => .error .malformed
  | fuel + 1, current, text => do
    let (next, rest) ← readLine room current (skipBlanks text)
    match ← expect (skipComment (skipBlanks rest)) with
    | [] => .ok next.root
    | '\n' :: rest' => readLinesFrom room fuel next rest'
    | _ => .error .malformed

/-- The text with every carriage return before a line feed dropped. -/
def dropCarriageReturns : List Char → List Char
  | '\r' :: '\n' :: rest => '\n' :: dropCarriageReturns rest
  | c :: rest => c :: dropCarriageReturns rest
  | [] => []

/-- The tables of a document, as one object.  The reading of its values is three steps deep in the
work. -/
def read (room : Room) (document : String) : Except Fault Object :=
  let text := dropCarriageReturns document.toList
  (readLinesFrom (room - 3) (text.length + 1) ⟨[], []⟩ text).map entriesToObject

end LayeredMarks.Toml
