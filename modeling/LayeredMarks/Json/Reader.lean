import LayeredMarks.Json.Token
import LayeredMarks.Room

/-!
# Reading JSON

The tokens of a text drive a machine whose state is what may come next and the containers that are
open around it, innermost first.  A key that comes again in an object replaces the value of its
first appearance.  A refused text is reported by its fault and the place of the token at hand.

The machine has two limits: the digits of an integer, and the room for containers that are open at
once.  A text that is read to its end is still refused when it has an escape for half of a surrogate
pair, for such a text could never be written again.
-/

namespace LayeredMarks.Json

/-- A container that is being read. -/
inductive Level where
  /-- The items of an array so far, latest first. -/
  | items (done : List Json)
  /-- The fields of an object so far, and the key whose value comes next. -/
  | fields (done : Object) (key : String)

/-- What may come next. -/
inductive Expected where
  | value
  | valueOrEnd
  | name (done : Object)
  | nameOrEnd
  | colon (done : Object) (key : String)
  | commaOrEnd (level : Level)
  | nothing (result : Json)

/-- The fault of a text that goes on in another way, or not at all. -/
def Expected.fault : Expected → Fault
  | .value | .valueOrEnd => .expectingValue
  | .name _ | .nameOrEnd => .expectingName
  | .colon _ _ => .expectingColon
  | .commaOrEnd _ => .expectingComma
  | .nothing _ => .extraData

/-- What may come next, inside the open containers. -/
structure ReadState where
  expected : Expected
  levels : List Level

/-- Hands a complete value to the innermost open container. -/
def ReadState.deliver (value : Json) : List Level → ReadState
  | [] => ⟨.nothing value, []⟩
  | .items done :: levels => ⟨.commaOrEnd (.items (value :: done)), levels⟩
  | .fields done key :: levels => ⟨.commaOrEnd (.fields (done.put key value) key), levels⟩

/-- The state behind a token that begins or makes a value. -/
def ReadState.startValue? (levels : List Level) : Token → Option ReadState
  | .leftBracket => some ⟨.valueOrEnd, levels⟩
  | .leftBrace => some ⟨.nameOrEnd, levels⟩
  | .text value => some (deliver (.str value) levels)
  | .plain value => some (deliver value levels)
  | _ => none

/-- The state behind the next token, if that may come. -/
def ReadState.step? (state : ReadState) (next : Token) : Option ReadState :=
  match state.expected, next with
  | .value, _ => startValue? state.levels next
  | .valueOrEnd, .rightBracket => some (deliver (.arr []) state.levels)
  | .valueOrEnd, _ => startValue? (.items [] :: state.levels) next
  | .name done, .text key => some ⟨.colon done key, state.levels⟩
  | .nameOrEnd, .text key => some ⟨.colon [] key, state.levels⟩
  | .nameOrEnd, .rightBrace => some (deliver (.obj []) state.levels)
  | .colon done key, .colon => some ⟨.value, .fields done key :: state.levels⟩
  | .commaOrEnd (.items done), .comma => some ⟨.value, .items done :: state.levels⟩
  | .commaOrEnd (.items done), .rightBracket => some (deliver (.arr done.reverse) state.levels)
  | .commaOrEnd (.fields done _), .comma => some ⟨.name done, state.levels⟩
  | .commaOrEnd (.fields done _), .rightBrace => some (deliver (.obj done) state.levels)
  | _, _ => none

/-- Whether a token may come next that breaks down with this fault.  Numbers are values, texts may
also be names. -/
def Expected.meets : Expected → Fault → Bool
  | .value, _ | .valueOrEnd, _ => true
  | .name _, .integerTooLong _ | .nameOrEnd, .integerTooLong _ => false
  | .name _, _ | .nameOrEnd, _ => true
  | _, _ => false

/-- The fault of opening a container inside so many others, if there is no room for it.  Every
container takes one step. -/
def nestingFault? (room : Room) (opened : Token) (outer : Nat) : Option Fault :=
  match opened with
  | .leftBracket => if outer < room then none else some .arrayTooDeep
  | .leftBrace => if outer < room then none else some .objectTooDeep
  | _ => none

/-- Reads the tokens to the end: the value, or a fault with the number of characters from its
place to the end. -/
def readTokens (room : Room) (state : ReadState) :
    List (Token × List Char) → Except (Fault × Nat) Json
  | [] =>
    match state.expected with
    | .nothing value => .ok value
    | expected => .error (expected.fault, 0)
  | (next, text) :: rest =>
    match state.step? next with
    | some state' =>
      match nestingFault? room next state'.levels.length with
      | some fault => .error (fault, text.length)
      | none => readTokens room state' rest
    | none =>
      match next with
      | .broken fault left =>
        .error
          (if state.expected.meets fault then (fault, left)
          else (state.expected.fault, text.length))
      | _ => .error (state.expected.fault, text.length)

/-- Where and why a text is not JSON. -/
structure ReadError where
  fault : Fault
  /-- The number of characters before the place. -/
  place : Nat
  line : Nat
  column : Nat
deriving DecidableEq, Repr

/-- The complaint about a fault. -/
def Fault.message : Fault → String
  | .expectingValue => "Expecting value"
  | .expectingName => "Expecting property name enclosed in double quotes"
  | .expectingColon => "Expecting ':' delimiter"
  | .expectingComma => "Expecting ',' delimiter"
  | .extraData => "Extra data"
  | .unterminatedText => "Unterminated string starting at"
  | .controlCharacter => "Invalid control character at"
  | .invalidEscape => "Invalid \\escape"
  | .invalidHexEscape => "Invalid \\uXXXX escape"
  | .byteOrderMark => "Unexpected UTF-8 BOM (decode using utf-8-sig)"
  | .integerTooLong digits => Numeral.tooManyDigits digits
  | .arrayTooDeep =>
    "maximum recursion depth exceeded while decoding a JSON array from a unicode string"
  | .objectTooDeep =>
    "maximum recursion depth exceeded while decoding a JSON object from a unicode string"
  | .halfCharacter => "surrogates not allowed"

/-- Whether a text with this fault may be JSON, and only goes beyond what is read. -/
def Fault.isLimit : Fault → Bool
  | .integerTooLong _ | .arrayTooDeep | .objectTooDeep | .halfCharacter => true
  | _ => false

/-- The complaint about a text: what it goes beyond, or else its fault with the place by line and
column and by number of characters. -/
def ReadError.message (e : ReadError) : String :=
  if e.fault.isLimit then e.fault.message
  else
    e.fault.message ++ ": line " ++ toString e.line ++ " column " ++ toString e.column ++
      " (char " ++ toString e.place ++ ")"

/-- A fault located in its text: lines and columns count from one, characters from zero. -/
def ReadError.locate (fault : Fault) (text : List Char) (place : Nat) : ReadError :=
  let before := text.take place
  { fault, place
    line := before.count '\n' + 1
    column := (before.reverse.takeWhile (· ≠ '\n')).length + 1 }

/-- Reads a JSON text.  The reading of its value is five steps deep in the work. -/
def read (room : Room) (text : String) : Except ReadError Json :=
  let chars := text.toList
  if chars.head? = some '\ufeff' then .error (ReadError.locate .byteOrderMark chars 0)
  else
    match readTokens (room - 5) ⟨.value, []⟩ (tokens chars) with
    | .ok value =>
      if hasHalfCharacter chars then .error (ReadError.locate .halfCharacter chars 0)
      else .ok value
    | .error (fault, left) => .error (ReadError.locate fault chars (chars.length - left))

end LayeredMarks.Json
