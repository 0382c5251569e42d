import LayeredMarks.Json.Basic
import LayeredMarks.Decimal.Numeral

/-!
# JSON tokens

A JSON text is cut into brackets, separators, texts and plain values, each with its place in the
text. A stretch that is no token is kept as one (`unknown`, or `broken` behind an opening quote),
so that a reader complains about it only if it gets that far.

## Strategy

`textPiece` and `token` take one step and return what is left of the text.  What they leave is
shorter than what they were given (`textPiece_shorter`, `token_shorter`), and that is why the
loops around them end.  Places are counted only when a text is refused.
-/

namespace LayeredMarks.Json

/-- Why a text is not JSON. -/
inductive Fault where
  | expectingValue
  | expectingName
  | expectingColon
  | expectingComma
  | extraData
  | unterminatedText
  | controlCharacter
  | invalidEscape
  | invalidHexEscape
  | byteOrderMark
  /-- An integer has more digits than are read. -/
  | integerTooLong (digits : Nat)
  /-- An array is nested deeper than is read. -/
  | arrayTooDeep
  /-- An object is nested deeper than is read. -/
  | objectTooDeep
  /-- A text has an escape for half of a surrogate pair, which is no character. -/
  | halfCharacter
deriving DecidableEq, Repr

/-- A piece of JSON text. -/
inductive Token where
  | leftBrace
  | rightBrace
  | leftBracket
  | rightBracket
  | comma
  | colon
  | text (value : String)
  | plain (value : Json)
  /-- A stretch that begins no token. -/
  | unknown
  /-- A text or a number that breaks down, with the number of characters that follow that place. -/
  | broken (fault : Fault) (left : Nat)

/-! ## Texts -/

/-- The value of four hexadecimal digits. -/
def hexUnit? (a b c d : Char) : Option Nat :=
  [a, b, c, d].foldlM (fun unit digit => (Numeral.hexDigit? digit).map (16 * unit + ·)) 0

/-- Whether a unit is the first half of a surrogate pair. -/
def isHighHalf (unit : Nat) : Bool := 0xD800 ≤ unit && unit < 0xDC00

/-- Whether a unit is the second half of a surrogate pair. -/
def isLowHalf (unit : Nat) : Bool := 0xDC00 ≤ unit && unit < 0xE000

/-- The character with a number.  Half a surrogate pair is none, and U+FFFD stands in its place
while the text is read on. -/
def charOfUnit (unit : Nat) : Char := if unit.isValidChar then Char.ofNat unit else '\ufffd'

/-- The unit whose escape stands at the front. -/
def escapedUnit? : List Char → Option Nat
  | '\\' :: 'u' :: a :: b :: c :: d :: _ => hexUnit? a b c d
  | _ => none

/-- Whether there is an escape for half of a surrogate pair without the other half beside it.  A
backslash takes the character behind it along, so that an escaped backslash begins no escape. -/
def hasHalfCharacter : List Char → Bool
  | '\\' :: 'u' :: a :: b :: c :: d :: rest =>
    match hexUnit? a b c d with
    | none => hasHalfCharacter rest
    | some unit =>
      if isLowHalf unit then true
      else if isHighHalf unit then
        match rest with
        | '\\' :: 'u' :: _ :: _ :: _ :: _ :: rest' =>
          !(escapedUnit? rest).any isLowHalf || hasHalfCharacter rest'
        | _ => true
      else hasHalfCharacter rest
  | '\\' :: _ :: rest => hasHalfCharacter rest
  | _ :: rest => hasHalfCharacter rest
  | [] => false

/-- What a letter behind a backslash stands for. -/
def escapeLetter? : Char → Option Char
  | '"' => some '"'
  | '\\' => some '\\'
  | '/' => some '/'
  | 'b' => some '\x08'
  | 'f' => some '\x0c'
  | 'n' => some '\n'
  | 'r' => some '\r'
  | 't' => some '\t'
  | _ => none

/-- The first piece of a text behind its opening quote. -/
inductive TextPiece where
  | closed (rest : List Char)
  | char (c : Char) (rest : List Char)
  /-- The text ends before its closing quote. -/
  | unterminated
  | broken (fault : Fault) (left : Nat)

/-- The piece behind `\u`, whose `u` has `left` characters from it to the end: four digits, of which
a pair of surrogates makes one character.  At least one more character has to follow the digits. -/
def hexPiece (left : Nat) : List Char → TextPiece
  | a :: b :: c :: d :: e :: rest =>
    match hexUnit? a b c d with
    | none => .broken .invalidHexEscape left
    | some unit =>
      if isHighHalf unit then
        match e, rest with
        | '\\', 'u' :: a' :: b' :: c' :: d' :: f :: rest' =>
          match hexUnit? a' b' c' d' with
          | none => .broken .invalidHexEscape (rest'.length + 6)
          | some low =>
            if isLowHalf low then
              .char (Char.ofNat (0x10000 + (unit - 0xD800) * 0x400 + (low - 0xDC00))) (f :: rest')
            else .char (charOfUnit unit) (e :: rest)
        | _, _ => .char (charOfUnit unit) (e :: rest)
      else .char (charOfUnit unit) (e :: rest)
  | _ => .broken .invalidHexEscape left

/-- The first piece of a text behind its opening quote. -/
def textPiece : List Char → TextPiece
  | [] => .unterminated
  | '"' :: rest => .closed rest
  | ['\\'] => .unterminated
  | '\\' :: 'u' :: rest => hexPiece (rest.length + 1) rest
  | '\\' :: letter :: rest =>
    match escapeLetter? letter with
    | some c => .char c rest
    | none => .broken .invalidEscape (rest.length + 2)
  | c :: rest =>
    if c.toNat < 0x20 then .broken .controlCharacter (rest.length + 1) else .char c rest

theorem hexPiece_shorter {left : Nat} {text rest : List Char} {c : Char}
    (h : hexPiece left text = .char c rest) : rest.length < text.length := by
  unfold hexPiece at h
  repeat' split at h
  all_goals first
    | exact TextPiece.noConfusion h
    | (injection h with _ hrest; subst hrest; simp only [List.length_cons]; omega)

theorem textPiece_shorter {text rest : List Char} {c : Char}
    (h : textPiece text = .char c rest) : rest.length < text.length := by
  unfold textPiece at h
  repeat' split at h
  all_goals first
    | exact TextPiece.noConfusion h
    | (have hshort := hexPiece_shorter h; simp only [List.length_cons]; omega)
    | (injection h with _ hrest; subst hrest; simp only [List.length_cons]; omega)

theorem textPiece_closed_shorter {text rest : List Char}
    (h : textPiece text = .closed rest) : rest.length < text.length := by
  unfold textPiece at h
  repeat' split at h
  all_goals first
    | exact TextPiece.noConfusion h
    | (injection h with hrest; subst hrest; simp)
    | (unfold hexPiece at h; repeat' split at h
       all_goals exact TextPiece.noConfusion h)

/-- A text read to its closing quote, or the fault in it. -/
inductive TextScan where
  | complete (value : List Char) (rest : List Char)
  | unterminated
  | broken (fault : Fault) (left : Nat)

/-- Reads a text from behind its opening quote. -/
def scanText (text : List Char) : TextScan :=
  match _h : textPiece text with
  | .closed rest => .complete [] rest
  | .char c rest =>
    match scanText rest with
    | .complete value rest' => .complete (c :: value) rest'
    | .unterminated => .unterminated
    | .broken fault left => .broken fault left
  | .unterminated => .unterminated
  | .broken fault left => .broken fault left
termination_by text.length
decreasing_by exact textPiece_shorter _h

theorem scanText_shorter {text value rest : List Char}
    (h : scanText text = .complete value rest) : rest.length < text.length := by
  fun_induction scanText text generalizing value rest with
  | case1 text rest' hpiece =>
    injection h with _ hrest
    subst hrest
    exact textPiece_closed_shorter hpiece
  | case2 text c rest' hpiece value' rest'' hscan ih =>
    injection h with _ hrest
    subst hrest
    have := ih hscan
    have := textPiece_shorter hpiece
    omega
  | case3 => exact TextScan.noConfusion h
  | case4 => exact TextScan.noConfusion h
  | case5 => exact TextScan.noConfusion h
  | case6 => exact TextScan.noConfusion h

/-! ## Numbers -/

/-- The whole part at the front: a zero alone, or digits that do not begin with one. -/
def spanWhole : List Char → List Char × List Char
  | '0' :: rest => (['0'], rest)
  | rest => Numeral.spanDigits rest

theorem spanWhole_length (text : List Char) :
    (spanWhole text).1.length + (spanWhole text).2.length = text.length := by
  unfold spanWhole
  split
  · simp; omega
  · exact Numeral.spanDigits_length _

/-- The integer with the given digits at the front of a text, unless there are too many of them. -/
def integerToken (text : List Char) (negative : Bool) (digits : List Char) : Token :=
  if Numeral.maxIntegerDigits < digits.length then
    .broken (.integerTooLong digits.length) text.length
  else
    let n : Int := Numeral.natValue digits
    .plain (int (if negative then -n else n))

/-- Splits off a minus at the front: whether there is one, and what follows. -/
def spanMinus : List Char → Bool × List Char
  | '-' :: rest => (true, rest)
  | rest => (false, rest)

theorem spanMinus_shorter (text : List Char) : (spanMinus text).2.length ≤ text.length := by
  unfold spanMinus
  split <;> simp

/-- Reads the longest number at the front.  It is an integer unless it has a fraction or an
exponent. -/
def scanNumber? (text : List Char) : Option (Token × List Char) :=
  let (negative, unsigned) := spanMinus text
  let (whole, afterWhole) := spanWhole unsigned
  if whole.isEmpty then none
  else
    let (fraction, afterFraction) := Numeral.spanFraction afterWhole
    let (exponent, rest) := Numeral.spanExponent afterFraction
    if fraction.isNone && exponent.isNone then some (integerToken text negative whole, rest)
    else
      let x := Numeral.toDouble negative whole (fraction.getD []) (exponent.getD 0)
      some (.plain (double x), rest)

theorem scanNumber?_shorter {text rest : List Char} {found : Token}
    (h : scanNumber? text = some (found, rest)) : rest.length < text.length := by
  have hminus := spanMinus_shorter text
  have hwhole := spanWhole_length (spanMinus text).2
  have hfraction := Numeral.spanFraction_shorter (spanWhole (spanMinus text).2).2
  have hexponent := Numeral.spanExponent_shorter
    (Numeral.spanFraction (spanWhole (spanMinus text).2).2).2
  simp only [scanNumber?] at h
  split at h
  · exact absurd h (by simp)
  · next hempty =>
    have hpos : 0 < (spanWhole (spanMinus text).2).1.length := by
      simpa [List.isEmpty_iff, List.length_pos_iff] using hempty
    have hrest : rest.length ≤
        (Numeral.spanFraction (spanWhole (spanMinus text).2).2).2.length := by
      split at h <;> (injection h with h; injection h with _ h; rw [← h]; exact hexponent)
    omega

/-! ## Tokens -/

/-- The words that stand for values. -/
def words : List (List Char × Json) :=
  [("null".toList, null), ("true".toList, bool true), ("false".toList, bool false),
   ("NaN".toList, double Double.nan), ("Infinity".toList, double (Double.infinity false)),
   ("-Infinity".toList, double (Double.infinity true))]

/-- The token of a word at the front. -/
def scanWord? (text : List Char) : Option (Token × List Char) :=
  words.findSome? fun (word, value) =>
    if word.isPrefixOf text then some (.plain value, text.drop word.length) else none

theorem scanWord?_shorter {text rest : List Char} {found : Token}
    (h : scanWord? text = some (found, rest)) : rest.length < text.length := by
  obtain ⟨entry, hmem, hentry⟩ := List.exists_of_findSome?_eq_some h
  have hpos : 0 < entry.1.length := by
    simp only [words, List.mem_cons, List.not_mem_nil, or_false] at hmem
    rcases hmem with rfl | rfl | rfl | rfl | rfl | rfl <;> decide
  obtain ⟨word, value⟩ := entry
  simp only at hentry hpos
  split at hentry
  · next hfront =>
    have hlength := (List.isPrefixOf_iff_prefix.1 hfront).length_le
    injection hentry with hentry
    injection hentry with _ hrest
    subst hrest
    rw [List.length_drop]
    omega
  · exact absurd hentry (by simp)

/-- The token that begins with the character `c`, and what is left behind it. -/
def token (c : Char) (rest : List Char) : Token × List Char :=
  match c with
  | '{' => (.leftBrace, rest)
  | '}' => (.rightBrace, rest)
  | '[' => (.leftBracket, rest)
  | ']' => (.rightBracket, rest)
  | ',' => (.comma, rest)
  | ':' => (.colon, rest)
  | '"' =>
    match scanText rest with
    | .complete value rest' => (.text (String.ofList value), rest')
    | .unterminated => (.broken .unterminatedText (rest.length + 1), rest)
    | .broken fault left => (.broken fault left, rest)
  | _ =>
    match scanWord? (c :: rest) with
    | some found => found
    | none => (scanNumber? (c :: rest)).getD (.unknown, rest)

theorem token_shorter (c : Char) (rest : List Char) : (token c rest).2.length ≤ rest.length := by
  unfold token
  split
  case h_7 =>
    split
    · next h => have := scanText_shorter h; simp only; omega
    · simp
    · simp
  case h_8 =>
    split
    · next h => have := scanWord?_shorter h; simp only [List.length_cons] at this; omega
    · cases h : scanNumber? (c :: rest) with
      | none => simp
      | some found =>
        have := scanNumber?_shorter h
        simp only [List.length_cons, Option.getD_some] at *
        omega
  all_goals simp

/-- Whether a character may stand between tokens. -/
def isSeparator (c : Char) : Bool := c = ' ' || c = '\t' || c = '\n' || c = '\r'

/-- The tokens of a text, each with the text from its first character on. -/
def tokens : List Char → List (Token × List Char)
  | [] => []
  | c :: rest =>
    if isSeparator c then tokens rest
    else ((token c rest).1, c :: rest) :: tokens (token c rest).2
termination_by text => text.length
decreasing_by
  all_goals have := token_shorter c rest
  all_goals simp only [List.length_cons]
  all_goals omega

end LayeredMarks.Json
