import LayeredMarks.Json.Basic
import LayeredMarks.Decimal.Numeral

/-!
# Texts, dates and numbers of TOML

Each function reads one thing from the front of a list of characters and gives the rest, or nothing
when the front is not of the right form.  Numbers in base ten may also be too long to be read, so
that their readers give a `Fault`.
-/

namespace LayeredMarks.Toml

/-- Why a document is not read. -/
inductive Fault where
  /-- Something is not of the right form, or written where it may not be. -/
  | malformed
  /-- An integer in base ten has more digits than are read. -/
  | integerTooLong (digits : Nat)
  /-- A value is nested too deep. -/
  | tooDeep
deriving DecidableEq, Repr, Inhabited

/-- The complaint about a document that is not read. -/
def Fault.message : Fault → String
  | malformed => "not a document"
  | integerTooLong digits => Numeral.tooManyDigits digits
  | tooDeep => "maximum recursion depth exceeded"

/-- What has been read, or the fault that it is not of the right form. -/
def expect {α : Type} (found : Option α) : Except Fault α :=
  match found with
  | some value => .ok value
  | none => .error .malformed

/-- Whether the character is a blank within a line. -/
def isInlineBlank (c : Char) : Bool := c = ' ' || c = '\t'

/-- Whether the character is a blank or a line feed. -/
def isBlankOrBreak (c : Char) : Bool := isInlineBlank c || c = '\n'

/-- Drops blanks within a line. -/
def skipBlanks (text : List Char) : List Char := text.dropWhile isInlineBlank

/-- Whether the character may not stand in comments and texts: a control character, the tab apart.
-/
def isForbidden (c : Char) : Bool := (c.toNat < 0x20 && c != '\t') || c.toNat = 0x7F

/-- Whether the character may not stand in texts of several lines. -/
def isForbiddenInLines (c : Char) : Bool := isForbidden c && c != '\n'

/-- Drops a comment, if one begins here, up to the end of its line. -/
def skipComment (text : List Char) : Option (List Char) :=
  match text with
  | '#' :: rest =>
    let (comment, rest') := rest.span (· ≠ '\n')
    if comment.any isForbidden then none else some rest'
  | _ => some text

/-! ## Texts -/

/-- The value of a run of digits in base sixteen, if all of them are such digits. -/
def hexValue? (digits : List Char) : Option Nat :=
  digits.foldlM (fun n c => (Numeral.hexDigit? c).map (16 * n + ·)) 0

/-- The character of an escape with a number of so many digits. -/
def readCharNumber (width : Nat) (text : List Char) : Option (Char × List Char) := do
  let digits := text.take width
  if digits.length < width then none
  let code ← hexValue? digits
  if code.isValidChar then some (Char.ofNat code, text.drop width) else none

/-- The character for which a letter behind a backslash stands. -/
def letterEscape? : Char → Option Char
  | 'b' => some '\x08'
  | 't' => some '\t'
  | 'n' => some '\n'
  | 'f' => some '\x0c'
  | 'r' => some '\r'
  | '"' => some '"'
  | '\\' => some '\\'
  | _ => none

/-- Reads what follows a backslash.  In a text of several lines a backslash at the end of a line
takes the line feed and all blanks behind it away. -/
def readEscape (lines : Bool) (text : List Char) : Option (List Char × List Char) :=
  match text with
  | 'u' :: rest => (readCharNumber 4 rest).map fun found => ([found.1], found.2)
  | 'U' :: rest => (readCharNumber 8 rest).map fun found => ([found.1], found.2)
  | c :: rest =>
    if lines && isBlankOrBreak c then
      match skipBlanks text with
      | '\n' :: rest' => some ([], rest'.dropWhile isBlankOrBreak)
      | [] => some ([], [])
      | _ => none
    else (letterEscape? c).map fun escaped => ([escaped], rest)
  | [] => none

/-- Reads a text between quotes from behind its opening quote.  `fuel` bounds the number of
pieces. -/
def readBasic (lines : Bool) : (fuel : Nat) → (text : List Char) → Option (List Char × List Char)
  | 0, _ => none
  | fuel + 1, text =>
    match text with
    | [] => none
    | '"' :: rest =>
      if !lines then some ([], rest)
      else
        match rest with
        | '"' :: '"' :: rest' => some ([], rest')
        | _ => (readBasic lines fuel rest).map fun found => ('"' :: found.1, found.2)
    | '\\' :: rest => do
      let (escaped, rest') ← readEscape lines rest
      let (more, rest'') ← readBasic lines fuel rest'
      some (escaped ++ more, rest'')
    | c :: rest =>
      if (if lines then isForbiddenInLines c else isForbidden c) then none
      else (readBasic lines fuel rest).map fun found => (c :: found.1, found.2)

/-- Reads a text between apostrophes from behind its opening apostrophe. -/
def readLiteral : List Char → Option (List Char × List Char)
  | [] => none
  | '\'' :: rest => some ([], rest)
  | c :: rest =>
    if isForbidden c then none
    else (readLiteral rest).map fun found => (c :: found.1, found.2)

/-- Reads a text of several lines between apostrophes from behind its opening. -/
def readLiteralLines : List Char → Option (List Char × List Char)
  | [] => none
  | '\'' :: '\'' :: '\'' :: rest => some ([], rest)
  | c :: rest =>
    if isForbiddenInLines c then none
    else (readLiteralLines rest).map fun found => (c :: found.1, found.2)

/-- Adds up to two further quotes that follow the closing ones to a text. -/
def withFurtherQuotes (quote : Char) (found : List Char × List Char) : String × List Char :=
  let further := (found.2.take 2).takeWhile (· = quote)
  (String.ofList (found.1 ++ further), found.2.drop further.length)

/-- Drops a line feed at the front. -/
def skipBreak : List Char → List Char
  | '\n' :: rest => rest
  | text => text

/-- Reads a text in any of the four forms. -/
def readText (text : List Char) : Option (String × List Char) :=
  match text with
  | '"' :: '"' :: '"' :: rest =>
    (readBasic true (rest.length + 1) (skipBreak rest)).map (withFurtherQuotes '"')
  | '\'' :: '\'' :: '\'' :: rest =>
    (readLiteralLines (skipBreak rest)).map (withFurtherQuotes '\'')
  | '"' :: rest =>
    (readBasic false (rest.length + 1) rest).map fun found => (String.ofList found.1, found.2)
  | '\'' :: rest => (readLiteral rest).map fun found => (String.ofList found.1, found.2)
  | _ => none

/-- Reads a text on one line, as keys are. -/
def readShortText (text : List Char) : Option (String × List Char) :=
  match text with
  | '"' :: rest =>
    (readBasic false (rest.length + 1) rest).map fun found => (String.ofList found.1, found.2)
  | '\'' :: rest => (readLiteral rest).map fun found => (String.ofList found.1, found.2)
  | _ => none

/-! ## Dates and times -/

/-- Reads a number of exactly so many digits that lies between two bounds. -/
def readDigits (width least greatest : Nat) (text : List Char) : Option (Nat × List Char) :=
  let digits := text.take width
  let n := Numeral.natValue digits
  if digits.length = width && digits.all Char.isDigit && least ≤ n && n ≤ greatest then
    some (n, text.drop width)
  else none

/-- Drops one of several characters at the front. -/
def readMark (marks : List Char) : List Char → Option (List Char)
  | c :: rest => if c ∈ marks then some rest else none
  | [] => none

/-- Reads a day.  That there is such a day is not looked at. -/
def readDate (text : List Char) : Option (Date × List Char) := do
  let (year, afterYear) ← readDigits 4 0 9999 text
  let (month, afterMonth) ← readDigits 2 1 12 (← readMark ['-'] afterYear)
  let (day, rest) ← readDigits 2 1 31 (← readMark ['-'] afterMonth)
  some (⟨year, month, day⟩, rest)

/-- Reads an hour and a minute. -/
def readHourMinute (text : List Char) : Option (Nat × Nat × List Char) := do
  let (hour, afterHour) ← readDigits 2 0 23 text
  let (minute, rest) ← readDigits 2 0 59 (← readMark [':'] afterHour)
  some (hour, minute, rest)

/-- The microseconds of a fraction of a second; digits behind the sixth do not count. -/
def microseconds (fraction : List Char) : Nat :=
  let digits := fraction.take 6
  Numeral.natValue digits * Nat.pow 10 (6 - digits.length)

/-- Reads a time of the day. -/
def readTime (text : List Char) : Option (TimeOfDay × List Char) := do
  let (hour, minute, afterMinute) ← readHourMinute text
  let (second, afterSecond) ← readDigits 2 0 59 (← readMark [':'] afterMinute)
  let (fraction, rest) := Numeral.spanFraction afterSecond
  some (⟨hour, minute, second, microseconds (fraction.getD [])⟩, rest)

/-- Reads an offset from universal time, in minutes. -/
def readOffset (text : List Char) : Option (Int × List Char) := do
  match text with
  | 'Z' :: rest | 'z' :: rest => some (0, rest)
  | _ =>
    let (hour, minute, rest) ← readHourMinute (← readMark ['+', '-'] text)
    let n : Int := 60 * hour + minute
    some (if text.head? = some '-' then -n else n, rest)

/-- Reads a day, a time on a day, or a time of the day. -/
def readMoment (text : List Char) : Option (Moment × List Char) :=
  match readDate text with
  | some (day, afterDay) =>
    match (readMark ['T', 't', ' '] afterDay).bind readTime with
    | some (clock, afterClock) =>
      match readOffset afterClock with
      | some (offset, rest) => some (.dateTime day clock (some offset), rest)
      | none => some (.dateTime day clock none, afterClock)
    | none => some (.date day, afterDay)
  | none => (readTime text).map fun (clock, rest) => (.time clock, rest)

/-! ## Numbers -/

/-- Splits off a run of digits that may be grouped by single underscores, and drops these. -/
def spanGrouped (isDigit : Char → Bool) : List Char → List Char × List Char
  | [] => ([], [])
  | c :: rest => if isDigit c then go [c] rest else ([], c :: rest)
where
  /-- Goes on behind a digit. -/
  go (done : List Char) : List Char → List Char × List Char
    | [] => (done.reverse, [])
    | '_' :: c :: rest =>
      if isDigit c then go (c :: done) rest else (done.reverse, '_' :: c :: rest)
    | c :: rest => if isDigit c then go (c :: done) rest else (done.reverse, c :: rest)

/-- The value of digits in a base. -/
def valueIn (base : Nat) (digits : List Char) : Nat :=
  digits.foldl (fun n c => base * n + (Numeral.hexDigit? c).getD 0) 0

/-- Reads an integer in base two, eight or sixteen. -/
def readBased : List Char → Option (Json × List Char)
  | '0' :: mark :: rest =>
    let base :=
      match mark with
      | 'x' => 16
      | 'o' => 8
      | 'b' => 2
      | _ => 0
    match spanGrouped (fun c => (Numeral.hexDigit? c).any (· < base)) rest with
    | ([], _) => none
    | (digits, rest') => some (.int (valueIn base digits), rest')
  | _ => none

/-- The integer with the given digits, unless there are too many of them. -/
def integerOf (negative : Bool) (digits : List Char) : Except Fault Json :=
  if Numeral.maxIntegerDigits < digits.length then .error (.integerTooLong digits.length)
  else
    let n : Int := Numeral.natValue digits
    .ok (.int (if negative then -n else n))

/-- Reads a number in base ten.  It is a binary64 number if it has a fraction or an exponent. -/
def readDecimal (text : List Char) : Except Fault (Json × List Char) :=
  let (negative, unsigned) := Numeral.spanSign text
  let (whole, afterWhole) :=
    match unsigned with
    | '0' :: rest => (['0'], rest)
    | _ => spanGrouped Char.isDigit unsigned
  if whole.isEmpty then .error .malformed
  else
    let (fraction, afterFraction) :=
      match afterWhole with
      | '.' :: rest =>
        match spanGrouped Char.isDigit rest with
        | ([], _) => ([], afterWhole)
        | found => found
      | _ => ([], afterWhole)
    let (exponent, rest) : Option Int × List Char :=
      match afterFraction with
      | mark :: rest =>
        let (minus, digits) := Numeral.spanSign rest
        match spanGrouped Char.isDigit digits with
        | ([], _) => (none, afterFraction)
        | (digits, rest') =>
          if mark = 'e' || mark = 'E' then
            let n : Int := Numeral.natValue digits
            (some (if minus then -n else n), rest')
          else (none, afterFraction)
      | [] => (none, [])
    if fraction.isEmpty && exponent.isNone then
      (integerOf negative whole).map fun number => (number, rest)
    else .ok (.double (Numeral.toDouble negative whole fraction (exponent.getD 0)), rest)

/-- Reads an infinity or a value that is not a number. -/
def readNonFinite (text : List Char) : Option (Json × List Char) :=
  let (negative, unsigned) := Numeral.spanSign text
  match unsigned with
  | 'i' :: 'n' :: 'f' :: rest => some (.double (Double.infinity negative), rest)
  | 'n' :: 'a' :: 'n' :: rest => some (.double Double.nan, rest)
  | _ => none

/-- Reads a number. -/
def readNumber (text : List Char) : Except Fault (Json × List Char) :=
  match readBased text <|> readNonFinite text with
  | some found => .ok found
  | none => readDecimal text

/-- Reads a date, a time or a number. -/
def readPlain (text : List Char) : Except Fault (Json × List Char) :=
  match readMoment text with
  | some (moment, rest) => if moment.isValid then .ok (.moment moment, rest) else .error .malformed
  | none => readNumber text

end LayeredMarks.Toml
