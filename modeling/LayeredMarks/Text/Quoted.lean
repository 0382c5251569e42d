import LayeredMarks.Text.Printable

/-!
# Quoted text

Complaints show a text between quotes, so that blank ends and invisible characters can be seen.  The
apostrophe is the quote, unless the text holds one and holds no double quote.
-/

namespace LayeredMarks.Text

/-- The digits of a number in base sixteen, small letters, filled with zeros to a least width. -/
def hexDigits (width n : Nat) : String :=
  let digits := Nat.toDigits 16 n
  String.ofList (List.replicate (width - digits.length) '0' ++ digits)

/-- The quote that surrounds a text. -/
def quoteFor (text : String) : Char :=
  if text.toList.contains '\'' && !text.toList.contains '"' then '"' else '\''

/-- A character inside the given quotes: the quote, the backslash, line feed, carriage return and
tab behind a backslash, other unprintable characters by their number in the shortest of three
widths. -/
def quotedChar (quote c : Char) : String :=
  if c = quote || c = '\\' then String.ofList ['\\', c]
  else if c = '\n' then "\\n"
  else if c = '\r' then "\\r"
  else if c = '\t' then "\\t"
  else if isPrintable c then String.singleton c
  else if c.toNat < 0x100 then "\\x" ++ hexDigits 2 c.toNat
  else if c.toNat < 0x10000 then "\\u" ++ hexDigits 4 c.toNat
  else "\\U" ++ hexDigits 8 c.toNat

/-- The text between quotes. -/
def quoted (text : String) : String :=
  let quote := quoteFor text
  let inside := String.join (text.toList.map (quotedChar quote))
  String.singleton quote ++ inside ++ String.singleton quote

end LayeredMarks.Text
