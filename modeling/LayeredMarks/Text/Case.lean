/-!
# Case

Words of the grammar, boolean spellings and level names are compared without regard to case.  All of
them are ASCII words, so only the characters whose changed form is an ASCII letter of such a word
matter: going down these are the ASCII capitals (the Kelvin sign goes to `k`, which no such word
has), going up the small ASCII letters, the dotless `ı`, the long `ſ`, the sharp `ß` and the Latin
ligatures.
-/

namespace LayeredMarks.Text

/-- The text with its ASCII capitals made small. -/
def lowerCase (text : String) : String := String.ofList (text.toList.map Char.toLower)

/-- The capitals of a character, as far as they are ASCII letters; other characters stand for
themselves. -/
def capitals (c : Char) : List Char :=
  match c with
  | '\u0131' => ['I']
  | '\u017f' => ['S']
  | '\u00df' => ['S', 'S']
  | '\ufb00' => ['F', 'F']
  | '\ufb01' => ['F', 'I']
  | '\ufb02' => ['F', 'L']
  | '\ufb03' => ['F', 'F', 'I']
  | '\ufb04' => ['F', 'F', 'L']
  | '\ufb05' => ['S', 'T']
  | '\ufb06' => ['S', 'T']
  | c => [c.toUpper]

/-- The text in capitals, as far as ASCII capitals go. -/
def upperCase (text : String) : String := String.ofList (text.toList.flatMap capitals)

end LayeredMarks.Text
