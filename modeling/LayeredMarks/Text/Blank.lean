import LayeredMarks.Text.CodeRanges

/-!
# Blank characters

Two classes are in use.  `isWhiteSpace` is the Unicode property of that name, which surrounds
numbers written as text.  `isBlank` adds the four separator controls U+001C to U+001F and
surrounds words.
-/

namespace LayeredMarks.Text

/-- The Unicode property White_Space. -/
def whiteSpaceRanges : CodeRanges :=
  [(0x09, 0x0D), (0x20, 0x20), (0x85, 0x85), (0xA0, 0xA0), (0x1680, 0x1680), (0x2000, 0x200A),
   (0x2028, 0x2029), (0x202F, 0x202F), (0x205F, 0x205F), (0x3000, 0x3000)]

/-- Whether the character has the Unicode property White_Space. -/
def isWhiteSpace (c : Char) : Bool := whiteSpaceRanges.contains c

/-- White space, or one of the separator controls U+001C to U+001F. -/
def isBlank (c : Char) : Bool := isWhiteSpace c || (0x1C ≤ c.toNat && c.toNat ≤ 0x1F)

/-- The text without the characters of a class at either end. -/
def trimWith (p : Char → Bool) (text : String) : String :=
  String.ofList ((text.toList.dropWhile p).reverse.dropWhile p).reverse

/-- The text without blank characters at either end. -/
def trim (text : String) : String := trimWith isBlank text

end LayeredMarks.Text
