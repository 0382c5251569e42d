import LayeredMarks.WordClass

/-!
# Lower snake case

The words of a vocabulary are spelled in lower snake case: one or more groups of small ASCII letters
and digits, with single underscores between them.  A line feed at the very end is tolerated.
-/

namespace LayeredMarks.LowerSnake

/-- Whether the character may stand in a group. -/
def isLetter (c : Char) : Bool := c.isLower || c.isDigit

/-- Whether a spelling may go on like this behind a letter. -/
def continues : List Char → Bool
  | [] => true
  | ['\n'] => true
  | '_' :: c :: rest => isLetter c && continues rest
  | c :: rest => isLetter c && continues rest

/-- Whether a text is in lower snake case. -/
def accepts (text : String) : Bool :=
  match text.toList with
  | [] => false
  | c :: rest => isLetter c && continues rest

/-- What is wrong with a member of a class. -/
inductive Complaint where
  | misspelled (className member word : String)
  /-- The word is no text. -/
  | notText (found : Json)
deriving Inhabited

/-- The text of a complaint. -/
def Complaint.message : Complaint → String
  | misspelled className member word =>
    className ++ "." ++ member ++ " has non-lower_snake value: " ++ Text.quoted word
  | notText found => "expected string or bytes-like object, got '" ++ found.kindName ++ "'"

/-- What is wrong with the word of a member, if anything. -/
def complaintAbout? (className member : String) : Json → Option Complaint
  | .str word => if accepts word then none else some (.misspelled className member word)
  | found => some (.notText found)

/-- What is wrong with the first member of a class that is in error.  Aliases are not looked at. -/
def complaint? (words : WordClass) : Option Complaint :=
  (WordClass.distinctMembers [] words.members).findSome? fun entry =>
    complaintAbout? words.name entry.1 entry.2

/-- What is wrong with the first member of the first class that is in error. -/
def firstComplaint? (classes : List WordClass) : Option Complaint := classes.findSome? complaint?

end LayeredMarks.LowerSnake
