import LayeredMarks.Fields

/-!
# The surroundings of a run

A run reads files, variables and the standard input, and asks whether a file can be written.  The
surroundings answer; the run itself is a function of them.
-/

namespace LayeredMarks

/-- Why a file cannot be read or written. -/
inductive AccessFailure where
  /-- The file, or the directory that should hold it, does not exist. -/
  | missing
  /-- There is a directory at the path. -/
  | isDirectory
  /-- Something that the path goes through is no directory. -/
  | notDirectory
  /-- The path or one of its steps is longer than names of files are. -/
  | nameTooLong
  /-- The path holds a null character, which no name of a file does. -/
  | nullCharacter
  /-- The bytes of the file are those of no text. -/
  | noText (complaint : String)
deriving DecidableEq, Repr, Inhabited

/-- The complaint about a file. -/
def AccessFailure.message : AccessFailure → String
  | missing => "no such file or directory"
  | isDirectory => "is a directory"
  | notDirectory => "not a directory"
  | nameTooLong => "file name too long"
  | nullCharacter => "embedded null byte"
  | noText complaint => complaint

/-- What a run finds around it. -/
structure Surroundings where
  /-- The text of the file at a path, if there is a file and it holds a text. -/
  fileAt : String → Except AccessFailure String
  /-- Whether a file can be written at a path. -/
  canWrite : String → Except AccessFailure Unit
  /-- The value of a variable of the environment. -/
  valueOf : String → Option String
  /-- The text on the standard input, if that is a text. -/
  input : Except AccessFailure String

/-- The characters of a path, cut at its slashes. -/
def cutAtSlashes : List Char → List (List Char)
  | [] => [[]]
  | '/' :: rest => [] :: cutAtSlashes rest
  | c :: rest =>
    match cutAtSlashes rest with
    | [] => [[c]]
    | step :: others => (c :: step) :: others

/-- The steps of a path.  Empty steps and single dots lead nowhere. -/
def pathSteps (path : String) : List String :=
  ((cutAtSlashes path.toList).map String.ofList).filter fun step => step ≠ "" && step ≠ "."

/-- The name of the file at a path. -/
def fileName (path : String) : Option String := (pathSteps path).getLast?

end LayeredMarks
