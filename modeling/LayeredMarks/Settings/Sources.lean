import LayeredMarks.Settings
import LayeredMarks.Surroundings
import LayeredMarks.Toml.Reader

/-!
# Where settings come from

Settings are read from a TOML file and from variables of the environment; variables win.  A file
that is missing or malformed says nothing.  A file that is no text, or has values that are too large
to be read or to be shown in the complaint that they do not fit, gives no settings at all.
-/

namespace LayeredMarks.Settings

/-- Why no settings come of the surroundings. -/
inductive SourceFailure where
  /-- The file cannot even be looked for, or it is no text. -/
  | access (failure : AccessFailure)
  /-- A document goes beyond what is read. -/
  | document (fault : Toml.Fault)
  /-- A value that does not fit goes beyond what can be shown. -/
  | value (fault : Json.WritingFault)
deriving DecidableEq, Repr, Inhabited

/-- The complaint about settings that cannot be read. -/
def SourceFailure.message : SourceFailure → String
  | access failure => failure.message
  | document fault => fault.message
  | value fault => fault.message

/-! ## Documents -/

/-- The configuration in a document.  The file of a whole project keeps it in a table of its own. -/
def configurationIn (path : String) (document : Object) : Json :=
  if fileName path = some "pyproject.toml" then
    match document.get? "tool" with
    | some (.obj tool) => (Fields.get? tool "compositemark").getD .null
    | _ => .null
  else .obj document

/-- The document at a path, if there is one that can be read. -/
def documentAt? (room : Room) (around : Surroundings) (path : String) :
    Except SourceFailure (Option Object) :=
  match around.fileAt path with
  | .error .nameTooLong => .error (.access .nameTooLong)
  | .error (.noText complaint) => .error (.access (.noText complaint))
  | .error _ => .ok none
  | .ok text =>
    match Toml.read room text with
    | .ok document => .ok (some document)
    | .error .malformed => .ok none
    | .error fault => .error (.document fault)

/-- The configuration in the first of several files that gives one; of files that give an empty one
or none, the last counts. -/
def firstConfiguration (room : Room) (around : Surroundings) :
    (paths : List String) → (kept : Json) → Except SourceFailure Json
  | [], kept => .ok kept
  | path :: rest, kept => do
    match ← documentAt? room around path with
    | none => firstConfiguration room around rest kept
    | some document =>
      let found := configurationIn path document
      if found.isGiven then .ok found else firstConfiguration room around rest found

/-- The files in which a configuration is looked for, where none is named. -/
def usualFiles : List String := ["compositemark.toml", "pyproject.toml"]

/-! ## Sources -/

/-- The configuration in the file at a path, or in the first usual file that gives any.  Documents
are read three steps deep in the work. -/
def fileConfiguration (room : Room) (around : Surroundings) (path : Option String) :
    Except SourceFailure Json :=
  let paths :=
    match path with
    | some path => [path]
    | none => usualFiles
  firstConfiguration (room - 3) around paths .null

/-- The settings of a file: its configuration over the defaults, which is one step deep in the
work. -/
def ofFile (room : Room) (around : Surroundings) (path : Option String) :
    Except SourceFailure Settings := do
  let configuration ← fileConfiguration room around path
  (default.configureWithin (room - 1) configuration).mapError .value

/-- The settings that the variables of the environment lay over others. -/
def withVariables (settings : Settings) (around : Surroundings) (stem : String) : Settings :=
  settings.configure (ofVariables stem around.valueOf)

/-- The settings of a run: variables over a file over the defaults. -/
def load (room : Room) (around : Surroundings) (path : Option String) :
    Except SourceFailure Settings :=
  (ofFile (room - 1) around path).map fun settings =>
    settings.withVariables around defaultStem

end LayeredMarks.Settings
