import LayeredMarks.Chart
import LayeredMarks.CommandLine.Usage
import LayeredMarks.Expansion.Nesting
import LayeredMarks.Json.Printer
import LayeredMarks.Json.Reader
import LayeredMarks.Settings.Sources

/-!
# A run of the program

A run is a function of its arguments and its surroundings.  Its `Report` holds all that the run
writes and how it ends.
-/

namespace LayeredMarks.CommandLine

/-! ## Reports -/

/-- How severe a log entry is, from the least. -/
inductive Severity where
  | info
  | warning
deriving DecidableEq, Repr, Inhabited

/-- The word of a severity. -/
def Severity.word : Severity → String
  | info => "INFO"
  | warning => "WARNING"

/-- The rank of a severity, which the level of the log is compared with. -/
def Severity.rank : Severity → Nat
  | info => 20
  | warning => 30

/-- What a run writes to the standard error output. -/
inductive Notice where
  | log (logger : String) (severity : Severity) (text : String)
  | text (text : String)
  /-- The complaint about a spec with issues: a headline, and each issue below it. -/
  | issues (headline : String) (issues : List Issue)
deriving Inhabited

/-- Why the value of an option is of no use. -/
inductive Misuse where
  /-- The level of the log is given without a value. -/
  | noLevel
  /-- The level has the name of the usual pattern of log entries. -/
  | patternAsLevel
  /-- The level has the name of the table of patterns. -/
  | patternTableAsLevel
  /-- The file with the settings is given without a value. -/
  | noPath
  /-- The indentation is given without a value. -/
  | noIndent
  /-- The indentation is no number of a machine word. -/
  | indentTooLong
  /-- Lines indented that far do not fit into memory. -/
  | indentTooWide
deriving DecidableEq, Repr, Inhabited

/-- The complaint about the value of an option. -/
def Misuse.message : Misuse → String
  | noLevel => "'list' object has no attribute 'upper'"
  | patternAsLevel => "Unknown level: '%(levelname)s:%(name)s:%(message)s'"
  | patternTableAsLevel =>
    "Level not an integer or a valid string: \x7b" ++
      "'%': (<class 'logging.PercentStyle'>, '%(levelname)s:%(name)s:%(message)s'), " ++
      "'\x7b': (<class 'logging.StrFormatStyle'>, " ++
      "'\x7blevelname\x7d:\x7bname\x7d:\x7bmessage\x7d'), " ++
      "'$': (<class 'logging.StringTemplateStyle'>, " ++
      "'$\x7blevelname\x7d:$\x7bname\x7d:$\x7bmessage\x7d')\x7d"
  | noPath => "expected str, bytes or os.PathLike object, not list"
  | noIndent => "can't multiply sequence by non-int of type 'list'"
  | indentTooLong => "cannot fit 'int' into an index-sized integer"
  | indentTooWide => ""

/-- Why a run breaks off. -/
inductive Breakdown where
  | access (failure : AccessFailure)
  | misuse (cause : Misuse)
  /-- A spec goes beyond what is read. -/
  | limit (fault : Json.Fault)
  | settings (failure : Settings.SourceFailure)
  | expansion (failure : Failure)
  /-- A layered spec goes beyond what is written. -/
  | writing (fault : Json.WritingFault)
deriving Inhabited

/-- The complaint about a run that breaks off. -/
def Breakdown.message : Breakdown → String
  | access failure => failure.message
  | misuse cause => cause.message
  | limit fault => fault.message
  | settings failure => failure.message
  | expansion failure => failure.message
  | writing fault => fault.message

/-- Whether a run breaks off because there is no room for something nested. -/
def Breakdown.isDepth : Breakdown → Bool
  | limit .arrayTooDeep | limit .objectTooDeep => true
  | settings (.document .tooDeep) | settings (.value .shownTooDeep) => true
  | expansion failure => failure.isDepth
  | writing .writtenTooDeep => true
  | _ => false

/-- How a run ends. -/
inductive Ending where
  | returned
  | exited (code : Nat)
  | brokenOff (breakdown : Breakdown)
deriving Inhabited

/-- All that a run writes, and how it ends. -/
structure Report where
  output : String
  notices : List Notice
  /-- The files that are written, with their texts. -/
  files : List (String × String)
  ending : Ending
deriving Inhabited

namespace Report

/-- A run that writes nothing but some notices. -/
def ofNotices (notices : List Notice) (ending : Ending) : Report := ⟨"", notices, [], ending⟩

/-- A run that fails with a complaint on a line of its own. -/
def complaint (text : String) (code : Nat) : Report :=
  ofNotices [.text ("error: " ++ text ++ "\n")] (.exited code)

/-- A run that writes nothing and breaks off. -/
def broken (breakdown : Breakdown) : Report := ofNotices [] (.brokenOff breakdown)

/-- A run that writes a text and ends well. -/
def ofOutput (output : String) (ending : Ending) : Report := ⟨output, [], [], ending⟩

/-- A report with earlier notices. -/
def after (report : Report) (earlier : List Notice) : Report :=
  { report with notices := earlier ++ report.notices }

end Report

/-! ## The log -/

/-- The rank from which on a log of a given level shows its entries; words that name no level stand
for warnings.  Two names belong to patterns of log entries and cannot be levels. -/
def levelRank (level : String) : Except Misuse Nat :=
  match Text.upperCase level with
  | "CRITICAL" | "FATAL" => .ok 50
  | "ERROR" => .ok 40
  | "INFO" => .ok 20
  | "DEBUG" => .ok 10
  | "NOTSET" => .ok 0
  | "BASIC_FORMAT" => .error .patternAsLevel
  | "_STYLES" => .error .patternTableAsLevel
  | _ => .ok 30

/-- The rank that entries of the log need: that of the level asked for, else of the one that the
environment sets. -/
def rankOf (around : Surroundings) (arguments : Arguments) : Except Misuse Nat :=
  if arguments.lacksValue "--log-level" then .error .noLevel
  else
    levelRank ((arguments.text? "--log-level").getD
      ((around.valueOf "COMPOSITEMARK_LOG_LEVEL").getD "WARNING"))

/-- An entry of the log, if it has the rank that entries need. -/
def logEntry (rank : Nat) (logger : String) (severity : Severity) (text : String) : List Notice :=
  if rank ≤ severity.rank then [.log logger severity text] else []

/-- The warnings of an expansion as entries of the log. -/
def logWarnings (rank : Nat) (warnings : List Diagnostic) : List Notice :=
  warnings.flatMap fun warning => logEntry rank "compositemark" .warning warning.message

/-! ## From the spec to the layered spec -/

/-- The characters of a text with every line ended by a single line feed. -/
def unifyLineBreaks : List Char → List Char
  | '\r' :: '\n' :: rest => '\n' :: unifyLineBreaks rest
  | '\r' :: rest => '\n' :: unifyLineBreaks rest
  | c :: rest => c :: unifyLineBreaks rest
  | [] => []

/-- The text of the spec at a path.  A dash stands for the standard input, which is taken as it
is. -/
def specText (around : Surroundings) (path : String) : Except AccessFailure String :=
  if path = "-" then around.input
  else (around.fileAt path).map fun text => String.ofList (unifyLineBreaks text.toList)

/-- The settings of a run, or why it breaks off instead. -/
def settingsFor (around : Surroundings) (arguments : Arguments) : Except Breakdown Settings :=
  if arguments.lacksValue "--config" then .error (.misuse .noPath)
  else (Settings.load Room.ofRun around (arguments.text? "--config")).mapError .settings

/-- Why no layered spec comes of a text. -/
inductive CompileFailure where
  | unreadable (error : Json.ReadError)
  | notObject
  | unsettled (breakdown : Breakdown)
  | failed (failure : Failure)

/-- The layered spec of the spec in a text, beside the warnings of its expansion. -/
def compile (settings : Except Breakdown Settings) (text : String) :
    List Diagnostic × Except CompileFailure Object :=
  match Json.read Room.ofRun text with
  | .error error => ([], .error (.unreadable error))
  | .ok (.obj fields) =>
    match settings with
    | .error breakdown => ([], .error (.unsettled breakdown))
    | .ok settings =>
      let result := (Registry.initialWithin Room.ofRun).expand fields settings
      (result.warnings, result.outcome.mapError .failed)
  | .ok _ => ([], .error .notObject)

/-- The report of a command that breaks off.  A command that exports an image or a page reports it
when something is nested too deep. -/
def Command.breakOff (command : Command) (breakdown : Breakdown) : Report :=
  if command = .render && breakdown.isDepth then .complaint breakdown.message 1
  else .broken breakdown

/-- The report of a command whose spec does not compile. -/
def CompileFailure.report (command : Command) : CompileFailure → Report
  | unreadable error =>
    if error.fault.isLimit then command.breakOff (.limit error.fault)
    else .complaint error.message 1
  | notObject => .complaint "spec must be a JSON object" 1
  | unsettled breakdown => command.breakOff breakdown
  | failed (.invalid issues) =>
    .ofNotices [.issues ("error: " ++ (Failure.invalid issues).message) issues] (.exited 1)
  | failed (.orientation failure) => .complaint failure.message 1
  | failed (.spec failure) => .complaint failure.message 1
  | failed failure => command.breakOff (.expansion failure)

/-- Compiles the spec of a command, and goes on with the layered spec. -/
def withLayered (around : Surroundings) (command : Command) (arguments : Arguments) (rank : Nat)
    (next : Object → Report) : Report :=
  match specText around arguments.subject with
  | .error failure => .broken (.access failure)
  | .ok text =>
    let (warnings, outcome) := compile (settingsFor around arguments) text
    let report :=
      match outcome with
      | .ok layered => next layered
      | .error failure => failure.report command
    report.after (logWarnings rank warnings)

/-! ## The commands -/

/-- A path that is given and not empty. -/
def givenPath (arguments : Arguments) (label : String) : Option String :=
  (arguments.text? label).filter (· ≠ "")

/-- A run that writes a text into a file. -/
def writing (around : Surroundings) (path text : String) (next : Report) : Report :=
  match around.canWrite path with
  | .error failure => .broken (.access failure)
  | .ok () => { next with files := (path, text) :: next.files }

/-- The widest indentation whose lines fit into memory. -/
def maxIndent : Int := 268435456

/-- The number of blanks for each level of the text.  An indentation below zero is none. -/
def indentOf (arguments : Arguments) : Except Misuse Nat :=
  let indent := (arguments.integer? "--indent").getD 2
  if arguments.lacksValue "--indent" then .error .noIndent
  else if indent < -9223372036854775808 || 9223372036854775807 < indent then .error .indentTooLong
  else if maxIndent < indent then .error .indentTooWide
  else .ok indent.toNat

/-- Goes on with a layered spec where it can be written, which is done two steps deep in the
work. -/
def whereWritten (command : Command) (layered : Object) (next : Report) : Report :=
  match Json.writingFault? .document (Room.ofRun - 2) (.obj layered) with
  | some fault => command.breakOff (.writing fault)
  | none => next

/-- Runs `normalize`. -/
def runNormalize (around : Surroundings) (arguments : Arguments) (rank : Nat) : Report :=
  withLayered around .normalize arguments rank fun layered =>
    match indentOf arguments with
    | .error misuse => .broken (.misuse misuse)
    | .ok indent =>
      whereWritten .normalize layered <|
        let text := (Json.obj layered).toLines indent ++ "\n"
        match givenPath arguments "--out" with
        | none => .ofOutput text (.exited 0)
        | some path =>
          writing around path text <| .ofNotices
            (logEntry rank "compositemark.cli" .info ("Wrote layered spec to " ++ path))
            (.exited 0)

/-- Runs `render`. -/
def runRender (around : Surroundings) (arguments : Arguments) (rank : Nat) : Report :=
  let page := givenPath arguments "--out-html"
  let image := givenPath arguments "--out-png"
  if page.isNone && image.isNone then .complaint "give --out-html and/or --out-png" 2
  else
    withLayered around .render arguments rank fun layered =>
      match chartLayers layered with
      | .error failure => .complaint failure.message 1
      | .ok _ =>
        let rest : Report :=
          match image with
          | some _ => .complaint ChartFailure.noConverter.message 1
          | none => .ofNotices [] (.exited 0)
        match page with
        | some path =>
          whereWritten .render layered (writing around path (chartPage layered) rest)
        | none => rest

/-- Runs a command. -/
def runCommand (around : Surroundings) (command : Command) (arguments : List String) : Report :=
  match parse command.options arguments with
  | .error failure => .ofNotices [.text (command.complaint failure)] (.exited 2)
  | .ok .help => .ofOutput command.help (.exited 0)
  | .ok (.run arguments) =>
    match rankOf around arguments with
    | .error misuse => .broken (.misuse misuse)
    | .ok rank =>
      match command with
      | .normalize => runNormalize around arguments rank
      | .render => runRender around arguments rank

/-- Runs the program. -/
def run (around : Surroundings) : (arguments : List String) → Report
  | [] => .ofOutput generalHelp .returned
  | name :: rest =>
    match Command.ofName? name with
    | some command => runCommand around command rest
    | none => .ofNotices [.text ("Unknown command: " ++ name ++ "\n")] (.exited 2)

/-! ## What a run may look up -/

/-- The files that a run with these arguments may read. -/
def filesRead : (arguments : List String) → List String
  | [] => []
  | name :: rest =>
    match (Command.ofName? name).map fun command => parse command.options rest with
    | some (.ok (.run arguments)) =>
      let settings :=
        match arguments.text? "--config" with
        | some path => [path]
        | none => Settings.usualFiles
      if arguments.subject = "-" then settings else arguments.subject :: settings
    | _ => []

/-- Whether a run with these arguments may read the standard input. -/
def readsInput : (arguments : List String) → Bool
  | [] => false
  | name :: rest =>
    match (Command.ofName? name).map fun command => parse command.options rest with
    | some (.ok (.run arguments)) => arguments.subject = "-"
    | _ => false

/-- The variables that a run may look up. -/
def variablesRead : List String :=
  "COMPOSITEMARK_LOG_LEVEL" :: Settings.names.map (Settings.variableName Settings.defaultStem)

end LayeredMarks.CommandLine
