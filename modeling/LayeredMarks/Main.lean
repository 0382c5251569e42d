import LayeredMarks.CommandLine.Run
import Std.Time

/-!
# The program

The program looks up what its run may read, runs, and carries the report out.
-/

namespace LayeredMarks

open CommandLine

/-- The failure of an access to a file. -/
def accessFailure : IO.Error → AccessFailure
  | .noFileOrDirectory .. => .missing
  | .invalidArgument .. => .nameTooLong
  | _ => .isDirectory

/-- Prints a step of the way to an issue. -/
def stepText : PathStep → String
  | .key name => name
  | .index position => toString position

/-- Prints a notice.  Entries of the log carry the time. -/
def printNotice : Notice → IO Unit
  | .log logger severity text => do
    let now ← Std.Time.PlainDateTime.now
    IO.eprintln (now.format "uuuu-MM-dd HH:mm:ss','SSS" ++ " " ++ logger ++ " " ++ severity.word ++
      " " ++ text)
  | .text text => IO.eprint text
  | .issues headline issues => do
    IO.eprintln headline
    for issue in issues do
      IO.eprintln (".".intercalate (issue.path.map stepText))
      IO.eprintln ("  " ++ issue.fault.message)

/-- The text with these bytes, if there is one. -/
def textOf (bytes : ByteArray) : Except AccessFailure String :=
  match String.fromUTF8? bytes with
  | some text => .ok text
  | none => .error (.noText "'utf-8' codec can't decode bytes")

/-- The text of a file, or why it cannot be read. -/
def readFile (path : String) : IO (Except AccessFailure String) := do
  try return textOf (← IO.FS.readBinFile path)
  catch e => return .error (accessFailure e)

/-- Writes files, up to the first that cannot be written. -/
def writeFiles : List (String × String) → IO (Option (String × AccessFailure))
  | [] => return none
  | (path, text) :: rest => do
    let failure ← try
        IO.FS.writeFile path text
        pure none
      catch e => pure (some (path, accessFailure e))
    match failure with
    | some failure => return some failure
    | none => writeFiles rest

/-- The surroundings of a run with these arguments, in which every file can be written. -/
def lookAround (arguments : List String) : IO Surroundings := do
  let files ← (filesRead arguments).mapM fun path => return (path, ← readFile path)
  let values ← variablesRead.mapM fun name => return (name, ← IO.getEnv name)
  let input ← if readsInput arguments then (← IO.getStdin).readBinToEnd else pure .empty
  return {
    fileAt := fun path => (Fields.get? files path).getD (.error .missing)
    canWrite := fun _ => .ok ()
    valueOf := fun name => (Fields.get? values name).join
    input := textOf input }

/-- Prints what a report holds, and gives the code with which the program ends. -/
def carryOut (report : Report) : IO UInt32 := do
  report.notices.forM printNotice
  IO.print report.output
  match report.ending with
  | .returned => return 0
  | .exited code => return code.toUInt32
  | .brokenOff breakdown =>
    IO.eprintln breakdown.message
    return 1

end LayeredMarks

open LayeredMarks in
/-- Runs the program.  Where a file cannot be written, the run is that of surroundings which know.
-/
def main (arguments : List String) : IO UInt32 := do
  let around ← lookAround arguments
  let report := CommandLine.run around arguments
  match ← writeFiles report.files with
  | none => carryOut report
  | some (blocked, failure) =>
    let canWrite (path : String) := if path = blocked then .error failure else .ok ()
    carryOut (CommandLine.run { around with canWrite } arguments)
