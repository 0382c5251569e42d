import LayeredMarks.CommandLine.Options

/-!
# The commands and their help

There are two commands: `normalize` writes the layered spec of a unit spec, `render` exports it as a
page or an image.
-/

namespace LayeredMarks.CommandLine

/-- A command. -/
inductive Command where
  | normalize
  | render
deriving DecidableEq, Repr, Inhabited

/-- Lines of text, each with its line feed. -/
def ofLines (lines : List String) : String := String.join (lines.map (· ++ "\n"))

/-- The options that both commands take. -/
def sharedOptions : List OptionRule :=
  [⟨["-h", "--help"], .help⟩, ⟨["--config"], .text⟩, ⟨["--log-level"], .text⟩]

namespace Command

/-- The command of this name. -/
def ofName? : String → Option Command
  | "normalize" => some normalize
  | "render" => some render
  | _ => none

/-- The name of a command. -/
def name : Command → String
  | normalize => "normalize"
  | render => "render"

/-- The options of a command. -/
def options : Command → List OptionRule
  | normalize => sharedOptions ++ [⟨["--out"], .text⟩, ⟨["--indent"], .integer⟩]
  | render => sharedOptions ++ [⟨["--out-html"], .text⟩, ⟨["--out-png"], .text⟩]

/-- How a command is called. -/
def usage : Command → String
  | normalize => ofLines
    ["usage: compositemark normalize [-h] [--config CONFIG] [--log-level LOG_LEVEL]",
     "                               [--out OUT] [--indent INDENT]",
     "                               spec"]
  | render => ofLines
    ["usage: compositemark render [-h] [--config CONFIG] [--log-level LOG_LEVEL]",
     "                            [--out-html OUT_HTML] [--out-png OUT_PNG]",
     "                            spec"]

/-- What a command does. -/
def description : Command → String
  | normalize => "Expand a composite-mark unit spec into a layered spec (JSON)."
  | render => "Expand a composite-mark unit spec and save it as an Altair chart."

/-- The options of a command in its help, besides those that all commands take. -/
def ownOptionHelp : Command → List String
  | normalize =>
    ["  --out OUT             Write JSON here instead of stdout.",
     "  --indent INDENT       JSON indent (default 2)."]
  | render =>
    ["  --out-html OUT_HTML   HTML output path.",
     "  --out-png OUT_PNG     PNG output path."]

/-- The help of a command. -/
def help (command : Command) : String :=
  command.usage ++ ofLines
    (["", command.description, "", "positional arguments:",
      "  spec                  Path to a JSON unit spec ('-' for stdin).", "", "options:",
      "  -h, --help            show this help message and exit",
      "  --config CONFIG       Path to a TOML config file.", "  --log-level LOG_LEVEL",
      "                        Logging level for diagnostics (default: WARNING)."] ++
      command.ownOptionHelp)

/-- The complaint about the arguments of a command, below its usage. -/
def complaint (command : Command) (failure : UsageFailure) : String :=
  command.usage ++ "compositemark " ++ command.name ++ ": error: " ++ failure.message ++ "\n"

end Command

/-- The help on all commands. -/
def generalHelp : String :=
  ofLines
    ["usage: compositemark [-h] \x7bnormalize,render\x7d ...", "",
     "Composite mark expansion utilities CLI.", "", "positional arguments:",
     "  \x7bnormalize,render\x7d", "", "options:",
     "  -h, --help          show this help message and exit"]

end LayeredMarks.CommandLine
