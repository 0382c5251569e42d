import LayeredMarks.Decimal.Numeral
import LayeredMarks.Fields
import LayeredMarks.Text.Blank
import LayeredMarks.Text.Quoted

/-!
# Options of a command

A command takes one subject and some options.  An option is given by one of its names, or by any
beginning of a long name that fits no other option; its value is attached by an equals sign or is
the next argument.  Arguments behind `--` are no options.
-/

namespace LayeredMarks.CommandLine

/-- What an option asks for. -/
inductive OptionKind where
  /-- The help text. -/
  | help
  /-- A text as its value. -/
  | text
  /-- An integer as its value. -/
  | integer
deriving DecidableEq, Repr, Inhabited

/-- An option of a command. -/
structure OptionRule where
  names : List String
  kind : OptionKind
deriving DecidableEq, Repr, Inhabited

/-- The name of an option in complaints. -/
def OptionRule.label (rule : OptionRule) : String := "/".intercalate rule.names

/-- The value of an option. -/
inductive OptionValue where
  | text (value : String)
  | integer (value : Int)
  /-- No value: the separator is attached in place of one. -/
  | nothing
deriving DecidableEq, Repr, Inhabited

/-- What the arguments of a command give. -/
structure Arguments where
  subject : String
  /-- The options by their labels. -/
  options : Fields OptionValue
deriving DecidableEq, Inhabited

/-- The text of an option, if it is given. -/
def Arguments.text? (arguments : Arguments) (label : String) : Option String :=
  match arguments.options.get? label with
  | some (.text value) => some value
  | _ => none

/-- The integer of an option, if it is given. -/
def Arguments.integer? (arguments : Arguments) (label : String) : Option Int :=
  match arguments.options.get? label with
  | some (.integer value) => some value
  | _ => none

/-- Whether an option is given without a value. -/
def Arguments.lacksValue (arguments : Arguments) (label : String) : Bool :=
  arguments.options.get? label = some .nothing

/-- Why arguments are refused. -/
inductive UsageFailure where
  | ambiguous (argument : String) (names : List String)
  | valueExpected (label : String)
  | valueIgnored (label : String) (value : String)
  | notInteger (label : String) (value : String)
  | subjectMissing
  | unrecognized (arguments : List String)
deriving DecidableEq, Repr, Inhabited

/-- The complaint about arguments. -/
def UsageFailure.message : UsageFailure → String
  | ambiguous argument names =>
    "ambiguous option: " ++ argument ++ " could match " ++ ", ".intercalate names
  | valueExpected label => "argument " ++ label ++ ": expected one argument"
  | valueIgnored label value =>
    "argument " ++ label ++ ": ignored explicit argument " ++ Text.quoted value
  | notInteger label value =>
    "argument " ++ label ++ ": invalid int value: " ++ Text.quoted value
  | subjectMissing => "the following arguments are required: spec"
  | unrecognized arguments => "unrecognized arguments: " ++ " ".intercalate arguments

/-! ## What an argument is -/

/-- An option as an argument gives it. -/
structure OptionUse where
  /-- The full name by which it is given. -/
  name : String
  rule : OptionRule
  /-- The text attached to the name. -/
  attached : Option String
deriving Inhabited

/-- What an argument is, by its form. -/
inductive ArgumentForm where
  | plain (text : String)
  /-- The separator behind which no options stand. -/
  | separator
  | option (use : OptionUse)
  /-- An argument in the form of an option that is none. -/
  | unknown (text : String)
deriving Inhabited

/-- All names with their options, in order. -/
def namedRules (rules : List OptionRule) : List (String × OptionRule) :=
  rules.flatMap fun rule => rule.names.map fun name => (name, rule)

/-- Splits an argument at its first equals sign. -/
def splitAtEquals (argument : String) : String × Option String :=
  match argument.toList.span (· ≠ '=') with
  | (_, []) => (argument, none)
  | (name, _ :: value) => (String.ofList name, some (String.ofList value))

/-- The options that an abbreviated argument may mean.  A long name may be cut anywhere; to a name
of one letter more may be attached directly. -/
def abbreviated (rules : List OptionRule) (argument : String) : List OptionUse :=
  match argument.toList with
  | '-' :: '-' :: _ =>
    let (beginning, attached) := splitAtEquals argument
    (namedRules rules).filterMap fun (name, rule) =>
      if name.startsWith beginning then some ⟨name, rule, attached⟩ else none
  | dash :: letter :: attached =>
    (namedRules rules).filterMap fun (name, rule) =>
      if name = String.ofList [dash, letter] then some ⟨name, rule, some (String.ofList attached)⟩
      else if name.startsWith argument then some ⟨name, rule, none⟩
      else none
  | _ => []

/-- Whether a text is digits to its end, or to a line feed at its end. -/
def isDigits (text : List Char) : Bool :=
  match text.span fun c => (Text.digitValue? c).isSome with
  | ([], _) => false
  | (_, rest) => rest = [] || rest = ['\n']

/-- Whether an argument is a negative number: digits behind a minus, possibly with a point before
the last ones.  A line feed at the very end is tolerated. -/
def isNegativeNumber (argument : String) : Bool :=
  match argument.toList with
  | '-' :: rest =>
    isDigits rest ||
      match rest.dropWhile fun c => (Text.digitValue? c).isSome with
      | '.' :: fraction => isDigits fraction
      | _ => false
  | _ => false

/-- The option that an argument names in full, with the value attached to it. -/
def named? (rules : List OptionRule) (argument : String) : Option OptionUse :=
  match Fields.get? (namedRules rules) argument with
  | some rule => some ⟨argument, rule, none⟩
  | none =>
    match splitAtEquals argument with
    | (name, some value) =>
      (Fields.get? (namedRules rules) name).map fun rule => ⟨name, rule, some value⟩
    | (_, none) => none

/-- The form of an argument that may be an option. -/
def formOf (rules : List OptionRule) (argument : String) : Except UsageFailure ArgumentForm :=
  if !argument.startsWith "-" || argument = "-" then .ok (.plain argument)
  else
    match named? rules argument with
    | some use => .ok (.option use)
    | none =>
      match abbreviated rules argument with
      | [use] => .ok (.option use)
      | [] =>
        if isNegativeNumber argument || argument.toList.contains ' ' then .ok (.plain argument)
        else .ok (.unknown argument)
      | several => .error (.ambiguous argument (several.map OptionUse.name))

/-- The forms of all arguments. -/
def formsOf (rules : List OptionRule) : List String → Except UsageFailure (List ArgumentForm)
  | [] => .ok []
  | argument :: rest =>
    if argument = "--" then .ok (.separator :: rest.map .plain)
    else do
      let form ← formOf rules argument
      let forms ← formsOf rules rest
      .ok (form :: forms)

/-! ## Taking the arguments in turn -/

/-- The arguments taken so far. -/
structure Taken where
  subject : Option String
  options : Fields OptionValue
  /-- Arguments that nothing takes. -/
  surplus : List String
deriving Inhabited

/-- What a command is asked for. -/
inductive Request where
  | help
  | run (arguments : Arguments)
deriving DecidableEq, Inhabited

/-- What the value of an option says. -/
def readValue (rule : OptionRule) (value : String) : Except UsageFailure OptionValue :=
  match rule.kind with
  | .integer =>
    match Numeral.int? (Text.trimWith Text.isWhiteSpace value).toList with
    | some n => .ok (.integer n)
    | none => .error (.notInteger rule.label value)
  | _ => .ok (.text value)

/-- What the text attached to an option says.  The separator is no value. -/
def readAttached (rule : OptionRule) (text : String) : Except UsageFailure OptionValue :=
  if text = "--" then .ok .nothing else readValue rule text

/-- What is refused of the text attached to the option for help, which takes no value.  Behind its
name of one letter, every further `h` asks for help once more. -/
def refusedByHelp (name attached : String) : Option String :=
  if name.startsWith "--" || attached = "" then some attached
  else
    match attached.toList.dropWhile (· = 'h') with
    | [] => none
    | refused => some (String.ofList refused)

/-- Ends the taking: there must be a subject, and nothing may be left over. -/
def Taken.finish (taken : Taken) : Except UsageFailure Request :=
  match taken.subject, taken.surplus with
  | none, _ => .error .subjectMissing
  | some subject, [] => .ok (.run ⟨subject, taken.options⟩)
  | some _, surplus => .error (.unrecognized surplus)

/-- Takes an argument that nothing else takes. -/
def Taken.left (taken : Taken) (arguments : List String) : Taken :=
  { taken with surplus := taken.surplus ++ arguments }

/-- Takes an argument that is no option: the first is the subject. -/
def Taken.plain (taken : Taken) (text : String) : Taken :=
  match taken.subject with
  | none => { taken with subject := some text }
  | some _ => taken.left [text]

/-- Takes the value of an option, in place of an earlier one. -/
def Taken.withOption (taken : Taken) (rule : OptionRule) (value : OptionValue) : Taken :=
  { taken with options := taken.options.put rule.label value }

/-- Takes the arguments in turn.  A separator goes with the subject, if it stands directly before or
behind it. -/
def take (taken : Taken) : List ArgumentForm → Except UsageFailure Request
  | [] => taken.finish
  | .plain text :: .separator :: rest =>
    if taken.subject.isNone then take (taken.plain text) rest
    else take (taken.left [text, "--"]) rest
  | .plain text :: rest => take (taken.plain text) rest
  | .separator :: .plain text :: rest =>
    if taken.subject.isNone then take (taken.plain text) rest
    else take (taken.left ["--", text]) rest
  | .separator :: rest => take (taken.left ["--"]) rest
  | .unknown text :: rest => take (taken.left [text]) rest
  | .option ⟨name, rule, some attached⟩ :: rest =>
    if rule.kind = .help then
      match refusedByHelp name attached with
      | none => .ok .help
      | some refused => .error (.valueIgnored rule.label refused)
    else do
      let value ← readAttached rule attached
      take (taken.withOption rule value) rest
  | .option ⟨_, rule, none⟩ :: .plain value :: rest =>
    if rule.kind = .help then .ok .help
    else do
      let value ← readValue rule value
      take (taken.withOption rule value) rest
  | .option ⟨_, rule, none⟩ :: _ =>
    if rule.kind = .help then .ok .help else .error (.valueExpected rule.label)

/-- What the arguments of a command with these options ask for. -/
def parse (rules : List OptionRule) (arguments : List String) : Except UsageFailure Request := do
  take ⟨none, [], []⟩ (← formsOf rules arguments)

end LayeredMarks.CommandLine
