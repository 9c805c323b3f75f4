import CloudPlan.Deploy.Run
import CloudPlan.Lowering.Adapter
import CloudPlan.Text.Cut
import CloudPlan.Text.Hex

/-!
# Commands

A command line starts with the name of a command; options follow in any order, each at most once. An
option has its value after an equals sign or as the next argument. `Command.ofArguments?` reads a
command line and refuses whatever is not one.
-/

set_option autoImplicit false

namespace CloudPlan

/-- An option of a command. -/
inductive CommandOption where
  | file
  | lookup
  | json
  | stack
  | project
  | timeout
  | eventLog
deriving DecidableEq, Repr

namespace CommandOption

/-- The name of an option after its two dashes. -/
def name : CommandOption → String
  | .file => "file"
  | .lookup => "lookup"
  | .json => "json"
  | .stack => "stack"
  | .project => "project"
  | .timeout => "timeout-ms"
  | .eventLog => "event-log"

/-- Whether an option has a value. -/
def hasValue (o : CommandOption) : Bool :=
  o ≠ .json

end CommandOption

/-- The choices for a run of a plan. -/
structure RunCommand where
  file : String
  lookup : LookupMode
  json : Bool
  options : RunOptions
  eventLog : Option String

/-- What can be asked for. -/
inductive Command where
  | validate (file : String)
  | lower (file : String) (lookup : LookupMode) (json : Bool)
  | plan (file : String) (lookup : LookupMode) (json : Bool)
  | preview (run : RunCommand)
  | deploy (run : RunCommand)

namespace Command

/-- An option as given, with its value if it has one. -/
abbrev Given := List (CommandOption × String)

/-- Whether an argument can be the value of the option before it. -/
def isValue (argument : String) : Bool :=
  argument == "-" || argument.toList.head? != some '-'

/-- The text after a leading equals sign, if there is one. -/
def attached (value : List Char) : String :=
  match value with
  | '=' :: rest => String.ofList rest
  | _ => String.ofList value

/-- How an argument names an option. -/
structure Naming where
  name : String
  value : Option String

/-- The option that an argument names: a long name, or the short one of the file option. -/
def naming? (argument : String) : Option Naming :=
  match argument.toList with
  | '-' :: '-' :: rest =>
    match Text.cutChars '=' rest with
    | some (name, value) => some ⟨String.ofList name, some (String.ofList value)⟩
    | none => some ⟨String.ofList rest, none⟩
  | ['-', 'f'] => some ⟨CommandOption.file.name, none⟩
  | '-' :: 'f' :: value => some ⟨CommandOption.file.name, some (attached value)⟩
  | _ => none

/-- The options given by arguments, of those that a command has. Two dashes may end them. -/
def given? (allowed : List CommandOption) : List String → Option Given
  | [] => some []
  | ["--"] => some []
  | argument :: rest =>
    match naming? argument with
    | none => none
    | some naming =>
      match allowed.find? fun o => o.name == naming.name with
      | none => none
      | some option =>
        match option.hasValue, naming.value with
        | false, none => (given? allowed rest).map ((option, "") :: ·)
        | false, some _ => none
        | true, some value => (given? allowed rest).map ((option, value) :: ·)
        | true, none =>
          match rest with
          | [] => none
          | value :: rest =>
            if isValue value then (given? allowed rest).map ((option, value) :: ·) else none

/-- A path, which may not be empty. -/
def path? (text : String) : Option String :=
  if text == "" then none else some text

/-- A natural number of 64 bits, perhaps with a plus sign. -/
def nat64? (text : String) : Option Nat :=
  let digits := match text.toList with
    | '+' :: rest => rest
    | cs => cs
  (Text.digits? 10 digits).filter fun n => n < 0x10000000000000000

/-- The value of an option as it was given. -/
def value? (given : Given) (option : CommandOption) : Option String :=
  given.lookup option

/-- The value of an option that may be left out, read in its own way. -/
def optional? {α : Type} (given : Given) (option : CommandOption) (read : String → Option α) :
    Option (Option α) :=
  match value? given option with
  | none => some none
  | some text => (read text).map some

/-- The document to read when no file is given. -/
def defaultFile : String := "cirrus.yaml"

/-- The file of a command. -/
def file? (given : Given) : Option String :=
  (optional? given .file path?).map fun file => file.getD defaultFile

/-- The lookup mode of a command. -/
def lookup? (given : Given) : Option LookupMode :=
  (optional? given .lookup (Entries.get? LookupMode.all)).map fun mode => mode.getD .registry

/-- Whether the result is wanted as JSON. -/
def wantsJson (given : Given) : Bool :=
  (value? given .json).isSome

/-- The choices for a run. -/
def run? (given : Given) : Option RunCommand := do
  let file ← file? given
  let lookup ← lookup? given
  let timeout ← optional? given .timeout nat64?
  let eventLog ← optional? given .eventLog path?
  return ⟨file, lookup, wantsJson given,
    ⟨value? given .stack, value? given .project, timeout⟩, eventLog⟩

/-- The options of a run. -/
def runOptions : List CommandOption :=
  [.file, .lookup, .stack, .project, .timeout, .eventLog, .json]

/-- The name of a command, the options that it has, and how they make the command. -/
structure Form where
  name : String
  allowed : List CommandOption
  read : Given → Option Command

/-- Every form of a command. -/
def forms : List Form :=
  [⟨"validate", [.file], fun given => (file? given).map .validate⟩,
   ⟨"lower", [.file, .lookup, .json], fun given => do
     return .lower (← file? given) (← lookup? given) (wantsJson given)⟩,
   ⟨"plan", [.file, .lookup, .json], fun given => do
     return .plan (← file? given) (← lookup? given) (wantsJson given)⟩,
   ⟨"preview", runOptions, fun given => (run? given).map .preview⟩,
   ⟨"deploy", runOptions, fun given => (run? given).map .deploy⟩]

/-- The command of a command line without the name of the program. -/
def ofArguments? : List String → Option Command
  | [] => none
  | name :: arguments => do
    let form ← forms.find? fun form => form.name == name
    let given ← given? form.allowed arguments
    if (given.map Prod.fst).Nodup then form.read given else none

/-- The file that a command reads. -/
def file : Command → String
  | .validate file => file
  | .lower file _ _ => file
  | .plan file _ _ => file
  | .preview run => run.file
  | .deploy run => run.file

/-- The event log that a command writes. -/
def eventLog? : Command → Option String
  | .preview run => run.eventLog
  | .deploy run => run.eventLog
  | _ => none

end Command

end CloudPlan
