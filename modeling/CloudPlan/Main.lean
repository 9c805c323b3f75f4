import CloudPlan.Calendar
import CloudPlan.CommandLine.Session
import Std.Time.DateTime.Timestamp

/-!
# The command line

Reads the document of a command, runs the command, prints what it says and writes its events to the
log. The exit code is 2 for a command line that is not understood and 1 for a command that failed.
-/

set_option autoImplicit false

namespace CloudPlan

/-- How the program is called. -/
def usage : String :=
  "usage: cloudplan (validate | lower | plan | preview | deploy) [--file FILE]\n" ++
    "  lower, plan, preview, deploy: [--lookup (registry | legacy)] [--json]\n" ++
    "  preview, deploy: [--stack NAME] [--project NAME] [--timeout-ms N] [--event-log FILE]"

/-- The cause of an error of the operating system. -/
def FileError.ofSystem : IO.Error → FileError
  | .noFileOrDirectory .. => .notFound
  | .alreadyExists .. => .alreadyExists
  | .inappropriateType _ code _ => if code = 20 then .notDirectory else .isDirectory
  | e => .other (toString e)

/-- The seconds since the start of 1970. -/
def currentSeconds : IO Nat := do
  return (← Std.Time.Timestamp.now).toSecondsSinceUnixEpoch.val.toNat

/-- The text of a file, or why it could not be read. -/
def readSource (path : String) : IO (Except FileError String) := do
  try
    return .ok (← IO.FS.readFile path)
  catch e => return .error (.ofSystem e)

/-- Adds a line for an event to a log. -/
def writeEvent (path : String) (e : LoggedEvent) : IO Unit := do
  if let some parent := Path.parent? path then
    unless parent == "" do IO.FS.createDirAll parent
  let log ← IO.FS.Handle.mk path .append
  log.putStr e.line
  log.flush

/-- Adds events to a log; a log that cannot be written does not stop the command. -/
def writeEvents (path : String) (events : List ProgressEvent) : IO Unit := do
  for e in events do
    try writeEvent path ⟨utcTimestamp (← currentSeconds), e⟩
    catch _ => pure ()

/-- Runs a command and gives the exit code. -/
def runCommand (command : Command) : IO UInt32 := do
  let (result, transcript) := command.execute (← readSource command.file)
  IO.eprint (Transcript.text transcript.notes)
  IO.print (Transcript.text transcript.output)
  if let some path := command.eventLog? then writeEvents path transcript.events
  match result with
  | .ok () => return 0
  | .error e =>
    IO.eprintln ("error: " ++ e.message)
    return 1

end CloudPlan

/-- Runs the command of a command line. -/
def main (arguments : List String) : IO UInt32 := do
  match CloudPlan.Command.ofArguments? arguments with
  | some command => CloudPlan.runCommand command
  | none =>
    IO.eprintln CloudPlan.usage
    return 2
