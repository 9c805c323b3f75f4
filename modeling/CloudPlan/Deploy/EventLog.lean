import CloudPlan.Deploy.Event
import CloudPlan.Files.Store
import CloudPlan.Json.Reader
import CloudPlan.Text.Blank

/-!
# Event logs

An event log is a text file with one event on each line, as a JSON object that also holds the time
of writing. `EventLog.parse` reads the events of a text, and `FileStore.appendEvent` adds one to a
file. Blank lines are passed over and not counted; the first line that holds no event is an error.
-/

set_option autoImplicit false

namespace CloudPlan

/-- An event with the time at which it was written down. -/
structure LoggedEvent where
  timestamp : String
  event : ProgressEvent
deriving DecidableEq, Repr

namespace LoggedEvent

/-- The key of the time. -/
def timeKey : String := "ts"

/-- A logged event as JSON: the time, then the entries of the event. -/
def json (e : LoggedEvent) : Json :=
  .object ((timeKey, .string e.timestamp) :: e.event.entries)

/-- The line of a logged event, with its end. -/
def line (e : LoggedEvent) : String :=
  e.json.compact ++ "\n"

/-- Whether an object has one of the given keys twice. -/
def repeatsKey (keys : List String) : Json → Bool
  | .object entries => !((Entries.keys entries).filter keys.contains).Nodup
  | _ => false

/-- A logged event from JSON as it was read. Keys with a meaning may not be repeated. -/
def ofJson? (j : Json) : Option LoggedEvent :=
  let error := (j.get? "error").getD .null
  if repeatsKey (timeKey :: ProgressEvent.recordType.fields) j ||
      repeatsKey ClassifiedError.type.fields error then none
  else
    match j, (j.get? timeKey).bind Json.asString? with
    | .object _, some timestamp =>
      (ProgressEvent.decodeWith true j).toOption.map fun event => ⟨timestamp, event⟩
    | _, _ => none

/-- A logged event from the text of a line. -/
def ofLine? (line : String) : Option LoggedEvent :=
  (Json.read? line).bind ofJson?

end LoggedEvent

/-- What a clock shows when the events of a command are written down: the first one, the second one and
so on. -/
structure Clock where
  reading : Nat → String

namespace Clock

/-- The clock that stands still. -/
def stopped (time : String) : Clock := ⟨fun _ => time⟩

/-- A time stands for the clock that always shows it. -/
instance : Coe String Clock := ⟨stopped⟩

/-- Events as they are written down one after another. -/
def stamp (clock : Clock) (events : List ProgressEvent) : List LoggedEvent :=
  events.mapIdx fun n e => ⟨clock.reading n, e⟩

end Clock

/-- Why a log could not be read or written. -/
inductive LogError where
  | unreadable (path : String) (cause : FileError)
  | noDirectory (path : String) (cause : FileError)
  | unwritable (path : String) (cause : FileError)
  | badLine (number : Nat)
deriving DecidableEq, Repr

/-- The wording of an error. -/
def LogError.message : LogError → String
  | .unreadable path cause => "cannot read event log " ++ path ++ ": " ++ cause.message
  | .noDirectory path cause => "cannot create log dir " ++ path ++ ": " ++ cause.message
  | .unwritable path cause => "cannot open event log " ++ path ++ ": " ++ cause.message
  | .badLine number => "line " ++ toString number

namespace EventLog

/-- The lines of a text that are not blank. -/
def lines (text : String) : List String :=
  ((Text.splitChars '\n' text.toList).map String.ofList).filter fun l => !Text.isBlankText l

/-- The events of lines that start with the given number. -/
def parseLines (number : Nat) : List String → Except LogError (List LoggedEvent)
  | [] => .ok []
  | line :: rest =>
    match LoggedEvent.ofLine? line with
    | none => .error (.badLine number)
    | some e => (parseLines (number + 1) rest).map (e :: ·)

/-- The events of a text. -/
def parse (text : String) : Except LogError (List LoggedEvent) :=
  parseLines 1 (lines text)

end EventLog

namespace FileStore

/-- The events of a log file. -/
def readEvents (s : FileStore) (path : String) : Except LogError (List LoggedEvent) :=
  match s.read path with
  | .error e => .error (.unreadable path e)
  | .ok text => EventLog.parse text

/-- Creates the directories around a log file. -/
def prepareLog (s : FileStore) (path : String) : Except LogError Unit × FileStore :=
  match Path.parent? path with
  | none => (.ok (), s)
  | some parent =>
    let (result, s) := s.createDirectories parent
    (result.mapError (.noDirectory parent), s)

/-- Adds an event to a log file; the directories around it are created. -/
def appendEvent (s : FileStore) (path : String) (e : LoggedEvent) :
    Except LogError Unit × FileStore :=
  match s.prepareLog path with
  | (.error e, s) => (.error e, s)
  | (.ok (), s) =>
    match s.append path e.line with
    | .error cause => (.error (.unwritable path cause), s)
    | .ok s => (.ok (), s)

end FileStore

end CloudPlan
