import CloudPlan.Proofs.JsonReading
import CloudPlan.Proofs.LogAppends
import CloudPlan.Proofs.Records

/-!
# Logs are read back

An event is written as an object of texts and truth values on one line of its own, and a field without
a value is left out. So the line is read back as the event (`LoggedEvent.ofLine?_compact`), the lines
of a log as its events (`EventLog.parse_logText`), and a log that held nothing before holds in the end
what was added to it, in that order (`log_read_back`).
-/

set_option autoImplicit false

namespace CloudPlan

open Fields (map_read seq_read)
open Record (required_given optional_given settle_keyed)

/-! ## Events -/

/-- The name of an error code is read back. -/
theorem ErrorCode.choice_name (code : ErrorCode) :
    Json.choice all true (.string code.name) = .ok code := by
  cases code <;> rfl

/-- So is the name of a category. -/
theorem ErrorCategory.choice_name (category : ErrorCategory) :
    Json.choice all true (.string category.name) = .ok category := by
  cases category <;> rfl

/-- So is the name of a reason to retry. -/
theorem RetriableReason.choice_name (reason : RetriableReason) :
    Json.choice all true (.string reason.name) = .ok reason := by
  cases reason <;> rfl

/-- So is the name of a type of events. -/
theorem EventType.choice_name (type : EventType) :
    Json.choice all true (.string type.name) = .ok type := by
  cases type <;> rfl

/-- An optional field whose entry is left out if there is no value is read back. -/
theorem Record.optional_written {α : Type} {r : Record} {field : String} {decode : Decoder α}
    (json : α → Json) {o : Option α} (given : r.value? field = o.map json)
    (read : ∀ a, Json.nullable decode (json a) = .ok (some a)) :
    r.optional field decode = .read o := by
  cases o with
  | none =>
    rw [optional, withDefault, readField, given]
    rfl
  | some a => exact optional_given given (read a)

/-- A classified failure is read back, by the reader that wants each key once. -/
theorem ClassifiedError.decodeWith_json (e : ClassifiedError) : decodeWith true e.json = .ok e := by
  obtain ⟨code, category, retryable, reason, message, details⟩ := e
  apply settle_keyed
  refine seq_read (seq_read (seq_read (seq_read (seq_read (map_read ?code) ?category) ?retryable)
    ?reason) ?message) ?details
  case code => exact required_given rfl code.choice_name
  case category => exact required_given rfl category.choice_name
  case retryable => exact required_given rfl rfl
  case reason =>
    refine Record.optional_written (fun reason => .string reason.name)
      (by cases reason <;> cases details <;> rfl) fun reason => ?_
    cases reason <;> rfl
  case message => exact required_given (by cases reason <;> rfl) rfl
  case details =>
    exact Record.optional_written .string (by cases reason <;> cases details <;> rfl)
      fun details => rfl

/-- A written event is read back, whatever time stands before it. -/
theorem ProgressEvent.decodeWith_entries (e : ProgressEvent) (time : Json) :
    decodeWith true (.object ((LoggedEvent.timeKey, time) :: e.entries)) = .ok e := by
  obtain ⟨type, stack, error⟩ := e
  apply settle_keyed
  refine seq_read (seq_read (map_read ?kind) ?stack) ?error
  case kind => exact required_given rfl type.choice_name
  case stack => exact required_given rfl rfl
  case error =>
    refine Record.optional_written ClassifiedError.json (by cases error <;> rfl) fun error => ?_
    have written : ClassifiedError.json error ≠ .null := nofun
    rw [Json.nullable]
    · rw [ClassifiedError.decodeWith_json]
      rfl
    · exact written

namespace LoggedEvent

/-- Under the key `error` a logged event has the failure of its event, if there is one. -/
theorem json_get?_error (e : LoggedEvent) :
    e.json.get? "error" = e.event.error.map ClassifiedError.json := by
  obtain ⟨timestamp, type, stack, error⟩ := e
  cases error <;> rfl

/-- A logged event has no key twice, and neither has its failure. -/
theorem repeatsKey_json (e : LoggedEvent) :
    repeatsKey (timeKey :: ProgressEvent.recordType.fields) e.json = false := by
  obtain ⟨timestamp, type, stack, error⟩ := e
  cases error <;> rfl

/-- No key is written twice in a failure. -/
theorem repeatsKey_error (o : Option ClassifiedError) :
    repeatsKey ClassifiedError.type.fields ((o.map ClassifiedError.json).getD .null) = false := by
  cases o with
  | none => rfl
  | some e =>
    obtain ⟨code, category, retryable, reason, message, details⟩ := e
    cases reason <;> cases details <;> rfl

/-- So a logged event is read back from the JSON value that it is written as. -/
theorem ofJson?_json (e : LoggedEvent) : ofJson? e.json = some e := by
  have unrepeated : (repeatsKey (timeKey :: ProgressEvent.recordType.fields) e.json ||
      repeatsKey ClassifiedError.type.fields ((e.json.get? "error").getD .null)) = false := by
    rw [repeatsKey_json, json_get?_error, repeatsKey_error]
    rfl
  have event := e.event.decodeWith_entries (.string e.timestamp)
  have time : (e.json.get? timeKey).bind Json.asString? = some e.timestamp := rfl
  simp only [ofJson?, unrepeated, time]
  show (ProgressEvent.decodeWith true e.json).toOption.map _ = _
  rw [json, event]
  rfl

/-- A failure is written without numbers. -/
theorem readable_failure (e : ClassifiedError) : e.json.Readable := by
  obtain ⟨code, category, retryable, reason, message, details⟩ := e
  intro n there
  cases reason <;> cases details <;>
    simp [ClassifiedError.json, ClassifiedError.entry?, Json.parts, Json.partsOfEntries] at there

/-- It is one object with nothing nested in it. -/
theorem depth_failure (e : ClassifiedError) : e.json.depth = 1 := by
  obtain ⟨code, category, retryable, reason, message, details⟩ := e
  cases reason <;> cases details <;> rfl

/-- Neither is there a number in a logged event. -/
theorem readable_json (e : LoggedEvent) : e.json.Readable := by
  obtain ⟨timestamp, type, stack, error⟩ := e
  intro n there
  -- no entry holds a number, except perhaps one of the failure
  cases error with
  | none =>
    simp [json, ProgressEvent.entries, ClassifiedError.entry?, Json.parts,
      Json.partsOfEntries] at there
  | some error =>
    refine readable_failure error n ?_
    simpa [json, ProgressEvent.entries, ClassifiedError.entry?, Json.parts,
      Json.partsOfEntries] using there

/-- A logged event is nested no deeper than the reader goes. -/
theorem depth_json (e : LoggedEvent) : e.json.depth ≤ Json.maxDepth := by
  obtain ⟨timestamp, type, stack, error⟩ := e
  cases error with
  | none => exact (by decide : 1 ≤ Json.maxDepth)
  | some error =>
    show max 0 (max 0 (max 0 (max error.json.depth 0))) + 1 ≤ Json.maxDepth
    rw [depth_failure]
    decide

/-- The text of a logged event, without its line end, is read back. -/
theorem ofLine?_compact (e : LoggedEvent) : ofLine? e.json.compact = some e := by
  rw [ofLine?, Json.read?_compact e.readable_json e.depth_json]
  exact e.ofJson?_json

/-- It is written without a line break. -/
theorem newline_notMem_compact (e : LoggedEvent) : '\n' ∉ e.json.compact.toList := by
  rw [Json.compact, String.toList_ofList]
  exact Json.newline_notMem_chars e.json e.readable_json.integral

/-- The line break stands at the end of its line, and there alone. -/
theorem toList_line (e : LoggedEvent) : e.line.toList = e.json.compact.toList ++ ['\n'] := by
  rw [line, String.toList_append]
  rfl

/-- A line with an event is not blank. -/
theorem isBlankText_compact (e : LoggedEvent) : Text.isBlankText e.json.compact = false := by
  rw [Json.compact, Text.isBlankText, String.toList_ofList]
  rfl

end LoggedEvent

/-! ## Logs -/

/-- The part before the first separator is cut off as a whole. -/
theorem Text.splitChars_append_sep {sep : Char} {part : List Char} (whole : sep ∉ part)
    (rest : List Char) : splitChars sep (part ++ sep :: rest) = part :: splitChars sep rest := by
  induction part with
  | nil => simp [splitChars]
  | cons c part ih =>
    rw [List.mem_cons, not_or] at whole
    rw [List.cons_append, splitChars, if_neg (Ne.symm whole.1), ih whole.2]

namespace EventLog

/-- The lines of a log are the texts of its events. -/
theorem lines_logText (events : List LoggedEvent) :
    lines (FileStore.logText events) = events.map fun e => e.json.compact := by
  induction events with
  | nil => rfl
  | cons e rest ih =>
    rw [FileStore.logText_cons, lines, String.toList_append, e.toList_line, List.append_assoc,
      List.singleton_append, Text.splitChars_append_sep e.newline_notMem_compact, List.map_cons,
      String.ofList_toList, List.filter_cons_of_pos (by simp [e.isBlankText_compact]), List.map_cons,
      ← ih, lines]

/-- The lines of events are read back one by one. -/
theorem parseLines_compact (events : List LoggedEvent) (number : Nat) :
    parseLines number (events.map fun e => e.json.compact) = .ok events := by
  induction events generalizing number with
  | nil => rfl
  | cons e rest ih =>
    rw [List.map_cons, parseLines, e.ofLine?_compact]
    simp only [ih]
    rfl

/-- The text of a log is read back as its events. -/
theorem parse_logText (events : List LoggedEvent) :
    parse (FileStore.logText events) = .ok events := by
  rw [parse, lines_logText, parseLines_compact]

end EventLog

namespace FileStore

variable {s ready : FileStore} {path : String} {place : List String} {before : Option String}

/-- Adds events to a log one by one, up to the first that is refused. -/
def appendAll (s : FileStore) (path : String) : List LoggedEvent → Except LogError Unit × FileStore
  | [] => (.ok (), s)
  | e :: rest =>
    match s.appendEvent path e with
    | (.error cause, t) => (.error cause, t)
    | (.ok (), t) => t.appendAll path rest

/-- The text of a file, which is empty if there is none. -/
def textOf (s : FileStore) (path : String) : String :=
  (s.read path).toOption.getD ""

/-- A log that takes events and is absent or empty: where it comes to lie there is nothing yet, or a
file without text. -/
def FreshLog (s : FileStore) (path : String) : Prop :=
  ∃ ready place before, s.LogOpens path ready place before ∧
    (s.entry? place = none ∨ s.entry? place = some (.file ""))

/-- Another event adds a line at the end. -/
theorem logText_concat (events : List LoggedEvent) (e : LoggedEvent) :
    logText (events ++ [e]) = logText events ++ e.json.compact ++ "\n" := by
  simp [logText, LoggedEvent.line, String.join_append, String.append_assoc]

namespace LogOpens

/-- A log that can be read is the one that is written. -/
theorem of_read {text : String} (opens : s.LogOpens path ready place before)
    (read : s.read path = .ok text) : before = some text := by
  obtain ⟨around, name, located, _, found⟩ := read_eq_ok_iff.mp read
  obtain ⟨around', name', located', rfl, _, _⟩ := openFile_eq_ok_iff.mp opens.opened
  -- making directories does not change where the path leads
  cases (locate_mono opens.gains.keeps located).symm.trans located'
  have there := (find_eq_ok_iff.mp found).2
  rw [opens.held.2.1] at there
  cases before with
  | none => cases there
  | some other =>
    cases there
    rfl

/-- A log that takes one event takes them all. -/
theorem appendAll (opens : s.LogOpens path ready place before) (events : List LoggedEvent) :
    s.appendAll path events = (.ok (), events.foldl (fun s e => (s.appendEvent path e).2) s) := by
  induction events generalizing s ready before with
  | nil => rfl
  | cons e rest ih =>
    rw [FileStore.appendAll, List.foldl_cons, opens.appendEvent]
    exact ih (opens.again _)

end LogOpens

namespace FreshLog

/-- A fresh log takes events, and there is nothing before the first one. -/
theorem exists_opens (fresh : s.FreshLog path) :
    ∃ ready place before, s.LogOpens path ready place before ∧ before.getD "" = "" := by
  obtain ⟨ready, place, before, opens, empty⟩ := fresh
  refine ⟨ready, place, before, opens, ?_⟩
  rw [opens.held.2.1] at empty
  cases before with
  | none => rfl
  | some text => simpa using empty

/-- A fresh log takes all events. -/
theorem appendAll_ok (fresh : s.FreshLog path) (events : List LoggedEvent) :
    (s.appendAll path events).1 = .ok () := by
  obtain ⟨ready, place, before, opens, _⟩ := fresh
  rw [opens.appendAll]

/-- After some events the log holds their lines and nothing else. -/
theorem read_appendAll (fresh : s.FreshLog path) {events : List LoggedEvent}
    (nonempty : events ≠ []) : (s.appendAll path events).2.read path = .ok (logText events) := by
  obtain ⟨ready, place, before, opens, empty⟩ := fresh.exists_opens
  obtain ⟨e, rest, rfl⟩ := List.exists_cons_of_ne_nil nonempty
  rw [opens.appendAll, opens.foldl_appendEvent, empty, String.empty_append]
  exact (opens.again _).read

/-- What can be read from a fresh log is empty. -/
theorem read_eq_empty (fresh : s.FreshLog path) {text : String} (read : s.read path = .ok text) :
    text = "" := by
  obtain ⟨ready, place, before, opens, empty⟩ := fresh.exists_opens
  rw [opens.of_read read] at empty
  exact empty

/-- After that it holds the lines of the events and nothing else. -/
theorem textOf_appendAll (fresh : s.FreshLog path) (events : List LoggedEvent) :
    (s.appendAll path events).2.textOf path = logText events := by
  cases events with
  | nil =>
    show s.textOf path = ""
    unfold textOf
    cases read : s.read path with
    | error e => rfl
    | ok text => exact fresh.read_eq_empty read
  | cons e rest =>
    rw [textOf, fresh.read_appendAll (List.cons_ne_nil e rest)]
    rfl

/-- So it is read back as the events that were added, if any were. -/
theorem readEvents_appendAll (fresh : s.FreshLog path) {events : List LoggedEvent}
    (nonempty : events ≠ []) : (s.appendAll path events).2.readEvents path = .ok events := by
  rw [readEvents, fresh.read_appendAll nonempty]
  exact EventLog.parse_logText events

/-- Without any events only a log that is there is read, and it is empty. -/
theorem readEvents_eq_nil_iff (fresh : s.FreshLog path) :
    s.readEvents path = .ok [] ↔ s.read path = .ok "" := by
  unfold readEvents
  cases read : s.read path with
  | error e => exact iff_of_false nofun nofun
  | ok text =>
    obtain rfl := fresh.read_eq_empty read
    exact iff_of_true rfl rfl

end FreshLog

/-- A log is absent or empty exactly if an event can be added to it and is all that it holds then. -/
theorem freshLog_iff (e : LoggedEvent) : s.FreshLog path ↔
    (s.appendEvent path e).1 = .ok () ∧ (s.appendEvent path e).2.read path = .ok e.line := by
  constructor
  · intro fresh
    obtain ⟨ready, place, before, opens, empty⟩ := fresh.exists_opens
    rw [opens.appendEvent, empty, String.empty_append]
    exact ⟨rfl, (opens.again _).read⟩
  · rintro ⟨taken, read⟩
    obtain ⟨ready, place, before, opens⟩ := (logWritable_iff e).mpr taken
    refine ⟨ready, place, before, opens, ?_⟩
    rw [opens.appendEvent, (opens.again _).read, Except.ok.injEq] at read
    rw [opens.held.2.1]
    cases before with
    | none => exact .inl rfl
    | some text =>
      have empty : text = "" := by simpa using read
      exact .inr (by rw [empty]; rfl)

/-- **Logs are read back.** Events that are added to a log which is absent or empty are all taken. The
log is read back as these events in this order, unless there are none and the log is not there. Each
event adds its own line and nothing else. -/
theorem log_read_back (s : FileStore) (path : String) (events : List LoggedEvent)
    (fresh : s.FreshLog path) :
    (s.appendAll path events).1 = .ok () ∧
      ((s.appendAll path events).2.readEvents path = .ok events ↔
        events ≠ [] ∨ s.read path = .ok "") ∧
      ∀ done e, done ++ [e] <+: events →
        let before := (s.appendAll path done).2.textOf path
        let after := (s.appendAll path (done ++ [e])).2.textOf path
        after = before ++ e.json.compact ++ "\n" ∧ '\n' ∉ e.json.compact.toList ∧
          EventLog.lines after = EventLog.lines before ++ [e.json.compact] := by
  refine ⟨fresh.appendAll_ok events, ?_, fun done e _ => ?_⟩
  · by_cases nonempty : events = []
    · subst nonempty
      rw [or_iff_right (not_not_intro rfl)]
      exact fresh.readEvents_eq_nil_iff
    · exact iff_of_true (fresh.readEvents_appendAll nonempty) (.inl nonempty)
  · simp only [fresh.textOf_appendAll, EventLog.lines_logText, List.map_append, List.map_cons,
      List.map_nil, and_true]
    exact ⟨logText_concat done e, e.newline_notMem_compact⟩

/-- A log that nothing was added to is not there to be read. -/
theorem absent_log_unread :
    empty.FreshLog "deploy.jsonl" ∧ (empty.appendAll "deploy.jsonl" []).1 = .ok () ∧
      (empty.appendAll "deploy.jsonl" []).2.readEvents "deploy.jsonl" ≠ .ok [] ∧
      empty.readEvents "deploy.jsonl" = .error (.unreadable "deploy.jsonl" .notFound) :=
  ⟨⟨_, _, none, ⟨rfl, rfl⟩, .inl rfl⟩, rfl, by decide, by decide⟩

/-- A deployment that times out, with line breaks, quotes and control characters in its texts. -/
def timedOut : List LoggedEvent :=
  [⟨"2024-02-29T00:00:00Z", .deploying, "orders\n\"eu\"", none⟩,
   ⟨"2024-02-29T00:00:01Z", .error, "orders\n\"eu\"",
    some ⟨.timeout, .timeout, true, some .upstreamTimeout, "timed out\r\n\tafter \x01 \\ 20ms",
      some "Timeout \x7b millis: 20 \x7d"⟩⟩]

/-- Both events of the deployment are read back from a log in a directory that was not there. -/
theorem log_read_back_timedOut :
    empty.FreshLog "logs/deploy.jsonl" ∧
      (empty.appendAll "logs/deploy.jsonl" timedOut).1 = .ok () ∧
      (empty.appendAll "logs/deploy.jsonl" timedOut).2.readEvents "logs/deploy.jsonl" =
        .ok timedOut := by
  have fresh : empty.FreshLog "logs/deploy.jsonl" := ⟨_, _, none, ⟨rfl, rfl⟩, .inl rfl⟩
  obtain ⟨taken, read, _⟩ := log_read_back empty "logs/deploy.jsonl" timedOut fresh
  exact ⟨fresh, taken, read.mpr (.inl (List.cons_ne_nil _ _))⟩

end FileStore

end CloudPlan
