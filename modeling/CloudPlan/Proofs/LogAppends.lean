import CloudPlan.CommandLine.Session

/-!
# Appending to a log

Writing an event makes the directories around the log that are missing and then adds a line to the
file. A path keeps leading to its directory while directories are added and files change
(`HasDirectory.mono`), so what has been made for the first event serves for all that follow: once a log
takes one event it takes any number of them, and it holds their lines one after another behind the text
that it had (`foldl_appendEvent`).
-/

set_option autoImplicit false

namespace CloudPlan

namespace FileStore

variable {s t u : FileStore} {path : String} {place around : List String} {name : String}

/-! ## What stands at a place after a change -/

/-- What stands elsewhere is found without what stands at a place. -/
theorem lookup_filter_ne {other : List String} (entries : List (List String × FileEntry))
    (different : other ≠ place) :
    (entries.filter fun e => e.1 != place).lookup other = entries.lookup other := by
  induction entries with
  | nil => rfl
  | cons e rest ih =>
    obtain ⟨spot, held⟩ := e
    by_cases here : spot = place
    · subst here
      have passed : (other == spot) = false := beq_eq_false_iff_ne.mpr different
      simp only [List.filter_cons, bne_self_eq_false, Bool.false_eq_true, if_false,
        List.lookup_cons, passed, ih]
    · simp only [List.filter_cons, bne_iff_ne, ne_eq, here, not_false_eq_true, if_true,
        List.lookup_cons, ih]

/-- What is put at a place is found there, and elsewhere what was found before. -/
theorem entry?_put (s : FileStore) (entry : FileEntry) (inside : place ≠ []) (other : List String) :
    entry? (s.put place entry) other = if other = place then some entry else s.entry? other := by
  unfold entry? put
  split
  · rename_i outside
    rw [if_neg]
    rintro rfl
    exact inside (List.isEmpty_iff.mp outside)
  · split
    · rename_i same
      rw [same, List.lookup_cons_self]
    · rename_i different
      rw [List.lookup_cons, beq_eq_false_iff_ne.mpr different]
      exact lookup_filter_ne s.entries different

/-- Of two changes at one place the later one counts. -/
theorem put_put (s : FileStore) (place : List String) (entry entry' : FileEntry) :
    (s.put place entry).put place entry' = s.put place entry' := by
  simp [put, List.filter_filter]

/-- Every directory of one store is one of the other. -/
def KeepsDirectories (s t : FileStore) : Prop :=
  ∀ place, s.entry? place = some .directory → t.entry? place = some .directory

/-- The second store is the first one, perhaps with more directories. -/
def GainsDirectories (s t : FileStore) : Prop :=
  ∀ place, t.entry? place = s.entry? place ∨
    s.entry? place = none ∧ t.entry? place = some .directory

/-- A store is what it is, without more directories. -/
theorem GainsDirectories.refl (s : FileStore) : s.GainsDirectories s := fun _ => .inl rfl

/-- More directories and then more again are more directories. -/
theorem GainsDirectories.trans (first : s.GainsDirectories t) (second : t.GainsDirectories u) :
    s.GainsDirectories u := by
  intro place
  rcases second place with same | ⟨missing, made⟩
  · rw [same]
    exact first place
  · rcases first place with same | ⟨missing', _⟩
    · exact .inr ⟨same ▸ missing, made⟩
    · exact .inr ⟨missing', made⟩

/-- No directory is lost on the way. -/
theorem GainsDirectories.keeps (gains : s.GainsDirectories t) : s.KeepsDirectories t := by
  intro place there
  rcases gains place with same | ⟨_, made⟩
  · rw [same, there]
  · exact made

/-- To make a directory where nothing is adds one. -/
theorem gainsDirectories_put (missing : s.entry? place = none) :
    s.GainsDirectories (s.put place .directory) := by
  have inside : place ≠ [] := by
    rintro rfl
    cases missing
  intro other
  rw [entry?_put s _ inside]
  split
  · rename_i same
    exact .inr ⟨same ▸ missing, rfl⟩
  · exact .inl rfl

/-- To write a file elsewhere than at a directory loses none. -/
theorem keepsDirectories_put {text : String} (inside : place ≠ [])
    (other : s.entry? place ≠ some .directory) :
    s.KeepsDirectories (s.put place (.file text)) := by
  intro place' there
  rw [entry?_put s _ inside, if_neg]
  · exact there
  · rintro rfl
    exact other there

/-! ## Where paths lead -/

/-- A name can be looked up in a directory if it is not too long. -/
theorem find_eq_ok_iff {held : Option FileEntry} :
    s.find around name = .ok held ↔
      name.utf8ByteSize ≤ nameLimit ∧ s.entry? (around ++ [name]) = held := by
  unfold find
  split
  · exact iff_of_false nofun fun ⟨short, _⟩ => by omega
  · rename_i short
    simp [Nat.le_of_not_lt short]

/-- The directories that are found under a name are found as long as none is lost. -/
theorem find_mono (keeps : s.KeepsDirectories t)
    (found : s.find around name = .ok (some .directory)) :
    t.find around name = .ok (some .directory) := by
  rw [find_eq_ok_iff] at found ⊢
  exact ⟨found.1, keeps _ found.2⟩

/-- What can be entered can be entered in a store that keeps the directories. -/
theorem enter_mono (keeps : s.KeepsDirectories t) {next : List String}
    (entered : s.enter place name = .ok next) : t.enter place name = .ok next := by
  unfold enter at entered ⊢
  by_cases here : (name == ".") = true
  · rwa [if_pos here] at entered ⊢
  by_cases back : (name == "..") = true
  · rwa [if_neg here, if_pos back] at entered ⊢
  rw [if_neg here, if_neg back] at entered ⊢
  split at entered
  · cases entered
  · cases entered
  · cases entered
  · rename_i found
    rw [find_mono keeps found]
    exact entered

/-- So can what is reached name by name. -/
theorem walk_mono (keeps : s.KeepsDirectories t) {names : List String} {last : List String}
    (walked : s.walk place names = .ok last) : t.walk place names = .ok last := by
  induction names generalizing place with
  | nil => exact walked
  | cons name rest ih =>
    unfold walk at walked ⊢
    split at walked
    · cases walked
    · rename_i next entered
      rw [enter_mono keeps entered]
      exact ih walked

/-- A path leads somewhere only through directories. -/
theorem exists_walk_of_locate {target : PathTarget} (located : s.locate path = .ok target) :
    ∃ place, s.walk [] (Path.names path).dropLast = .ok place := by
  cases walked : s.walk [] (Path.names path).dropLast with
  | ok place => exact ⟨place, rfl⟩
  | error e =>
    simp only [locate, walked] at located
    split at located
    · cases located
    · split at located
      · cases located
      · split at located <;> cases located

/-- A path leads where it led as long as no directory is lost. -/
theorem locate_mono (keeps : s.KeepsDirectories t) {target : PathTarget}
    (located : s.locate path = .ok target) : t.locate path = .ok target := by
  obtain ⟨place, walked⟩ := exists_walk_of_locate located
  unfold locate at located ⊢
  simp only [walked] at located
  simp only [walk_mono keeps walked]
  exact located

/-! ## Making directories -/

/-- A path leads to a directory. -/
inductive HasDirectory (s : FileStore) (path : String) : Prop where
  | way {place : List String} (located : s.locate path = .ok (.directory place))
  | name {around : List String} {name : String} (located : s.locate path = .ok (.entry around name))
      (found : s.find around name = .ok (some .directory))

/-- A path to a directory still is one in a store that keeps the directories. -/
theorem HasDirectory.mono (keeps : s.KeepsDirectories t) (has : s.HasDirectory path) :
    t.HasDirectory path := by
  cases has with
  | way located => exact .way (locate_mono keeps located)
  | name located found => exact .name (locate_mono keeps located) (find_mono keeps found)

/-- A directory that is there is not created again. -/
theorem hasDirectory_iff : s.HasDirectory path ↔
    s.createDirectory path = .error .alreadyExists ∧ s.isDirectory path = true := by
  constructor
  · intro has
    unfold createDirectory isDirectory
    cases has with
    | way located => simp [located]
    | name located found => simp [located, found, (find_eq_ok_iff.mp found).2]
  · rintro ⟨refused, is⟩
    unfold createDirectory at refused
    unfold isDirectory at is
    split at refused
    · simp_all
    · exact .way ‹_›
    · rename_i around name located
      rw [located] at is
      have held : s.entry? (around ++ [name]) = some .directory := by simpa using is
      -- `isDirectory` also sees what stands under a name that is too long to be found
      refine .name located ?_
      rw [find_eq_ok_iff]
      refine ⟨?_, held⟩
      split at refused
      · rename_i long
        unfold find at long
        split at long
        · cases long
          cases refused
        · cases long
      · rename_i found
        exact (find_eq_ok_iff.mp found).1
      · cases refused

/-- A directory that is created is there from then on, and nothing else changes. -/
theorem of_createDirectory (created : s.createDirectory path = .ok t) :
    s.GainsDirectories t ∧ t.HasDirectory path := by
  unfold createDirectory at created
  split at created
  · cases created
  · cases created
  · rename_i around name located
    split at created
    · cases created
    · cases created
    · rename_i found
      obtain ⟨short, missing⟩ := find_eq_ok_iff.mp found
      cases created
      have gains := gainsDirectories_put missing
      refine ⟨gains, .name (locate_mono gains.keeps located) ?_⟩
      rw [find_eq_ok_iff, entry?_put s _ (by simp), if_pos rfl]
      exact ⟨short, rfl⟩

/-- Directories that could all be created are there. -/
theorem of_createAll {paths : List String} (created : s.createAll paths = (.ok (), t)) :
    s.GainsDirectories t ∧ ∀ path ∈ paths, t.HasDirectory path := by
  induction paths generalizing s with
  | nil =>
    cases created
    exact ⟨.refl _, nofun⟩
  | cons path rest ih =>
    unfold createAll at created
    split at created
    · rename_i made first
      obtain ⟨gains, has⟩ := of_createDirectory first
      obtain ⟨gains', all⟩ := ih created
      exact ⟨gains.trans gains', List.forall_mem_cons.mpr ⟨has.mono gains'.keeps, all⟩⟩
    · rename_i e refused
      split at created
      · rename_i there
        obtain ⟨gains, all⟩ := ih created
        have has : s.HasDirectory path := hasDirectory_iff.mpr ⟨there.1 ▸ refused, there.2⟩
        exact ⟨gains, List.forall_mem_cons.mpr ⟨has.mono gains.keeps, all⟩⟩
      · cases created

/-- What is passed over while looking for a directory that can be created is created in the end. -/
theorem of_createFrom {inner paths : List String} (created : s.createFrom inner paths = (.ok (), t)) :
    s.GainsDirectories t ∧ (∀ path ∈ inner, t.HasDirectory path) ∧
      ∀ path, paths.head? = some path → t.HasDirectory path := by
  -- on the directories around, outwards, until one can be created
  induction paths generalizing inner with
  | nil =>
    obtain ⟨gains, all⟩ := of_createAll created
    exact ⟨gains, all, nofun⟩
  | cons path outer ih =>
    unfold createFrom at created
    split at created
    · rename_i made first
      obtain ⟨gains, has⟩ := of_createDirectory first
      obtain ⟨gains', all⟩ := of_createAll created
      refine ⟨gains.trans gains', all, ?_⟩
      rintro _ ⟨⟩
      exact has.mono gains'.keeps
    · -- the path is one of those passed over from here on
      obtain ⟨gains, all, _⟩ := ih created
      obtain ⟨has, all⟩ := List.forall_mem_cons.mp all
      refine ⟨gains, all, ?_⟩
      rintro _ ⟨⟩
      exact has
    · rename_i e _ refused
      split at created
      · rename_i there
        obtain ⟨gains, all⟩ := of_createAll created
        refine ⟨gains, all, ?_⟩
        rintro _ ⟨⟩
        exact (hasDirectory_iff.mpr ⟨there.1 ▸ refused, there.2⟩).mono gains.keeps
      · cases created

/-- What has been made is not made again. -/
theorem createDirectories_again (created : s.createDirectories path = (.ok (), t))
    (keeps : t.KeepsDirectories u) : u.createDirectories path = (.ok (), u) := by
  obtain ⟨_, _, has⟩ := of_createFrom created
  unfold createDirectories
  cases around : Path.withAncestors path with
  | nil => rfl
  | cons first outer =>
    rw [around] at has
    obtain ⟨refused, is⟩ := hasDirectory_iff.mp ((has first rfl).mono keeps)
    simp only [createFrom, refused, is, and_self, if_true]
    rfl

/-- Preparing a log only makes directories, and not twice. -/
theorem of_prepareLog (prepared : s.prepareLog path = (.ok (), t)) :
    s.GainsDirectories t ∧ ∀ u, t.KeepsDirectories u → u.prepareLog path = (.ok (), u) := by
  cases outer : Path.parent? path with
  | none =>
    simp only [prepareLog, outer] at prepared ⊢
    cases prepared
    exact ⟨.refl s, fun _ _ => trivial⟩
  | some parent =>
    cases made : s.createDirectories parent with
    | mk result left =>
      simp only [prepareLog, outer, made] at prepared ⊢
      cases result with
      | error e => cases prepared
      | ok _ =>
        cases prepared
        refine ⟨(of_createFrom made).1, fun u keeps => ?_⟩
        rw [createDirectories_again made keeps]
        rfl

/-! ## Writing lines -/

/-- A log takes events: the directories around it are there or can be made, which leaves `ready`, and
then its file can be opened at `place`, with the text `before` unless it is still to be made. -/
structure LogOpens (s : FileStore) (path : String) (ready : FileStore) (place : List String)
    (before : Option String) : Prop where
  prepared : s.prepareLog path = (.ok (), ready)
  opened : ready.openFile path = .ok (place, before)

/-- A log takes events. -/
def LogWritable (s : FileStore) (path : String) : Prop :=
  ∃ ready place before, s.LogOpens path ready place before

/-- A file can be opened if its directory is there, its path does not end with a slash, and there is
a file or nothing at its place. -/
theorem openFile_eq_ok_iff {before : Option String} :
    s.openFile path = .ok (place, before) ↔
      ∃ around name, s.locate path = .ok (.entry around name) ∧ place = around ++ [name] ∧
        Path.endsWithSlash path = false ∧ s.find around name = .ok (before.map .file) := by
  unfold openFile
  constructor
  · intro opened
    split at opened
    · cases opened
    · cases opened
    · rename_i around name located
      split at opened
      · cases opened
      · rename_i bare
        have file : Path.endsWithSlash path = false := eq_false_of_ne_true bare
        split at opened <;> cases opened <;> exact ⟨around, name, located, rfl, file, ‹_›⟩
  · rintro ⟨around, name, located, rfl, bare, found⟩
    rw [located]
    simp only [bare, found]
    cases before <;> rfl

/-- A file can be read if it can be opened and is there. -/
theorem read_eq_ok_iff {text : String} :
    s.read path = .ok text ↔
      ∃ around name, s.locate path = .ok (.entry around name) ∧ Path.endsWithSlash path = false ∧
        s.find around name = .ok (some (.file text)) := by
  unfold read
  constructor
  · intro ok
    split at ok
    · cases ok
    · cases ok
    · rename_i around name located
      split at ok
      · cases ok
      · cases ok
      · cases ok
      · rename_i found
        split at ok
        · cases ok
        · rename_i bare
          cases ok
          exact ⟨around, name, located, eq_false_of_ne_true bare, found⟩
  · rintro ⟨around, name, located, bare, found⟩
    simp [located, found, bare]

namespace LogOpens

variable {ready : FileStore} {before : Option String} {timestamp : String}

/-- To get ready makes directories and does nothing else. -/
theorem gains (opens : s.LogOpens path ready place before) : s.GainsDirectories ready :=
  (of_prepareLog opens.prepared).1

/-- The file is below the directory where paths start, and what it holds it held before. -/
theorem held (opens : s.LogOpens path ready place before) :
    place ≠ [] ∧ s.entry? place = before.map .file ∧ ready.entry? place = before.map .file := by
  obtain ⟨around, name, _, rfl, _, found⟩ := openFile_eq_ok_iff.mp opens.opened
  have there := (find_eq_ok_iff.mp found).2
  refine ⟨by simp, ?_, there⟩
  rcases opens.gains (around ++ [name]) with same | ⟨_, made⟩
  · rw [← same, there]
  · rw [there] at made
    cases before <;> cases made

/-- Writing the file loses no directory. -/
theorem keeps (opens : s.LogOpens path ready place before) (text : String) :
    ready.KeepsDirectories (ready.put place (.file text)) := by
  obtain ⟨inside, _, there⟩ := opens.held
  refine keepsDirectories_put inside ?_
  rw [there]
  cases before <;> nofun

/-- A log that has been written is opened again without anything else happening. -/
theorem again (opens : s.LogOpens path ready place before) (text : String) :
    (ready.put place (.file text)).LogOpens path (ready.put place (.file text)) place
      (some text) where
  prepared := (of_prepareLog opens.prepared).2 _ (opens.keeps text)
  opened := by
    obtain ⟨inside, _, _⟩ := opens.held
    obtain ⟨around, name, located, rfl, bare, found⟩ := openFile_eq_ok_iff.mp opens.opened
    refine openFile_eq_ok_iff.mpr
      ⟨around, name, locate_mono (opens.keeps text) located, rfl, bare, ?_⟩
    rw [find_eq_ok_iff, entry?_put ready _ inside, if_pos rfl]
    exact ⟨(find_eq_ok_iff.mp found).1, rfl⟩

/-- An open file that is there is read. -/
theorem read {text : String} (opens : s.LogOpens path ready place (some text)) :
    ready.read path = .ok text := by
  obtain ⟨around, name, located, _, bare, found⟩ := openFile_eq_ok_iff.mp opens.opened
  exact read_eq_ok_iff.mpr ⟨around, name, located, bare, found⟩

/-- An event that is added to a log that takes events stands behind the text before, on a line of
its own. -/
theorem appendEvent (opens : s.LogOpens path ready place before) (e : LoggedEvent) :
    s.appendEvent path e = (.ok (), ready.put place (.file (before.getD "" ++ e.line))) := by
  simp [FileStore.appendEvent, append, opens.prepared, opens.opened, Except.map]

end LogOpens

/-- The lines of some logged events. -/
def logText (events : List LoggedEvent) : String :=
  String.join (events.map LoggedEvent.line)

/-- The first line is that of the first event. -/
theorem logText_cons (e : LoggedEvent) (events : List LoggedEvent) :
    logText (e :: events) = e.line ++ logText events := by
  simp [logText, String.join_cons]

/-- The lines of events that are added one by one stand one after another. -/
theorem LogOpens.foldl_appendEvent {ready : FileStore} {before : Option String}
    (opens : s.LogOpens path ready place before) (e : LoggedEvent) (events : List LoggedEvent) :
    (e :: events).foldl (fun s e => (s.appendEvent path e).2) s =
      ready.put place (.file (before.getD "" ++ logText (e :: events))) := by
  -- from the second event on the store is one in which the log has been written
  induction events generalizing s ready before e with
  | nil =>
    rw [List.foldl_cons, opens.appendEvent, logText_cons]
    simp [logText]
  | cons e' rest ih =>
    rw [List.foldl_cons, opens.appendEvent, ih (opens.again _), put_put, logText_cons e]
    simp [String.append_assoc]

/-- A log takes events exactly if one can be added to it. -/
theorem logWritable_iff (e : LoggedEvent) :
    s.LogWritable path ↔ (s.appendEvent path e).1 = .ok () := by
  constructor
  · rintro ⟨ready, place, before, opens⟩
    rw [opens.appendEvent]
  · intro added
    unfold appendEvent append at added
    split at added
    · cases added
    · rename_i ready prepared
      cases opened : ready.openFile path with
      | error cause =>
        rw [opened] at added
        cases added
      | ok found => exact ⟨ready, found.1, found.2, prepared, opened⟩

/-- A log has gained the lines of some events: its file, wherever it lies, has them behind the text
that it had, or holds them alone if it was not there. Everything else is as it was, except that
directories may have been made. -/
def LogGains (s t : FileStore) (path : String) (events : List LoggedEvent) : Prop :=
  ∃ place, ∃ before : Option String, s.entry? place = before.map .file ∧
    t.read path = .ok (before.getD "" ++ logText events) ∧
    t.entry? place = some (.file (before.getD "" ++ logText events)) ∧
    ∀ other, other ≠ place → t.entry? other = s.entry? other ∨
      s.entry? other = none ∧ t.entry? other = some .directory

/-- A log that takes events gains them all, each with its time. -/
theorem logEvents_gains {clock : Clock} {events : List ProgressEvent}
    (writable : s.LogWritable path) (nonempty : events ≠ []) :
    s.LogGains (s.logEvents path clock events) path (clock.stamp events) := by
  obtain ⟨ready, place, before, opens⟩ := writable
  obtain ⟨e, rest, stamped⟩ : ∃ e rest, clock.stamp events = e :: rest :=
    List.exists_cons_of_ne_nil fun none => nonempty (List.mapIdx_eq_nil_iff.mp none)
  have written : s.logEvents path clock events =
      ready.put place (.file (before.getD "" ++ logText (clock.stamp events))) := by
    unfold logEvents
    rw [stamped, opens.foldl_appendEvent]
  rw [written]
  obtain ⟨inside, held, _⟩ := opens.held
  refine ⟨place, before, held, (opens.again _).read, ?_, ?_⟩
  · rw [entry?_put ready _ inside, if_pos rfl]
  · intro other different
    rw [entry?_put ready _ inside, if_neg different]
    exact opens.gains other

end FileStore

end CloudPlan
