import CloudPlan.Files.Path

/-!
# Files and directories

A store of text files below one directory, in which paths start. A path is followed name by name: a
dot stays in a directory, two dots lead back, and every name but the last has to be that of a
directory. The last name may be that of something that is still to be made.
-/

set_option autoImplicit false

namespace CloudPlan

/-- Why a file could not be used. -/
inductive FileError where
  | notFound
  | alreadyExists
  | notDirectory
  | isDirectory
  | nameTooLong
  | containsNul
  | other (text : String)
deriving DecidableEq, Repr

/-- The wording of an error, with its number if it has one. -/
def FileError.message : FileError → String
  | .notFound => "No such file or directory (os error 2)"
  | .alreadyExists => "File exists (os error 17)"
  | .notDirectory => "Not a directory (os error 20)"
  | .isDirectory => "Is a directory (os error 21)"
  | .nameTooLong => "File name too long (os error 36)"
  | .containsNul => "file name contained an unexpected NUL byte"
  | .other text => text

/-- What can stand at a place in a store. -/
inductive FileEntry where
  | file (text : String)
  | directory
deriving DecidableEq, Repr

/-- A store of files: what stands at each place below the directory where paths start. -/
structure FileStore where
  entries : List (List String × FileEntry)
deriving DecidableEq, Repr

/-- Where a path leads: to a directory that is there, or to a name in one. -/
inductive PathTarget where
  | directory (place : List String)
  | entry (around : List String) (name : String)
deriving DecidableEq, Repr

namespace FileStore

/-- The greatest number of octets in a name. -/
def nameLimit : Nat := 255

/-- The greatest number of octets in a path. -/
def pathLimit : Nat := 4095

/-- The store without files and directories. -/
def empty : FileStore := ⟨[]⟩

/-- What stands at a place. -/
def entry? (s : FileStore) (place : List String) : Option FileEntry :=
  if place.isEmpty then some .directory else s.entries.lookup place

/-- Puts something at a place. -/
def put (s : FileStore) (place : List String) (entry : FileEntry) : FileStore :=
  ⟨(place, entry) :: s.entries.filter fun e => e.1 != place⟩

/-- What stands under a name in a directory. -/
def find (s : FileStore) (around : List String) (name : String) :
    Except FileError (Option FileEntry) :=
  if nameLimit < name.utf8ByteSize then .error .nameTooLong else .ok (s.entry? (around ++ [name]))

/-- The directory that a name leads to from another one. -/
def enter (s : FileStore) (place : List String) (name : String) : Except FileError (List String) :=
  if name == "." then .ok place
  else if name == ".." then .ok place.dropLast
  else
    match s.find place name with
    | .error e => .error e
    | .ok none => .error .notFound
    | .ok (some (.file _)) => .error .notDirectory
    | .ok (some .directory) => .ok (place ++ [name])

/-- The directory that some names lead to from another one. -/
def walk (s : FileStore) (place : List String) : List String → Except FileError (List String)
  | [] => .ok place
  | name :: rest =>
    match s.enter place name with
    | .error e => .error e
    | .ok next => s.walk next rest

/-- Where a path leads. -/
def locate (s : FileStore) (path : String) : Except FileError PathTarget :=
  if path.toList.contains '\x00' then .error .containsNul
  else if path == "" then .error .notFound
  else if pathLimit < path.utf8ByteSize then .error .nameTooLong
  else
    let names := Path.names path
    match s.walk [] names.dropLast, names.getLast? with
    | .error e, _ => .error e
    | .ok place, none => .ok (.directory place)
    | .ok place, some name =>
      if name == "." then .ok (.directory place)
      else if name == ".." then .ok (.directory place.dropLast)
      else .ok (.entry place name)

/-- The text of a file. -/
def read (s : FileStore) (path : String) : Except FileError String :=
  match s.locate path with
  | .error e => .error e
  | .ok (.directory _) => .error .isDirectory
  | .ok (.entry around name) =>
    match s.find around name with
    | .error e => .error e
    | .ok none => .error .notFound
    | .ok (some .directory) => .error .isDirectory
    | .ok (some (.file text)) =>
      if Path.endsWithSlash path then .error .notDirectory else .ok text

/-- The place of a file that is to be written, and its text if it is there. -/
def openFile (s : FileStore) (path : String) : Except FileError (List String × Option String) :=
  match s.locate path with
  | .error e => .error e
  | .ok (.directory _) => .error .isDirectory
  | .ok (.entry around name) =>
    if Path.endsWithSlash path then .error .isDirectory
    else
      match s.find around name with
      | .error e => .error e
      | .ok none => .ok (around ++ [name], none)
      | .ok (some .directory) => .error .isDirectory
      | .ok (some (.file text)) => .ok (around ++ [name], some text)

/-- Writes a text to the end of a file, which is created if it is missing. -/
def append (s : FileStore) (path text : String) : Except FileError FileStore :=
  (s.openFile path).map fun (place, before) => s.put place (.file (before.getD "" ++ text))

/-- Replaces the text of a file, which is created if it is missing. -/
def write (s : FileStore) (path text : String) : Except FileError FileStore :=
  (s.openFile path).map fun (place, _) => s.put place (.file text)

/-- Whether a path leads to a directory. -/
def isDirectory (s : FileStore) (path : String) : Bool :=
  match s.locate path with
  | .ok (.directory _) => true
  | .ok (.entry around name) => s.entry? (around ++ [name]) == some .directory
  | .error _ => false

/-- Creates a directory in one that is there. -/
def createDirectory (s : FileStore) (path : String) : Except FileError FileStore :=
  match s.locate path with
  | .error e => .error e
  | .ok (.directory _) => .error .alreadyExists
  | .ok (.entry around name) =>
    match s.find around name with
    | .error e => .error e
    | .ok (some _) => .error .alreadyExists
    | .ok none => .ok (s.put (around ++ [name]) .directory)

/-- Creates the directories of some paths, each in the one before it, unless they are there. What
has been created before an error stays. -/
def createAll (s : FileStore) : (paths : List String) → Except FileError Unit × FileStore
  | [] => (.ok (), s)
  | path :: rest =>
    match s.createDirectory path with
    | .ok s => s.createAll rest
    | .error e =>
      if e = .alreadyExists ∧ s.isDirectory path then s.createAll rest else (.error e, s)

/-- Creates the first directory of some paths, each around the one before it, that can be created,
and then those inside it; `inner` holds the paths that were passed over, the last one first. -/
def createFrom (s : FileStore) (inner : List String) :
    (paths : List String) → Except FileError Unit × FileStore
  | [] => s.createAll inner
  | path :: outer =>
    match s.createDirectory path with
    | .ok s => s.createAll inner
    | .error .notFound => s.createFrom (path :: inner) outer
    | .error e =>
      if e = .alreadyExists ∧ s.isDirectory path then s.createAll inner else (.error e, s)

/-- Creates a directory, and those around it, unless it is there. -/
def createDirectories (s : FileStore) (path : String) : Except FileError Unit × FileStore :=
  s.createFrom [] (Path.withAncestors path)

end FileStore

end CloudPlan
