import TypedClient.Error
import TypedClient.Text

/-!
# Files

The files around a working directory, as a value. Directories are there because of the files in
them; besides, the directories above the working directory and a few of the root are always there.
All files can be read and written, there are no links, and the only device is the one that swallows
what is written to it.
-/

namespace TypedClient

/-- Where a path starts: some levels above the working directory, or at the root. -/
inductive Start where
  | above (levels : Nat)
  | root
deriving DecidableEq

structure Path where
  start : Start
  names : List String
deriving DecidableEq

namespace Path

/-- The path of a file below the working directory. -/
def below (names : List String) : Path :=
  { start := .above 0, names := names }

def parent (p : Path) : Path :=
  match p.start, p.names with
  | .above levels, [] => { start := .above (levels + 1), names := [] }
  | start, names => { start := start, names := names.dropLast }

def child (p : Path) (name : String) : Path :=
  { p with names := p.names ++ [name] }

def isPrefixOf (p q : Path) : Bool :=
  p.start = q.start && p.names.isPrefixOf q.names

/-- The path of a place that is given by its names from the root on: from the working directory on
if it is there or below, and else from the root on. `way` leads to the working directory. -/
def fromRoot (way names : List String) : Path :=
  if way.isPrefixOf names then below (names.drop way.length) else { start := .root, names := names }

/-- Directories that every system has at its root. -/
def systemDirectories : List String :=
  ["bin", "boot", "dev", "etc", "home", "lib", "media", "mnt", "opt", "proc", "root", "run", "sbin",
   "srv", "sys", "tmp", "usr", "var"]

/-- The file that is always empty. -/
def nullDevice : Path :=
  { start := .root, names := ["dev", "null"] }

end Path

/-- What stands at a path. A file without a text holds bytes that are not UTF-8. -/
inductive Node where
  | nothing
  | directory
  | file (text : Option String)
deriving DecidableEq

structure Files where
  /-- The files, each at the one path that stands for its place. -/
  entries : List (Path × Option String)
  /-- The names from the root to the working directory. If they are not known, no path from the root
  leads there. -/
  workingDirectory : Option (List String) := none

namespace Files

/-- One path for each place, however it is reached. -/
def canonical (fs : Files) (p : Path) : Path :=
  match fs.workingDirectory with
  | none => p
  | some way =>
    match p.start with
    | .above levels => Path.fromRoot way (way.take (way.length - levels) ++ p.names)
    | .root => Path.fromRoot way p.names

/-- Whether a directory is there whatever files there are: it is above the working directory, or on
the way from the root to one that is always there. -/
def isStanding (fs : Files) (p : Path) : Bool :=
  match p.start with
  | .above _ => p.names.isEmpty
  | .root =>
    (Path.systemDirectories.map ([·]) ++ fs.workingDirectory.toList).any p.names.isPrefixOf

def node (fs : Files) (p : Path) : Node :=
  let place := fs.canonical p
  match fs.entries.lookup place with
  | some text => .file text
  | none =>
    if fs.isStanding place || fs.entries.any (fun e => place.isPrefixOf e.1) then .directory
    else if place = Path.nullDevice then .file (some "")
    else .nothing

/-- How long a name may be, in bytes. -/
def nameLimit : Nat := 255

/-- How long a path may be, in bytes. -/
def pathLimit : Nat := 4095

/-- Follows the parts of a path from a place on, which has to be a directory if parts are left. -/
def follow (fs : Files) (place : Path) : List String → Except FileFault Path
  | [] => .ok place
  | part :: rest =>
    match fs.node place with
    | .nothing => .error .missing
    | .file _ => .error .notDirectory
    | .directory =>
      if part = "" ∨ part = "." then fs.follow place rest
      else if part = ".." then fs.follow place.parent rest
      else if nameLimit < part.utf8ByteSize then .error .nameTooLong
      else fs.follow (place.child part) rest

/-- Where a path starts, and its parts between slashes. -/
def parts (path : String) : Except FileFault (Path × List String) :=
  if path.isEmpty then .error .missing
  else if pathLimit < path.utf8ByteSize then .error .nameTooLong
  else
    match path.toList with
    | '/' :: cs => .ok ({ start := .root, names := [] }, (Text.split '/' cs).map String.ofList)
    | cs => .ok (Path.below [], (Text.split '/' cs).map String.ofList)

def read (fs : Files) (path : String) : Except FileFault String := do
  let (start, parts) ← parts path
  match fs.node (← fs.follow start parts) with
  | .file (some text) => return text
  | .file none => throw .notText
  | .directory => throw .directory
  | .nothing => throw .missing

/-- Puts a text at a path, in the place of what is there. -/
def putEntry (p : Path) (text : String) : List (Path × Option String) → List (Path × Option String)
  | [] => [(p, some text)]
  | e :: es => if e.1 = p then (p, some text) :: es else e :: putEntry p text es

def replace (fs : Files) (p : Path) (text : String) : Files :=
  { fs with entries := putEntry p text fs.entries }

/-- Writes a file into a directory that is there. -/
def write (fs : Files) (path text : String) : Except FileFault Files := do
  let (start, parts) ← parts path
  let named := (parts.reverse.dropWhile String.isEmpty).reverse
  let parent ← fs.follow start named.dropLast
  match fs.node parent with
  | .nothing => throw .missing
  | .file _ => throw .notDirectory
  | .directory =>
    let last := named.getLast?.getD ""
    -- A path that ends with a slash or with dots can only be a directory.
    if named.length < parts.length ∨ last ∈ ["", ".", ".."] then throw .directory
    else if nameLimit < last.utf8ByteSize then throw .nameTooLong
    else
      let target := fs.canonical (parent.child last)
      if fs.node (parent.child last) = .directory then throw .directory
      else if target = Path.nullDevice then return fs
      else return fs.replace target text

end Files

/-- Access to files and to the network: the surroundings of a run. -/
structure Surroundings (m : Type → Type) where
  read : String → m (Except FileFault String)
  write : String → String → m (Except FileFault Unit)
  /-- The text served at an address, with a token if one is given. -/
  fetch : String → Option String → m (Except String String)

/-- Files as a value, and no network. -/
def Files.surroundings : Surroundings (StateM Files) where
  read path := return (← get).read path
  write path text := do
    match (← get).write path text with
    | .ok files => set files; return .ok ()
    | .error fault => return .error fault
  fetch url _ := return .error ("error sending request for url (" ++ url ++ ")")

end TypedClient
