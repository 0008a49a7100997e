import LaunchReplay.FileTree.Path
import LaunchReplay.Text.Bytes

/-!
# File trees

Files and directories by location, in the order in which directories list them, and a working
directory at which relative paths start. There are no links, and the root always exists.
-/

namespace LaunchReplay

/-- A place in a file tree: the names on the way from the root. -/
abbrev Location := List String

/-- What is at a location. -/
inductive FileEntry
  /-- A file with its content. -/
  | file (content : Bytes)
  /-- A directory. -/
  | directory
deriving DecidableEq, Repr

/-- Files and directories by location. -/
structure FileTree where
  /-- What is where, in listing order. -/
  entries : List (Location × FileEntry)
  /-- No location occurs twice. -/
  unique : (entries.map (·.1)).Nodup
  /-- Where relative paths start. -/
  workingDirectory : Location
deriving DecidableEq

namespace FileTree

/-- The tree with nothing but its root. -/
def empty : FileTree := ⟨[], .nil, []⟩

instance : Inhabited FileTree := ⟨empty⟩

/-- What is at a location; at the root there is a directory. -/
def entry? (tree : FileTree) (location : Location) : Option FileEntry :=
  if location.isEmpty then some .directory
  else (tree.entries.find? fun entry => entry.1 == location).map (·.2)

/-- Whether there is a directory at a location. -/
def isDirectoryAt (tree : FileTree) (location : Location) : Bool :=
  tree.entry? location == some .directory

/-- Follows one segment from a location, which must hold a directory. -/
def follow (tree : FileTree) (location : Location) (segment : PathSegment) :
    Except FileError Location :=
  if tree.isDirectoryAt location then
    match segment with
    | .here => .ok location
    | .up => .ok location.dropLast
    | .name name =>
      if Path.nameLimit < name.utf8ByteSize then .error .nameTooLong
      else if (tree.entry? (location ++ [name])).isSome then .ok (location ++ [name])
      else .error .notFound
  else .error .notDirectory

/-- The location at which a path starts. -/
def start (tree : FileTree) (path : Path) : Location :=
  if path.isAbsolute then [] else tree.workingDirectory

/-- Follows segments from the start of a path. -/
def walk (tree : FileTree) (path : Path) (segments : List PathSegment) :
    Except FileError Location :=
  segments.foldlM tree.follow (tree.start path)

/-- The location to which a path leads, if there is anything. -/
def resolve (tree : FileTree) (path : Path) : Except FileError Location := do
  path.check
  let location ← tree.walk path path.segments
  if path.endsInSlash && !tree.isDirectoryAt location then .error .notDirectory else .ok location

/-- What a path leads to. -/
def lookup (tree : FileTree) (path : Path) : Except FileError FileEntry := do
  match tree.entry? (← tree.resolve path) with
  | some entry => .ok entry
  | none => .error .notFound

/-- Whether a path leads to a file. -/
def isFile (tree : FileTree) (path : Path) : Bool :=
  match tree.lookup path with
  | .ok (.file _) => true
  | _ => false

/-- Whether a path leads to a directory. -/
def isDirectory (tree : FileTree) (path : Path) : Bool :=
  match tree.lookup path with
  | .ok .directory => true
  | _ => false

/-- The content of a file. -/
def readFile (tree : FileTree) (path : Path) : Except FileError Bytes := do
  match ← tree.lookup path with
  | .file content => .ok content
  | .directory => .error .isDirectory

/-- The content of a file as text. -/
def readText (tree : FileTree) (path : Path) : Except FileError String := do
  match (← tree.readFile path).text? with
  | some text => .ok text
  | none => .error .malformedText

/-- The name that a location has in a directory, if it is directly in it. -/
def nameIn? (directory location : Location) : Option String :=
  match location.getLast? with
  | some name => if location.dropLast = directory then some name else none
  | none => none

/-- The names that a directory lists. -/
def list (tree : FileTree) (path : Path) : Except FileError (List String) := do
  let location ← tree.resolve path
  if tree.isDirectoryAt location then
    .ok (tree.entries.filterMap fun entry => nameIn? location entry.1)
  else .error .notDirectory

/-- All that is below a location, with the names on the way from it. -/
def below (tree : FileTree) (location : Location) : List (Location × FileEntry) :=
  tree.entries.filterMap fun entry =>
    if location.isPrefixOf entry.1 && entry.1 != location then
      some (entry.1.drop location.length, entry.2)
    else none

end FileTree

end LaunchReplay
