import LaunchReplay.Capture.Error
import LaunchReplay.FileTree.Basic
import LaunchReplay.Naming.Pattern
import LaunchReplay.Naming.Position
import LaunchReplay.PositionMap

/-!
# Artifacts

Finding and reading the files of a capture directory. The files of a group are those of a directory
whose names fit a pattern, ordered by the first number in the name and then by the name, whatever
the order in which the directory lists them.
-/

namespace LaunchReplay.Artifact

/-- The bytes of an artifact. -/
def bytes (tree : FileTree) (path : Path) : Except CaptureError Bytes :=
  (tree.readFile path).mapError (.ofFile path)

/-- The text of an artifact. -/
def text (tree : FileTree) (path : Path) : Except CaptureError String :=
  (tree.readText path).mapError (.ofFile path)

/-- The outcome of decoding an artifact. -/
def decoded {α : Type} (path : Path) (outcome : Except DecodeError α) : Except CaptureError α :=
  outcome.mapError (.ofDecode path)

/-- Orders file names by the first number in them and then by the name. -/
def discoveryOrder (names : List String) : List String :=
  names.mergeSort fun left right =>
    (Naming.DiscoveryKey.ofName left).precedes (Naming.DiscoveryKey.ofName right)

/-- The names of the files in a directory that fit a pattern, in discovery order; a missing
directory has none. -/
def names (tree : FileTree) (directory : Path) (pattern : FilePattern) :
    Except CaptureError (List String) :=
  match tree.list directory with
  | .ok listed =>
    .ok (discoveryOrder
      (listed.filter fun name => tree.isFile (directory.child name) && pattern.fits name))
  | .error .notFound => .ok []
  | .error reason => .error (.ofFile directory reason)

/-- The paths of the files in a directory that fit a pattern, in discovery order. -/
def paths (tree : FileTree) (directory : Path) (pattern : FilePattern) :
    Except CaptureError (List Path) :=
  (names tree directory pattern).map (·.map directory.child)

/-- Adds a file at the position in its name; a second one there is refused, and a name without a
position is passed over. -/
def place (directory : Path) (found : PositionMap Path) (name : String) :
    Except CaptureError (PositionMap Path) :=
  match Naming.position? name with
  | none => .ok found
  | some position =>
    match found.get? position with
    | some first => .error (.duplicate position first (directory.child name))
    | none => .ok (found.insert position (directory.child name))

/-- The files in a directory that fit a pattern, by the positions in their names. -/
def scan (tree : FileTree) (directory : Path) (pattern : FilePattern) :
    Except CaptureError (PositionMap Path) := do
  (← names tree directory pattern).foldlM (place directory) .empty

end LaunchReplay.Artifact
