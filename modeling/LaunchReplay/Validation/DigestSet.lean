import LaunchReplay.Capture.Artifact
import LaunchReplay.Digest.Basic
import LaunchReplay.Validation.Error

/-!
# Digest sets

The digests of one side of a comparison by position. The files of both output kinds are taken
together, and a position that occurs twice is refused.
-/

namespace LaunchReplay

/-- The digest of one output file. -/
structure DigestEntry where
  /-- The file. -/
  path : Path
  /-- Kind of output file. -/
  kind : OutputKind
  /-- Digest of the content. -/
  digest : Digest
deriving DecidableEq

/-- Digests by position. -/
abbrev DigestSet := PositionMap DigestEntry

namespace DigestSet

/-- Adds the digest of a file at a position that must be free. -/
def add (tree : FileTree) (kind : OutputKind) (set : DigestSet) (file : Nat × Path) :
    Except ValidationError DigestSet := do
  let content ← (tree.readFile file.2).mapError (.digest file.2)
  match set.get? file.1 with
  | some first => .error (.capture (.duplicate file.1 first.path file.2))
  | none => .ok (set.insert file.1 ⟨file.2, kind, .ofContent content⟩)

/-- Adds the digests of the files in a directory that fit a pattern. -/
def addFiles (tree : FileTree) (directory : Path) (pattern : OutputKind → FilePattern)
    (set : DigestSet) (kind : OutputKind) : Except ValidationError DigestSet := do
  let files ← (Artifact.scan tree directory (pattern kind)).mapError .capture
  files.entries.foldlM (add tree kind) set

/-- The digests of the files in a directory that fit a pattern for either kind. -/
def scan (tree : FileTree) (directory : Path) (pattern : OutputKind → FilePattern) :
    Except ValidationError DigestSet :=
  [OutputKind.buffer, .image].foldlM (addFiles tree directory pattern) .empty

/-- The digests of replayed outputs. -/
def replayed (tree : FileTree) (directory : Path) (enqueue : Enqueue) :
    Except ValidationError DigestSet :=
  scan tree directory (.test enqueue)

/-- The digests of captured outputs. -/
def captured (tree : FileTree) (directory : Path) (enqueue : Enqueue) :
    Except ValidationError DigestSet :=
  scan tree directory (.post enqueue)

end DigestSet

end LaunchReplay
