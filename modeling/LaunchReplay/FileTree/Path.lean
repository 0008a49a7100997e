import LaunchReplay.FileTree.Error

/-!
# Paths

A path is kept as it was written, since messages show it so. What it leads to is decided by its
segments, the parts between slashes that are not empty.
-/

namespace LaunchReplay

/-- One part of a path. -/
inductive PathSegment
  /-- A dot, which stays in the directory. -/
  | here
  /-- Two dots, which lead to the directory above. -/
  | up
  /-- A name in the directory. -/
  | name (name : String)
deriving DecidableEq, Repr

/-- A path as it was written. -/
structure Path where
  /-- The text of the path. -/
  text : String
deriving DecidableEq, Repr

namespace Path

/-- The parts between slashes, empty ones included. -/
def splitSlashes : List Char → List (List Char)
  | [] => [[]]
  | letter :: rest =>
    if letter = '/' then [] :: splitSlashes rest
    else
      match splitSlashes rest with
      | [] => [[letter]]
      | part :: parts => (letter :: part) :: parts

/-- What a part of a path stands for, if it is not empty. -/
def segment? : List Char → Option PathSegment
  | [] => none
  | ['.'] => some .here
  | ['.', '.'] => some .up
  | part => some (.name (String.ofList part))

/-- The segments of a path. -/
def segments (path : Path) : List PathSegment :=
  (splitSlashes path.text.toList).filterMap segment?

/-- Whether the path starts at the root of all directories. -/
def isAbsolute (path : Path) : Bool :=
  path.text.toList.head? == some '/'

/-- Whether the path ends in a slash, and so leads to a directory if to anything. -/
def endsInSlash (path : Path) : Bool :=
  path.text.toList.getLast? == some '/'

/-- A path that is followed from another; an absolute one stands for itself. -/
def join (base relative : Path) : Path :=
  if relative.isAbsolute || base.text.isEmpty then relative
  else if base.endsInSlash then ⟨base.text ++ relative.text⟩
  else ⟨base.text ++ "/" ++ relative.text⟩

/-- The path of a name in a directory. -/
def child (directory : Path) (name : String) : Path :=
  directory.join ⟨name⟩

/-- The text of a segment. -/
def segmentText : PathSegment → String
  | .here => "."
  | .up => ".."
  | .name name => name

/-- The path of some segments, from the root or not. -/
def ofSegments (absolute : Bool) (segments : List PathSegment) : Path :=
  ⟨(if absolute then "/" else "") ++ String.intercalate "/" (segments.map segmentText)⟩

/-- Segments without dots at their end. -/
def dropDots (segments : List PathSegment) : List PathSegment :=
  (segments.reverse.dropWhile (· == .here)).reverse

/-- The directories above a path, the nearest first and the start of the path left out. -/
def above (path : Path) : List Path :=
  let segments := (dropDots path.segments).dropLast
  let heads := (List.range segments.length).reverse.map fun last => segments.take (last + 1)
  (heads.filter fun head => head.getLast? != some .here).map (ofSegments path.isAbsolute)

/-- The largest number of bytes of a name. -/
def nameLimit : Nat := 255

/-- The least number of bytes of a path that is too long. -/
def pathLimit : Nat := 4096

/-- Refuses a path that leads nowhere whatever directories there are. -/
def check (path : Path) : Except FileError Unit :=
  if path.text.toList.contains '\x00' then .error .nullCharacter
  else if path.text.isEmpty then .error .notFound
  else if pathLimit ≤ path.text.utf8ByteSize then .error .nameTooLong
  else .ok ()

end Path

end LaunchReplay
