import LaunchReplay.Capture.Artifact
import LaunchReplay.Text.Lines

/-!
# Argument types

An optional file names the data types of the arguments, one line per position. Only the tokens of a
line matter, and a blank line names no type.
-/

namespace LaunchReplay

open Text

/-- The tokens of the lines about argument types. -/
structure ArgumentTypes where
  /-- Tokens by position. -/
  words : List (List (List Char))
deriving DecidableEq, Repr

namespace ArgumentTypes

/-- The argument types in a text. -/
def parse (text : String) : ArgumentTypes :=
  ⟨(lines text.toList).map tokens⟩

/-- The type of the argument at a position. -/
def get? (types : ArgumentTypes) (position : Nat) : Option String :=
  match types.words[position]? with
  | none | some [] => none
  | some tokens => some (String.intercalate " " (tokens.map String.ofList))

/-- Reads the argument types from a file that may be missing. -/
def read (tree : FileTree) (path : Path) : Except CaptureError (Option ArgumentTypes) :=
  match Artifact.text tree path with
  | .ok text => .ok (some (parse text))
  | .error (.missing _) => .ok none
  | .error error => .error error

end ArgumentTypes

end LaunchReplay
