import LaunchReplay.Text.Bytes

/-!
# Programs

The forms in which the program of a captured kernel is preserved: source text, a portable
intermediate form, or binaries for particular devices, of which any may turn out to be usable.
-/

namespace LaunchReplay

/-- The three forms of a program. -/
inductive ProgramTier
  /-- Source text. -/
  | source
  /-- The portable intermediate form. -/
  | intermediate
  /-- A binary for one device. -/
  | binary
deriving DecidableEq, Repr

namespace ProgramTier

/-- The name of a form in messages and reports. -/
def label : ProgramTier → String
  | source => "source"
  | intermediate => "il"
  | binary => "binary"

end ProgramTier

/-- Bytes with the name of the file that held them. -/
structure NamedBlob where
  /-- Name of the file. -/
  name : String
  /-- Content of the file. -/
  bytes : Bytes
deriving DecidableEq, Repr

/-- The program of a capture. -/
inductive Program
  /-- Source text. -/
  | source (text : String)
  /-- The portable intermediate form. -/
  | intermediate (bytes : Bytes)
  /-- Binaries, in the order in which they are tried. -/
  | binaries (candidates : List NamedBlob)
deriving DecidableEq, Repr

namespace Program

/-- The form of a program. -/
def tier : Program → ProgramTier
  | source _ => .source
  | intermediate _ => .intermediate
  | binaries _ => .binary

end Program

/-- What one build is given. -/
inductive ProgramImage
  /-- Source text. -/
  | source (text : String)
  /-- The portable intermediate form. -/
  | intermediate (bytes : Bytes)
  /-- A binary for one device. -/
  | binary (bytes : Bytes)
deriving DecidableEq, Repr

namespace ProgramImage

/-- The form of what is built. -/
def tier : ProgramImage → ProgramTier
  | source _ => .source
  | intermediate _ => .intermediate
  | binary _ => .binary

end ProgramImage

end LaunchReplay
