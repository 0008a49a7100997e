import LaunchReplay.Text.DecimalDigit
import LaunchReplay.Text.Numeral

/-!
# Positions in file names

The position of an argument is embedded in the name of its file: the digits directly after the
first marker that has any, or else the first run of digits. Names of outputs carry the enqueue
index before the position, so there the marker decides. A run that is no 32-bit ASCII numeral
embeds no position, and never makes way for a later run.
-/

namespace LaunchReplay.Naming

open Text

/-- The text that marks the position in a file name. -/
def positionMarker : List Char := "_Arg_".toList

/-- The digits at the start of a text. -/
def leadingDigits (text : List Char) : List Char :=
  text.takeWhile isDecimalDigit

/-- The first run of digits in a text, empty if there is none. -/
def firstDigits (text : List Char) : List Char :=
  leadingDigits (text.dropWhile fun letter => !isDecimalDigit letter)

/-- The digits at the start of a text that follow a marker there, empty if there are none. -/
def digitsAfterMarker (text : List Char) : List Char :=
  if positionMarker.isPrefixOf text then leadingDigits (text.drop positionMarker.length) else []

/-- The digits after the first marker that has any, empty if none has. -/
def markedDigits : List Char → List Char
  | [] => []
  | letter :: rest =>
    match digitsAfterMarker (letter :: rest) with
    | [] => markedDigits rest
    | digits => digits

/-- The position that a run of digits denotes. -/
def positionOfDigits? (digits : List Char) : Option Nat :=
  natural? 10 word32 digits

/-- The run of digits that embeds the position in a file name, empty if there is none. -/
def positionDigits (name : List Char) : List Char :=
  match markedDigits name with
  | [] => firstDigits name
  | digits => digits

/-- The argument position embedded in a file name. -/
def position? (name : String) : Option Nat :=
  positionOfDigits? (positionDigits name.toList)

/-- What candidate files are ordered by: the first number in the name, then the name. -/
structure DiscoveryKey where
  /-- The number of the first run of digits, if it denotes one. -/
  number : Option Nat
  /-- The name of the file. -/
  name : String
deriving DecidableEq, Repr

namespace DiscoveryKey

/-- The key of a file name. -/
def ofName (name : String) : DiscoveryKey :=
  ⟨positionOfDigits? (firstDigits name.toList), name⟩

/-- Whether one key comes before another or is the same; names without a number come first. -/
def precedes (left right : DiscoveryKey) : Bool :=
  match left.number, right.number with
  | none, none => !decide (right.name < left.name)
  | none, some _ => true
  | some _, none => false
  | some first, some second =>
    decide (first < second) || (first == second && !decide (right.name < left.name))

end DiscoveryKey

end LaunchReplay.Naming
