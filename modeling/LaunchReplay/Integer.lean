import LaunchReplay.DecodeError
import LaunchReplay.Text.Lines

/-!
# Integer fields

Every integer of a capture is an unsigned number in decimal, or in hexadecimal after `0x`, with
white space around it.
-/

namespace LaunchReplay.Integer

open Text

/-- A numeral without one leading plus sign. -/
def dropPlus : List Char → List Char
  | '+' :: rest => rest
  | numeral => numeral

/-- Reads a trimmed integer: hexadecimal digits after `0x` or `0X`, or else decimal digits. -/
def ofTrimmed? : List Char → Option Nat
  | '0' :: 'x' :: rest => natural? 16 word64 (dropPlus rest)
  | '0' :: 'X' :: rest => natural? 16 word64 (dropPlus rest)
  | numeral => natural? 10 word64 (dropPlus numeral)

/-- Reads the 64-bit integer of a named field. -/
def parse (field : String) (text : List Char) : Except DecodeError Nat :=
  let trimmed := trim text
  match ofTrimmed? trimmed with
  | some value => .ok value
  | none => .error (.invalidInteger field (String.ofList trimmed))

/-- Reads the 32-bit integer of a named field. -/
def parseCode (field : String) (text : List Char) : Except DecodeError Nat := do
  let value ← parse field text
  if value < word32 then .ok value else .error (.invalidInteger field (decimal value))

end LaunchReplay.Integer
