/-!
# Numerals

Natural numbers written in base ten or sixteen. Reading refuses a numeral that denotes a number
outside its range, however many leading zeros it has.
-/

namespace LaunchReplay.Text

/-- The number of distinct 32-bit words. -/
def word32 : Nat := 0x100000000

/-- The number of distinct 64-bit words. -/
def word64 : Nat := 0x10000000000000000

/-- The value of a digit in a base up to sixteen, with letters of either case. -/
def digit? (base : Nat) (letter : Char) : Option Nat :=
  let code := letter.toNat
  let value :=
    if 48 ≤ code ∧ code ≤ 57 then code - 48
    else if 97 ≤ code ∧ code ≤ 102 then code - 87
    else if 65 ≤ code ∧ code ≤ 70 then code - 55
    else base
  if value < base then some value else none

/-- The number denoted by a list of digits, most significant first. -/
def numeralValue (base : Nat) (digits : List Nat) : Nat :=
  digits.foldl (fun value digit => value * base + digit) 0

/-- Reads a numeral of one or more digits that denotes a number below the bound. -/
def natural? (base bound : Nat) (numeral : List Char) : Option Nat :=
  if numeral.isEmpty then none
  else
    match numeral.mapM (digit? base) with
    | none => none
    | some digits =>
      let value := numeralValue base digits
      if value < bound then some value else none

/-- The decimal numeral of a number. -/
def decimal (number : Nat) : String := toString number

/-- The hexadecimal numeral of a number, with capital letters. -/
def hexadecimal (number : Nat) : String :=
  String.ofList ((Nat.toDigits 16 number).map Char.toUpper)

/-- The hexadecimal numeral of a number, with small letters. -/
def hexadecimalSmall (number : Nat) : String :=
  String.ofList (Nat.toDigits 16 number)

/-- The decimal numeral of a number, filled up with zeros to a least width. -/
def decimalPadded (width number : Nat) : String :=
  let numeral := Nat.toDigits 10 number
  String.ofList (List.replicate (width - numeral.length) '0' ++ numeral)

/-- A list of numbers in brackets, separated by commas and spaces. -/
def decimalList (numbers : List Nat) : String :=
  "[" ++ String.intercalate ", " (numbers.map decimal) ++ "]"

end LaunchReplay.Text
