import LaunchReplay.Json.Basic

/-!
# Reading JSON

A reader for the whole syntax of JSON. A text is one value with blanks around it; there may be
blanks between any two tokens.
-/

namespace LaunchReplay.Json

open Text

/-- Whether a character is a blank of JSON. -/
def isSpace (letter : Char) : Bool :=
  letter == ' ' || letter == '\n' || letter == '\r' || letter == '\t'

/-- A text without the blanks before it. -/
def skipSpace (text : List Char) : List Char :=
  text.dropWhile isSpace

/-- Whether a character is a hexadecimal digit. -/
def isHexDigit (letter : Char) : Bool :=
  (digit? 16 letter).isSome

/-- Whether a letter makes a short escape. -/
def isShortEscape (letter : Char) : Bool :=
  (shortEscapes.lookup letter).isSome

/-- What is written up to the closing quote of a string, after what has been read so far, the last
of it first. -/
def readString (done : List Char) : List Char → Option (List Char × List Char)
  | [] => none
  | '"' :: rest => some (done.reverse, rest)
  | '\\' :: 'u' :: a :: b :: c :: d :: rest =>
    if isHexDigit a && isHexDigit b && isHexDigit c && isHexDigit d then
      readString (d :: c :: b :: a :: 'u' :: '\\' :: done) rest
    else none
  | '\\' :: letter :: rest =>
    if isShortEscape letter then readString (letter :: '\\' :: done) rest else none
  | letter :: rest =>
    if letter.toNat < 32 then none else readString (letter :: done) rest

/-- Whether a character is a decimal digit. -/
def isDigit (letter : Char) : Bool :=
  (digit? 10 letter).isSome

/-- One or more digits at the start of a text. -/
def readDigits (text : List Char) : Option (List Char × List Char) :=
  match text.takeWhile isDigit with
  | [] => none
  | digits => some (digits, text.dropWhile isDigit)

/-- The whole part of a number, which has no superfluous zero. -/
def readWhole : List Char → Option (List Char × List Char)
  | '0' :: rest => some (['0'], rest)
  | text => readDigits text

/-- The fraction of a number, if there is one. -/
def readFraction : List Char → Option (List Char × List Char)
  | '.' :: rest => (readDigits rest).map fun (digits, rest) => ('.' :: digits, rest)
  | text => some ([], text)

/-- The digits of an exponent with their sign. -/
def readExponentDigits : List Char → Option (List Char × List Char)
  | '+' :: rest => (readDigits rest).map fun (digits, rest) => ('+' :: digits, rest)
  | '-' :: rest => (readDigits rest).map fun (digits, rest) => ('-' :: digits, rest)
  | text => readDigits text

/-- The exponent of a number, if there is one. -/
def readExponent : List Char → Option (List Char × List Char)
  | 'e' :: rest => (readExponentDigits rest).map fun (digits, rest) => ('e' :: digits, rest)
  | 'E' :: rest => (readExponentDigits rest).map fun (digits, rest) => ('E' :: digits, rest)
  | text => some ([], text)

/-- A number without its sign. -/
def readUnsigned (text : List Char) : Option (List Char × List Char) := do
  let (whole, rest) ← readWhole text
  let (fraction, rest) ← readFraction rest
  let (exponent, rest) ← readExponent rest
  some (whole ++ fraction ++ exponent, rest)

/-- A number. -/
def readNumber : List Char → Option (List Char × List Char)
  | '-' :: rest => (readUnsigned rest).map fun (literal, rest) => ('-' :: literal, rest)
  | text => readUnsigned text

mutual

/-- A value at the start of a text, with the rest of the text. -/
def readValue : Nat → List Char → Option (Json × List Char)
  | 0, _ => none
  | fuel + 1, text =>
    match skipSpace text with
    | 'n' :: 'u' :: 'l' :: 'l' :: rest => some (.null, rest)
    | 't' :: 'r' :: 'u' :: 'e' :: rest => some (.bool true, rest)
    | 'f' :: 'a' :: 'l' :: 's' :: 'e' :: rest => some (.bool false, rest)
    | '"' :: rest => (readString [] rest).map fun (written, rest) => (.string written, rest)
    | '[' :: rest =>
      match skipSpace rest with
      | ']' :: rest => some (.array [], rest)
      | rest => (readItems fuel rest).map fun (items, rest) => (.array items, rest)
    | '\x7b' :: rest =>
      match skipSpace rest with
      | '\x7d' :: rest => some (.object [], rest)
      | rest => (readMembers fuel rest).map fun (members, rest) => (.object members, rest)
    | rest => (readNumber rest).map fun (literal, rest) => (.number literal, rest)

/-- One or more items up to the end of an array. -/
def readItems : Nat → List Char → Option (List Json × List Char)
  | 0, _ => none
  | fuel + 1, text =>
    match readValue fuel text with
    | none => none
    | some (item, rest) =>
      match skipSpace rest with
      | ',' :: rest => (readItems fuel rest).map fun (items, rest) => (item :: items, rest)
      | ']' :: rest => some ([item], rest)
      | _ => none

/-- One or more members up to the end of an object. -/
def readMembers : Nat → List Char → Option (List (List Char × Json) × List Char)
  | 0, _ => none
  | fuel + 1, text =>
    match skipSpace text with
    | '"' :: rest =>
      match readString [] rest with
      | none => none
      | some (key, rest) =>
        match skipSpace rest with
        | ':' :: rest =>
          match readValue fuel rest with
          | none => none
          | some (value, rest) =>
            match skipSpace rest with
            | ',' :: rest =>
              (readMembers fuel rest).map fun (members, rest) => ((key, value) :: members, rest)
            | '\x7d' :: rest => some ([(key, value)], rest)
            | _ => none
        | _ => none
    | _ => none

end

/-- The value that a text denotes. Every step takes a character or goes into a part that starts
with one, so twice the length of the text bounds the number of nested steps. -/
def read (text : String) : Option Json :=
  match readValue (2 * text.toList.length + 2) text.toList with
  | some (json, rest) => if (skipSpace rest).isEmpty then some json else none
  | none => none

end LaunchReplay.Json
