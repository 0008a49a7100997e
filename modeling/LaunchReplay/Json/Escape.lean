import LaunchReplay.Text.Numeral

/-!
# Escapes in JSON strings

Quotes, backslashes and control characters are written with a backslash, all other characters as
they are. Reading accepts an escape for any character, and a character beyond the first plane as a
pair of surrogates; a surrogate without its partner stands for nothing.
-/

namespace LaunchReplay.Json

open Text

/-- The letters of the short escapes with the characters that they stand for. -/
def shortEscapes : List (Char × Char) :=
  [('"', '"'), ('\\', '\\'), ('/', '/'), ('b', '\x08'), ('f', '\x0c'), ('n', '\n'), ('r', '\r'),
   ('t', '\t')]

/-- How a character is written inside a string. -/
def escapeCharacter (letter : Char) : List Char :=
  match letter with
  | '"' => ['\\', '"']
  | '\\' => ['\\', '\\']
  | '\x08' => ['\\', 'b']
  | '\x0c' => ['\\', 'f']
  | '\n' => ['\\', 'n']
  | '\r' => ['\\', 'r']
  | '\t' => ['\\', 't']
  | letter =>
    let code := letter.toNat
    if code < 32 then
      ['\\', 'u', '0', '0', Nat.digitChar (code / 16), Nat.digitChar (code % 16)]
    else [letter]

/-- How a text is written inside a string. -/
def escape (text : List Char) : List Char :=
  text.flatMap escapeCharacter

/-- The code unit denoted by four hexadecimal digits. -/
def codeUnit? (first second third fourth : Char) : Option Nat :=
  natural? 16 0x10000 [first, second, third, fourth]

/-- Whether a code unit is the first half of a pair. -/
def isLeading (unit : Nat) : Bool :=
  0xD800 ≤ unit && unit < 0xDC00

/-- Whether a code unit is the second half of a pair. -/
def isTrailing (unit : Nat) : Bool :=
  0xDC00 ≤ unit && unit < 0xE000

/-- The character that a pair of code units stands for. -/
def pairCharacter (leading trailing : Nat) : Char :=
  Char.ofNat (0x10000 + (leading - 0xD800) * 0x400 + (trailing - 0xDC00))

/-- Undoes escapes, after the characters that have been read so far, the last of them first. -/
def unescapeAfter (done : List Char) : List Char → Option (List Char)
  | [] => some done.reverse
  | '\\' :: 'u' :: a :: b :: c :: d :: rest =>
    match codeUnit? a b c d with
    | none => none
    | some unit =>
      if isTrailing unit then none
      else if isLeading unit then
        match rest with
        | '\\' :: 'u' :: a' :: b' :: c' :: d' :: rest =>
          match codeUnit? a' b' c' d' with
          | none => none
          | some second =>
            if isTrailing second then unescapeAfter (pairCharacter unit second :: done) rest
            else none
        | _ => none
      else unescapeAfter (Char.ofNat unit :: done) rest
  | '\\' :: letter :: rest =>
    match shortEscapes.lookup letter with
    | some character => unescapeAfter (character :: done) rest
    | none => none
  | letter :: rest => unescapeAfter (letter :: done) rest

/-- The text that is written inside a string, if its escapes stand for characters. -/
def unescape? (written : List Char) : Option (List Char) :=
  unescapeAfter [] written

end LaunchReplay.Json
