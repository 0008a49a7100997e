import LaunchReplay.Text.Graphic
import LaunchReplay.Text.Numeral

/-!
# Quoted texts

A text inside double quotes, fit for a one-line message: quotes and backslashes are escaped, the
common controls have short escapes, and every other character that is not graphic is shown by its
code point.
-/

namespace LaunchReplay.Text

/-- How a character is written inside double quotes. -/
def quotedCharacter (letter : Char) : List Char :=
  match letter with
  | '\x00' => ['\\', '0']
  | '\t' => ['\\', 't']
  | '\n' => ['\\', 'n']
  | '\r' => ['\\', 'r']
  | '"' => ['\\', '"']
  | '\\' => ['\\', '\\']
  | letter =>
    if isGraphic letter then [letter]
    else ['\\', 'u', '\x7b'] ++ Nat.toDigits 16 letter.toNat ++ ['\x7d']

/-- A text in double quotes. -/
def quoted (text : String) : String :=
  String.ofList ('"' :: text.toList.flatMap quotedCharacter ++ ['"'])

end LaunchReplay.Text
