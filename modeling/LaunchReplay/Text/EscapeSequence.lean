/-!
# Escape sequences

A text for a terminal may hold escape sequences, for colours among other things. A sequence begins
with an escape character and ends with the first ASCII letter after it. Plain text is what is left
without them.
-/

namespace LaunchReplay.Text

/-- The plain text of a text that begins inside or outside a sequence. -/
def plainFrom (inside : Bool) : List Char → List Char
  | [] => []
  | letter :: rest =>
    if inside then plainFrom (!letter.isAlpha) rest
    else if letter = '\x1b' then plainFrom true rest
    else letter :: plainFrom false rest

/-- The text without its escape sequences. A sequence that does not end takes the rest. -/
def withoutEscapeSequences (text : List Char) : List Char :=
  plainFrom false text

end LaunchReplay.Text
