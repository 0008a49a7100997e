import LaunchReplay.Text.Blank

/-!
# Lines and tokens

Text artifacts are lists of lines, and most lines are lists of tokens. A line ends at a line feed,
together with one carriage return before it; a text that ends in a line feed has no empty last
line. Tokens are the maximal runs of characters that are not white space.
-/

namespace LaunchReplay.Text

/-- The lines of a text. -/
def lines : List Char → List (List Char)
  | [] => []
  | '\n' :: rest => [] :: lines rest
  | '\r' :: '\n' :: rest => [] :: lines rest
  | letter :: rest =>
    match lines rest with
    | [] => [[letter]]
    | line :: more => (letter :: line) :: more

/-- The first line of a text, empty when the text is. -/
def firstLine (text : List Char) : List Char :=
  (lines text).headD []

/-- The tokens of a line. -/
def tokens : List Char → List (List Char)
  | [] => []
  | letter :: rest =>
    if isBlank letter then tokens rest
    else
      match rest with
      | [] => [[letter]]
      | next :: _ =>
        if isBlank next then [letter] :: tokens rest
        else
          match tokens rest with
          | [] => [[letter]]
          | token :: more => (letter :: token) :: more

/-- A text without the white space before it. -/
def trimStart (text : List Char) : List Char :=
  text.dropWhile isBlank

/-- A text without the white space after it. -/
def trimEnd (text : List Char) : List Char :=
  (text.reverse.dropWhile isBlank).reverse

/-- A text without the white space around it. -/
def trim (text : List Char) : List Char :=
  trimEnd (trimStart text)

/-- A text without one line end at its end, if it has one. -/
def dropFinalLineEnd (text : List Char) : List Char :=
  match text.reverse with
  | '\n' :: '\r' :: rest => rest.reverse
  | '\n' :: rest => rest.reverse
  | _ => text

end LaunchReplay.Text
