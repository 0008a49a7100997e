import LaunchReplay.Replay.Error
import LaunchReplay.Text.EscapeSequence
import LaunchReplay.Text.Lines
import LaunchReplay.Validation.Error

/-!
# Outcomes of commands

What a command prints and with which code it ends. An error is shown with its causes, one numbered
entry each, the outermost first.
-/

namespace LaunchReplay

open Text

/-- What a command leaves behind, apart from files. -/
structure CommandOutcome where
  /-- Exit code. -/
  exitCode : Nat
  /-- Standard output. -/
  output : String
  /-- Standard error as plain text, without white space at its end. -/
  errors : String
deriving DecidableEq, Repr

/-- Why a command failed. -/
inductive CommandFailure
  /-- An error with its causes, the outermost first, after some notices. -/
  | reported (notices : List String) (causes : List String)
  /-- An error that ends the program at once. -/
  | aborted (reason : String)
deriving DecidableEq, Repr

namespace CommandFailure

/-- The causes within a capture error, itself included. -/
def captureCauses (error : CaptureError) : List String :=
  match error with
  | .malformed _ cause => [error.message, cause.message]
  | _ => [error.message]

/-- The failure of reading a capture. -/
def ofCapture (context : String) (error : CaptureError) : CommandFailure :=
  match error with
  | .sizeOverflow => .aborted error.message
  | _ => .reported [] (context :: captureCauses error)

/-- The failure of a replay. -/
def ofReplay (context : String) (error : ReplayError) : CommandFailure :=
  match error with
  | .capture inner => ofCapture context inner
  | .noUsableBinary attempts =>
    .reported ((attempts.filterMap BinaryAttempt.notice?).map Notice.message) [error.message]
  | .emptyGroup => .aborted error.message
  | _ => .reported [] [context, error.message]

/-- The failure of a validation. -/
def ofValidation (context : String) (error : ValidationError) : CommandFailure :=
  match error with
  | .capture inner => ofCapture context inner
  | .digest _ _ => .reported [] [context, error.message]

/-- The lines of a text, the empty one after a last line end included. -/
def allLines : List Char → List (List Char)
  | [] => [[]]
  | letter :: rest =>
    if letter = '\n' then [] :: allLines rest
    else
      match allLines rest with
      | [] => [[letter]]
      | line :: lines => (letter :: line) :: lines

/-- A message in red for a terminal. -/
def inRed (message : List Char) : List Char :=
  "\x1b[91m".toList ++ message ++ "\x1b[0m".toList

/-- A further line of an entry, indented unless it is empty. The last line is never empty: the code
that ends the colour stands on it. -/
def continuation (line : List Char) : List Char :=
  if line.isEmpty then [] else List.replicate 6 ' ' ++ line

/-- The numbered entry of a cause. -/
def entry (number : Nat) (cause : String) : List Char :=
  let numeral := (decimal number).toList
  let label := List.replicate (4 - numeral.length) ' ' ++ numeral ++ [':', ' ']
  match allLines (inRed cause.toList) with
  | [] => label
  | first :: further =>
    label ++ first ++ further.flatMap fun line => '\n' :: continuation line

/-- What is printed about a failure on a terminal. -/
def text : CommandFailure → List Char
  | .reported notices causes =>
    (notices.flatMap fun notice => notice.toList ++ ['\n']) ++ "Error: ".toList ++
      (causes.mapIdx entry).flatMap fun lines => '\n' :: lines
  | .aborted reason => "The application panicked (crashed).\nMessage:  ".toList ++ reason.toList

/-- The exit code of a failure. -/
def exitCode : CommandFailure → Nat
  | .reported _ _ => 1
  | .aborted _ => 101

end CommandFailure

namespace CommandOutcome

/-- The outcome of printing some lines. -/
def printed (lines : List String) : CommandOutcome :=
  ⟨0, String.join (lines.map (· ++ "\n")), ""⟩

/-- The outcome of a failure. -/
def failed (failure : CommandFailure) : CommandOutcome :=
  ⟨failure.exitCode, "", String.ofList (trimEnd (withoutEscapeSequences failure.text))⟩

/-- The outcome of a command that printed some lines or failed. -/
def ofResult : Except CommandFailure (List String) → CommandOutcome
  | .ok lines => printed lines
  | .error failure => failed failure

/-- The outcome of a command line that is not well formed. -/
def usage : CommandOutcome :=
  ⟨2, "", "usage: kreplay [run|validate|inspect|devices] [DIR] [OPTIONS]"⟩

end CommandOutcome

end LaunchReplay
