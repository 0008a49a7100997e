import LaunchReplay.Capture.Error
import LaunchReplay.Device.Error
import LaunchReplay.Notice
import LaunchReplay.Program
import LaunchReplay.Text.Lines

/-!
# Replay errors

Why a launch could not be replayed, and what came of each device binary that was tried.
-/

namespace LaunchReplay

/-- What came of one device binary. -/
inductive BinaryOutcome
  /-- It was built and has the entry point. -/
  | built
  /-- It could not be built. -/
  | buildFailed (log : String)
  /-- It was built and lacks the entry point. -/
  | entryPointMissing
deriving DecidableEq, Repr

namespace BinaryOutcome

/-- What a device error makes of the binary that was tried. -/
def ofError : DeviceError → BinaryOutcome
  | .entryPointMissing _ => entryPointMissing
  | .buildFailed log => buildFailed log
  | other => buildFailed other.message

end BinaryOutcome

/-- The attempt to use one device binary. -/
structure BinaryAttempt where
  /-- Name of the file. -/
  candidate : String
  /-- What came of it. -/
  outcome : BinaryOutcome
deriving DecidableEq, Repr

namespace BinaryAttempt

/-- The notice about an attempt, if the binary was rejected. -/
def notice? (attempt : BinaryAttempt) : Option Notice :=
  match attempt.outcome with
  | .built => none
  | .buildFailed log =>
    some (.binaryRejected attempt.candidate
      ("build failed: " ++ String.ofList (Text.trim log.toList)))
  | .entryPointMissing => some (.binaryRejected attempt.candidate "entry point not found")

end BinaryAttempt

/-- The causes for which a replay fails. -/
inductive ReplayError
  /-- The capture cannot be read. -/
  | capture (error : CaptureError)
  /-- The device refused a call. -/
  | device (error : DeviceError)
  /-- Source text or the intermediate form could not be built. -/
  | buildFailed (tier : ProgramTier) (log : String)
  /-- No device binary was usable. -/
  | noUsableBinary (attempts : List BinaryAttempt)
  /-- The kernel declares another number of arguments than was captured. -/
  | arityMismatch (declared captured : Nat)
  /-- The launch is to be repeated zero times. -/
  | noRepetitions
  /-- The alias plan leaves an argument without memory. -/
  | noAllocation (kind : ArgumentKind) (position : Nat)
  /-- An output cannot be written. -/
  | output (path : Path) (reason : FileError)
  /-- The alias plan has a group without members, which ends the program. -/
  | emptyGroup
deriving DecidableEq, Repr

namespace ReplayError

open Text

/-- The text of an error about the configuration. -/
private def configurationMessage (reason : String) : String :=
  "Invalid configuration: " ++ reason

/-- The text of a replay error. -/
def message : ReplayError → String
  | capture error => error.message
  | device error => error.message
  | buildFailed tier log => "Building from " ++ tier.label ++ " failed:\n" ++ log
  | noUsableBinary attempts =>
    "No usable device binary among " ++ decimal attempts.length ++ " candidates"
  | arityMismatch declared captured =>
    "Kernel declares " ++ decimal declared ++ " arguments but the capture has " ++
      decimal captured
  | noRepetitions => configurationMessage "repetitions must be at least 1"
  | noAllocation kind position =>
    configurationMessage (kind.label ++ " argument " ++ decimal position ++ " has no allocation")
  | output path reason => "Cannot write " ++ path.text ++ ": " ++ reason.message
  | emptyGroup => "an allocation group has no members"

/-- The error about the only build of a program. -/
def ofBuild (tier : ProgramTier) : DeviceError → ReplayError
  | .buildFailed log => .buildFailed tier log
  | other => .device other

end ReplayError

end LaunchReplay
