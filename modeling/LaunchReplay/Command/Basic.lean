import LaunchReplay.Command.Arguments
import LaunchReplay.Naming.Artifact

/-!
# Commands

What the command line asks for. The first argument may name a command; otherwise the arguments are
those of a run.
-/

namespace LaunchReplay

open Text

/-- The device on which a capture is replayed. -/
inductive Backend
  /-- The simulated device, on which kernels do nothing. -/
  | simulator
  /-- A hardware device, which is not supported. -/
  | hardware
deriving DecidableEq, Repr

/-- What a run is asked to do. -/
structure RunRequest where
  /-- Capture directory. -/
  root : Path
  /-- Number of launches. -/
  repetitions : Nat
  /-- Whether to validate outputs that are already there. -/
  skipReplay : Bool
  /-- Whether to validate the outputs of the replay. -/
  validate : Bool
  /-- Whether buffers are bound as shared memory whatever offsets are recorded. -/
  forceSvm : Bool
  /-- The device. -/
  backend : Backend
  /-- Directory of replayed outputs, from the capture directory. -/
  testDirectory : Path
  /-- Directory of captured outputs, from the capture directory. -/
  postDirectory : Path
  /-- Whether the report is printed in JSON. -/
  json : Bool
deriving DecidableEq, Repr

/-- What the command line asks for. -/
inductive Command
  /-- Replays a capture, and perhaps validates the outputs. -/
  | run (request : RunRequest)
  /-- Validates outputs that are already there. -/
  | validate (root testDirectory postDirectory : Path) (json : Bool)
  /-- Shows what would be replayed. -/
  | inspect (root : Path)
  /-- Lists devices. -/
  | devices
deriving DecidableEq, Repr

namespace Command

/-- The value of a setting, or a default. -/
def settingOr (given : GivenArguments) (setting : CommandSetting) (default : String) : String :=
  (given.value? setting).getD default

/-- A path, which must not be empty. -/
def path? (text : String) : Option Path :=
  if text.isEmpty then none else some ⟨text⟩

/-- The capture directory: a word or a setting, but not both, and by default the working
directory. -/
def root? (given : GivenArguments) : Option Path :=
  match given.words, given.value? .directory with
  | [], directory => path? (directory.getD ".")
  | [word], none => path? word
  | _, _ => none

/-- A positive 32-bit number, perhaps with a plus sign. -/
def repetitions? (text : String) : Option Nat :=
  let digits :=
    match text.toList with
    | '+' :: digits => digits
    | digits => digits
  (natural? 10 word32 digits).bind fun number => if number = 0 then none else some number

/-- The device of a name. -/
def backend? (name : String) : Option Backend :=
  [("sim", Backend.simulator), ("opencl", .hardware)].lookup name

/-- Whether all flags and settings that were given are among those of a command. -/
def allows (flags : List CommandFlag) (settings : List CommandSetting) (given : GivenArguments) :
    Bool :=
  given.flags.all (flags.contains ·) && given.settings.all fun setting =>
    settings.contains setting.1

/-- The directory of replayed outputs. -/
def testDirectory? (given : GivenArguments) : Option Path :=
  path? (settingOr given .testDirectory Naming.testDirectory)

/-- The directory of captured outputs. -/
def postDirectory? (given : GivenArguments) : Option Path :=
  path? (settingOr given .postDirectory Naming.postDirectory)

/-- The run that arguments ask for. -/
def run? (given : GivenArguments) : Option Command := do
  some (.run
    { root := ← root? given
      repetitions := ← repetitions? (settingOr given .repetitions "1")
      skipReplay := given.has .skipReplay
      validate := given.has .validate
      forceSvm := given.has .svm
      backend := ← backend? (settingOr given .backend "sim")
      testDirectory := ← testDirectory? given
      postDirectory := ← postDirectory? given
      json := given.has .json })

/-- The validation that arguments ask for. -/
def validate? (given : GivenArguments) : Option Command :=
  if allows [.verbose, .json] [.directory, .testDirectory, .postDirectory] given then do
    some (.validate (← root? given) (← testDirectory? given) (← postDirectory? given)
      (given.has .json))
  else none

/-- The inspection that arguments ask for. -/
def inspect? (given : GivenArguments) : Option Command :=
  if allows [.verbose] [.directory] given then (root? given).map .inspect else none

/-- The list of devices that arguments ask for. -/
def devices? (given : GivenArguments) : Option Command :=
  if allows [.verbose] [] given && given.words.isEmpty then some .devices else none

/-- The commands that can be named. -/
def named : List (String × (GivenArguments → Option Command)) :=
  [("run", run?), ("validate", validate?), ("inspect", inspect?), ("devices", devices?)]

/-- The directories whose files a command reads or writes. -/
def directories : Command → List Path
  | .run request =>
    request.root :: request.root.child Naming.preDirectory ::
      [request.testDirectory, request.postDirectory].map request.root.join
  | .validate root testDirectory postDirectory _ =>
    root :: [testDirectory, postDirectory].map root.join
  | .inspect root => [root, root.child Naming.preDirectory]
  | .devices => []

/-- What a command line asks for, if it is well formed. -/
def parse? (arguments : List String) : Option Command :=
  match arguments with
  | [] => run? .empty
  | first :: rest =>
    match named.lookup first with
    | some build => (GivenArguments.empty.take? rest).bind build
    | none => (GivenArguments.empty.take? (first :: rest)).bind run?

end Command

end LaunchReplay
