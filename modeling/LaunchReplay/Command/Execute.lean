import LaunchReplay.Command.Basic
import LaunchReplay.Command.Outcome
import LaunchReplay.Form.Validation
import LaunchReplay.Replay.Run
import LaunchReplay.Simulator.Basic

/-!
# Executing commands

Commands read a file tree, and a run also writes into it. What is printed is decided only after all
work has succeeded. After a run that validates, the notices of the replay are printed together with
those of the validation and nowhere else.
-/

namespace LaunchReplay.Command

open Text

/-- What a run did. -/
structure RunResult where
  /-- The replay, unless it was skipped. -/
  summary : Option ReplaySummary
  /-- The validation, if it was asked for; its notices follow those of the replay. -/
  report : Option ValidationReport
deriving DecidableEq

/-- The failure of a run on hardware. -/
def noHardware : CommandFailure :=
  .reported [] ["kreplay was built without OpenCL support; use --backend sim"]

/-- Replays a capture as a run asks for. -/
def replay (request : RunRequest) (tree : FileTree) :
    Except CommandFailure ReplaySummary × FileTree :=
  match request.backend with
  | .hardware => (.error noHardware, tree)
  | .simulator =>
    let config : ReplayConfig :=
      { repetitions := request.repetitions
        forceSvm := request.forceSvm
        testDirectory := request.testDirectory }
    match Replay.run config request.root tree (Simulator.new .plain ()) with
    | (.ok summary, written, _) => (.ok summary, written)
    | (.error error, written, _) =>
      (.error (.ofReplay ("Replay of " ++ request.root.text ++ " failed") error), written)

/-- Validates the outputs of a capture. -/
def validateOutputs (root testDirectory postDirectory : Path) (tree : FileTree) :
    Except CommandFailure ValidationReport :=
  (Validation.run ⟨testDirectory, postDirectory⟩ root tree).mapError
    (.ofValidation ("Validation of " ++ root.text ++ " failed"))

/-- The replay of a run, unless it is to be skipped. -/
def replayUnlessSkipped (request : RunRequest) (tree : FileTree) :
    Except CommandFailure (Option ReplaySummary) × FileTree :=
  if request.skipReplay then (.ok none, tree)
  else
    match replay request tree with
    | (.ok summary, written) => (.ok (some summary), written)
    | (.error failure, written) => (.error failure, written)

/-- A report whose notices follow those of a replay. -/
def mergeNotices (summary : Option ReplaySummary) (report : ValidationReport) :
    ValidationReport :=
  { report with notices := (summary.map (·.notices)).getD [] ++ report.notices }

/-- The validation of a run, if it is asked for. -/
def validateIfAsked (request : RunRequest) (summary : Option ReplaySummary) (tree : FileTree) :
    Except CommandFailure (Option ValidationReport) :=
  if request.validate || request.skipReplay then
    (validateOutputs request.root request.testDirectory request.postDirectory tree).map fun report =>
      some (mergeNotices summary report)
  else .ok none

/-- Does what a run asks for. -/
def perform (request : RunRequest) (tree : FileTree) :
    Except CommandFailure RunResult × FileTree :=
  match replayUnlessSkipped request tree with
  | (.error failure, written) => (.error failure, written)
  | (.ok summary, written) =>
    ((validateIfAsked request summary written).map (RunResult.mk summary), written)

/-- The lines of a validation report. -/
def reportLines (json : Bool) (report : ValidationReport) : List String :=
  if json then [report.jsonText]
  else
    report.checks.map PositionCheck.line ++ [""] ++ report.notices.map Notice.message ++
      [report.verdict.message]

/-- The lines about a replay: the first of its summary, then one about the launches and one for each
output. The notices after them are left to the report. -/
def replayLines (summary : ReplaySummary) : List String :=
  match summary.lines with
  | [] => []
  | headline :: rest => headline :: rest.take (1 + summary.outputs.length)

/-- The lines about what a run did. -/
def runLines (json : Bool) (result : RunResult) : List String :=
  let replayed := (result.summary.map replayLines).getD []
  match result.report, result.summary with
  | some report, _ => replayed ++ reportLines json report
  | none, some summary => replayed ++ summary.notices.map Notice.message
  | none, none => replayed

/-- What is shown about an argument besides its kind. -/
def argumentDetail : Argument → String
  | .scalar bytes => decimal bytes.length ++ " bytes"
  | .buffer _ preState => decimal preState.length ++ " bytes"
  | .svm _ preState offset =>
    decimal preState.length ++ " bytes at offset " ++ decimal offset
  | .image descriptor _ => descriptor.describe
  | .sampler descriptor => descriptor.describe
  | .localMemory size => decimal size ++ " bytes"

/-- A text filled up with blanks to a width. -/
def fillTo (width : Nat) (text : String) : String :=
  text ++ String.ofList (List.replicate (width - text.length) ' ')

/-- The line about the argument at a position. -/
def argumentLine (entry : Nat × Argument) : String :=
  "  [" ++ decimal entry.1 ++ "] " ++ fillTo 7 entry.2.kind.label ++ " " ++
    argumentDetail entry.2

/-- The lines about a capture. -/
def captureLines (capture : Capture) : List String :=
  let plan := AliasPlan.resolve capture.arguments
  ["Enqueue " ++ capture.launch.enqueue.describe,
    "Kernel:   " ++ capture.launch.kernelName,
    "Options:  " ++ capture.launch.optionString,
    "Geometry: " ++ capture.launch.geometry.describe,
    "Program:  " ++ capture.program.tier.label,
    "SVM:      " ++ (if capture.svmActive then "true" else "false"),
    "Outputs:  " ++ decimalList capture.outputPositions,
    ""] ++
  capture.arguments.entries.map argumentLine ++
  ["", "Allocations: " ++ decimal (plan.allocationCount)] ++
  (capture.notices ++ plan.notices).map Notice.message

/-- Shows what would be replayed. -/
def inspectCapture (root : Path) (tree : FileTree) : Except CommandFailure (List String) :=
  match Capture.read tree root {} with
  | .ok capture => .ok (captureLines capture)
  | .error error => .error (.ofCapture ("Cannot read capture in " ++ root.text) error)

/-- The lines about devices. -/
def deviceLines : List String :=
  ["OpenCL support not compiled in", "sim: " ++ Simulator.info.describe]

/-- Executes a command on a file tree. -/
def execute (command : Command) (tree : FileTree) : CommandOutcome × FileTree :=
  match command with
  | .run request =>
    match perform request tree with
    | (result, written) => (.ofResult (result.map (runLines request.json)), written)
  | .validate root testDirectory postDirectory json =>
    (.ofResult ((validateOutputs root testDirectory postDirectory tree).map (reportLines json)), tree)
  | .inspect root => (.ofResult (inspectCapture root tree), tree)
  | .devices => (.printed deviceLines, tree)

/-- Executes a command line on a file tree. -/
def executeLine (arguments : List String) (tree : FileTree) : CommandOutcome × FileTree :=
  match parse? arguments with
  | some command => command.execute tree
  | none => (.usage, tree)

end LaunchReplay.Command
