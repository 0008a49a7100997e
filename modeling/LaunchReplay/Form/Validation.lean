import LaunchReplay.Form.Capture
import LaunchReplay.Json.Printer
import LaunchReplay.Validation.Compare

/-!
# JSON forms of validations

Configurations, checks, verdicts and reports. A report is printed with indentation.
-/

namespace LaunchReplay

open Text

instance : JsonForm ValidationConfig where
  toJson config :=
    .record [("test_dir", toJson config.testDirectory),
      ("post_dir", toJson config.postDirectory)]
  ofJson? json := do
    let fields ← json.record? ["test_dir", "post_dir"]
    some ⟨← fields.required "test_dir" ofJson?, ← fields.required "post_dir" ofJson?⟩

instance : JsonForm Verdict where
  toJson
    | .allEqual => .text "AllEqual"
    | .mismatch => .text "Mismatch"
  ofJson? := Json.alternative? [("AllEqual", .allEqual), ("Mismatch", .mismatch)]

instance : JsonForm PositionCheck where
  toJson check :=
    .record [("position", .natural check.position), ("replayed", toJson check.replayed),
      ("captured", toJson check.captured), ("equal", toJson check.equal),
      ("data_type", toJson check.dataType)]
  ofJson? json := do
    let fields ← json.record? ["position", "replayed", "captured", "equal", "data_type"]
    some
      { position := ← fields.required "position" (Json.natural? word32)
        replayed := ← fields.optional "replayed" ofJson?
        captured := ← fields.optional "captured" ofJson?
        equal := ← fields.required "equal" ofJson?
        dataType := ← fields.optional "data_type" ofJson? }

instance : JsonForm ValidationReport where
  toJson report :=
    .record [("enqueue", toJson report.enqueue), ("checks", toJson report.checks),
      ("verdict", toJson report.verdict), ("notices", Notice.logForm report.notices)]
  ofJson? json := do
    let fields ← json.record? ["enqueue", "checks", "verdict", "notices"]
    some
      { enqueue := ← fields.required "enqueue" ofJson?
        checks := ← fields.required "checks" ofJson?
        verdict := ← fields.required "verdict" ofJson?
        notices := ← fields.required "notices" Notice.readLog? }

namespace ValidationReport

/-- The JSON text of a report. -/
def jsonText (report : ValidationReport) : String :=
  (toJson report).indentedText

end ValidationReport

end LaunchReplay
