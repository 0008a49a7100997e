import LaunchReplay.Capture.Arguments
import LaunchReplay.Form.Argument

/-!
# JSON forms of captures

What identifies a launch, its program, and how a capture directory is read.
-/

namespace LaunchReplay

instance : JsonForm Path where
  toJson path := .text path.text
  ofJson? json := json.text?.map Path.mk

instance : JsonForm Launch where
  toJson launch :=
    .record [("enqueue", toJson launch.enqueue), ("kernel_name", toJson launch.kernelName),
      ("build_options", toJson launch.buildOptions), ("geometry", toJson launch.geometry)]
  ofJson? json := do
    let fields ← json.record? ["enqueue", "kernel_name", "build_options", "geometry"]
    some
      { enqueue := ← fields.required "enqueue" ofJson?
        kernelName := ← fields.required "kernel_name" ofJson?
        buildOptions := ← fields.required "build_options" ofJson?
        geometry := ← fields.required "geometry" ofJson? }

instance : JsonForm NamedBlob where
  toJson blob := .record [("name", toJson blob.name), ("bytes", toJson blob.bytes)]
  ofJson? json := do
    let fields ← json.record? ["name", "bytes"]
    some ⟨← fields.required "name" ofJson?, ← fields.required "bytes" ofJson?⟩

instance : JsonForm Program where
  toJson
    | .source text => .variant "Source" (toJson text)
    | .intermediate bytes => .variant "Il" (toJson bytes)
    | .binaries candidates => .variant "Binaries" (toJson candidates)
  ofJson? json := do
    match ← json.variant? with
    | ("Source", some payload) => (ofJson? payload).map .source
    | ("Il", some payload) => (ofJson? payload).map .intermediate
    | ("Binaries", some payload) => (ofJson? payload).map .binaries
    | _ => none

instance : JsonForm ReadOptions where
  toJson options := .record [("force_svm", toJson options.forceSvm)]
  ofJson? json := do
    let fields ← json.record? ["force_svm"]
    some ⟨← fields.required "force_svm" ofJson?⟩

end LaunchReplay
