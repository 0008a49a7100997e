import LaunchReplay.Form.Basic
import LaunchReplay.Notice

/-!
# JSON forms of notices
-/

namespace LaunchReplay

open Text

namespace Notice

/-- What a notice about positions holds. -/
def positionsForm (positions : List Nat) : Json :=
  .record [("positions", .naturals positions)]

/-- The positions that a notice holds. -/
def readPositions? (json : Json) : Option (List Nat) := do
  (← json.record? ["positions"]).required "positions" (Json.naturals? word32)

end Notice

instance : JsonForm Notice where
  toJson
    | .aliasGroup positions => .variant "AliasGroup" (Notice.positionsForm positions)
    | .svmForced positions => .variant "SvmForced" (Notice.positionsForm positions)
    | .imageTypeFallback position code =>
      .variant "ImageTypeFallback"
        (.record [("position", .natural position), ("code", .natural code)])
    | .binaryRejected candidate reason =>
      .variant "BinaryRejected"
        (.record [("candidate", toJson candidate), ("reason", toJson reason)])
    | .optionalMetadataAbsent artifact =>
      .variant "OptionalMetadataAbsent" (.record [("artifact", toJson artifact)])
    | .validationMismatch position dataType =>
      .variant "ValidationMismatch"
        (.record [("position", .natural position), ("data_type", toJson dataType)])
  ofJson? json := do
    match ← json.variant? with
    | ("AliasGroup", some payload) => (Notice.readPositions? payload).map .aliasGroup
    | ("SvmForced", some payload) => (Notice.readPositions? payload).map .svmForced
    | ("ImageTypeFallback", some payload) =>
      let fields ← payload.record? ["position", "code"]
      some (.imageTypeFallback (← fields.required "position" (Json.natural? word32))
        (← fields.required "code" (Json.natural? word32)))
    | ("BinaryRejected", some payload) =>
      let fields ← payload.record? ["candidate", "reason"]
      some (.binaryRejected (← fields.required "candidate" ofJson?)
        (← fields.required "reason" ofJson?))
    | ("OptionalMetadataAbsent", some payload) =>
      let fields ← payload.record? ["artifact"]
      some (.optionalMetadataAbsent (← fields.required "artifact" ofJson?))
    | ("ValidationMismatch", some payload) =>
      let fields ← payload.record? ["position", "data_type"]
      some (.validationMismatch (← fields.required "position" (Json.natural? word32))
        (← fields.optional "data_type" ofJson?))
    | _ => none

namespace Notice

/-- The form of all notices of a run. -/
def logForm (notices : List Notice) : Json :=
  .record [("notices", toJson notices)]

/-- All notices of a run. -/
def readLog? (json : Json) : Option (List Notice) := do
  (← json.record? ["notices"]).required "notices" ofJson?

end Notice

end LaunchReplay
