import LaunchReplay.AliasPlan
import LaunchReplay.Form.Descriptor
import LaunchReplay.Form.Notice

/-!
# JSON forms of arguments

Arguments, tables of them, and alias plans. The positions of a table are the keys of an object.
-/

namespace LaunchReplay

open Text

instance : JsonForm Argument where
  toJson
    | .scalar bytes => .variant "Scalar" (.record [("bytes", toJson bytes)])
    | .buffer identity preState =>
      .variant "Buffer"
        (.record [("identity", toJson identity), ("pre_state", toJson preState)])
    | .svm identity preState offset =>
      .variant "Svm"
        (.record [("identity", toJson identity), ("pre_state", toJson preState),
          ("offset", .natural offset)])
    | .image descriptor preState =>
      .variant "Image"
        (.record [("descriptor", toJson descriptor), ("pre_state", toJson preState)])
    | .sampler descriptor => .variant "Sampler" (.record [("descriptor", toJson descriptor)])
    | .localMemory size => .variant "Local" (.record [("size", .natural size)])
  ofJson? json := do
    match ← json.variant? with
    | ("Scalar", some payload) =>
      let fields ← payload.record? ["bytes"]
      some (.scalar (← fields.required "bytes" ofJson?))
    | ("Buffer", some payload) =>
      let fields ← payload.record? ["identity", "pre_state"]
      some (.buffer (← fields.optional "identity" ofJson?)
        (← fields.required "pre_state" ofJson?))
    | ("Svm", some payload) =>
      let fields ← payload.record? ["identity", "pre_state", "offset"]
      some (.svm (← fields.optional "identity" ofJson?) (← fields.required "pre_state" ofJson?)
        (← fields.required "offset" (Json.natural? word64)))
    | ("Image", some payload) =>
      let fields ← payload.record? ["descriptor", "pre_state"]
      some (.image (← fields.required "descriptor" ofJson?)
        (← fields.required "pre_state" ofJson?))
    | ("Sampler", some payload) =>
      let fields ← payload.record? ["descriptor"]
      some (.sampler (← fields.required "descriptor" ofJson?))
    | ("Local", some payload) =>
      let fields ← payload.record? ["size"]
      some (.localMemory (← fields.required "size" (Json.natural? word64)))
    | _ => none

namespace ArgumentTable

/-- The form of one entry of a table by itself. -/
def entryForm (entry : Nat × Argument) : Json :=
  .record [("position", .natural entry.1), ("kind", toJson entry.2)]

/-- One entry of a table by itself. -/
def readEntry? (json : Json) : Option (Nat × Argument) := do
  let fields ← json.record? ["position", "kind"]
  some (← fields.required "position" (Json.natural? word32), ← fields.required "kind" ofJson?)

/-- Whether a key is the numeral of a number as JSON writes it. -/
def isNumeralKey (key : List Char) : Bool :=
  key.length = 1 || key.head? != some '0'

/-- The entry that a member of an object stands for, with its position for a key. -/
def readMember? (member : List Char × Json) : Option (Nat × Argument) := do
  let position ← if isNumeralKey member.1 then natural? 10 word32 member.1 else none
  some (position, ← ofJson? member.2)

/-- The entries of an object with positions for keys. -/
def readMembers? : Json → Option (List (Nat × Argument))
  | .object members => members.mapM readMember?
  | _ => none

end ArgumentTable

instance : JsonForm ArgumentTable where
  toJson table :=
    .record [("records",
      .record (table.entries.map fun entry => (decimal entry.1, toJson entry.2)))]
  ofJson? json := do
    let fields ← json.record? ["records"]
    (fields.required "records" ArgumentTable.readMembers?).map PositionMap.ofList

instance : JsonForm BufferGroup where
  toJson group := .record [("positions", .naturals group.positions)]
  ofJson? json := do
    let fields ← json.record? ["positions"]
    some ⟨← fields.required "positions" (Json.naturals? word32)⟩

instance : JsonForm SvmGroup where
  toJson group :=
    .record [("members", .list (.pair .natural .natural) group.members)]
  ofJson? json := do
    let fields ← json.record? ["members"]
    some ⟨← fields.required "members"
      (Json.list? (Json.pair? (Json.natural? word32) (Json.natural? word64)))⟩

instance : JsonForm AliasPlan where
  toJson plan :=
    .record [("buffer_groups", toJson plan.bufferGroups), ("svm_groups", toJson plan.svmGroups),
      ("notices", Notice.logForm plan.notices)]
  ofJson? json := do
    let fields ← json.record? ["buffer_groups", "svm_groups", "notices"]
    some
      { bufferGroups := ← fields.required "buffer_groups" ofJson?
        svmGroups := ← fields.required "svm_groups" ofJson?
        notices := ← fields.required "notices" Notice.readLog? }

end LaunchReplay
