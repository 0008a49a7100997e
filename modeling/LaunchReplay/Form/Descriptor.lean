import LaunchReplay.Digest.Basic
import LaunchReplay.Enqueue
import LaunchReplay.Form.Basic
import LaunchReplay.Geometry
import LaunchReplay.Image
import LaunchReplay.Naming.Pattern
import LaunchReplay.Sampler

/-!
# JSON forms of descriptors

Enqueue indices, geometries, images, samplers, digests and output kinds.
-/

namespace LaunchReplay

open Text

instance : JsonForm Enqueue where
  toJson enqueue := .natural enqueue.index
  ofJson? json := (json.natural? word64).map Enqueue.mk

instance : JsonForm Geometry where
  toJson geometry :=
    .record [("global", .naturals geometry.globalSize), ("local", .naturals geometry.localSize),
      ("offset", .naturals geometry.globalOffset)]
  ofJson? json := do
    let fields ← json.record? ["global", "local", "offset"]
    some
      { globalSize := ← fields.required "global" (Json.naturals? word64)
        localSize := ← fields.required "local" (Json.naturals? word64)
        globalOffset := ← fields.required "offset" (Json.naturals? word64) }

namespace ImageType

/-- The image types that have no code of their own. -/
def known : List ImageType :=
  [image1D, image1DBuffer, image1DArray, image2D, image2DArray, image3D]

end ImageType

instance : JsonForm ImageType where
  toJson
    | .unknown code => .variant "Unknown" (.natural code)
    | type => .text type.label
  ofJson? json := do
    match ← json.variant? with
    | ("Unknown", some payload) => (payload.natural? word32).map .unknown
    | _ => json.alternative? (ImageType.known.map fun type => (type.label, type))

instance : JsonForm ImageFormat where
  toJson format :=
    .record [("channel_order", .natural format.channelOrder),
      ("channel_data_type", .natural format.channelDataType)]
  ofJson? json := do
    let fields ← json.record? ["channel_order", "channel_data_type"]
    some
      { channelOrder := ← fields.required "channel_order" (Json.natural? word32)
        channelDataType := ← fields.required "channel_data_type" (Json.natural? word32) }

namespace ImageShape

/-- The name of an extent by the number of its components. -/
def label : ImageShape → String
  | line _ => "D1"
  | plane _ _ => "D2"
  | volume _ _ _ => "D3"

/-- The names of the components of an extent. -/
def extentNames : List String := ["width", "height", "depth"]

/-- The first components of an extent that a value holds. -/
def readExtents? (count : Nat) (json : Json) : Option (List Nat) := do
  let names := extentNames.take count
  let fields ← json.record? names
  names.mapM fun name => fields.required name (Json.natural? word64)

end ImageShape

instance : JsonForm ImageShape where
  toJson shape :=
    .variant shape.label
      (.record (List.zip ImageShape.extentNames (shape.extents.map Json.natural)))
  ofJson? json := do
    match ← json.variant? with
    | ("D1", some payload) =>
      match ← ImageShape.readExtents? 1 payload with
      | [width] => some (.line width)
      | _ => none
    | ("D2", some payload) =>
      match ← ImageShape.readExtents? 2 payload with
      | [width, height] => some (.plane width height)
      | _ => none
    | ("D3", some payload) =>
      match ← ImageShape.readExtents? 3 payload with
      | [width, height, depth] => some (.volume width height depth)
      | _ => none
    | _ => none

instance : JsonForm ImageDescriptor where
  toJson descriptor :=
    .record [("image_type", toJson descriptor.type), ("format", toJson descriptor.format),
      ("shape", toJson descriptor.shape)]
  ofJson? json := do
    let fields ← json.record? ["image_type", "format", "shape"]
    some
      { type := ← fields.required "image_type" ofJson?
        format := ← fields.required "format" ofJson?
        shape := ← fields.required "shape" ofJson? }

instance : JsonForm AddressingMode where
  toJson mode := .text mode.label
  ofJson? := Json.alternative?
    ([.none, .clampToEdge, .clamp, .repeated, .mirroredRepeat].map
      fun mode : AddressingMode => (mode.label, mode))

instance : JsonForm FilterMode where
  toJson mode := .text mode.label
  ofJson? := Json.alternative?
    ([.nearest, .linear].map fun mode : FilterMode => (mode.label, mode))

instance : JsonForm SamplerDescriptor where
  toJson sampler :=
    .record [("normalized", toJson sampler.normalized), ("addressing", toJson sampler.addressing),
      ("filter", toJson sampler.filter)]
  ofJson? json := do
    let fields ← json.record? ["normalized", "addressing", "filter"]
    some
      { normalized := ← fields.required "normalized" ofJson?
        addressing := ← fields.required "addressing" ofJson?
        filter := ← fields.required "filter" ofJson? }

instance : JsonForm Digest where
  toJson digest := toJson digest.bytes
  ofJson? json := do
    let bytes : Bytes ← ofJson? json
    if length : bytes.length = 32 then some ⟨bytes, length⟩ else none

instance : JsonForm OutputKind where
  toJson kind := .text kind.label
  ofJson? := Json.alternative?
    ([.buffer, .image].map fun kind : OutputKind => (kind.label, kind))

end LaunchReplay
