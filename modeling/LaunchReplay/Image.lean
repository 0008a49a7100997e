import LaunchReplay.Integer

/-!
# Images

The type, pixel format and extent of an image argument, decoded from nine lines of metadata, and
the number of bytes that its content must have. Sizes are 64-bit words, and multiplications are
checked for overflow: a product that is no word has no value, and the program is aborted there.
-/

namespace LaunchReplay

open Text

/-- The memory object type of an image. -/
inductive ImageType
  | image1D
  | image1DBuffer
  | image1DArray
  | image2D
  | image2DArray
  | image3D
  /-- A code that names no type; such an image is taken for a three-dimensional one. -/
  | unknown (code : Nat)
deriving DecidableEq, Repr

namespace ImageType

/-- The type named by a runtime code. -/
def ofCode (code : Nat) : ImageType :=
  match code with
  | 0x10F1 => image2D
  | 0x10F2 => image3D
  | 0x10F3 => image2DArray
  | 0x10F4 => image1D
  | 0x10F5 => image1DArray
  | 0x10F6 => image1DBuffer
  | code => unknown code

/-- The runtime code with which an image of the type is created. -/
def code : ImageType → Nat
  | image2D => 0x10F1
  | image3D | unknown _ => 0x10F2
  | image2DArray => 0x10F3
  | image1D => 0x10F4
  | image1DArray => 0x10F5
  | image1DBuffer => 0x10F6

/-- The number of extents of an image of the type. -/
def extentCount : ImageType → Nat
  | image1D | image1DBuffer => 1
  | image1DArray | image2D => 2
  | image2DArray | image3D | unknown _ => 3

/-- The name of a type. -/
def label : ImageType → String
  | image1D => "Image1D"
  | image1DBuffer => "Image1DBuffer"
  | image1DArray => "Image1DArray"
  | image2D => "Image2D"
  | image2DArray => "Image2DArray"
  | image3D => "Image3D"
  | unknown code => "Unknown(" ++ decimal code ++ ")"

end ImageType

/-- The pixel format of an image, by its two runtime codes. -/
structure ImageFormat where
  /-- The code of the channel order. -/
  channelOrder : Nat
  /-- The code of the channel data type. -/
  channelDataType : Nat
deriving DecidableEq, Repr

namespace ImageFormat

/-- The size of a pixel whose channels are packed into one word. -/
def packedSize? (dataType : Nat) : Option Nat :=
  match dataType with
  | 0x10D4 | 0x10D5 => some 2
  | 0x10D6 => some 4
  | _ => none

/-- The number of channels of a channel order. -/
def channelCount? (order : Nat) : Option Nat :=
  match order with
  | 0x10B0 | 0x10B1 | 0x10B8 | 0x10B9 | 0x10BA | 0x10BD => some 1
  | 0x10B2 | 0x10B3 | 0x10BB => some 2
  | 0x10B4 | 0x10BC | 0x10BF => some 3
  | 0x10B5 | 0x10B6 | 0x10B7 | 0x10C0 | 0x10C1 | 0x10C2 | 0x10C3 => some 4
  | _ => none

/-- The size of one channel of a channel data type. -/
def channelSize? (dataType : Nat) : Option Nat :=
  match dataType with
  | 0x10D0 | 0x10D2 | 0x10D7 | 0x10DA => some 1
  | 0x10D1 | 0x10D3 | 0x10D8 | 0x10DB | 0x10DD => some 2
  | 0x10D9 | 0x10DC | 0x10DE => some 4
  | _ => none

/-- The bytes per pixel, when both codes are known. -/
def pixelSize? (format : ImageFormat) : Option Nat :=
  match packedSize? format.channelDataType with
  | some size => some size
  | none => do
    let channels ← channelCount? format.channelOrder
    let size ← channelSize? format.channelDataType
    some (channels * size)

end ImageFormat

/-- The extent of an image, with as many components as it has. -/
inductive ImageShape
  | line (width : Nat)
  | plane (width height : Nat)
  | volume (width height depth : Nat)
deriving DecidableEq, Repr

namespace ImageShape

/-- The components of an extent. -/
def extents : ImageShape → List Nat
  | line width => [width]
  | plane width height => [width, height]
  | volume width height depth => [width, height, depth]

/-- The components of an extent, filled up with ones to three. -/
def region : ImageShape → List Nat
  | line width => [width, 1, 1]
  | plane width height => [width, height, 1]
  | volume width height depth => [width, height, depth]

end ImageShape

/-- The product of two sizes, if it is a 64-bit word. -/
def sizeProduct? (left right : Nat) : Option Nat :=
  if left * right < word64 then some (left * right) else none

/-- The number of pixels of a region, multiplied from the left, if each product is a 64-bit word. -/
def ImageShape.pixelCount? (shape : ImageShape) : Option Nat :=
  shape.region.foldlM sizeProduct? 1

/-- The number of bytes that the content of an image must have. -/
inductive ByteLength
  /-- The pixel size is unknown, so any length will do. -/
  | unknown
  /-- Exactly this many bytes. -/
  | known (length : Nat)
  /-- More bytes, or on the way to them more pixels, than a 64-bit word counts. This stands for the
  abort of a program with overflow checks, at the first product that is no word; without the checks
  the product would wrap around and be taken for the length. -/
  | overflow
deriving DecidableEq, Repr

/-- All that is needed to allocate an image. -/
structure ImageDescriptor where
  /-- Memory object type. -/
  type : ImageType
  /-- Pixel format. -/
  format : ImageFormat
  /-- Extent. -/
  shape : ImageShape
deriving DecidableEq, Repr

namespace ImageDescriptor

/-- The number of lines of image metadata. -/
def metadataLines : Nat := 9

/-- The extent of an image whose type has been decoded, from the first lines of its metadata. -/
def parseShape (type : ImageType) (width height depth : List Char) :
    Except DecodeError ImageShape := do
  let width ← Integer.parse "image width" width
  match type.extentCount with
  | 1 => .ok (.line width)
  | 2 => .ok (.plane width (← Integer.parse "image height" height))
  | _ =>
    let height ← Integer.parse "image height" height
    .ok (.volume width height (← Integer.parse "image depth" depth))

/-- Decodes image metadata: the extents first, two formats and the type last. -/
def parse (text : String) : Except DecodeError ImageDescriptor :=
  match lines text.toList with
  | width :: height :: depth :: _ :: _ :: _ :: order :: dataType :: type :: _ => do
    let type := ImageType.ofCode (← Integer.parseCode "image type" type)
    let shape ← parseShape type width height depth
    let order ← Integer.parseCode "channel order" order
    let dataType ← Integer.parseCode "channel data type" dataType
    .ok ⟨type, ⟨order, dataType⟩, shape⟩
  | few => .error (.metadataLines few.length metadataLines)

/-- The number of bytes that the content of the image must have. -/
def byteLength (descriptor : ImageDescriptor) : ByteLength :=
  match descriptor.format.pixelSize? with
  | none => .unknown
  | some pixel =>
    match descriptor.shape.pixelCount?.bind (sizeProduct? pixel) with
    | none => .overflow
    | some length => .known length

/-- Checks that content of a length covers exactly the image. Where the length cannot be counted the
check does not come back: its error is the abort at the overflow. -/
def checkLength (descriptor : ImageDescriptor) (length : Nat) : Except DecodeError Unit :=
  match descriptor.byteLength with
  | .unknown => .ok ()
  | .overflow => .error .sizeOverflow
  | .known expected =>
    if length = expected then .ok () else .error (.contentLength length expected)

/-- The one-line form of a descriptor. -/
def describe (descriptor : ImageDescriptor) : String :=
  "image type=0x" ++ hexadecimal descriptor.type.code ++ " extent=" ++
    decimalList descriptor.shape.extents ++ " order=0x" ++
    hexadecimal descriptor.format.channelOrder ++ " data=0x" ++
    hexadecimal descriptor.format.channelDataType

end ImageDescriptor

end LaunchReplay
