import LaunchReplay.Text.Search

/-!
# Samplers

How a kernel reads an image: a sampler is decoded from a one-line description by the words that
occur in it, in upper case.
-/

namespace LaunchReplay

/-- What a sampler returns outside the image. -/
inductive AddressingMode
  | none
  | clampToEdge
  | clamp
  | repeated
  | mirroredRepeat
deriving DecidableEq, Repr

namespace AddressingMode

/-- The name of an addressing mode. -/
def label : AddressingMode → String
  | none => "None"
  | clampToEdge => "ClampToEdge"
  | clamp => "Clamp"
  | repeated => "Repeat"
  | mirroredRepeat => "MirroredRepeat"

/-- The runtime code of an addressing mode. -/
def code : AddressingMode → Nat
  | none => 0x1130
  | clampToEdge => 0x1131
  | clamp => 0x1132
  | repeated => 0x1133
  | mirroredRepeat => 0x1134

/-- The words that stand for a mode; a word that contains another comes before it. -/
def words : List (String × AddressingMode) :=
  [("CLAMP_TO_EDGE", clampToEdge), ("CLAMP", clamp), ("MIRRORED_REPEAT", mirroredRepeat),
   ("REPEAT", repeated)]

/-- The mode of the first word that occurs in a description. -/
def ofDescription (description : List Char) : AddressingMode :=
  match words.find? fun word => Text.occurs word.1.toList description with
  | some word => word.2
  | Option.none => none

end AddressingMode

/-- How a sampler interpolates between pixels. -/
inductive FilterMode
  | nearest
  | linear
deriving DecidableEq, Repr

namespace FilterMode

/-- The name of a filter mode. -/
def label : FilterMode → String
  | nearest => "Nearest"
  | linear => "Linear"

/-- The runtime code of a filter mode. -/
def code : FilterMode → Nat
  | nearest => 0x1140
  | linear => 0x1141

end FilterMode

/-- The state of a sampler. -/
structure SamplerDescriptor where
  /-- Whether coordinates are normalized. -/
  normalized : Bool
  /-- What is read outside the image. -/
  addressing : AddressingMode
  /-- How pixels are interpolated. -/
  filter : FilterMode
deriving DecidableEq, Repr

namespace SamplerDescriptor

/-- Decodes the description of a sampler. -/
def parse (description : List Char) : SamplerDescriptor where
  normalized := Text.occurs "TRUE".toList description
  addressing := AddressingMode.ofDescription description
  filter := if Text.occurs "LINEAR".toList description then .linear else .nearest

/-- The one-line form of a sampler. -/
def describe (sampler : SamplerDescriptor) : String :=
  "sampler normalized=" ++ (if sampler.normalized then "true" else "false") ++ " addressing=" ++
    sampler.addressing.label ++ " filter=" ++ sampler.filter.label

end SamplerDescriptor

end LaunchReplay
