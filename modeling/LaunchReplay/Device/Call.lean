import LaunchReplay.Argument.Kind
import LaunchReplay.Device.Error
import LaunchReplay.Geometry
import LaunchReplay.Image
import LaunchReplay.Program
import LaunchReplay.Sampler

/-!
# Device calls

The nine calls that may change a device, as values, each with the type of its reply.
-/

namespace LaunchReplay

/-- A value bound to one position of a kernel. -/
inductive BoundValue
  /-- The bytes of a plain value. -/
  | scalar (bytes : Bytes)
  /-- A buffer. -/
  | buffer (memory : Handle .memory)
  /-- An image. -/
  | image (memory : Handle .memory)
  /-- A region of shared virtual memory from an offset on. -/
  | svm (region : Handle .region) (offset : Nat)
  /-- Local memory of a size. -/
  | localMemory (size : Nat)
  /-- A sampler. -/
  | sampler (sampler : Handle .sampler)
deriving DecidableEq, Repr

namespace BoundValue

/-- The kind of a bound value. -/
def kind : BoundValue → ArgumentKind
  | scalar _ => .scalar
  | buffer _ => .buffer
  | image _ => .image
  | svm _ _ => .svm
  | localMemory _ => .localMemory
  | sampler _ => .sampler

end BoundValue

/-- An object whose content can be read back from its first byte. -/
inductive ReadSource
  /-- A buffer. -/
  | buffer (memory : Handle .memory)
  /-- An image. -/
  | image (memory : Handle .memory)
  /-- A region of shared virtual memory. -/
  | svm (region : Handle .region)
deriving DecidableEq, Repr

/-- How many bytes of an object to read back. -/
structure ReadRequest where
  /-- The object. -/
  source : ReadSource
  /-- The number of bytes, from the first on. -/
  length : Nat
deriving DecidableEq, Repr

/-- A call that may change a device. -/
inductive Call
  /-- Builds a program with an option string. -/
  | buildProgram (image : ProgramImage) (options : String)
  /-- Makes the kernel of an entry point. -/
  | createKernel (program : Handle .program) (name : String)
  /-- Allocates a buffer of at least a length. -/
  | createBuffer (contents : Bytes) (length : Nat)
  /-- Allocates an image. -/
  | createImage (descriptor : ImageDescriptor) (contents : Bytes)
  /-- Allocates a region of shared virtual memory of at least a length. -/
  | createRegion (contents : Bytes) (length : Nat)
  /-- Makes a sampler. -/
  | createSampler (descriptor : SamplerDescriptor)
  /-- Binds a value to a position of a kernel. -/
  | bind (kernel : Handle .kernel) (position : Nat) (value : BoundValue)
  /-- Launches a kernel with the values bound to it. -/
  | launch (kernel : Handle .kernel) (geometry : Geometry)
  /-- Waits for all launches, then reads objects back. -/
  | readBack (requests : List ReadRequest)
deriving DecidableEq, Repr

namespace Call

/-- The type of the reply to a call. -/
abbrev Reply : Call → Type
  | buildProgram _ _ => Handle .program
  | createKernel _ _ => Handle .kernel
  | createBuffer _ _ => Handle .memory
  | createImage _ _ => Handle .memory
  | createRegion _ _ => Handle .region
  | createSampler _ => Handle .sampler
  | bind _ _ _ => Unit
  | launch _ _ => Unit
  | readBack _ => List Bytes

/-- The nine kinds of call. -/
inductive Method
  | buildProgram
  | createKernel
  | createBuffer
  | createImage
  | createRegion
  | createSampler
  | bind
  | launch
  | readBack
deriving DecidableEq, Repr

/-- The kind of a call. -/
def method : Call → Method
  | buildProgram _ _ => .buildProgram
  | createKernel _ _ => .createKernel
  | createBuffer _ _ => .createBuffer
  | createImage _ _ => .createImage
  | createRegion _ _ => .createRegion
  | createSampler _ => .createSampler
  | bind _ _ _ => .bind
  | launch _ _ => .launch
  | readBack _ => .readBack

end Call

end LaunchReplay
