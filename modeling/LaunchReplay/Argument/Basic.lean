import LaunchReplay.Argument.Kind
import LaunchReplay.Image
import LaunchReplay.Sampler
import LaunchReplay.Text.Bytes

/-!
# Arguments

The value captured for one kernel argument: its kind, and what is needed to bind it again.
-/

namespace LaunchReplay

/-- The captured value of one argument. -/
inductive Argument
  /-- A value bound byte for byte. -/
  | scalar (bytes : Bytes)
  /-- A buffer, with the token of its allocation if one was recorded. -/
  | buffer (identity : Option Bytes) (preState : Bytes)
  /-- A region of shared memory, bound at an offset. -/
  | svm (identity : Option Bytes) (preState : Bytes) (offset : Nat)
  /-- An image. -/
  | image (descriptor : ImageDescriptor) (preState : Bytes)
  /-- A sampler. -/
  | sampler (descriptor : SamplerDescriptor)
  /-- Local memory, uninitialized. -/
  | localMemory (size : Nat)
deriving DecidableEq, Repr

namespace Argument

/-- The kind of an argument. -/
def kind : Argument → ArgumentKind
  | scalar _ => .scalar
  | buffer _ _ => .buffer
  | svm _ _ _ => .svm
  | image _ _ => .image
  | sampler _ => .sampler
  | localMemory _ => .localMemory

/-- The content before the launch, for kinds that have memory of their own. -/
def preState? : Argument → Option Bytes
  | buffer _ preState => some preState
  | svm _ preState _ => some preState
  | image _ preState => some preState
  | _ => none

/-- Whether the argument is an output of the launch. -/
def hasOutput (argument : Argument) : Bool :=
  argument.preState?.isSome

end Argument

end LaunchReplay
