import LaunchReplay.Text.Numeral

/-!
# Device handles

A device names its objects by handles: the kind of the object, and a number that is unique within
the kind.
-/

namespace LaunchReplay

/-- The kinds of object that a device creates. -/
inductive HandleKind
  /-- A built program. -/
  | program
  /-- A kernel with its bound arguments. -/
  | kernel
  /-- A buffer or an image. -/
  | memory
  /-- A region of shared virtual memory. -/
  | region
  /-- A sampler. -/
  | sampler
deriving DecidableEq, Repr

namespace HandleKind

/-- The name of a kind in handles and messages. -/
def label : HandleKind → String
  | program => "program"
  | kernel => "kernel"
  | memory => "memory"
  | region => "svm"
  | sampler => "sampler"

end HandleKind

/-- A name for one object of a kind. -/
structure Handle (kind : HandleKind) where
  /-- Number of the object within its kind. -/
  index : Nat
deriving DecidableEq, Repr

namespace Handle

variable {kind : HandleKind}

/-- The text of a handle. -/
def name (handle : Handle kind) : String :=
  kind.label ++ "#" ++ Text.decimal handle.index

end Handle

end LaunchReplay
