/-!
# Argument kinds

The six kinds of value that a kernel argument can have, and their names in reports.
-/

namespace LaunchReplay

/-- The kind of one kernel argument. -/
inductive ArgumentKind
  /-- A plain value. -/
  | scalar
  /-- A device buffer. -/
  | buffer
  /-- A region of shared virtual memory. -/
  | svm
  /-- A device image. -/
  | image
  /-- A sampler object. -/
  | sampler
  /-- Local memory of a fixed size. -/
  | localMemory
deriving DecidableEq, Repr

namespace ArgumentKind

/-- The name of a kind in messages and reports. -/
def label : ArgumentKind → String
  | scalar => "scalar"
  | buffer => "buffer"
  | svm => "svm"
  | image => "image"
  | sampler => "sampler"
  | localMemory => "local"

end ArgumentKind

end LaunchReplay
