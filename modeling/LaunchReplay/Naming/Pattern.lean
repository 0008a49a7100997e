import LaunchReplay.Enqueue
import LaunchReplay.Text.Search

/-!
# File patterns

Which files of a directory belong to one group of artifacts: their names start with one text and
end with another that does not overlap it, and may have to hold a marker in between.
-/

namespace LaunchReplay

/-- The two kinds of output file. -/
inductive OutputKind
  /-- The content of a buffer or a shared-memory region. -/
  | buffer
  /-- The content of an image. -/
  | image
deriving DecidableEq, Repr

namespace OutputKind

/-- The file name extension of an output. -/
def extension : OutputKind → String
  | buffer => ".bin"
  | image => ".raw"

/-- The name of an output kind in file names and reports. -/
def label : OutputKind → String
  | buffer => "Buffer"
  | image => "Image"

end OutputKind

/-- A pattern for file names. -/
structure FilePattern where
  /-- What a name starts with. -/
  start : String
  /-- What a name ends with. -/
  ending : String
  /-- What a name holds between the two, if anything is asked for. -/
  marker : Option String
deriving DecidableEq, Repr

namespace FilePattern

/-- The part of a name between what it starts and ends with, if it does so without overlap. -/
def middle? (pattern : FilePattern) (name : List Char) : Option (List Char) :=
  let start := pattern.start.toList
  let ending := pattern.ending.toList
  if start.length + ending.length ≤ name.length ∧ start.isPrefixOf name ∧ ending.isSuffixOf name
  then some ((name.drop start.length).take (name.length - start.length - ending.length))
  else none

/-- Whether a file name fits a pattern. -/
def fits (pattern : FilePattern) (name : String) : Bool :=
  match pattern.middle? name.toList, pattern.marker with
  | none, _ => false
  | some _, none => true
  | some middle, some marker => Text.occurs marker.toList middle

/-- The pattern as a glob, for messages. -/
def glob (pattern : FilePattern) : String :=
  match pattern.marker with
  | none => pattern.start ++ "*" ++ pattern.ending
  | some marker => pattern.start ++ "*" ++ marker ++ "*" ++ pattern.ending

/-- The files of recorded argument values. -/
def argument : FilePattern := ⟨"Argument", ".bin", none⟩

/-- The files of local memory sizes. -/
def localMemory : FilePattern := ⟨"Local", ".txt", none⟩

/-- The files of sampler descriptions. -/
def sampler : FilePattern := ⟨"Sampler", ".txt", none⟩

/-- The files of shared-memory offsets. -/
def svmOffset : FilePattern := ⟨"SVM_Arg_Offset", ".txt", none⟩

/-- The files of device binaries. -/
def deviceBinary : FilePattern := ⟨"DeviceBinary", ".bin", none⟩

/-- The buffer contents before a launch. -/
def preBuffer (enqueue : Enqueue) : FilePattern := ⟨enqueue.fileStart, ".bin", some "_Arg_"⟩

/-- The image contents before a launch. -/
def preImage (enqueue : Enqueue) : FilePattern := ⟨enqueue.fileStart, ".raw", some "_Arg_"⟩

/-- The captured contents after a launch. -/
def post (enqueue : Enqueue) (kind : OutputKind) : FilePattern :=
  ⟨enqueue.fileStart ++ "Kernel_", kind.extension, some "_Arg_"⟩

/-- The replayed outputs of a launch. -/
def test (enqueue : Enqueue) (kind : OutputKind) : FilePattern :=
  ⟨enqueue.fileStart ++ "Kernel_", "_" ++ kind.label ++ kind.extension, some "_Arg_"⟩

end FilePattern

namespace Naming

/-- The name of the file to which an output is written. -/
def outputName (enqueue : Enqueue) (kernel : String) (position : Nat) (kind : OutputKind) :
    String :=
  enqueue.fileStart ++ "Kernel_" ++ kernel ++ "_Arg_" ++ Text.decimal position ++ "_" ++
    kind.label ++ kind.extension

/-- The name of the metadata file of an image argument. -/
def imageMetadataName (position : Nat) : String :=
  "Image_MetaData_" ++ Text.decimal position ++ ".txt"

end Naming

end LaunchReplay
