/-!
# Artifact names

The fixed names of the files and directories of a capture directory.
-/

namespace LaunchReplay.Naming

/-- The file of the entry-point name. -/
def kernelNameFile : String := "knlName.txt"

/-- The file of the build options, one per line. -/
def buildOptionsFile : String := "buildOptions.txt"

/-- The file of the launch geometry. -/
def workSizesFile : String := "worksizes.txt"

/-- The file of the enqueue index. -/
def enqueueNumberFile : String := "enqueueNumber.txt"

/-- The file of the kernel source. -/
def sourceFile : String := "kernel.cl"

/-- The file of the portable intermediate form of the kernel. -/
def intermediateFile : String := "kernel.spv"

/-- The optional file of the arguments' data types. -/
def argumentTypesFile : String := "ArgumentDataTypes.txt"

/-- The directory of contents before the launch. -/
def preDirectory : String := "Pre"

/-- The directory of contents after the captured launch. -/
def postDirectory : String := "Post"

/-- The directory of replayed outputs. -/
def testDirectory : String := "Test"

end LaunchReplay.Naming
