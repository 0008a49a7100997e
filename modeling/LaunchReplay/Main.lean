import LaunchReplay.Command.Execute

/-!
# The program

Runs a command line on the disk: the directories that the command is about are taken over as a
file tree, the command is executed on it, and what it changed in the tree is written back.
-/

namespace LaunchReplay.Disk

/-- The text of a location on the disk. -/
def textAt (location : Location) : String :=
  "/" ++ String.intercalate "/" location

/-- The place of a location on the disk, wherever the program was started. -/
def placeAt (location : Location) := (· / textAt location) <$> IO.currentDir

/-- A tree with what the disk has at a location; of a directory, only that it is there. -/
def takeEntry (tree : FileTree) (location : Location) : IO FileTree := do
  let place ← placeAt location
  if location.isEmpty then return tree
  else if ← place.isDir then return tree.put location .directory
  else if ← place.pathExists then
    return tree.put location (.file (← IO.FS.readBinFile place).toList)
  else return tree

/-- A tree with what the disk has on the way to a location. -/
def takeWay (tree : FileTree) (location : Location) : IO FileTree :=
  (List.range location.length).foldlM (fun tree last => takeEntry tree (location.take (last + 1)))
    tree

/-- A tree with what the disk has in the directory at a location. -/
def takeListing (tree : FileTree) (location : Location) : IO FileTree := do
  let place ← placeAt location
  if ← place.isDir then
    (← place.readDir).foldlM (fun tree entry => takeEntry tree (location ++ [entry.fileName])) tree
  else return tree

/-- The location reached from another by one segment. -/
def step (location : Location) : PathSegment → Location
  | .here => location
  | .up => location.dropLast
  | .name name => location ++ [name]

/-- A tree with what the disk has on the way to the end of a path, and in the directory there. -/
def takePath (tree : FileTree) (path : Path) : IO FileTree := do
  let ways := path.segments.foldl (fun ways segment => step (ways.headD []) segment :: ways)
    [tree.start path]
  takeListing (← ways.foldrM (fun location tree => takeWay tree location) tree) (ways.headD [])

/-- A tree with what the disk has that a command is about. -/
def take (command : Command) : IO FileTree := do
  let here := (← IO.currentDir).components.filter (· ≠ "")
  let start ← takeWay { FileTree.empty with workingDirectory := here } here
  command.directories.foldlM takePath start

/-- Writes to the disk what one tree has and another lacks or has otherwise. -/
def write (before after : FileTree) : IO Unit :=
  after.entries.forM fun (location, entry) => do
    if before.entry? location = some entry then return
    match entry with
    | .directory => IO.FS.createDirAll (textAt location)
    | .file content => IO.FS.writeBinFile (textAt location) ⟨content.toArray⟩

/-- What a command line prints, after its changes to the disk. -/
def execute (arguments : List String) : IO CommandOutcome := do
  match Command.parse? arguments with
  | none => return .usage
  | some command =>
    let before ← take command
    let (outcome, after) := command.execute before
    write before after
    return outcome

end LaunchReplay.Disk

/-- Runs a command line and ends with its exit code. -/
def main (arguments : List String) : IO UInt32 := do
  let outcome ← LaunchReplay.Disk.execute arguments
  IO.print outcome.output
  if outcome.errors ≠ "" then IO.eprintln outcome.errors
  return outcome.exitCode.toUInt32
