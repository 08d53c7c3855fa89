/-
The program on a disk. What a command line names is read into a file system, the program
runs on that, and what it wrote there goes back to the disk. Temporary directories are made
in the file system alone.
-/
import ApkReport.CommandLine.Program
import ApkReport.Manifest.Decoding
import ApkReport.Report.Writer
import ApkReport.Yaml.Reader

namespace ApkReport.Disk

def libraries : CommandLine.Libraries := ⟨decodePackage, Yaml.reader, Report.fileWriter⟩

/-- What stands at a path. -/
def entryAt? (path : String) : IO (Option FileEntry) := do
  try
    return some (.file (← IO.FS.readBinFile path).toList)
  catch e =>
    match e with
    | .noFileOrDirectory .. => return none
    | .inappropriateType _ code _ => return if code.toNat = OsReason.isDirectory.number then some .directory else none
    | e => throw e

def pathOf (place : Place) : String := "/" ++ "/".intercalate place

/-- Reads what stands at a path and above it. -/
def load (files : FileSystem) (path : String) : IO FileSystem := do
  let place := components (absolutePath files.here path)
  let mut files := files
  for n in List.range place.length do
    let place := place.take (n + 1)
    if (files.at? place).isNone then
      if let some entry ← entryAt? (pathOf place) then files := files.put place entry
  return files

/-- Writes what is new. -/
def save (before after : FileSystem) : IO Unit := do
  for (place, entry) in after.entries do
    if before.at? place ≠ some entry then
      match entry with
      | .directory => IO.FS.createDirAll (pathOf place)
      | .file content => IO.FS.writeBinFile (pathOf place) ⟨content.toArray⟩

def tempRoot : String := "/tmp"

/-- Reads what the arguments name: the settings, the files, and the place of the summary. -/
def loadArguments (files : FileSystem) (a : CommandLine.Arguments) : IO FileSystem := do
  let config := (a.configPath?.toOption.bind id).toList
  let files ← (config ++ a.files).foldlM load files
  match ((CommandLine.configure libraries.reader a).run.run { files, tempRoot }).1 with
  | .ok settings => (CommandLine.csvPath? settings).toList.foldlM load files
  | .error _ => return files

/-- The files that a command line works on. -/
def filesFor (words : List String) : IO FileSystem := do
  let here := toString (← IO.currentDir)
  let files ← [here, tempRoot].foldlM load ⟨here, []⟩
  match CommandLine.parse words with
  | .ok (.inspect a) => loadArguments files a
  | _ => return files

/-- Runs the program on the disk, and yields the exit code. -/
def run (words : List String) : IO UInt32 := do
  let files ← filesFor words
  let (outcome, after) := (CommandLine.run libraries words).run.run { files, tempRoot }
  save files after.files
  IO.print after.output
  IO.eprint (String.join (after.events.map (Event.text Failure.message)))
  match outcome with
  | .ok code => return code.toUInt32
  | .error f =>
    IO.eprintln f.message
    return 1

end ApkReport.Disk

def main (words : List String) : IO UInt32 := ApkReport.Disk.run words
