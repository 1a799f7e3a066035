import CmsMarkup.CommandLine
import CmsMarkup.Json.Reader
import CmsMarkup.Pandoc.Playback.Reader

/-! The program at a terminal. It reads the files that the command line names, runs, and
writes what has changed. Pandoc answers from the file that `PANDOC_ANSWERS` names. -/

namespace CmsMarkup.Terminal

/-- What stands on the disk at a path whose directory is there. -/
def itemAt (path : String) : IO (Option FileItem) := do
  try
    return some (.file (← IO.FS.readBinFile path).toList)
  catch e =>
    match e with
    | .inappropriateType .. => return some .directory
    | _ => return none

/-- Adds what stands along a path to a tree. -/
def load (files : FileTree) (path : FilePath) : IO FileTree := do
  let mut files := files
  for count in List.range path.names.length do
    let above : FilePath := { path with names := path.names.take (count + 1) }
    if let .ok place := files.locate above then
      if (files.get? place).isNone then
        if let some item ← itemAt above.text then
          files := files.put place item
  return files

def loadAll (arguments : Arguments) : IO FileTree := do
  let mut files := FileTree.empty
  for input in arguments.inputs do
    let source := FilePath.ofText input
    files ← load files source
    if let .ok target := Convert.outputPath source arguments.output then
      files ← load files target
  return files

def pathOf : Location → String
  | "/" :: names => "/" ++ "/".intercalate names
  | names => "/".intercalate names

/-- Writes the entries that differ from those before. -/
def store (before after : FileTree) : IO Unit := do
  for (place, item) in after.entries do
    if before.get? place != some item then
      match item with
      | .directory => IO.FS.createDir (pathOf place)
      | .file content => IO.FS.writeBinFile (pathOf place) ⟨content.toArray⟩

def noPandoc : Pandoc := fun _ _ => .error (.system "No pandoc was found")

def pandoc : IO Pandoc := do
  match ← IO.getEnv "PANDOC_ANSWERS" with
  | none => return noPandoc
  | some path =>
    match Json.parse (← IO.FS.readFile path) with
    | .ok answers => return (Pandoc.Playback.ofJson answers).pandoc
    | .error _ => return noPandoc

/-- The last line of a run that a fault ended. -/
def faultLine : ConvertFault → String
  | .noName path => path.noNameMessage
  | .nullCharacter => ConvertFault.nullMessage
  | .render (.frontMatter f) => f.message?.getD "front matter can not be read"
  | .render (.tree f) => f.message?.getD "the document tree is malformed"
  | .unencodable f => f.message
  | .render (.json f) => f.message?.getD "the document tree is no JSON"
  | .render (.markup r) => r.message?.getD "the HTML can not be parsed"
  | .render (.version digits) => longNumeralMessage digits
  | f => f.report?.getD "Pandoc failed"

end CmsMarkup.Terminal

open CmsMarkup Terminal

def main (words : List String) : IO UInt32 := do
  let files ← match Arguments.parse words with
    | .ok arguments => loadAll arguments
    | .error _ => pure .empty
  let finish := CommandLine.run (← Terminal.pandoc) words files
  store files finish.workspace.files
  IO.print finish.standardOutput
  IO.eprint finish.standardError
  match finish.result with
  | .ok code => return UInt32.ofNat code
  | .error f =>
    IO.eprintln (faultLine f)
    return 1
