import CmsMarkup.Arguments
import CmsMarkup.Convert

/-! The program: converts every file that the command line names. -/

namespace CmsMarkup

/-- What a run has shown and left so far. -/
structure Run where
  workspace : Workspace
  standardOutput : String
  standardError : String
  exitCode : Nat
  deriving Repr

/-- The end of a run. A fault that no message reports ends the program where it arises. -/
structure Finish where
  result : Except ConvertFault Nat
  standardOutput : String
  standardError : String
  workspace : Workspace
  deriving Repr

namespace CommandLine

def logSource : String := "md2drupal.cli"

/-- Records as lines; without `verbose` only warnings are shown. -/
def shownLines (verbose : Bool) (records : List LogRecord) : String :=
  String.join ((records.filter fun r => verbose || r.level = .warning).map fun r => r.line ++ "\n")

def failedRecord (input : String) : LogRecord :=
  ⟨.debug, logSource, "Conversion of " ++ input ++ " failed"⟩

/-- Converts one file. A fault that is reported does not keep the next ones from their turn. -/
def step (pandoc : Pandoc) (arguments : Arguments) (input : String) (r : Run) :
    Except ConvertFault Unit × Run :=
  let session := { r.workspace.session with logs := [] }
  let (result, w) :=
    convertFile pandoc ⟨arguments.css⟩ input arguments.output { r.workspace with session }
  let r := { r with
    workspace := w
    standardError := r.standardError ++ shownLines arguments.verbose w.session.logs }
  match result with
  | .ok path =>
    (.ok (), { r with
      standardOutput := r.standardOutput ++ "Converted " ++ input ++ " to " ++ path.text ++ "\n" })
  | .error f =>
    match f.report? with
    | some message =>
      (.ok (), { r with
        standardError := r.standardError ++ shownLines arguments.verbose [failedRecord input] ++
          "Error: " ++ message ++ "\n"
        exitCode := 1 })
    | none => (.error f, r)

def convertAll (pandoc : Pandoc) (arguments : Arguments) : List String → Run → Finish
  | [], r => ⟨.ok r.exitCode, r.standardOutput, r.standardError, r.workspace⟩
  | input :: rest, r =>
    match step pandoc arguments input r with
    | (.ok (), r) => convertAll pandoc arguments rest r
    | (.error f, r) => ⟨.error f, r.standardOutput, r.standardError, r.workspace⟩

/-- Runs the program with the words of its command line. -/
def run (pandoc : Pandoc) (words : List String) (files : FileTree) : Finish :=
  let workspace : Workspace := ⟨files, .empty⟩
  match Arguments.parse words with
  | .error stop => ⟨.ok stop.exitCode, stop.standardOutput, stop.standardError, workspace⟩
  | .ok arguments => convertAll pandoc arguments arguments.inputs ⟨workspace, "", "", 0⟩

end CommandLine

end CmsMarkup
