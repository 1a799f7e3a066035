import CmsMarkup.FileTree
import CmsMarkup.Render
import CmsMarkup.Text.Utf8

/-! Conversion of Markdown files into HTML documents. -/

namespace CmsMarkup

/-- The files, and what earlier conversions left. -/
structure Workspace where
  files : FileTree
  session : Session
  deriving Repr

inductive ConvertFault where
  /-- A path without a name has no place for the document. -/
  | noName (path : FilePath)
  | nullCharacter
  | unreadable (path : FilePath) (cause : String)
  | unwritable (path : FilePath) (cause : String)
  /-- A document with a surrogate has no bytes. -/
  | unencodable (f : EncodeFault)
  | render (f : RenderFault)
  deriving DecidableEq, Repr

namespace ConvertFault

/-- The message of a fault that stops one file only; others end the program. -/
def report? : ConvertFault → Option String
  | .unreadable path cause => some ("Cannot read input file " ++ path.text ++ ": " ++ cause)
  | .unwritable path cause => some ("Cannot write output file " ++ path.text ++ ": " ++ cause)
  | .render f => f.report?
  | _ => none

def nullMessage : String := "embedded null byte"

end ConvertFault

namespace Convert

def logSource : String := "md2drupal.converter"

/-- Every kind of line end becomes a line feed. -/
def unifyLineEnds : List Char → List Char
  | '\r' :: '\n' :: cs => '\n' :: unifyLineEnds cs
  | '\r' :: cs => '\n' :: unifyLineEnds cs
  | c :: cs => c :: unifyLineEnds cs
  | [] => []

/-- Without an output path, or with an empty one, the document goes beside the input. -/
def outputPath (input : FilePath) (output : Option String) : Except ConvertFault FilePath :=
  match output.filter (!·.isEmpty) with
  | some text => .ok (.ofText text)
  | none =>
    match input.withSuffix? ".html" with
    | some path => .ok path
    | none => .error (.noName input)

def readText (files : FileTree) (path : FilePath) : Except ConvertFault String :=
  if path.hasNull then .error .nullCharacter
  else
    match files.read path with
    | .error f => .error (.unreadable path (f.message path))
    | .ok bytes =>
      match Utf8.decode bytes with
      | .error f => .error (.unreadable path f.message)
      | .ok cs => .ok (String.ofList (unifyLineEnds cs))

/-- Writes a text and adds the directories it needs. Of a text without bytes an empty file is left:
the text is encoded when the file is open. -/
def writeText (path : FilePath) (text : CodeText) (files : FileTree) :
    Except ConvertFault Unit × FileTree :=
  if path.parent.hasNull then (.error .nullCharacter, files)
  else
    match files.ensureDirectory path.parent with
    | (.error (place, f), files) => (.error (.unwritable path (f.message place)), files)
    | (.ok (), files) =>
      if path.hasNull then (.error .nullCharacter, files)
      else
        match files.write path (text.encode.toOption.getD []) with
        | .error f => (.error (.unwritable path (f.message path)), files)
        | .ok files =>
          match text.encode with
          | .ok _ => (.ok (), files)
          | .error f => (.error (.unencodable f), files)

def startRecord (path : FilePath) (text : String) : LogRecord :=
  ⟨.debug, logSource,
    "Converting " ++ path.text ++ " (" ++ toString text.toList.length ++ " characters)"⟩

def doneRecord (input output : FilePath) : LogRecord :=
  ⟨.info, logSource, "Converted " ++ input.text ++ " to " ++ output.text⟩

end Convert

/-- Converts a file, and gives the path of its document. -/
def convertFile (pandoc : Pandoc) (options : ConversionOptions) (input : String)
    (output : Option String) (w : Workspace) : Except ConvertFault FilePath × Workspace :=
  let source := FilePath.ofText input
  match Convert.outputPath source output with
  | .error f => (.error f, w)
  | .ok target =>
    match Convert.readText w.files source with
    | .error f => (.error f, w)
    | .ok text =>
      match convertText pandoc options text (w.session.log (Convert.startRecord source text)) with
      | (.error f, session) => (.error (.render f), { w with session })
      | (.ok document, session) =>
        match Convert.writeText target document w.files with
        | (.error f, files) => (.error f, ⟨files, session⟩)
        | (.ok (), files) =>
          (.ok target, ⟨files, session.log (Convert.doneRecord source target)⟩)

end CmsMarkup
