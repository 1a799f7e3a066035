import CmsMarkup.Document
import CmsMarkup.FrontMatter
import CmsMarkup.Html.Printer
import CmsMarkup.Json.Reader
import CmsMarkup.Pandoc
import CmsMarkup.Pandoc.FenceMark
import CmsMarkup.Pandoc.Title
import CmsMarkup.Postprocess

/-! From a Markdown text to the HTML body of a page. -/

namespace CmsMarkup

/-- What one render leaves for the next. `switch` is remembered once a version is known. -/
structure Session where
  frontMatter : Option FrontMatter
  title : Option CodeText
  switch : Option Pandoc.Switch
  /-- The requests so far, the first one first. -/
  requests : List Pandoc.Request
  logs : List LogRecord
  deriving Repr

inductive RenderFault where
  | frontMatter (f : Yaml.Fault)
  /-- Pandoc could not convert between two formats. -/
  | conversion (source target message : String)
  | unavailable (message : String)
  /-- A fault of Pandoc that is not reported as one. -/
  | pandoc (f : Pandoc.Fault)
  /-- A number of so many digits in Pandoc's version. -/
  | version (digits : Nat)
  /-- Pandoc's tree is no JSON. -/
  | json (f : Json.Fault)
  | tree (f : Pandoc.TreeFault)
  /-- Pandoc's HTML is refused. -/
  | markup (r : Html.Refusal)
  deriving DecidableEq, Repr

namespace RenderFault

/-- The message of a fault that a conversion reports; other faults end the program. -/
def report? : RenderFault → Option String
  | .conversion source target message =>
    some ("Pandoc failed converting " ++ source ++ " to " ++ target ++ ": " ++ message)
  | .unavailable message => some ("Pandoc is not available: " ++ message)
  | _ => none

end RenderFault

namespace Session

def empty : Session := ⟨none, none, none, [], []⟩

def log (record : LogRecord) (s : Session) : Session := { s with logs := s.logs ++ [record] }

def logAll (records : List LogRecord) (s : Session) : Session := { s with logs := s.logs ++ records }

/-- Makes a request. -/
def ask (pandoc : Pandoc) (request : Pandoc.Request) (s : Session) :
    Except Pandoc.Fault String × Session :=
  (pandoc s.requests request, { s with requests := s.requests ++ [request] })

end Session

namespace Render

open Pandoc (Switch)

def logSource : String := "md2drupal.markdown.renderer"

def conversionFault (source target : String) : Pandoc.Fault → RenderFault
  | .system message => .conversion source target message
  | .runtime message => .conversion source target message
  | .value message => .pandoc (.value message)

def versionFault : Pandoc.Fault → RenderFault
  | .system message => .unavailable message
  | f => .pandoc f

def switchRecord (version : String) (switch : Switch) : LogRecord :=
  ⟨.debug, logSource,
    "Pandoc " ++ version ++ ", disabling highlighting with " ++ " ".intercalate switch.arguments⟩

/-- The switch for this Pandoc. Its version is asked for until it can be read; a fault is not
kept. -/
def switch (pandoc : Pandoc) (s : Session) : Except RenderFault Switch × Session :=
  match s.switch with
  | some found => (.ok found, s)
  | none =>
    match s.ask pandoc .version with
    | (.error f, s) => (.error (versionFault f), s)
    | (.ok version, s) =>
      match Pandoc.longNumber? version with
      | some digits => (.error (.version digits), s)
      | none =>
        let found := Switch.of version
        (.ok found, { s with switch := some found }.log (switchRecord version found))

/-- The elements of a document tree. -/
def lower (pandoc : Pandoc) (tree : Json) (s : Session) :
    Except RenderFault (List Html.Node) × Session :=
  match Pandoc.markDocument tree with
  | .error f => (.error (.tree f), s)
  | .ok tree =>
    match switch pandoc s with
    | (.error f, s) => (.error f, s)
    | (.ok found, s) =>
      match s.ask pandoc (.write found.written tree) with
      | (.error f, s) => (.error (conversionFault Pandoc.treeFormat Pandoc.htmlFormat f), s)
      | (.ok html, s) =>
        match Html.parse html with
        | .ok nodes => (.ok nodes, s)
        | .error r => (.error (.markup r), s)

def blockCount : Json → Nat
  | .object members =>
    match members.lookup (.text "blocks") with
    | some (.array blocks) => blocks.length
    | _ => 0
  | _ => 0

def treeRecord (tree : Json) : LogRecord :=
  ⟨.debug, logSource,
    "Parsed markdown tree with " ++ toString (blockCount tree) ++ " top-level blocks"⟩

/-- The tree of a Markdown text. -/
def readTree (pandoc : Pandoc) (markdown : String) (s : Session) : Except RenderFault Json × Session :=
  match s.ask pandoc (.read markdown) with
  | (.error f, s) => (.error (conversionFault Pandoc.markdownFormat Pandoc.treeFormat f), s)
  | (.ok text, s) =>
    match Json.parse text with
    | .ok tree => (.ok tree, s)
    | .error f => (.error (.json f), s)

/-- The body of a text without front matter. -/
def body (pandoc : Pandoc) (markdown : String) (s : Session) : Except RenderFault String × Session :=
  match readTree pandoc markdown s with
  | (.error f, s) => (.error f, s)
  | (.ok tree, s) =>
    match Pandoc.title tree with
    | .error f => (.error (.tree f), s)
    | .ok title =>
      match lower pandoc tree ({ s with title := some title }.log (treeRecord tree)) with
      | (.error f, s) => (.error f, s)
      | (.ok nodes, s) =>
        let (nodes, records) := postprocess nodes
        (.ok (Html.print nodes), s.logAll records)

end Render

/-- The body of a text. Its front matter and title stay in the session. -/
def render (pandoc : Pandoc) (text : String) (s : Session) : Except RenderFault String × Session :=
  match FrontMatter.extract text.toList with
  | .error f => (.error (.frontMatter f), s)
  | .ok extracted =>
    Render.body pandoc (String.ofList extracted.body)
      ({ s with frontMatter := some extracted.frontMatter }.logAll extracted.logs)

/-- The whole document of a text, on a fresh front matter and title. -/
def convertText (pandoc : Pandoc) (options : ConversionOptions) (text : String) (s : Session) :
    Except RenderFault CodeText × Session :=
  match render pandoc text { s with frontMatter := none, title := none } with
  | (.error f, s) => (.error f, s)
  | (.ok body, s) =>
    let metadata := (s.frontMatter.getD .empty).metadata
    (.ok (Document.around body (s.title.getD "") metadata options), s)

end CmsMarkup
