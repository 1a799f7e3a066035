import CmsMarkup.Log
import CmsMarkup.Metadata
import CmsMarkup.Text.Blank
import CmsMarkup.Yaml.Content

/-! Front matter: a block of YAML between two boundary lines at the beginning of a text. -/

namespace CmsMarkup

inductive Keywords where
  | text (s : String)
  | list (items : List String)
  deriving DecidableEq, Repr

/-- The fields that a page shows, each of them a text that is not empty. -/
structure FrontMatter where
  description : Option String
  keywords : Option Keywords
  author : Option String
  deriving DecidableEq, Repr

namespace FrontMatter

def empty : FrontMatter := ⟨none, none, none⟩

/-! ### The block -/

/-- The end of a boundary behind its hyphens: blanks up to the last line end among them, or
up to the end of the text. -/
def boundaryEnd (cs : List Char) : Option (List Char) :=
  match cs.span isBlank with
  | (_, []) => some []
  | (blanks, rest) =>
    match blanks.reverse.span (· != '\n') with
    | (_, []) => none
    | (last, _) => some ('\n' :: last.reverse ++ rest)

/-- A boundary is a line of at least three hyphens. The result is the text behind it. -/
def boundary? (cs : List Char) : Option (List Char) :=
  if (cs.takeWhile (· == '-')).length < 3 then none else boundaryEnd (cs.dropWhile (· == '-'))

/-- The text before the next boundary, and the text behind it. -/
def cut : List Char → Option (List Char × List Char)
  | [] => none
  | c :: cs =>
    match if c = '\n' then boundary? cs else none with
    | some rest => some ([c], rest)
    | none => (cut cs).map fun (before, rest) => (c :: before, rest)

inductive Split where
  | absent
  | unterminated
  | block (content body : List Char)
  deriving DecidableEq, Repr

def split (cs : List Char) : Split :=
  match boundary? cs with
  | none => .absent
  | some rest =>
    match cut rest with
    | none => .unterminated
    | some (content, body) => .block content body

/-! ### The fields -/

def textField (v : Value) : Option String :=
  match v with
  | .null => none
  | v => if v.shown.isEmpty then none else some v.shown

def keywordItems (items : List Value) : List String :=
  (items.filter fun v => match v with | .null => false | _ => true).map Value.shown

def keywordField (v : Value) : Option Keywords :=
  match v with
  | .list items => if (keywordItems items).isEmpty then none else some (.list (keywordItems items))
  | v => (textField v).map .text

def fieldOf (entries : List (Value × Value)) (key : String) : Value :=
  (Value.field? key entries).getD .null

def ofEntries (entries : List (Value × Value)) : FrontMatter :=
  ⟨textField (fieldOf entries "description"), keywordField (fieldOf entries "keywords"),
    textField (fieldOf entries "author")⟩

/-- Whether the values of the fields can all be turned into texts. -/
def isWritable (entries : List (Value × Value)) : Bool :=
  ["description", "keywords", "author"].all fun key => (fieldOf entries key).isWritable

def fieldNames (m : FrontMatter) : List String :=
  (if m.description.isSome then ["description"] else []) ++
    (if m.keywords.isSome then ["keywords"] else []) ++
    (if m.author.isSome then ["author"] else [])

def metadata (m : FrontMatter) : Metadata :=
  let text (s : Option String) : Value := (s.map Value.text).getD .null
  let keywords : Value :=
    match m.keywords with
    | none => .null
    | some (.text s) => .text s
    | some (.list items) => .list (items.map Value.text)
  ⟨text m.description, keywords, text m.author⟩

/-! ### Reading -/

def logSource : String := "md2drupal.markdown.preprocessors.front_matter"

def unterminatedRecord : LogRecord :=
  ⟨.debug, logSource, "Unterminated front matter block, rendering it as Markdown"⟩

def malformedRecord : LogRecord :=
  ⟨.warning, logSource, "Failed to parse YAML front matter, ignoring it: <yaml error>"⟩

def notMapRecord (v : Value) : LogRecord :=
  ⟨.warning, logSource, "Front matter must be a mapping, got " ++ v.kindName ++ "; ignoring it"⟩

def foundRecords (m : FrontMatter) : List LogRecord :=
  if m.fieldNames.isEmpty then []
  else [⟨.debug, logSource, "Front matter fields found: " ++ ", ".intercalate m.fieldNames⟩]

/-- The fields of a block. A block that is no YAML, or no map, is passed over; only a value
that YAML names and that does not exist, or is too long to be written, is a fault. -/
def ofBlock (content : List Char) : Except Yaml.Fault (FrontMatter × List LogRecord) :=
  match Yaml.read content with
  | .error .malformed => .ok (empty, [malformedRecord])
  | .error f => .error f
  | .ok .null => .ok (empty, [])
  | .ok (.map entries) =>
    if isWritable entries then .ok (ofEntries entries, foundRecords (ofEntries entries))
    else .error (.number .tooLongToWrite)
  | .ok v => .ok (empty, [notMapRecord v])

/-- A text apart from its front matter. -/
structure Extracted where
  frontMatter : FrontMatter
  body : List Char
  logs : List LogRecord
  deriving DecidableEq, Repr

def extract (cs : List Char) : Except Yaml.Fault Extracted :=
  match split cs with
  | .absent => .ok ⟨empty, cs, []⟩
  | .unterminated => .ok ⟨empty, cs, [unterminatedRecord]⟩
  | .block content body => (ofBlock content).map fun (m, logs) => ⟨m, body, logs⟩

end FrontMatter

end CmsMarkup
