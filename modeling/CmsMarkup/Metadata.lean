import CmsMarkup.Html.Printer
import CmsMarkup.Value

/-! Metadata of a document and its meta elements. -/

namespace CmsMarkup

/-- The three fields a page shows; one that a document does not give is null. -/
structure Metadata where
  description : Value
  keywords : Value
  author : Value
  deriving Repr

namespace Metadata

def empty : Metadata := ⟨.null, .null, .null⟩

def ofEntries (entries : List (Value × Value)) : Metadata :=
  let field (key : String) := (Value.field? key entries).getD .null
  ⟨field "description", field "keywords", field "author"⟩

/-- Escapes a text for a value between double quotes. -/
def escapeValue (cs : List Char) : List Char :=
  (Html.escape cs).flatMap fun c =>
    if c = '"' then "&quot;".toList
    else if c = '\'' then "&#x27;".toList
    else [c]

def tag (name : String) (content : String) : String :=
  "<meta name=\"" ++ name ++ "\" content=\"" ++ String.ofList (escapeValue content.toList) ++ "\">"

def keywordText : Value → String
  | .list items => ", ".intercalate (items.map Value.shown)
  | .pair first second => first.shown ++ ", " ++ second.shown
  | v => v.shown

/-- Meta elements of the fields that are there, in a fixed order. -/
def tags (m : Metadata) : String :=
  let present (v : Value) (name text : String) := if v.isAbsent then [] else [tag name text]
  "\n".intercalate
    (present m.description "description" m.description.shown ++
      present m.keywords "keywords" (keywordText m.keywords) ++
      present m.author "author" m.author.shown)

end Metadata

end CmsMarkup
