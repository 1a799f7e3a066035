import CmsMarkup.Metadata
import CmsMarkup.Text.CodeText

/-! Whole documents around a body. -/

namespace CmsMarkup

structure ConversionOptions where
  /-- Link the style sheet for Markdown and mark the body for it. -/
  includeCss : Bool
  deriving DecidableEq, Repr

namespace Document

def defaultTitle : String := "Converted HTML"

def cssUrl : String :=
  "https://cdnjs.cloudflare.com/ajax/libs/github-markdown-css/5.8.1/github-markdown.min.css"

def padding : String := "1.5em"

def cssLink : String := "<link rel=\"stylesheet\" href=\"" ++ cssUrl ++ "\">"

def cssStyle : String := "<style>body \x7bpadding: " ++ padding ++ ";\x7d</style>"

/-- An empty title gives way to the default one. -/
def titleTag (title : String) : String :=
  let title := if title.isEmpty then defaultTitle else title
  "<title>" ++ String.ofList (Html.escape title.toList) ++ "</title>"

/-- The lines before the title. -/
def opening : List String := ["<!DOCTYPE html>", "<html>", "<head>", "<meta charset=\"utf-8\">"]

/-- The lines behind the title. Those of fields and styles that are not there stay empty. -/
def ending (body : String) (metadata : Metadata) (options : ConversionOptions) : List String :=
  let css (s : String) := if options.includeCss then s else ""
  [metadata.tags, css cssLink, css cssStyle, "</head>",
   "<body" ++ css " class=\"markdown-body\"" ++ ">", body, "</body>", "</html>"]

/-- The lines of a document. -/
def lines (body title : String) (metadata : Metadata) (options : ConversionOptions) :
    List String :=
  opening ++ titleTag title :: ending body metadata options

def assemble (body title : String) (metadata : Metadata) (options : ConversionOptions) : String :=
  "\n".intercalate (lines body title metadata options)

/-! ### Titles with surrogates -/

/-- The title tag for a text of code points. A surrogate has nothing to escape. -/
def titleCode (title : CodeText) : CodeText :=
  let title := if title.isEmpty then (defaultTitle : CodeText) else title
  "<title>" ++ title.mapTexts (fun s => String.ofList (Html.escape s.toList)) ++ "</title>"

/-- The document around a body, for a title of code points. -/
def around (body : String) (title : CodeText) (metadata : Metadata) (options : ConversionOptions) :
    CodeText :=
  CodeText.intercalate "\n" (opening.map .text ++ titleCode title ::
    (ending body metadata options).map .text)

theorem titleCode_text (title : String) : titleCode title = titleTag title := by
  by_cases h : title.isEmpty = true
  · simp [titleCode, titleTag, CodeText.isEmpty, CodeText.mapTexts, h]
  · simp [titleCode, titleTag, CodeText.isEmpty, CodeText.mapTexts, h]

/-- For a title without surrogates it is the document of characters. -/
theorem around_text (body title : String) (metadata : Metadata) (options : ConversionOptions) :
    around body title metadata options = assemble body title metadata options := by
  rw [around, titleCode_text, ← List.map_cons, ← List.map_append, CodeText.intercalate_text]
  rfl

end Document

end CmsMarkup
