import CmsMarkup.Convention
import CmsMarkup.Html.Printer
import CmsMarkup.Slug

/-! Tables of contents: the headings of a page as a forest, each below the nearest
earlier heading of a smaller level. -/

namespace CmsMarkup

open Html

structure Heading where
  level : Nat
  id : String
  title : String
  deriving DecidableEq, Repr

inductive TocEntry where
  | entry (level : Nat) (id title href : String) (children : List TocEntry)
  deriving Repr

namespace Heading

/-- The heading an element is, if it has a title. An empty id counts as none. -/
def ofNode? : Node → Option Heading
  | .text .. => none
  | .element _ name attributes children =>
    if Convention.headingNames.contains name then
      let text := Node.visibleTexts children
      let title := " ".intercalate (words text)
      if title.isEmpty then none
      else
        let given := (Attribute.find? "id" attributes).getD ""
        let level := (name.toList.getLast?.map fun c => c.toNat - 48).getD 0
        some ⟨level, if given.isEmpty then headingId text else given, title⟩
    else none

def listOf (nodes : List Node) : List Heading :=
  (Node.elementsOf nodes).filterMap ofNode?

end Heading

namespace TocEntry

def ofHeading (h : Heading) : TocEntry := .entry h.level h.id h.title ("#" ++ h.id) []

def level : TocEntry → Nat
  | .entry level .. => level

mutual

/-- Adds a heading below an entry, behind all that is there. -/
def insert (h : Heading) : TocEntry → TocEntry
  | .entry level id title href children => .entry level id title href (insertLast h children)

/-- Adds a heading to a forest: below the last tree if that has a smaller level. -/
def insertLast (h : Heading) : List TocEntry → List TocEntry
  | [] => [ofHeading h]
  | [e] => if level e < h.level then [insert h e] else [e, ofHeading h]
  | e :: f :: rest => e :: insertLast h (f :: rest)

end

mutual

/-- The list item of an entry: a link, and a list of the entries below it if any. -/
def item : TocEntry → Node
  | .entry _ _ title href children =>
    let link := Node.element none "a" [⟨"href", href⟩] [.text .plain title]
    .element none "li" [] (link :: if children.isEmpty then [] else [.element none "ul" [] (items children)])

def items : List TocEntry → List Node
  | [] => []
  | e :: rest => item e :: items rest

end

end TocEntry

def tocOfNodes (nodes : List Node) : List TocEntry :=
  (Heading.listOf nodes).foldl (fun forest h => TocEntry.insertLast h forest) []

/-- The table of contents of a page, or nothing when its text can not be read. -/
def tocOf? (html : String) : Option (List TocEntry) := (parse? html).map tocOfNodes

/-- Entries as nested lists of links; nothing for no entries. -/
def renderToc (entries : List TocEntry) : String :=
  if entries.isEmpty then ""
  else String.ofList (printNode false (.element none "ul" [] (TocEntry.items entries)))

end CmsMarkup
