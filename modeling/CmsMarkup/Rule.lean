import CmsMarkup.Convention
import CmsMarkup.Log
import CmsMarkup.Slug

/-! The four rules of the target system. An element falls under at most one: a
heading gets an id, a table a wrapper, an image becomes a media item, and code has its
language and its leading text set right. -/

namespace CmsMarkup

open Html

inductive RuleKind where
  | heading
  | table
  | image
  | code
  deriving DecidableEq, Repr

namespace RuleKind

def label : RuleKind → String
  | .heading => "heading"
  | .table => "table"
  | .image => "image"
  | .code => "code"

/-- A heading without children is left alone. -/
def ofElement? (name : String) (children : List Node) : Option RuleKind :=
  if Convention.headingNames.contains name then
    if children.isEmpty then none else some .heading
  else if name == "table" then some .table
  else if name == "img" then some .image
  else if name == "code" then some .code
  else none

def of? : Node → Option RuleKind
  | .text .. => none
  | .element _ name _ children => ofElement? name children

end RuleKind

namespace Rule

def wrapTable (table : Node) : Node :=
  .element none "div" [⟨"class", Convention.tableWrapperClass⟩] [table]

/-- The media item of an image with this alternative text, in its two wrappers. -/
def grid (alt : String) : Node :=
  .element none "div" [⟨"class", Convention.gridClass⟩]
    [.element none "div" [⟨"class", Convention.galleryClass⟩]
      [.element none Convention.mediaName
        (⟨"alt", alt⟩ :: ⟨"title", alt⟩ :: Convention.mediaAttributes) []]]

/-- The first class with another language name in the system takes the place of all. -/
def codeAttributes (attributes : List Attribute) : List Attribute :=
  match (Attribute.classes attributes).findSome? (Convention.codeLanguages.lookup ·) with
  | some language => Attribute.setClasses [language] attributes
  | none => attributes

/-- Strips the text that comes first; what changes is plain text from then on. -/
def stripLeading : List Node → List Node
  | .text kind s :: rest =>
    if kind == .comment || strip s == s then .text kind s :: rest
    else .text .plain (strip s) :: rest
  | nodes => nodes

/-- The element that a rule makes of an element with the given `children`. `source` are
the children as they stood when the rule was reached; a heading id is read off them. -/
def result (number : Option Nat) (name : String) (attributes : List Attribute)
    (source children : List Node) : RuleKind → Node
  | .heading =>
    .element number name
      (Attribute.set "id" (headingId (Node.visibleTexts source)) attributes) children
  | .table =>
    wrapTable (.element number name
      (Attribute.set "class" Convention.tableClass attributes) children)
  | .image => grid ((Attribute.find? "alt" attributes).getD "")
  | .code => .element number name (codeAttributes attributes) (stripLeading children)

mutual

/-- Applies the rules from the outside in, and lists the rules in the order they were
applied. What a rule builds is not visited again. -/
def fixNode : Node → Node × List RuleKind
  | .text kind s => (.text kind s, [])
  | .element number name attributes children =>
    let (inner, kinds) := fixNodes children
    match RuleKind.ofElement? name children with
    | some kind => (result number name attributes children inner kind, kind :: kinds)
    | none => (.element number name attributes inner, kinds)

def fixNodes : List Node → List Node × List RuleKind
  | [] => ([], [])
  | n :: rest =>
    let (n, kinds) := fixNode n
    let (rest, more) := fixNodes rest
    (n :: rest, kinds ++ more)

end

def source : String := "md2drupal.markdown.postprocessors.cms_fixup"

/-- The record of how often each rule was applied, by name; none without a rule. -/
def record (kinds : List RuleKind) : List LogRecord :=
  let counts := [RuleKind.code, .heading, .image, .table].filterMap fun kind =>
    let n := kinds.count kind
    if n = 0 then none else some (kind.label ++ "=" ++ toString n)
  if counts.isEmpty then []
  else [⟨.debug, source, "CMS fixup applied: " ++ ", ".intercalate counts⟩]

end Rule

def fixup (nodes : List Node) : List Node × List LogRecord :=
  let (nodes, kinds) := Rule.fixNodes nodes
  (nodes, Rule.record kinds)

end CmsMarkup
