import CmsMarkup.Html.Token

/-! From tokens to a tree, as Beautiful Soup 4.15.0 builds it. Nothing is closed by implication: an
end tag closes the elements up to the nearest open one of its name, and is void without one. -/

namespace CmsMarkup.Html

/-- Elements that never have content. -/
def voidNames : List String :=
  ["area", "base", "br", "col", "embed", "hr", "img", "input", "keygen", "link", "menuitem",
   "meta", "param", "source", "track", "wbr", "basefont", "bgsound", "command", "frame",
   "image", "isindex", "nextid", "spacer"]

def isVoid (name : String) : Bool := voidNames.contains name

/-- Attributes that hold a list of words, on every element or on some. -/
def isWordList (element key : String) : Bool :=
  key ∈ ["class", "accesskey", "dropzone"] ||
    (element, key) ∈
      [("a", "rel"), ("a", "rev"), ("link", "rel"), ("link", "rev"), ("td", "headers"),
       ("th", "headers"), ("form", "accept-charset"), ("object", "archive"), ("area", "rel"),
       ("icon", "sizes"), ("iframe", "sandbox"), ("output", "for")]

/-- Word lists are kept with one space between their words. -/
def Attribute.normalized (element : String) (a : Attribute) : Attribute :=
  if isWordList element a.name then ⟨a.name, " ".intercalate (words a.value)⟩ else a

structure OpenElement where
  name : String
  attributes : List Attribute
  /-- The children so far, the last one first. -/
  children : List Node

/-- A tree under construction: the open elements, innermost first, the finished nodes
outside them, the characters of the text that goes on, and the void elements whose end
tags may still come. Nodes and characters stand in reverse. -/
structure Construction where
  opened : List OpenElement
  finished : List Node
  pending : List Char
  endsToCome : List String

namespace Construction

def empty : Construction := ⟨[], [], [], []⟩

def add (n : Node) (c : Construction) : Construction :=
  match c.opened with
  | [] => { c with finished := n :: c.finished }
  | e :: outer => { c with opened := { e with children := n :: e.children } :: outer }

/-- The innermost element that keeps its text to itself decides the kind of plain text. -/
def textKind : List OpenElement → TextKind
  | [] => .plain
  | e :: outer =>
    if e.name == "rt" then .rubyText
    else if e.name == "rp" then .rubyParenthesis
    else if e.name == "style" then .stylesheet
    else if e.name == "script" then .script
    else if e.name == "template" then .template
    else textKind outer

def isAsciiBlank (c : Char) : Bool := c ∈ [' ', '\n', '\t', '\x0c', '\r']

/-- Text of nothing but white space shrinks to a line end or a space, unless an element
that preserves white space is open. -/
def shrink (opened : List OpenElement) (cs : List Char) : List Char :=
  if cs.all isAsciiBlank && !opened.any (fun e => e.name == "pre" || e.name == "textarea") then
    if cs.contains '\n' then ['\n'] else [' ']
  else cs

/-- Ends the text that goes on, if there is any. -/
def flush (c : Construction) : Construction :=
  if c.pending.isEmpty then c
  else
    { c with pending := [] }.add
      (.text (textKind c.opened) (String.ofList (shrink c.opened c.pending.reverse)))

/-- Closes the innermost element. -/
def closeOne (c : Construction) : Construction :=
  match c.opened with
  | [] => c
  | e :: outer => { c with opened := outer }.add (.element none e.name e.attributes e.children.reverse)

def closeMany : Nat → Construction → Construction
  | 0, c => c
  | n + 1, c => closeMany n c.closeOne

/-- Closes the elements up to the nearest one of this name. -/
def close (name : String) (c : Construction) : Construction :=
  match c.opened.findIdx? (·.name == name) with
  | none => c
  | some i => closeMany (i + 1) c

/-- A void element is closed at its start tag, with a slash or without one, so it never has content.
Its end tag may come later and is taken without ending the text around it.

A slashed tag closes its own element here, also when an end tag of that name is still to come:
`<br>x<br/>y` has two elements with a text behind each. Earlier releases took the slash for that end
tag and left the second element open. -/
def step (c : Construction) : Token → Construction
  | .character ch => { c with pending := ch :: c.pending }
  | .special kind content =>
    let c := c.flush
    c.add (.text kind (String.ofList (shrink c.opened content)))
  | .startTag name attributes selfClosing =>
    let c := c.flush
    let c := { c with opened := ⟨name, attributes.map (.normalized name), []⟩ :: c.opened }
    if isVoid name then
      let c := c.closeOne
      if selfClosing then c else { c with endsToCome := name :: c.endsToCome }
    else if selfClosing then c.closeOne
    else c
  | .endTag name =>
    if c.endsToCome.contains name then { c with endsToCome := c.endsToCome.erase name }
    else c.flush.close name

def finish (c : Construction) : List Node :=
  let c := c.flush
  (closeMany c.opened.length c).finished.reverse

end Construction

def treeOfTokens (tokens : List Token) : List Node :=
  (tokens.foldl Construction.step .empty).finish

/-- The top nodes of a text read as HTML. -/
def parse (text : String) : Except Refusal (List Node) :=
  (Token.ofChars text.toList).map treeOfTokens

/-- The top nodes of a text that is read. -/
def parse? (text : String) : Option (List Node) := (parse text).toOption

theorem parse?_eq_some_iff {text : String} {nodes : List Node} :
    parse? text = some nodes ↔
      ∃ tokens, Token.ofChars text.toList = .ok tokens ∧ treeOfTokens tokens = nodes := by
  rw [parse?, parse]
  cases Token.ofChars text.toList <;> simp [Except.map, Except.toOption]

end CmsMarkup.Html
