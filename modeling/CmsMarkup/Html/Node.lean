import CmsMarkup.Text.Blank

/-! HTML trees. Text nodes keep the kind of string they came from; an element may carry
a number that names it through every change. -/

namespace CmsMarkup.Html

/-- `plain` text, the special strings of markup, and the text found below the elements
that keep their text to themselves. -/
inductive TextKind where
  | plain
  | comment
  | cdata
  | instruction
  | declaration
  | doctype
  | script
  | stylesheet
  | template
  | rubyText
  | rubyParenthesis
  deriving DecidableEq, Repr

structure Attribute where
  name : String
  value : String
  deriving DecidableEq, Repr

inductive Node where
  | text (kind : TextKind) (content : String)
  | element (number : Option Nat) (name : String) (attributes : List Attribute)
      (children : List Node)
  deriving Repr

namespace Attribute

def find? (name : String) : List Attribute → Option String
  | [] => none
  | a :: rest => if a.name == name then some a.value else find? name rest

/-- Gives a name its value, in its old place if it has one and else at the end. -/
def set (name value : String) : List Attribute → List Attribute
  | [] => [⟨name, value⟩]
  | a :: rest => if a.name == name then ⟨name, value⟩ :: rest else a :: set name value rest

def remove (name : String) (attributes : List Attribute) : List Attribute :=
  attributes.filter fun a => a.name != name

/-- The words of the class attribute. -/
def classes (attributes : List Attribute) : List String :=
  words ((find? "class" attributes).getD "")

def setClasses (names : List String) (attributes : List Attribute) : List Attribute :=
  set "class" (" ".intercalate names) attributes

end Attribute

namespace Node

def isElement : Node → Bool
  | .text .. => false
  | .element .. => true

def hasName (name : String) : Node → Bool
  | .text .. => false
  | .element _ n _ _ => n == name

/-- A string that is nothing but white space, of whatever kind. -/
def isBlankText : Node → Bool
  | .text _ s => s.toList.all isBlank
  | .element .. => false

mutual

/-- The text a reader sees: plain strings and character data sections. -/
def visibleText : Node → String
  | .text kind s => if kind = .plain ∨ kind = .cdata then s else ""
  | .element _ _ _ children => visibleTexts children

def visibleTexts : List Node → String
  | [] => ""
  | n :: rest => visibleText n ++ visibleTexts rest

end

mutual

/-- The elements of a tree in document order, each before those inside it. -/
def elements : Node → List Node
  | .text .. => []
  | .element number name attributes children =>
    .element number name attributes children :: elementsOf children

def elementsOf : List Node → List Node
  | [] => []
  | n :: rest => elements n ++ elementsOf rest

end

mutual

/-- Numbers the elements in document order from `k` on, and gives the next free number. -/
def numbered (k : Nat) : Node → Node × Nat
  | .text kind s => (.text kind s, k)
  | .element _ name attributes children =>
    let (children, next) := numberedFrom (k + 1) children
    (.element (some k) name attributes children, next)

def numberedFrom (k : Nat) : List Node → List Node × Nat
  | [] => ([], k)
  | n :: rest =>
    let (n, next) := numbered k n
    let (rest, last) := numberedFrom next rest
    (n :: rest, last)

end

end Node

end CmsMarkup.Html
