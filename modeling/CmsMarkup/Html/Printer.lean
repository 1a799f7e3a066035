import CmsMarkup.Html.Tree

/-! Trees as text, attributes in their own order. -/

namespace CmsMarkup.Html

def escapeChar (c : Char) : List Char :=
  if c = '&' then ['&', 'a', 'm', 'p', ';']
  else if c = '<' then ['&', 'l', 't', ';']
  else if c = '>' then ['&', 'g', 't', ';']
  else [c]

def escape (cs : List Char) : List Char := cs.flatMap escapeChar

/-- A value between double quotes, or between single ones when it holds double quotes
only; of both kinds, the double ones become references. -/
def quoteValue (cs : List Char) : List Char :=
  if !cs.contains '"' then '"' :: cs ++ ['"']
  else if !cs.contains '\'' then '\'' :: cs ++ ['\'']
  else '"' :: cs.flatMap (fun c => if c = '"' then ['&', 'q', 'u', 'o', 't', ';'] else [c]) ++ ['"']

namespace Charset

def label : List Char := ['u', 't', 'f', '-', '8']

def key : List Char := ['c', 'h', 'a', 'r', 's', 'e', 't', '=']

/-- Every charset that a content value declares, at the start of a line or behind a blank
or semicolon, is set to UTF-8. `k` characters are copied before the next is looked at;
after a key all characters up to a semicolon are dropped. -/
def relabelFrom (k : Nat) (dropping lineStart : Bool) : List Char → List Char
  | [] => []
  | c :: cs =>
    match k with
    | k + 1 => c :: (if k == 0 && dropping then label else []) ++ relabelFrom k dropping false cs
    | 0 =>
      if dropping && c != ';' then relabelFrom 0 true false cs
      else if lineStart && (c :: cs).take 8 == key then
        c :: relabelFrom 7 true false cs
      else if (isBlank c || c == ';') && cs.take 8 == key then
        c :: relabelFrom 8 true false cs
      else c :: relabelFrom 0 false (c == '\n') cs

def relabel (s : String) : String :=
  String.ofList (relabelFrom 0 false true s.toList)

end Charset

/-- The value an attribute is printed with: the document is declared to be UTF-8, whatever
its meta elements say. -/
def printedValue (element : String) (attributes : List Attribute) (a : Attribute) : String :=
  if element != "meta" then a.value
  else
    match Attribute.find? "charset" attributes, Attribute.find? "http-equiv" attributes with
    | some _, _ => if a.name == "charset" then "utf-8" else a.value
    | none, some equiv =>
      if a.name == "content" && lowercase equiv.toList == "content-type".toList then
        Charset.relabel a.value
      else a.value
    | none, none => a.value

def printAttribute (element : String) (attributes : List Attribute) (a : Attribute) : List Char :=
  ' ' :: a.name.toList ++ '=' :: quoteValue (escape (printedValue element attributes a).toList)

/-- The text of a script or style is printed as it is. -/
def isRawParent (name : String) : Bool := name == "script" || name == "style"

def printText (raw : Bool) (kind : TextKind) (content : String) : List Char :=
  let cs := content.toList
  match kind with
  | .comment => "<!--".toList ++ cs ++ "-->".toList
  | .cdata => "<![CDATA[".toList ++ cs ++ "]]>".toList
  | .instruction => "<?".toList ++ cs ++ ">".toList
  | .declaration => "<?".toList ++ cs ++ "?>".toList
  | .doctype => "<!DOCTYPE ".toList ++ cs ++ ">\n".toList
  | _ => if raw then cs else escape cs

mutual

def printNode (raw : Bool) : Node → List Char
  | .text kind content => printText raw kind content
  | .element _ name attributes children =>
    let tag := '<' :: name.toList ++ attributes.flatMap (printAttribute name attributes)
    if isVoid name && children.isEmpty then tag ++ ['/', '>']
    else
      tag ++ '>' :: printNodes (isRawParent name) children ++ '<' :: '/' :: name.toList ++ ['>']

def printNodes (raw : Bool) : List Node → List Char
  | [] => []
  | n :: rest => printNode raw n ++ printNodes raw rest

end

/-- The text of a tree, without blanks at its ends. -/
def print (nodes : List Node) : String :=
  strip (String.ofList (printNodes false nodes))

end CmsMarkup.Html
