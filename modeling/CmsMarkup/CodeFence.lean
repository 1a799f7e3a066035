import CmsMarkup.Html.Node

/-! Languages of fenced code. Lowering leaves the language of a fenced block, and the
mark that tells it from raw HTML, on `pre`; the language belongs on `code`. -/

namespace CmsMarkup.CodeFence

open Html

def mark : String := "data-fence"

def languageClass (language : String) : String :=
  let lead := "language-"
  if lead.toList.isPrefixOf language.toList then language else lead ++ language

/-- Gives a class to the first direct `code` child. None if there is no such child or it
has classes of its own. -/
def labelCode (label : String) : List Node → Option (List Node)
  | [] => none
  | .element number "code" attributes children :: rest =>
    if (Attribute.classes attributes).isEmpty then
      some (.element number "code" (Attribute.setClasses [label] attributes) children :: rest)
    else none
  | n :: rest => (labelCode label rest).map (n :: ·)

/-- Moves the first class of a marked `pre` to its code. -/
def moved (attributes : List Attribute) (children : List Node) : List Attribute × List Node :=
  match Attribute.classes attributes with
  | [] => (attributes, children)
  | language :: others =>
    match labelCode (languageClass language) children with
    | none => (attributes, children)
    | some children =>
      (if others.isEmpty then Attribute.remove "class" attributes
        else Attribute.setClasses others attributes, children)

mutual

def normalizeNode : Node → Node
  | .text kind s => .text kind s
  | .element number name attributes children =>
    let children := normalizeNodes children
    if name == "pre" && (Attribute.find? mark attributes).isSome then
      let (attributes, children) := moved (Attribute.remove mark attributes) children
      .element number name attributes children
    else .element number name attributes children

def normalizeNodes : List Node → List Node
  | [] => []
  | n :: rest => normalizeNode n :: normalizeNodes rest

end

end CmsMarkup.CodeFence
