import CmsMarkup.Pandoc.Tree

/-! Marks on the code blocks of a document, so that their elements can be told from raw HTML. -/

namespace CmsMarkup.Pandoc

def fencePair : Json := .array [.string "data-fence", .string "true"]

/-- The content of a code block begins with its id, classes and pairs. The mark is a new
last pair. -/
def markContent (content : Json) : Except TreeFault Json := do
  let attributes ← itemAt 0 content
  let pairs ← itemAt 2 attributes
  match content, attributes, pairs with
  | .array parts, .array fields, .array pairs =>
    return .array (parts.set 0 (.array (fields.set 2 (.array (pairs ++ [fencePair])))))
  | _, _, _ => throw .notList

def markCode (members : List (CodeText × Json)) : Except TreeFault (List (CodeText × Json)) := do
  let content ← markContent (← memberOf "c" members)
  return Json.put "c" content members

mutual

/-- Marks every code block; nothing is looked for inside one. -/
def mark : Json → Except TreeFault Json
  | .array items => (markItems items).map Json.array
  | .object members =>
    if kindOf? members == some "CodeBlock" then (markCode members).map Json.object
    else (markMembers members).map Json.object
  | v => .ok v

def markItems : List Json → Except TreeFault (List Json)
  | [] => .ok []
  | v :: rest => do
    let v ← mark v
    let rest ← markItems rest
    return v :: rest

def markMembers : List (CodeText × Json) → Except TreeFault (List (CodeText × Json))
  | [] => .ok []
  | (key, v) :: rest => do
    let v ← mark v
    let rest ← markMembers rest
    return (key, v) :: rest

end

def markDocument : Json → Except TreeFault Json
  | .object members =>
    match members.lookup (.text "blocks") with
    | some blocks => (mark blocks).map fun blocks => .object (Json.put "blocks" blocks members)
    | none => .ok (.object members)
  | _ => .error .notObject

end CmsMarkup.Pandoc
