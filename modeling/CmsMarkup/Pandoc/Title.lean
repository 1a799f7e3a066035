import CmsMarkup.Pandoc.Tree

/-! The title of a document: the text of its first heading, in blocks of any depth. -/

namespace CmsMarkup.Pandoc

/-! ### The first heading -/

/-- Where the blocks inside the content of a block stand. -/
inductive Reach where
  | blocks
  | item (i : Nat) (r : Reach)
  | each (r : Reach)
  /-- The second part of a pair. -/
  | second (r : Reach)
  deriving DecidableEq, Repr

def reaches : List (String × Reach) :=
  [("BlockQuote", .blocks), ("Div", .item 1 .blocks), ("BulletList", .each .blocks),
   ("OrderedList", .item 1 (.each .blocks)), ("DefinitionList", .each (.second (.each .blocks))),
   ("Figure", .item 2 .blocks)]

/-- The members of the heading that a search found. -/
abbrev Search := Except TreeFault (Option (List (CodeText × Json)))

/-- A text in the place of a sequence stands for its code points, so many texts of one each, and
none of them is a block. -/
def searchText : Reach → Nat → Except TreeFault Unit
  | .blocks, 0 => .ok ()
  | .blocks, _ + 1 => .error .notObject
  | .item i r, count => if i < count then searchText r 1 else .error .tooShort
  | .each _, 0 => .ok ()
  | .each r, _ + 1 => searchText r 1
  | .second r, count => if count = 2 then searchText r 1 else .error (.notPair count)

/-- An object in the place of a sequence stands for its keys. -/
def searchKeys (keys : List CodeText) : Reach → Except TreeFault Unit
  | .blocks => if keys.isEmpty then .ok () else .error .notObject
  | .item .. => .error .noMember
  | .each r => keys.forM fun key => searchText r key.length
  | .second r =>
    match keys with
    | [_, key] => searchText r key.length
    | _ => .error (.notPair keys.length)

mutual

def search (r : Reach) : Json → Search
  | .array items =>
    match r with
    | .blocks => searchBlocks items
    | .item i r => searchItem r i items
    | .each r => searchEach r items
    | .second r =>
      if items.length = 2 then searchItem r 1 items else .error (.notPair items.length)
  | .string s => (searchText r s.length).map fun _ => none
  | .object members => (searchKeys (members.map (·.1)) r).map fun _ => none
  | _ => .error .wrongType

def searchItem (r : Reach) (i : Nat) : List Json → Search
  | [] => .error .tooShort
  | v :: rest =>
    match i with
    | 0 => search r v
    | i + 1 => searchItem r i rest

def searchEach (r : Reach) : List Json → Search
  | [] => .ok none
  | v :: rest =>
    match search r v with
    | .ok none => searchEach r rest
    | found => found

def searchBlocks : List Json → Search
  | [] => .ok none
  | v :: rest =>
    match searchBlock v with
    | .ok none => searchBlocks rest
    | found => found

def searchBlock : Json → Search
  | .object members =>
    match kindOf? members with
    | some kind =>
      if kind == "Header" then .ok (some members)
      else
        match reaches.lookup kind with
        | some r => searchContent r members
        | none => .ok none
    | none => .ok none
  | _ => .error .notObject

def searchContent (r : Reach) : List (CodeText × Json) → Search
  | [] => .error .wrongType
  | (key, v) :: rest => if key == "c" then search r v else searchContent r rest

end

/-! ### The text of inline elements -/

/-- Where the elements inside an inline element stand. -/
inductive Inside where
  | whole
  | second
  | quoted
  deriving DecidableEq, Repr

def insides : List (String × Inside) :=
  [("Emph", .whole), ("Underline", .whole), ("Strong", .whole), ("Strikeout", .whole),
   ("Superscript", .whole), ("Subscript", .whole), ("SmallCaps", .whole), ("Link", .second),
   ("Span", .second), ("Cite", .second), ("Quoted", .quoted)]

/-- The quote mark that a pair of quoted content names. -/
def quoteMark (content : Json) : Except TreeFault String := do
  match ← itemAt 0 content with
  | .object members =>
    match ← memberOf "t" members with
    | .string kind => return if kind == "SingleQuote" then "'" else "\""
    | .array _ => throw .wrongType
    | .object _ => throw .wrongType
    | _ => return "\""
  | _ => throw .wrongType

/-- Pieces of text; what should be a text is one only when they are joined. -/
abbrev Pieces := Except TreeFault (List Json)

def contentOf (members : List (CodeText × Json)) : Json := (members.lookup (.text "c")).getD .null

mutual

def pieces : Json → Pieces
  | .array items => piecesOf items
  | .string s => if s.isEmpty then .ok [] else .error .notObject
  | .object members => if members.isEmpty then .ok [] else .error .notObject
  | _ => .error .wrongType

def piecesOf : List Json → Pieces
  | [] => .ok []
  | v :: rest => do
    let first ← piecesIn v
    let more ← piecesOf rest
    return first ++ more

/-- Images, notes, formulas and raw markup have no text. -/
def piecesIn : Json → Pieces
  | .object members =>
    match members.lookup (.text "t") with
    | some (.string (.text kind)) =>
      if kind == "Str" then .ok [contentOf members]
      else if kind == "Space" || kind == "SoftBreak" then .ok [.string " "]
      else if kind == "LineBreak" then .ok [.string "\n"]
      else if kind == "Code" then (itemAt 1 (contentOf members)).map fun v => [v]
      else
        match insides.lookup kind with
        | some inside => piecesInside inside members
        | none => .ok []
    | some (.array _) => .error .wrongType
    | some (.object _) => .error .wrongType
    | _ => .ok []
  | _ => .error .notObject

def piecesInside (inside : Inside) : List (CodeText × Json) → Pieces
  | [] => .error .wrongType
  | (key, v) :: rest =>
    if key == "c" then
      match inside with
      | .whole => pieces v
      | .second => secondPieces v
      | .quoted => do
        let mark ← quoteMark v
        let quoted ← secondPieces v
        return .string mark :: quoted ++ [.string mark]
    else piecesInside inside rest

def secondPieces : Json → Pieces
  | .array items => piecesAt 1 items
  | .string s => if s.length < 2 then .error .tooShort else .error .notObject
  | .object _ => .error .noMember
  | _ => .error .wrongType

def piecesAt (i : Nat) : List Json → Pieces
  | [] => .error .tooShort
  | v :: rest =>
    match i with
    | 0 => pieces v
    | i + 1 => piecesAt i rest

end

def joined : List Json → Except TreeFault CodeText
  | [] => .ok ""
  | .string s :: rest => (joined rest).map (s ++ ·)
  | _ :: _ => .error .wrongType

/-- The text of a heading's inline elements. -/
def headingText (members : List (CodeText × Json)) : Except TreeFault CodeText := do
  let inlines ← itemAt 2 (← memberOf "c" members)
  joined (← pieces inlines)

def blocksOf (members : List (CodeText × Json)) : Json :=
  (members.lookup (.text "blocks")).getD (.array [])

/-- The title of a document; empty if it has no heading. -/
def title : Json → Except TreeFault CodeText
  | .object members => do
    match ← search .blocks (blocksOf members) with
    | some heading => headingText heading
    | none => return ""
  | _ => .error .notObject

end CmsMarkup.Pandoc
