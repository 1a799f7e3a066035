import CmsMarkup.Pandoc.Tree

/-! The document trees that Pandoc writes: blocks with inline elements in them, and their JSON. An
element is an object of its kind and its content; these stand in either order, and what has no content
has its kind alone. -/

namespace CmsMarkup.Pandoc

/-! ### Elements and what they are labelled with -/

/-- Which member of an element comes first. -/
inductive MemberOrder where
  | kindFirst
  | contentFirst
  deriving DecidableEq, Repr

def nodeMembers (order : MemberOrder) (kind : String) (content : Json) : List (CodeText × Json) :=
  match order with
  | .kindFirst => [("t", .string kind), ("c", content)]
  | .contentFirst => [("c", content), ("t", .string kind)]

def node (order : MemberOrder) (kind : String) (content : Json) : Json :=
  .object (nodeMembers order kind content)

def leaf (kind : String) : Json := .object [("t", .string kind)]

section node

variable (order : MemberOrder) (kind : String) (content : Json)

@[simp]
theorem kindOf?_nodeMembers : kindOf? (nodeMembers order kind content) = some kind := by
  cases order <;> rfl

@[simp]
theorem kindOf?_leaf : kindOf? [("t", .string kind)] = some kind := rfl

@[simp]
theorem lookup_kind_nodeMembers : (nodeMembers order kind content).lookup (.text "t") = some (.string kind) := by
  cases order <;> rfl

@[simp]
theorem lookup_content_nodeMembers : (nodeMembers order kind content).lookup (.text "c") = some content := by
  cases order <;> rfl

end node

structure Attributes where
  id : CodeText
  classes : List CodeText
  pairs : List (CodeText × CodeText)
  deriving DecidableEq, Repr

def pairJson (pair : CodeText × CodeText) : Json := .array [.string pair.1, .string pair.2]

def Attributes.toJson (a : Attributes) : Json :=
  .array [.string a.id, .array (a.classes.map .string), .array (a.pairs.map pairJson)]

structure Target where
  url : CodeText
  title : CodeText
  deriving DecidableEq, Repr

def Target.toJson (t : Target) : Json := .array [.string t.url, .string t.title]

/-- Inline elements that only style what is in them. -/
inductive Style where
  | emph
  | underline
  | strong
  | strikeout
  | superscript
  | subscript
  | smallCaps
  deriving DecidableEq, Repr

def Style.kind : Style → String
  | .emph => "Emph"
  | .underline => "Underline"
  | .strong => "Strong"
  | .strikeout => "Strikeout"
  | .superscript => "Superscript"
  | .subscript => "Subscript"
  | .smallCaps => "SmallCaps"

inductive QuoteType where
  | single
  | double
  deriving DecidableEq, Repr

def QuoteType.kind : QuoteType → String
  | .single => "SingleQuote"
  | .double => "DoubleQuote"

inductive MathType where
  | display
  | inline
  deriving DecidableEq, Repr

def MathType.kind : MathType → String
  | .display => "DisplayMath"
  | .inline => "InlineMath"

inductive CitationMode where
  | authorInText
  | suppressAuthor
  | normal
  deriving DecidableEq, Repr

def CitationMode.kind : CitationMode → String
  | .authorInText => "AuthorInText"
  | .suppressAuthor => "SuppressAuthor"
  | .normal => "NormalCitation"

inductive NumberStyle where
  | default
  | example
  | decimal
  | lowerRoman
  | upperRoman
  | lowerAlpha
  | upperAlpha
  deriving DecidableEq, Repr

def NumberStyle.kind : NumberStyle → String
  | .default => "DefaultStyle"
  | .example => "Example"
  | .decimal => "Decimal"
  | .lowerRoman => "LowerRoman"
  | .upperRoman => "UpperRoman"
  | .lowerAlpha => "LowerAlpha"
  | .upperAlpha => "UpperAlpha"

inductive NumberDelimiter where
  | default
  | period
  | oneParen
  | twoParens
  deriving DecidableEq, Repr

def NumberDelimiter.kind : NumberDelimiter → String
  | .default => "DefaultDelim"
  | .period => "Period"
  | .oneParen => "OneParen"
  | .twoParens => "TwoParens"

structure Numbering where
  start : Int
  style : NumberStyle
  delimiter : NumberDelimiter
  deriving DecidableEq, Repr

def Numbering.toJson (n : Numbering) : Json :=
  .array [.int n.start, leaf n.style.kind, leaf n.delimiter.kind]

inductive Alignment where
  | left
  | right
  | center
  | default
  deriving DecidableEq, Repr

def Alignment.kind : Alignment → String
  | .left => "AlignLeft"
  | .right => "AlignRight"
  | .center => "AlignCenter"
  | .default => "AlignDefault"

/-- The part of a line that a column takes up, as a whole number or by its text. -/
inductive ColumnWidth where
  | default
  | whole (order : MemberOrder) (n : Int)
  | fraction (order : MemberOrder) (text : String)
  deriving DecidableEq, Repr

def ColumnWidth.toJson : ColumnWidth → Json
  | .default => leaf "ColWidthDefault"
  | .whole order n => node order "ColWidth" (.int n)
  | .fraction order text => node order "ColWidth" (.real text)

structure Column where
  alignment : Alignment
  width : ColumnWidth
  deriving DecidableEq, Repr

def Column.toJson (c : Column) : Json := .array [leaf c.alignment.kind, c.width.toJson]

/-! ### Blocks and inline elements -/

mutual

inductive Inline where
  | node (order : MemberOrder) (content : InlineContent)

inductive InlineContent where
  | str (text : CodeText)
  | styled (style : Style) (inlines : List Inline)
  | quoted (quote : QuoteType) (inlines : List Inline)
  | cite (citations : List (List CitationField)) (inlines : List Inline)
  | code (attributes : Attributes) (text : CodeText)
  | space
  | softBreak
  | lineBreak
  | math (type : MathType) (text : CodeText)
  | raw (format text : CodeText)
  | link (attributes : Attributes) (inlines : List Inline) (target : Target)
  | image (attributes : Attributes) (inlines : List Inline) (target : Target)
  | note (blocks : List Block)
  | span (attributes : Attributes) (inlines : List Inline)

/-- A member of a citation; a citation has them in any order. -/
inductive CitationField where
  | id (text : CodeText)
  | before (inlines : List Inline)
  | after (inlines : List Inline)
  | mode (mode : CitationMode)
  | noteNumber (n : Int)
  | hash (n : Int)

inductive Block where
  | node (order : MemberOrder) (content : BlockContent)

inductive BlockContent where
  | plain (inlines : List Inline)
  | para (inlines : List Inline)
  | lineBlock (lines : List (List Inline))
  | code (attributes : Attributes) (text : CodeText)
  | raw (format text : CodeText)
  | quote (blocks : List Block)
  | orderedList (numbering : Numbering) (items : List (List Block))
  | bulletList (items : List (List Block))
  /-- Terms with their definitions. -/
  | definitionList (entries : List (List Inline × List (List Block)))
  | header (level : Int) (attributes : Attributes) (inlines : List Inline)
  | rule
  /-- No longer written since trees have figures. -/
  | null
  | table (attributes : Attributes) (caption : Caption) (columns : List Column)
    (headAttributes : Attributes) (head : List Row) (bodies : List TableBody)
    (footAttributes : Attributes) (foot : List Row)
  | figure (attributes : Attributes) (caption : Caption) (blocks : List Block)
  | div (attributes : Attributes) (blocks : List Block)

inductive Caption where
  | long (blocks : List Block)
  | short (inlines : List Inline) (blocks : List Block)

inductive Cell where
  | mk (attributes : Attributes) (alignment : Alignment) (rows columns : Int) (blocks : List Block)

inductive Row where
  | mk (attributes : Attributes) (cells : List Cell)

inductive TableBody where
  | mk (attributes : Attributes) (headColumns : Int) (head rows : List Row)

end

/-! ### Their JSON -/

mutual

def Inline.toJson : Inline → Json
  | .node order content => content.toJson order

def InlineContent.toJson (order : MemberOrder) : InlineContent → Json
  | .str text => Pandoc.node order "Str" (.string text)
  | .styled style inlines => Pandoc.node order style.kind (.array (inlinesJson inlines))
  | .quoted quote inlines =>
    Pandoc.node order "Quoted" (.array [leaf quote.kind, .array (inlinesJson inlines)])
  | .cite citations inlines =>
    Pandoc.node order "Cite" (.array [.array (citationsJson citations), .array (inlinesJson inlines)])
  | .code attributes text => Pandoc.node order "Code" (.array [attributes.toJson, .string text])
  | .space => leaf "Space"
  | .softBreak => leaf "SoftBreak"
  | .lineBreak => leaf "LineBreak"
  | .math type text => Pandoc.node order "Math" (.array [leaf type.kind, .string text])
  | .raw format text => Pandoc.node order "RawInline" (.array [.string format, .string text])
  | .link attributes inlines target =>
    Pandoc.node order "Link" (.array [attributes.toJson, .array (inlinesJson inlines), target.toJson])
  | .image attributes inlines target =>
    Pandoc.node order "Image" (.array [attributes.toJson, .array (inlinesJson inlines), target.toJson])
  | .note blocks => Pandoc.node order "Note" (.array (blocksJson blocks))
  | .span attributes inlines =>
    Pandoc.node order "Span" (.array [attributes.toJson, .array (inlinesJson inlines)])

def inlinesJson : List Inline → List Json
  | [] => []
  | i :: rest => i.toJson :: inlinesJson rest

def linesJson : List (List Inline) → List Json
  | [] => []
  | line :: rest => .array (inlinesJson line) :: linesJson rest

def CitationField.member : CitationField → CodeText × Json
  | .id text => ("citationId", .string text)
  | .before inlines => ("citationPrefix", .array (inlinesJson inlines))
  | .after inlines => ("citationSuffix", .array (inlinesJson inlines))
  | .mode mode => ("citationMode", leaf mode.kind)
  | .noteNumber n => ("citationNoteNum", .int n)
  | .hash n => ("citationHash", .int n)

def citationMembers : List CitationField → List (CodeText × Json)
  | [] => []
  | field :: rest => field.member :: citationMembers rest

def citationsJson : List (List CitationField) → List Json
  | [] => []
  | fields :: rest => .object (citationMembers fields) :: citationsJson rest

def Block.toJson : Block → Json
  | .node order content => content.toJson order

def BlockContent.toJson (order : MemberOrder) : BlockContent → Json
  | .plain inlines => Pandoc.node order "Plain" (.array (inlinesJson inlines))
  | .para inlines => Pandoc.node order "Para" (.array (inlinesJson inlines))
  | .lineBlock lines => Pandoc.node order "LineBlock" (.array (linesJson lines))
  | .code attributes text => Pandoc.node order "CodeBlock" (.array [attributes.toJson, .string text])
  | .raw format text => Pandoc.node order "RawBlock" (.array [.string format, .string text])
  | .quote blocks => Pandoc.node order "BlockQuote" (.array (blocksJson blocks))
  | .orderedList numbering items =>
    Pandoc.node order "OrderedList" (.array [numbering.toJson, .array (itemsJson items)])
  | .bulletList items => Pandoc.node order "BulletList" (.array (itemsJson items))
  | .definitionList entries => Pandoc.node order "DefinitionList" (.array (entriesJson entries))
  | .header level attributes inlines =>
    Pandoc.node order "Header" (.array [.int level, attributes.toJson, .array (inlinesJson inlines)])
  | .rule => leaf "HorizontalRule"
  | .null => leaf "Null"
  | .table attributes caption columns headAttributes head bodies footAttributes foot =>
    Pandoc.node order "Table"
      (.array [attributes.toJson, caption.toJson, .array (columns.map Column.toJson),
        .array [headAttributes.toJson, .array (rowsJson head)], .array (bodiesJson bodies),
        .array [footAttributes.toJson, .array (rowsJson foot)]])
  | .figure attributes caption blocks =>
    Pandoc.node order "Figure" (.array [attributes.toJson, caption.toJson, .array (blocksJson blocks)])
  | .div attributes blocks =>
    Pandoc.node order "Div" (.array [attributes.toJson, .array (blocksJson blocks)])

def blocksJson : List Block → List Json
  | [] => []
  | b :: rest => b.toJson :: blocksJson rest

def itemsJson : List (List Block) → List Json
  | [] => []
  | blocks :: rest => .array (blocksJson blocks) :: itemsJson rest

def entriesJson : List (List Inline × List (List Block)) → List Json
  | [] => []
  | (term, definitions) :: rest =>
    .array [.array (inlinesJson term), .array (itemsJson definitions)] :: entriesJson rest

def Caption.toJson : Caption → Json
  | .long blocks => .array [.null, .array (blocksJson blocks)]
  | .short inlines blocks => .array [.array (inlinesJson inlines), .array (blocksJson blocks)]

def Cell.toJson : Cell → Json
  | .mk attributes alignment rows columns blocks =>
    .array [attributes.toJson, leaf alignment.kind, .int rows, .int columns, .array (blocksJson blocks)]

def cellsJson : List Cell → List Json
  | [] => []
  | c :: rest => c.toJson :: cellsJson rest

def Row.toJson : Row → Json
  | .mk attributes cells => .array [attributes.toJson, .array (cellsJson cells)]

def rowsJson : List Row → List Json
  | [] => []
  | r :: rest => r.toJson :: rowsJson rest

def TableBody.toJson : TableBody → Json
  | .mk attributes headColumns head rows =>
    .array [attributes.toJson, .int headColumns, .array (rowsJson head), .array (rowsJson rows)]

def bodiesJson : List TableBody → List Json
  | [] => []
  | b :: rest => b.toJson :: bodiesJson rest

end

/-- A document has its blocks in one member; its other members are not looked at. -/
def IsDocument (tree : Json) (blocks : List Block) : Prop :=
  tree.get? "blocks" = some (.array (blocksJson blocks))

end CmsMarkup.Pandoc
