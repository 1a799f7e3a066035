import CmsMarkup.Pandoc.FenceMark
import CmsMarkup.Proofs.FirstHeading

/-! Marks on code blocks. The walk through the JSON of a document adds one pair to the attributes of
every code block in it and changes nothing else: without the pairs it is the same document again, and
its title is the same all along. -/

namespace CmsMarkup.Pandoc

/-! ### Attributes of code blocks -/

section mapCode

variable (f : Attributes → Attributes)

mutual

/-- Changes the attributes of every code block in an inline element. -/
def Inline.mapCode : Inline → Inline
  | .node order content => .node order content.mapCode

def InlineContent.mapCode : InlineContent → InlineContent
  | .styled style inlines => .styled style (mapCodeInlines inlines)
  | .quoted quote inlines => .quoted quote (mapCodeInlines inlines)
  | .cite citations inlines => .cite (mapCodeCitations citations) (mapCodeInlines inlines)
  | .link attributes inlines target => .link attributes (mapCodeInlines inlines) target
  | .image attributes inlines target => .image attributes (mapCodeInlines inlines) target
  | .note blocks => .note (mapCodeBlocks blocks)
  | .span attributes inlines => .span attributes (mapCodeInlines inlines)
  | content => content

def mapCodeInlines : List Inline → List Inline
  | [] => []
  | i :: rest => i.mapCode :: mapCodeInlines rest

def mapCodeLines : List (List Inline) → List (List Inline)
  | [] => []
  | line :: rest => mapCodeInlines line :: mapCodeLines rest

def CitationField.mapCode : CitationField → CitationField
  | .before inlines => .before (mapCodeInlines inlines)
  | .after inlines => .after (mapCodeInlines inlines)
  | field => field

def mapCodeFields : List CitationField → List CitationField
  | [] => []
  | field :: rest => field.mapCode :: mapCodeFields rest

def mapCodeCitations : List (List CitationField) → List (List CitationField)
  | [] => []
  | fields :: rest => mapCodeFields fields :: mapCodeCitations rest

/-- Changes the attributes of every code block in a block. -/
def Block.mapCode : Block → Block
  | .node order content => .node order content.mapCode

def BlockContent.mapCode : BlockContent → BlockContent
  | .plain inlines => .plain (mapCodeInlines inlines)
  | .para inlines => .para (mapCodeInlines inlines)
  | .lineBlock lines => .lineBlock (mapCodeLines lines)
  | .code attributes text => .code (f attributes) text
  | .quote blocks => .quote (mapCodeBlocks blocks)
  | .orderedList numbering items => .orderedList numbering (mapCodeItems items)
  | .bulletList items => .bulletList (mapCodeItems items)
  | .definitionList entries => .definitionList (mapCodeEntries entries)
  | .header level attributes inlines => .header level attributes (mapCodeInlines inlines)
  | .table attributes caption columns headAttributes head bodies footAttributes foot =>
    .table attributes caption.mapCode columns headAttributes (mapCodeRows head) (mapCodeBodies bodies)
      footAttributes (mapCodeRows foot)
  | .figure attributes caption blocks => .figure attributes caption.mapCode (mapCodeBlocks blocks)
  | .div attributes blocks => .div attributes (mapCodeBlocks blocks)
  | content => content

def mapCodeBlocks : List Block → List Block
  | [] => []
  | b :: rest => b.mapCode :: mapCodeBlocks rest

def mapCodeItems : List (List Block) → List (List Block)
  | [] => []
  | blocks :: rest => mapCodeBlocks blocks :: mapCodeItems rest

def mapCodeEntries : List (List Inline × List (List Block)) → List (List Inline × List (List Block))
  | [] => []
  | (term, definitions) :: rest =>
    (mapCodeInlines term, mapCodeItems definitions) :: mapCodeEntries rest

def Caption.mapCode : Caption → Caption
  | .long blocks => .long (mapCodeBlocks blocks)
  | .short inlines blocks => .short (mapCodeInlines inlines) (mapCodeBlocks blocks)

def Cell.mapCode : Cell → Cell
  | .mk attributes alignment rows columns blocks =>
    .mk attributes alignment rows columns (mapCodeBlocks blocks)

def mapCodeCells : List Cell → List Cell
  | [] => []
  | c :: rest => c.mapCode :: mapCodeCells rest

def Row.mapCode : Row → Row
  | .mk attributes cells => .mk attributes (mapCodeCells cells)

def mapCodeRows : List Row → List Row
  | [] => []
  | r :: rest => r.mapCode :: mapCodeRows rest

def TableBody.mapCode : TableBody → TableBody
  | .mk attributes headColumns head rows =>
    .mk attributes headColumns (mapCodeRows head) (mapCodeRows rows)

def mapCodeBodies : List TableBody → List TableBody
  | [] => []
  | b :: rest => b.mapCode :: mapCodeBodies rest

end

end mapCode

section inverse

variable {f g : Attributes → Attributes}

mutual

theorem Inline.mapCode_inverse (h : Function.LeftInverse g f) (i : Inline) :
    (i.mapCode f).mapCode g = i := by
  cases i with
  | node order content =>
    rw [Inline.mapCode, Inline.mapCode]
    cases content with
    | styled style inlines => simp [InlineContent.mapCode, mapCodeInlines_inverse h inlines]
    | quoted quote inlines => simp [InlineContent.mapCode, mapCodeInlines_inverse h inlines]
    | cite citations inlines =>
      simp [InlineContent.mapCode, mapCodeCitations_inverse h citations,
        mapCodeInlines_inverse h inlines]
    | link attributes inlines target =>
      simp [InlineContent.mapCode, mapCodeInlines_inverse h inlines]
    | image attributes inlines target =>
      simp [InlineContent.mapCode, mapCodeInlines_inverse h inlines]
    | note blocks => simp [InlineContent.mapCode, mapCodeBlocks_inverse h blocks]
    | span attributes inlines => simp [InlineContent.mapCode, mapCodeInlines_inverse h inlines]
    | _ => rfl

theorem mapCodeInlines_inverse (h : Function.LeftInverse g f) (inlines : List Inline) :
    mapCodeInlines g (mapCodeInlines f inlines) = inlines := by
  cases inlines with
  | nil => rfl
  | cons i rest =>
    rw [mapCodeInlines, mapCodeInlines, Inline.mapCode_inverse h i, mapCodeInlines_inverse h rest]

theorem mapCodeLines_inverse (h : Function.LeftInverse g f) (lines : List (List Inline)) :
    mapCodeLines g (mapCodeLines f lines) = lines := by
  cases lines with
  | nil => rfl
  | cons line rest =>
    rw [mapCodeLines, mapCodeLines, mapCodeInlines_inverse h line, mapCodeLines_inverse h rest]

theorem mapCodeFields_inverse (h : Function.LeftInverse g f) (fields : List CitationField) :
    mapCodeFields g (mapCodeFields f fields) = fields := by
  cases fields with
  | nil => rfl
  | cons field rest =>
    have hfield : (field.mapCode f).mapCode g = field := by
      cases field with
      | before inlines => simp [CitationField.mapCode, mapCodeInlines_inverse h inlines]
      | after inlines => simp [CitationField.mapCode, mapCodeInlines_inverse h inlines]
      | _ => rfl
    rw [mapCodeFields, mapCodeFields, hfield, mapCodeFields_inverse h rest]

theorem mapCodeCitations_inverse (h : Function.LeftInverse g f) (citations : List (List CitationField)) :
    mapCodeCitations g (mapCodeCitations f citations) = citations := by
  cases citations with
  | nil => rfl
  | cons fields rest =>
    rw [mapCodeCitations, mapCodeCitations, mapCodeFields_inverse h fields, mapCodeCitations_inverse h rest]

theorem Block.mapCode_inverse (h : Function.LeftInverse g f) (b : Block) :
    (b.mapCode f).mapCode g = b := by
  cases b with
  | node order content =>
    rw [Block.mapCode, Block.mapCode]
    cases content with
    | plain inlines => simp [BlockContent.mapCode, mapCodeInlines_inverse h inlines]
    | para inlines => simp [BlockContent.mapCode, mapCodeInlines_inverse h inlines]
    | lineBlock lines => simp [BlockContent.mapCode, mapCodeLines_inverse h lines]
    | code attributes text => simp [BlockContent.mapCode, h attributes]
    | quote blocks => simp [BlockContent.mapCode, mapCodeBlocks_inverse h blocks]
    | orderedList numbering items => simp [BlockContent.mapCode, mapCodeItems_inverse h items]
    | bulletList items => simp [BlockContent.mapCode, mapCodeItems_inverse h items]
    | definitionList entries => simp [BlockContent.mapCode, mapCodeEntries_inverse h entries]
    | header level attributes inlines =>
      simp [BlockContent.mapCode, mapCodeInlines_inverse h inlines]
    | table attributes caption columns headAttributes head bodies footAttributes foot =>
      simp [BlockContent.mapCode, Caption.mapCode_inverse h caption, mapCodeRows_inverse h head,
        mapCodeBodies_inverse h bodies, mapCodeRows_inverse h foot]
    | figure attributes caption blocks =>
      simp [BlockContent.mapCode, Caption.mapCode_inverse h caption, mapCodeBlocks_inverse h blocks]
    | div attributes blocks => simp [BlockContent.mapCode, mapCodeBlocks_inverse h blocks]
    | _ => rfl

theorem mapCodeBlocks_inverse (h : Function.LeftInverse g f) (blocks : List Block) :
    mapCodeBlocks g (mapCodeBlocks f blocks) = blocks := by
  cases blocks with
  | nil => rfl
  | cons b rest =>
    rw [mapCodeBlocks, mapCodeBlocks, Block.mapCode_inverse h b, mapCodeBlocks_inverse h rest]

theorem mapCodeItems_inverse (h : Function.LeftInverse g f) (items : List (List Block)) :
    mapCodeItems g (mapCodeItems f items) = items := by
  cases items with
  | nil => rfl
  | cons blocks rest =>
    rw [mapCodeItems, mapCodeItems, mapCodeBlocks_inverse h blocks, mapCodeItems_inverse h rest]

theorem mapCodeEntries_inverse (h : Function.LeftInverse g f)
    (entries : List (List Inline × List (List Block))) :
    mapCodeEntries g (mapCodeEntries f entries) = entries := by
  cases entries with
  | nil => rfl
  | cons entry rest =>
    obtain ⟨term, definitions⟩ := entry
    rw [mapCodeEntries, mapCodeEntries, mapCodeInlines_inverse h term, mapCodeItems_inverse h definitions,
      mapCodeEntries_inverse h rest]

theorem Caption.mapCode_inverse (h : Function.LeftInverse g f) (caption : Caption) :
    (caption.mapCode f).mapCode g = caption := by
  cases caption with
  | long blocks => simp [Caption.mapCode, mapCodeBlocks_inverse h blocks]
  | short inlines blocks =>
    simp [Caption.mapCode, mapCodeInlines_inverse h inlines, mapCodeBlocks_inverse h blocks]

theorem mapCodeCells_inverse (h : Function.LeftInverse g f) (cells : List Cell) :
    mapCodeCells g (mapCodeCells f cells) = cells := by
  cases cells with
  | nil => rfl
  | cons cell rest =>
    cases cell with
    | mk attributes alignment rows columns blocks =>
      simp [mapCodeCells, Cell.mapCode, mapCodeBlocks_inverse h blocks, mapCodeCells_inverse h rest]

theorem mapCodeRows_inverse (h : Function.LeftInverse g f) (rows : List Row) :
    mapCodeRows g (mapCodeRows f rows) = rows := by
  cases rows with
  | nil => rfl
  | cons row rest =>
    cases row with
    | mk attributes cells =>
      simp [mapCodeRows, Row.mapCode, mapCodeCells_inverse h cells, mapCodeRows_inverse h rest]

theorem mapCodeBodies_inverse (h : Function.LeftInverse g f) (bodies : List TableBody) :
    mapCodeBodies g (mapCodeBodies f bodies) = bodies := by
  cases bodies with
  | nil => rfl
  | cons body rest =>
    cases body with
    | mk attributes headColumns head rows =>
      simp [mapCodeBodies, TableBody.mapCode, mapCodeRows_inverse h head, mapCodeRows_inverse h rows,
        mapCodeBodies_inverse h rest]

end

end inverse

/-! ### Texts without code blocks -/

section title

variable (f : Attributes → Attributes)

mutual

theorem text_mapCode (i : Inline) : (i.mapCode f).text = i.text := by
  cases i with
  | node order content =>
    cases content with
    | styled style inlines => exact textOf_mapCodeInlines inlines
    | quoted quote inlines =>
      exact congrArg (CodeText.text quote.mark ++ · ++ .text quote.mark)
        (textOf_mapCodeInlines inlines)
    | cite citations inlines => exact textOf_mapCodeInlines inlines
    | link attributes inlines target => exact textOf_mapCodeInlines inlines
    | span attributes inlines => exact textOf_mapCodeInlines inlines
    | _ => rfl

theorem textOf_mapCodeInlines (inlines : List Inline) :
    textOf (mapCodeInlines f inlines) = textOf inlines := by
  cases inlines with
  | nil => rfl
  | cons i rest => rw [mapCodeInlines, textOf, textOf, text_mapCode i, textOf_mapCodeInlines rest]

end

mutual

theorem texts_mapCode (b : Block) :
    (b.mapCode f).headers.map Header.text = b.headers.map Header.text := by
  cases b with
  | node order content =>
    cases content with
    | header level attributes inlines => exact congrArg ([·]) (textOf_mapCodeInlines f inlines)
    | quote blocks => exact texts_mapCodeBlocks blocks
    | div attributes blocks => exact texts_mapCodeBlocks blocks
    | bulletList items => exact texts_mapCodeItems items
    | orderedList numbering items => exact texts_mapCodeItems items
    | definitionList entries => exact texts_mapCodeEntries entries
    | figure attributes caption blocks => exact texts_mapCodeBlocks blocks
    | _ => rfl

theorem texts_mapCodeBlocks (blocks : List Block) :
    (headersOf (mapCodeBlocks f blocks)).map Header.text = (headersOf blocks).map Header.text := by
  cases blocks with
  | nil => rfl
  | cons b rest =>
    rw [mapCodeBlocks, headersOf, headersOf, List.map_append, List.map_append, texts_mapCode b,
      texts_mapCodeBlocks rest]

theorem texts_mapCodeItems (items : List (List Block)) :
    (headersOfItems (mapCodeItems f items)).map Header.text = (headersOfItems items).map Header.text := by
  cases items with
  | nil => rfl
  | cons blocks rest =>
    rw [mapCodeItems, headersOfItems, headersOfItems, List.map_append, List.map_append,
      texts_mapCodeBlocks blocks, texts_mapCodeItems rest]

theorem texts_mapCodeEntries (entries : List (List Inline × List (List Block))) :
    (headersOfEntries (mapCodeEntries f entries)).map Header.text =
      (headersOfEntries entries).map Header.text := by
  cases entries with
  | nil => rfl
  | cons entry rest =>
    obtain ⟨term, definitions⟩ := entry
    rw [mapCodeEntries, headersOfEntries, headersOfEntries, List.map_append, List.map_append,
      texts_mapCodeItems definitions, texts_mapCodeEntries rest]

end

end title

/-! ### The walk -/

/-- The attributes with the mark as their last pair. -/
def Attributes.fenced (a : Attributes) : Attributes :=
  { a with pairs := a.pairs ++ [(.text "data-fence", .text "true")] }

def Attributes.withoutLast (a : Attributes) : Attributes := { a with pairs := a.pairs.dropLast }

theorem Attributes.withoutLast_fenced (a : Attributes) : a.fenced.withoutLast = a := by
  simp [fenced, withoutLast]

section mark

variable {v v' w w' : Json} {items items' rest rest' : List Json} {kind : String}

theorem mark_array (h : markItems items = .ok items') : mark (.array items) = .ok (.array items') := by
  rw [mark, h]
  rfl

theorem markItems_cons (h : mark v = .ok v') (hrest : markItems rest = .ok rest') :
    markItems (v :: rest) = .ok (v' :: rest') := by
  rw [markItems, h, hrest]
  rfl

theorem mark_pair (hv : mark v = .ok v') (hw : mark w = .ok w') :
    mark (.array [v, w]) = .ok (.array [v', w']) :=
  mark_array (markItems_cons hv (markItems_cons hw rfl))

theorem mark_triple {x x' : Json} (hv : mark v = .ok v') (hw : mark w = .ok w') (hx : mark x = .ok x') :
    mark (.array [v, w, x]) = .ok (.array [v', w', x']) :=
  mark_array (markItems_cons hv (markItems_cons hw (markItems_cons hx rfl)))

theorem mark_node (hk : kind ≠ "CodeBlock") (h : mark v = .ok v') (order : MemberOrder) :
    mark (node order kind v) = .ok (node order kind v') := by
  have hcode : (some kind == some "CodeBlock") = false := by simpa using hk
  rw [node, mark, kindOf?_nodeMembers, hcode, if_neg Bool.false_ne_true]
  cases order <;> simp [nodeMembers, markMembers, mark, h] <;> rfl

theorem mark_leaf (hk : kind ≠ "CodeBlock") : mark (leaf kind) = .ok (leaf kind) := by
  have hcode : (some kind == some "CodeBlock") = false := by simpa using hk
  rw [leaf, mark, kindOf?_leaf, hcode, if_neg Bool.false_ne_true]
  simp [markMembers, mark]
  rfl

theorem mark_map {α : Type} {f : α → Json} (h : ∀ x, mark (f x) = .ok (f x)) (xs : List α) :
    mark (.array (xs.map f)) = .ok (.array (xs.map f)) := by
  refine mark_array ?_
  induction xs with
  | nil => rfl
  | cons x xs ih => exact markItems_cons (h x) ih

theorem mark_attributes (a : Attributes) : mark a.toJson = .ok a.toJson :=
  mark_triple rfl (mark_map (fun _ => rfl) a.classes) (mark_map (fun _ => mark_pair rfl rfl) a.pairs)

theorem mark_numbering (n : Numbering) : mark n.toJson = .ok n.toJson :=
  mark_triple rfl (mark_leaf (by cases n.style <;> decide)) (mark_leaf (by cases n.delimiter <;> decide))

theorem mark_alignment (a : Alignment) : mark (leaf a.kind) = .ok (leaf a.kind) :=
  mark_leaf (by cases a <;> decide)

theorem mark_column (c : Column) : mark c.toJson = .ok c.toJson := by
  refine mark_pair (mark_alignment c.alignment) ?_
  cases c.width with
  | default => exact mark_leaf (by decide)
  | whole order n => exact mark_node (by decide) rfl order
  | fraction order text => exact mark_node (by decide) rfl order

theorem markContent_code (a : Attributes) (text : CodeText) :
    markContent (.array [a.toJson, .string text]) = .ok (.array [a.fenced.toJson, .string text]) := by
  have hpairs : a.fenced.toJson = .array [.string a.id, .array (a.classes.map .string),
      .array (a.pairs.map pairJson ++ [fencePair])] := by
    rw [Attributes.fenced, Attributes.toJson, List.map_append]
    rfl
  rw [hpairs]
  rfl

theorem put_nodeMembers (order : MemberOrder) (kind : String) (v v' : Json) :
    Json.put "c" v' (nodeMembers order kind v) = nodeMembers order kind v' := by
  cases order <;> simp [nodeMembers, Json.put]

theorem markCode_nodeMembers (h : markContent v = .ok v') (order : MemberOrder) :
    markCode (nodeMembers order kind v) = .ok (nodeMembers order kind v') := by
  rw [markCode, memberOf, lookup_content_nodeMembers, ← put_nodeMembers order kind v v']
  change (markContent v >>= fun content => Except.ok _) = _
  rw [h]
  rfl

/-- A code block gets its mark; nothing is looked for inside it. -/
theorem mark_code (order : MemberOrder) (a : Attributes) (text : CodeText) :
    mark (node order "CodeBlock" (.array [a.toJson, .string text])) =
      .ok (node order "CodeBlock" (.array [a.fenced.toJson, .string text])) := by
  rw [node, mark, kindOf?_nodeMembers, if_pos (beq_self_eq_true _),
    markCode_nodeMembers (markContent_code a text)]
  rfl

end mark

theorem kindOf?_citationMembers (fields : List CitationField) :
    kindOf? (citationMembers fields) = none := by
  have hlookup : (citationMembers fields).lookup (.text "t") = none := by
    induction fields with
    | nil => rfl
    | cons field rest ih => cases field <;> simpa [citationMembers, CitationField.member] using ih
  rw [kindOf?, hlookup]

theorem mark_citation {fields fields' : List CitationField}
    (h : markMembers (citationMembers fields) = .ok (citationMembers fields')) :
    mark (.object (citationMembers fields)) = .ok (.object (citationMembers fields')) := by
  rw [mark, kindOf?_citationMembers, h]
  rfl

-- One case for each kind of element. Its fixed parts have no element of the kind of code blocks in
-- them, and its other parts are lists of elements again.
mutual

theorem mark_inline (i : Inline) : mark i.toJson = .ok (i.mapCode Attributes.fenced).toJson := by
  cases i with
  | node order content =>
    cases content with
    | str text => exact mark_node (by decide) rfl order
    | styled style inlines =>
      exact mark_node (by cases style <;> decide) (mark_array (mark_inlines inlines)) order
    | quoted quote inlines =>
      have hquote : mark (leaf quote.kind) = .ok (leaf quote.kind) := mark_leaf (by cases quote <;> decide)
      exact mark_node (by decide) (mark_pair hquote (mark_array (mark_inlines inlines))) order
    | cite citations inlines =>
      exact mark_node (by decide)
        (mark_pair (mark_array (mark_citations citations)) (mark_array (mark_inlines inlines))) order
    | code attributes text => exact mark_node (by decide) (mark_pair (mark_attributes attributes) rfl) order
    | space => rfl
    | softBreak => rfl
    | lineBreak => rfl
    | math type text =>
      have htype : mark (leaf type.kind) = .ok (leaf type.kind) := mark_leaf (by cases type <;> decide)
      exact mark_node (by decide) (mark_pair htype rfl) order
    | raw format text => exact mark_node (by decide) (mark_pair rfl rfl) order
    | link attributes inlines target =>
      exact mark_node (by decide) (mark_triple (mark_attributes attributes)
        (mark_array (mark_inlines inlines)) (mark_pair rfl rfl)) order
    | image attributes inlines target =>
      exact mark_node (by decide) (mark_triple (mark_attributes attributes)
        (mark_array (mark_inlines inlines)) (mark_pair rfl rfl)) order
    | note blocks => exact mark_node (by decide) (mark_array (mark_blocks blocks)) order
    | span attributes inlines =>
      exact mark_node (by decide)
        (mark_pair (mark_attributes attributes) (mark_array (mark_inlines inlines))) order

theorem mark_inlines (inlines : List Inline) :
    markItems (inlinesJson inlines) = .ok (inlinesJson (mapCodeInlines Attributes.fenced inlines)) := by
  cases inlines with
  | nil => rfl
  | cons i rest => exact markItems_cons (mark_inline i) (mark_inlines rest)

theorem mark_lines (lines : List (List Inline)) :
    markItems (linesJson lines) = .ok (linesJson (mapCodeLines Attributes.fenced lines)) := by
  cases lines with
  | nil => rfl
  | cons line rest => exact markItems_cons (mark_array (mark_inlines line)) (mark_lines rest)

theorem mark_fields (fields : List CitationField) :
    markMembers (citationMembers fields) =
      .ok (citationMembers (mapCodeFields Attributes.fenced fields)) := by
  cases fields with
  | nil => rfl
  | cons field rest =>
    have hfield : mark field.member.2 = .ok (field.mapCode Attributes.fenced).member.2 := by
      cases field with
      | before inlines => exact mark_array (mark_inlines inlines)
      | after inlines => exact mark_array (mark_inlines inlines)
      | mode mode => exact mark_leaf (by cases mode <;> decide)
      | _ => rfl
    have hkey : (field.mapCode Attributes.fenced).member.1 = field.member.1 := by cases field <;> rfl
    rw [citationMembers, mapCodeFields, citationMembers, markMembers, hfield, mark_fields rest, ← hkey]
    rfl

theorem mark_citations (citations : List (List CitationField)) :
    markItems (citationsJson citations) =
      .ok (citationsJson (mapCodeCitations Attributes.fenced citations)) := by
  cases citations with
  | nil => rfl
  | cons fields rest => exact markItems_cons (mark_citation (mark_fields fields)) (mark_citations rest)

theorem mark_block (b : Block) : mark b.toJson = .ok (b.mapCode Attributes.fenced).toJson := by
  cases b with
  | node order content =>
    cases content with
    | plain inlines => exact mark_node (by decide) (mark_array (mark_inlines inlines)) order
    | para inlines => exact mark_node (by decide) (mark_array (mark_inlines inlines)) order
    | lineBlock lines => exact mark_node (by decide) (mark_array (mark_lines lines)) order
    | code attributes text => exact mark_code order attributes text
    | raw format text => exact mark_node (by decide) (mark_pair rfl rfl) order
    | quote blocks => exact mark_node (by decide) (mark_array (mark_blocks blocks)) order
    | orderedList numbering items =>
      exact mark_node (by decide)
        (mark_pair (mark_numbering numbering) (mark_array (mark_items items))) order
    | bulletList items => exact mark_node (by decide) (mark_array (mark_items items)) order
    | definitionList entries => exact mark_node (by decide) (mark_array (mark_entries entries)) order
    | header level attributes inlines =>
      exact mark_node (by decide)
        (mark_triple rfl (mark_attributes attributes) (mark_array (mark_inlines inlines))) order
    | rule => rfl
    | null => rfl
    | table attributes caption columns headAttributes head bodies footAttributes foot =>
      have hhead := mark_pair (mark_attributes headAttributes) (mark_array (mark_rows head))
      have hfoot := mark_pair (mark_attributes footAttributes) (mark_array (mark_rows foot))
      exact mark_node (by decide) (mark_array
        (markItems_cons (mark_attributes attributes) (markItems_cons (mark_caption caption)
          (markItems_cons (mark_map mark_column columns) (markItems_cons hhead
            (markItems_cons (mark_array (mark_bodies bodies)) (markItems_cons hfoot rfl))))))) order
    | figure attributes caption blocks =>
      exact mark_node (by decide) (mark_triple (mark_attributes attributes) (mark_caption caption)
        (mark_array (mark_blocks blocks))) order
    | div attributes blocks =>
      exact mark_node (by decide)
        (mark_pair (mark_attributes attributes) (mark_array (mark_blocks blocks))) order

theorem mark_blocks (blocks : List Block) :
    markItems (blocksJson blocks) = .ok (blocksJson (mapCodeBlocks Attributes.fenced blocks)) := by
  cases blocks with
  | nil => rfl
  | cons b rest => exact markItems_cons (mark_block b) (mark_blocks rest)

theorem mark_items (items : List (List Block)) :
    markItems (itemsJson items) = .ok (itemsJson (mapCodeItems Attributes.fenced items)) := by
  cases items with
  | nil => rfl
  | cons blocks rest => exact markItems_cons (mark_array (mark_blocks blocks)) (mark_items rest)

theorem mark_entries (entries : List (List Inline × List (List Block))) :
    markItems (entriesJson entries) = .ok (entriesJson (mapCodeEntries Attributes.fenced entries)) := by
  cases entries with
  | nil => rfl
  | cons entry rest =>
    obtain ⟨term, definitions⟩ := entry
    exact markItems_cons
      (mark_pair (mark_array (mark_inlines term)) (mark_array (mark_items definitions)))
      (mark_entries rest)

theorem mark_caption (caption : Caption) :
    mark caption.toJson = .ok (caption.mapCode Attributes.fenced).toJson := by
  cases caption with
  | long blocks => exact mark_pair rfl (mark_array (mark_blocks blocks))
  | short inlines blocks =>
    exact mark_pair (mark_array (mark_inlines inlines)) (mark_array (mark_blocks blocks))

theorem mark_cells (cells : List Cell) :
    markItems (cellsJson cells) = .ok (cellsJson (mapCodeCells Attributes.fenced cells)) := by
  cases cells with
  | nil => rfl
  | cons cell rest =>
    cases cell with
    | mk attributes alignment rows columns blocks =>
      exact markItems_cons (mark_array (markItems_cons (mark_attributes attributes)
        (markItems_cons (mark_alignment alignment) (markItems_cons rfl (markItems_cons rfl
          (markItems_cons (mark_array (mark_blocks blocks)) rfl)))))) (mark_cells rest)

theorem mark_rows (rows : List Row) :
    markItems (rowsJson rows) = .ok (rowsJson (mapCodeRows Attributes.fenced rows)) := by
  cases rows with
  | nil => rfl
  | cons row rest =>
    cases row with
    | mk attributes cells =>
      exact markItems_cons (mark_pair (mark_attributes attributes) (mark_array (mark_cells cells)))
        (mark_rows rest)

theorem mark_bodies (bodies : List TableBody) :
    markItems (bodiesJson bodies) = .ok (bodiesJson (mapCodeBodies Attributes.fenced bodies)) := by
  cases bodies with
  | nil => rfl
  | cons body rest =>
    cases body with
    | mk attributes headColumns head rows =>
      exact markItems_cons (mark_array (markItems_cons (mark_attributes attributes)
        (markItems_cons rfl (markItems_cons (mark_array (mark_rows head))
          (markItems_cons (mark_array (mark_rows rows)) rfl))))) (mark_bodies rest)

end

/-! ### Documents -/

theorem lookup_put (key : CodeText) (v : Json) (members : List (CodeText × Json)) :
    (Json.put key v members).lookup key = some v := by
  induction members with
  | nil => simp [Json.put]
  | cons member rest ih =>
    obtain ⟨k, w⟩ := member
    by_cases hk : k = key
    · simp [Json.put, hk]
    · have hk' : (key == k) = false := by simpa using Ne.symm hk
      simp [Json.put, hk, List.lookup_cons, hk', ih]

/-- Every well-formed document has typed blocks. Every code block of these gets the mark as its last
pair, and nothing else is changed: without their last pairs they are the code blocks of before. The
title stays the same. -/
theorem markDocument_marks (members : List (CodeText × Json)) :
    (fits (.record .document) (.object members) = true →
      ∃ blocks, IsDocument (.object members) blocks) ∧
    ∀ blocks, IsDocument (.object members) blocks →
      let marked := mapCodeBlocks Attributes.fenced blocks
      let tree := Json.object (Json.put "blocks" (.array (blocksJson marked)) members)
      mark (.array (blocksJson blocks)) = .ok (.array (blocksJson marked)) ∧
        markDocument (.object members) = .ok tree ∧
        mapCodeBlocks Attributes.withoutLast marked = blocks ∧
        ∃ text, title (.object members) = .ok text ∧ title tree = .ok text := by
  refine ⟨isDocument_of_fits, fun blocks h => ?_⟩
  intro marked tree
  have hmark : mark (.array (blocksJson blocks)) = .ok (.array (blocksJson marked)) :=
    mark_array (mark_blocks blocks)
  have hlookup : members.lookup (.text "blocks") = some (.array (blocksJson blocks)) := h
  have htree : IsDocument tree marked := lookup_put _ _ _
  have htexts : firstText (headersOf marked) = firstText (headersOf blocks) := by
    rw [firstText, firstText, texts_mapCodeBlocks]
  refine ⟨hmark, ?_, mapCodeBlocks_inverse Attributes.withoutLast_fenced blocks,
    firstText (headersOf blocks), title_eq_firstText h, ?_⟩
  · rw [markDocument, hlookup]
    change (mark (.array (blocksJson blocks))).map _ = _
    rw [hmark]
    rfl
  · rw [title_eq_firstText htree, htexts]

/-- A document with a code block in a footnote of its heading. -/
def noteWithCode (pairs : List (CodeText × CodeText)) : List Block :=
  [.node .contentFirst (.header 1 ⟨"", [], []⟩
    [.node .kindFirst (.str "Top"),
      .node .contentFirst (.note [.node .kindFirst (.code ⟨"", ["sh"], pairs⟩ "ls -la")]),
      .node .kindFirst (.code ⟨"", [], [("data-fence", "true")]⟩ "CodeBlock")])]

/-- The code block has such a pair already and gets another one; the code in the text keeps its own. -/
theorem markDocument_marks_note :
    let blocks := noteWithCode [("data-fence", "true")]
    let marked := noteWithCode [("data-fence", "true"), ("data-fence", "true")]
    let document (blocks : List Block) : Json :=
      .object [("pandoc-api-version", .array [.int 1, .int 23]), ("meta", .object []),
        ("blocks", .array (blocksJson blocks))]
    (fits (.record .document) (document blocks) = true ∧ ∃ typed, IsDocument (document blocks) typed) ∧
      IsDocument (document blocks) blocks ∧
      markDocument (document blocks) = .ok (document marked) := by
  intro blocks marked document
  have hfits : fits (.record .document) (document blocks) = true := by decide +kernel
  have h : IsDocument (document blocks) blocks := rfl
  have hmarks := markDocument_marks
    [("pandoc-api-version", .array [.int 1, .int 23]), ("meta", .object []),
      ("blocks", .array (blocksJson blocks))]
  exact ⟨⟨hfits, hmarks.1 hfits⟩, h, (hmarks.2 blocks h).2.1⟩

end CmsMarkup.Pandoc
