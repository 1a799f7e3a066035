import CmsMarkup.Pandoc.Title
import CmsMarkup.Proofs.TypedTree
import Mathlib.Data.List.Basic

/-! The title of a document. The search through nested blocks finds the first heading in the list of
all that it can reach, and the title is that heading's text. -/

namespace CmsMarkup.Pandoc

/-! ### The headings of a document -/

structure Header where
  order : MemberOrder
  level : Int
  attributes : Attributes
  inlines : List Inline

def Header.members (h : Header) : List (CodeText × Json) :=
  nodeMembers h.order "Header" (.array [.int h.level, h.attributes.toJson, .array (inlinesJson h.inlines)])

mutual

/-- The headings in a block, in their order. Tables, captions and footnotes are left out. -/
def Block.headers : Block → List Header
  | .node order content => content.headers order

def BlockContent.headers (order : MemberOrder) : BlockContent → List Header
  | .header level attributes inlines => [⟨order, level, attributes, inlines⟩]
  | .quote blocks => headersOf blocks
  | .div _ blocks => headersOf blocks
  | .bulletList items => headersOfItems items
  | .orderedList _ items => headersOfItems items
  | .definitionList entries => headersOfEntries entries
  | .figure _ _ blocks => headersOf blocks
  | _ => []

def headersOf : List Block → List Header
  | [] => []
  | b :: rest => b.headers ++ headersOf rest

def headersOfItems : List (List Block) → List Header
  | [] => []
  | blocks :: rest => headersOf blocks ++ headersOfItems rest

def headersOfEntries : List (List Inline × List (List Block)) → List Header
  | [] => []
  | (_, definitions) :: rest => headersOfItems definitions ++ headersOfEntries rest

end

theorem headersOf_append (xs ys : List Block) : headersOf (xs ++ ys) = headersOf xs ++ headersOf ys := by
  induction xs with
  | nil => rfl
  | cons b xs ih => rw [List.cons_append, headersOf, headersOf, ih, List.append_assoc]

/-- What a search gives that finds these headings. -/
def found (headers : List Header) : Search := .ok (headers.head?.map Header.members)

theorem found_append (xs ys : List Header) :
    (match found xs with
      | .ok none => found ys
      | first => first) = found (xs ++ ys) := by
  cases xs <;> rfl

theorem searchContent_nodeMembers (r : Reach) (order : MemberOrder) (kind : String) (content : Json) :
    searchContent r (nodeMembers order kind content) = search r content := by
  cases order <;> simp [nodeMembers, searchContent]

theorem searchBlock_of_reach {kind : String} {r : Reach} (hk : (kind == "Header") = false)
    (hr : reaches.lookup kind = some r) (order : MemberOrder) (content : Json) :
    searchBlock (node order kind content) = search r content := by
  simp [node, searchBlock, hk, hr, searchContent_nodeMembers]

theorem searchBlock_of_none {kind : String} (hk : (kind == "Header") = false)
    (hr : reaches.lookup kind = none) (order : MemberOrder) (content : Json) :
    searchBlock (node order kind content) = found [] := by
  simp [node, searchBlock, hk, hr, found]

theorem search_blocks (items : List Json) : search .blocks (.array items) = searchBlocks items := by
  rw [search]

theorem search_each (r : Reach) (items : List Json) :
    search (.each r) (.array items) = searchEach r items := by
  rw [search]

theorem search_second (r : Reach) (v w : Json) : search (.second r) (.array [v, w]) = search r w := by
  simp [search, searchItem]

theorem search_item (r : Reach) (vs : List Json) (v : Json) (rest : List Json) :
    search (.item vs.length r) (.array (vs ++ v :: rest)) = search r v := by
  rw [search]
  induction vs with
  | nil => simp [searchItem]
  | cons w vs ih => simpa [searchItem] using ih

mutual

theorem searchBlock_toJson (b : Block) : searchBlock b.toJson = found b.headers := by
  cases b with
  | node order content =>
    rw [Block.toJson, Block.headers]
    cases content with
    | quote blocks =>
      rw [BlockContent.toJson, BlockContent.headers, searchBlock_of_reach (r := .blocks) rfl rfl,
        search_blocks, searchBlocks_json blocks]
    | orderedList numbering items =>
      rw [BlockContent.toJson, BlockContent.headers,
        searchBlock_of_reach (r := .item 1 (.each .blocks)) rfl rfl]
      exact (search_item _ [_] _ _).trans ((search_each _ _).trans (searchEach_items items))
    | bulletList items =>
      rw [BlockContent.toJson, BlockContent.headers, searchBlock_of_reach (r := .each .blocks) rfl rfl,
        search_each, searchEach_items items]
    | definitionList entries =>
      rw [BlockContent.toJson, BlockContent.headers,
        searchBlock_of_reach (r := .each (.second (.each .blocks))) rfl rfl, search_each,
        searchEach_entries entries]
    | figure attributes caption blocks =>
      rw [BlockContent.toJson, BlockContent.headers, searchBlock_of_reach (r := .item 2 .blocks) rfl rfl]
      exact (search_item _ [_, _] _ _).trans ((search_blocks _).trans (searchBlocks_json blocks))
    | div attributes blocks =>
      rw [BlockContent.toJson, BlockContent.headers, searchBlock_of_reach (r := .item 1 .blocks) rfl rfl]
      exact (search_item _ [_] _ _).trans ((search_blocks _).trans (searchBlocks_json blocks))
    | header level attributes inlines =>
      rw [BlockContent.toJson, BlockContent.headers, node, searchBlock, kindOf?_nodeMembers]
      rfl
    | rule => rfl
    | null => rfl
    | _ => exact searchBlock_of_none rfl rfl _ _

theorem searchBlocks_json (blocks : List Block) :
    searchBlocks (blocksJson blocks) = found (headersOf blocks) := by
  cases blocks with
  | nil => rfl
  | cons b rest =>
    rw [blocksJson, searchBlocks, searchBlock_toJson b, searchBlocks_json rest, headersOf]
    exact found_append _ _

theorem searchEach_items (items : List (List Block)) :
    searchEach .blocks (itemsJson items) = found (headersOfItems items) := by
  cases items with
  | nil => rfl
  | cons blocks rest =>
    rw [itemsJson, searchEach, search_blocks, searchBlocks_json blocks, searchEach_items rest,
      headersOfItems]
    exact found_append _ _

theorem searchEach_entries (entries : List (List Inline × List (List Block))) :
    searchEach (.second (.each .blocks)) (entriesJson entries) = found (headersOfEntries entries) := by
  cases entries with
  | nil => rfl
  | cons entry rest =>
    obtain ⟨term, definitions⟩ := entry
    rw [entriesJson, searchEach, search_second, search_each, searchEach_items definitions,
      searchEach_entries rest, headersOfEntries]
    exact found_append _ _

end

/-! ### The text of a heading -/

def QuoteType.mark : QuoteType → String
  | .single => "'"
  | .double => "\""

mutual

/-- The text that is seen of an inline element. Images, notes, formulas and raw markup have none. -/
def Inline.text : Inline → CodeText
  | .node _ content => content.text

def InlineContent.text : InlineContent → CodeText
  | .str text => text
  | .styled _ inlines => textOf inlines
  | .quoted quote inlines => quote.mark ++ textOf inlines ++ quote.mark
  | .cite _ inlines => textOf inlines
  | .code _ text => text
  | .space => " "
  | .softBreak => " "
  | .lineBreak => "\n"
  | .link _ inlines _ => textOf inlines
  | .span _ inlines => textOf inlines
  | _ => ""

def textOf : List Inline → CodeText
  | [] => ""
  | i :: rest => i.text ++ textOf rest

end

/-- The pieces are texts, and together they are this one. -/
def Gives (p : Pieces) (text : CodeText) : Prop :=
  ∃ texts : List CodeText, p = .ok (texts.map .string) ∧ CodeText.join texts = text

theorem Gives.one (text : CodeText) : Gives (.ok [.string text]) text :=
  ⟨[text], rfl, by simp⟩

theorem Gives.none : Gives (.ok []) "" := ⟨[], rfl, rfl⟩

theorem Gives.append {p q : Pieces} {s t : CodeText} (hp : Gives p s) (hq : Gives q t) :
    Gives (do let first ← p; let more ← q; return first ++ more) (s ++ t) := by
  obtain ⟨ss, rfl, rfl⟩ := hp
  obtain ⟨ts, rfl, rfl⟩ := hq
  refine ⟨ss ++ ts, ?_, CodeText.join_append ss ts⟩
  rw [List.map_append]
  rfl

theorem joined_map_string (texts : List CodeText) :
    joined (texts.map .string) = .ok (CodeText.join texts) := by
  induction texts with
  | nil => rfl
  | cons text texts ih =>
    rw [List.map_cons, joined, ih, CodeText.join_cons]
    rfl

/-- The kinds of elements that give a piece of their own. -/
def pieceKinds : List String := ["Str", "Space", "SoftBreak", "LineBreak", "Code"]

section piecesIn

variable {kind : String} {inside : Inside} (order : MemberOrder) (content : Json)

theorem piecesIn_of_inside (hk : kind ∉ pieceKinds) (hi : insides.lookup kind = some inside) :
    piecesIn (node order kind content) = piecesInside inside [(.text "c", content)] := by
  simp only [pieceKinds, List.mem_cons, List.not_mem_nil, or_false, not_or] at hk
  have hmembers : piecesIn (node order kind content) =
      piecesInside inside (nodeMembers order kind content) := by
    simp [node, piecesIn, hk, hi]
  rw [hmembers]
  cases order <;> simp [nodeMembers, piecesInside]

theorem gives_nothing (hk : kind ∉ pieceKinds) (hi : insides.lookup kind = none) :
    Gives (piecesIn (node order kind content)) "" := by
  simp only [pieceKinds, List.mem_cons, List.not_mem_nil, or_false, not_or] at hk
  have hpieces : piecesIn (node order kind content) = .ok [] := by simp [node, piecesIn, hk, hi]
  exact hpieces ▸ .none

end piecesIn

theorem pieces_array (items : List Json) : pieces (.array items) = piecesOf items := by
  rw [pieces]

theorem secondPieces_array (v w : Json) (rest : List Json) :
    secondPieces (.array (v :: w :: rest)) = pieces w := by
  simp [secondPieces, piecesAt]

section gives

variable {kind : String} {text : CodeText} {items : List Json} (order : MemberOrder)

theorem gives_whole (hk : kind ∉ pieceKinds) (hi : insides.lookup kind = some .whole)
    (h : Gives (piecesOf items) text) : Gives (piecesIn (node order kind (.array items))) text := by
  rw [piecesIn_of_inside _ _ hk hi, piecesInside, if_pos (beq_self_eq_true _), pieces_array]
  exact h

theorem gives_second (hk : kind ∉ pieceKinds) (hi : insides.lookup kind = some .second)
    (h : Gives (piecesOf items) text) (v : Json) (rest : List Json) :
    Gives (piecesIn (node order kind (.array (v :: .array items :: rest)))) text := by
  rw [piecesIn_of_inside _ _ hk hi, piecesInside, if_pos (beq_self_eq_true _), secondPieces_array,
    pieces_array]
  exact h

theorem gives_quoted (h : Gives (piecesOf items) text) (quote : QuoteType) :
    Gives (piecesIn (node order "Quoted" (.array [leaf quote.kind, .array items])))
      (quote.mark ++ text ++ quote.mark) := by
  obtain ⟨texts, hpieces, rfl⟩ := h
  have hmark : quoteMark (.array [leaf quote.kind, .array items]) = .ok quote.mark := by
    cases quote <;> rfl
  have hinside : insides.lookup "Quoted" = some .quoted := rfl
  rw [piecesIn_of_inside _ _ (by decide) hinside, piecesInside, if_pos (beq_self_eq_true _), hmark,
    secondPieces_array, pieces_array, hpieces]
  refine ⟨.text quote.mark :: texts ++ [.text quote.mark], ?_, ?_⟩
  · rw [List.map_append]
    rfl
  · simp [CodeText.join_append, CodeText.append_assoc]

end gives

mutual

theorem gives_inline (i : Inline) : Gives (piecesIn i.toJson) i.text := by
  cases i with
  | node order content =>
    rw [Inline.toJson, Inline.text]
    cases content with
    | str text =>
      rw [InlineContent.toJson, InlineContent.text, node, piecesIn, lookup_kind_nodeMembers, contentOf,
        lookup_content_nodeMembers]
      exact .one text
    | styled style inlines =>
      have hk : style.kind ∉ pieceKinds := by cases style <;> decide
      have hi : insides.lookup style.kind = some .whole := by cases style <;> rfl
      exact gives_whole order hk hi (gives_inlines inlines)
    | quoted quote inlines => exact gives_quoted order (gives_inlines inlines) quote
    | cite citations inlines => exact gives_second order (by decide) rfl (gives_inlines inlines) _ []
    | code attributes text =>
      rw [InlineContent.toJson, InlineContent.text, node, piecesIn, lookup_kind_nodeMembers, contentOf,
        lookup_content_nodeMembers]
      exact .one text
    | space => exact .one " "
    | softBreak => exact .one " "
    | lineBreak => exact .one "\n"
    | link attributes inlines target =>
      exact gives_second order (by decide) rfl (gives_inlines inlines) _ [target.toJson]
    | span attributes inlines => exact gives_second order (by decide) rfl (gives_inlines inlines) _ []
    | _ => exact gives_nothing order _ (by decide) rfl

theorem gives_inlines (inlines : List Inline) : Gives (piecesOf (inlinesJson inlines)) (textOf inlines) := by
  cases inlines with
  | nil => exact .none
  | cons i rest =>
    rw [inlinesJson, piecesOf, textOf]
    exact (gives_inline i).append (gives_inlines rest)

end

def Header.text (h : Header) : CodeText := textOf h.inlines

theorem headingText_members (h : Header) : headingText h.members = .ok h.text := by
  obtain ⟨texts, hpieces, htext⟩ := gives_inlines h.inlines
  have hinlines : (memberOf "c" h.members >>= itemAt 2) = .ok (.array (inlinesJson h.inlines)) := by
    rw [memberOf, Header.members, lookup_content_nodeMembers]
    rfl
  have hjoined : (pieces (.array (inlinesJson h.inlines)) >>= joined) = .ok h.text := by
    rw [pieces_array, hpieces, Header.text, ← htext, ← joined_map_string texts]
    rfl
  rw [headingText, ← bind_assoc, hinlines]
  exact hjoined

/-! ### The title -/

/-- The text of the first of these headings; empty if there is none. -/
def firstText (headers : List Header) : CodeText := (headers.map Header.text).headD ""

theorem firstText_append (xs ys : List Header) :
    firstText (xs ++ ys) = if xs = [] then firstText ys else firstText xs := by
  cases xs <;> rfl

theorem title_eq_firstText {tree : Json} {blocks : List Block} (h : IsDocument tree blocks) :
    title tree = .ok (firstText (headersOf blocks)) := by
  cases tree with
  | object members =>
    have hblocks : blocksOf members = .array (blocksJson blocks) := by
      have hl : members.lookup (.text "blocks") = some (.array (blocksJson blocks)) := h
      rw [blocksOf, hl]
      rfl
    rw [title, hblocks, search_blocks, searchBlocks_json]
    cases headersOf blocks with
    | nil => rfl
    | cons first rest => exact headingText_members first
  | _ => cases h

/-- Every well-formed document has typed blocks. Its title is the text of the first heading in these,
empty if there is none. So a document in two parts has the title of the first part, if a heading is
found there, and else that of the second. -/
theorem title_firstHeading (tree : Json) :
    (fits (.record .document) tree = true → ∃ blocks, IsDocument tree blocks) ∧
    ∀ blocks, IsDocument tree blocks →
      title tree = .ok (firstText (headersOf blocks)) ∧
        ∀ (xs ys : List Block) (front back : Json), blocks = xs ++ ys → IsDocument front xs →
          IsDocument back ys → title tree = if headersOf xs = [] then title back else title front := by
  refine ⟨isDocument_of_fits, fun blocks h =>
    ⟨title_eq_firstText h, fun xs ys front back hparts hfront hback => ?_⟩⟩
  subst hparts
  rw [title_eq_firstText h, title_eq_firstText hfront, title_eq_firstText hback, headersOf_append,
    firstText_append]
  split_ifs <;> rfl

/-- A heading without text in a list. -/
def emptyHeading : List Block :=
  [.node .contentFirst (.bulletList [[], [.node .kindFirst (.header 2 ⟨"", [], []⟩ [])]])]

def laterHeading : List Block :=
  [.node .kindFirst (.header 1 ⟨"", [], []⟩ [.node .contentFirst (.str "Later")])]

theorem title_of_emptyHeading :
    let document (blocks : List Block) : Json :=
      .object [("pandoc-api-version", .array [.int 1, .int 23]), ("meta", .object []),
        ("blocks", .array (blocksJson blocks))]
    (fits (.record .document) (document (emptyHeading ++ laterHeading)) = true ∧
      ∃ blocks, IsDocument (document (emptyHeading ++ laterHeading)) blocks) ∧
      IsDocument (document (emptyHeading ++ laterHeading)) (emptyHeading ++ laterHeading) ∧
      IsDocument (document emptyHeading) emptyHeading ∧ IsDocument (document laterHeading) laterHeading ∧
      title (document (emptyHeading ++ laterHeading)) = .ok "" ∧
      title (document (emptyHeading ++ laterHeading)) = title (document emptyHeading) := by
  intro document
  have hfits : fits (.record .document) (document (emptyHeading ++ laterHeading)) = true := by
    decide +kernel
  have hall : IsDocument (document (emptyHeading ++ laterHeading)) (emptyHeading ++ laterHeading) := rfl
  have hfront : IsDocument (document emptyHeading) emptyHeading := rfl
  have hback : IsDocument (document laterHeading) laterHeading := rfl
  have htitle := title_firstHeading (document (emptyHeading ++ laterHeading))
  have h := htitle.2 _ hall
  exact ⟨⟨hfits, htitle.1 hfits⟩, hall, hfront, hback, h.1,
    (h.2 _ _ _ _ rfl hfront hback).trans (if_neg (List.cons_ne_nil _ _))⟩

end CmsMarkup.Pandoc
