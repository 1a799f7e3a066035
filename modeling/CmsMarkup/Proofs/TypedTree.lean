import CmsMarkup.Pandoc.Syntax
import CmsMarkup.Proofs.DocumentShape

/-! Every well-formed document is one of the syntax: what holds of typed blocks holds of all the
trees whose shapes are right. -/

namespace CmsMarkup.Pandoc

/-! ### Shapes and the values behind them -/

/-- What fits the shape and is no larger than `n` is the JSON of some value. -/
def Covers {α : Type} (n : Nat) (s : Shape) (f : α → Json) : Prop :=
  ∀ v, sizeOf v ≤ n → fits s v = true → ∃ a, f a = v

/-- The same for the items of a tuple. -/
def CoversItems {α : Type} (n : Nat) (ss : List Shape) (f : α → List Json) : Prop :=
  ∀ items, sizeOf items ≤ n → fitsInTurn ss items = true → ∃ a, f a = items

/-- The same for the elements of a kind; the size is that of the content. -/
def CoversKind {α : Type} (n : Nat) (f : α → Json) : String × Option Shape → Prop
  | (kind, none) => ∃ a, f a = leaf kind
  | (kind, some s) =>
    ∀ order v, sizeOf v ≤ n → fits s v = true → ∃ a, f a = node order kind v

section covers

variable {α β : Type} {n : Nat} {s t : Shape} {ss : List Shape} {f : α → Json} {g : β → Json}

theorem Covers.of_exists (h : Covers n s f) (hg : ∀ a, ∃ b, g b = f a) : Covers n s g := by
  intro v hn hv
  obtain ⟨a, rfl⟩ := h v hn hv
  exact hg a

theorem covers_text : Covers n .text Json.string := by
  intro v _ hv
  obtain ⟨text, rfl⟩ := fits_text hv
  exact ⟨text, rfl⟩

theorem covers_whole : Covers n .whole Json.int := by
  intro v _ hv
  cases v with
  | int i => exact ⟨i, rfl⟩
  | _ => cases hv

/-- A list of values has its JSON by recursion on it. -/
theorem Covers.list (h : Covers n s f) {fs : List α → List Json} (hnil : fs [] = [])
    (hcons : ∀ a as, fs (a :: as) = f a :: fs as) :
    Covers n (.list s) fun as => .array (fs as) := by
  intro v hn hv
  obtain ⟨items, rfl, hitems⟩ := fits_list hv
  simp only [Json.array.sizeOf_spec] at hn
  have hbound : sizeOf items ≤ n := by omega
  clear hn hv
  suffices ∃ as, fs as = items from this.imp fun as h => congrArg Json.array h
  induction items with
  | nil => exact ⟨[], hnil⟩
  | cons v rest ih =>
    simp only [List.cons.sizeOf_spec] at hbound
    obtain ⟨a, rfl⟩ := h v (by omega) (hitems v List.mem_cons_self)
    obtain ⟨as, rfl⟩ := ih (fun v hv => hitems v (List.mem_cons_of_mem _ hv)) (by omega)
    exact ⟨a :: as, hcons a as⟩

theorem coversItems_nil : CoversItems n [] fun _ : Unit => [] := by
  intro items _ hv
  cases items with
  | nil => exact ⟨(), rfl⟩
  | cons v rest => cases hv

theorem Covers.cons (h : Covers n s f) {fs : β → List Json} (hs : CoversItems n ss fs) :
    CoversItems n (s :: ss) fun p : α × β => f p.1 :: fs p.2 := by
  intro items hn hv
  cases items with
  | nil => cases hv
  | cons v rest =>
    simp only [fitsInTurn, Bool.and_eq_true] at hv
    simp only [List.cons.sizeOf_spec] at hn
    obtain ⟨a, rfl⟩ := h v (by omega) hv.1
    obtain ⟨b, rfl⟩ := hs rest (by omega) hv.2
    exact ⟨(a, b), rfl⟩

theorem CoversItems.tuple {fs : α → List Json} (h : CoversItems n ss fs) :
    Covers n (.tuple ss) fun a => .array (fs a) := by
  intro v hn hv
  cases v with
  | array items =>
    simp only [Json.array.sizeOf_spec] at hn
    obtain ⟨a, rfl⟩ := h items (by omega) (by simpa only [fits] using hv)
    exact ⟨a, rfl⟩
  | _ => cases hv

theorem Covers.pair (h : Covers n s f) (h' : Covers n t g) :
    Covers n (.tuple [s, t]) fun p : α × β => .array [f p.1, g p.2] :=
  (h.cons (h'.cons coversItems_nil)).tuple.of_exists fun ⟨a, b, _⟩ => ⟨(a, b), rfl⟩

theorem Covers.kind {kind : String} (h : Covers n s f)
    (hg : ∀ order a, ∃ b, g b = node order kind (f a)) : CoversKind n g (kind, some s) := by
  intro order v hn hv
  obtain ⟨a, rfl⟩ := h v hn hv
  exact hg order a

/-- An object of a kind alone is a leaf. -/
theorem eq_leaf {members : List (CodeText × Json)} {kind : String} (hkind : kindOf? members = some kind)
    (hnames : (members.map (·.1)).Perm [.text "t"]) : .object members = leaf kind := by
  obtain ⟨⟨key, v⟩, rfl, rfl⟩ : ∃ m, members = [m] ∧ m.1 = .text "t" := by
    simpa [List.map_eq_cons_iff] using List.perm_singleton.mp hnames
  have hv : v = .string kind := Option.some.inj (lookup_kind hkind)
  rw [hv, leaf]

/-- An object of a kind and a content is a node with them in some order. -/
theorem eq_node {members : List (CodeText × Json)} {kind : String} {content : Json}
    (hkind : kindOf? members = some kind) (hcontent : members.lookup (.text "c") = some content)
    (hnames : (members.map (·.1)).Perm [.text "t", .text "c"]) :
    ∃ order, .object members = node order kind content := by
  obtain ⟨⟨key, v⟩, ⟨key', v'⟩, rfl⟩ : ∃ m m', members = [m, m'] := by
    simpa [List.length_eq_two] using hnames.length_eq
  have hkeys : key = .text "t" ∧ key' = .text "c" ∨ key = .text "c" ∧ key' = .text "t" := by
    have hkey : key ∈ [CodeText.text "t", .text "c"] := hnames.subset List.mem_cons_self
    have hkey' : key' ∈ [CodeText.text "t", .text "c"] := hnames.subset (List.mem_cons_of_mem _ List.mem_cons_self)
    have hne : key ≠ key' := by simpa using hnames.nodup_iff.mpr (by decide)
    simp only [List.mem_cons, List.not_mem_nil, or_false] at hkey hkey'
    grind
  have hkind := lookup_kind hkind
  obtain ⟨rfl, rfl⟩ | ⟨rfl, rfl⟩ := hkeys
  · have hv : v = .string kind := Option.some.inj hkind
    have hv' : v' = content := Option.some.inj hcontent
    exact ⟨.kindFirst, by rw [hv, hv', node, nodeMembers]⟩
  · have hv : v = content := Option.some.inj hcontent
    have hv' : v' = .string kind := Option.some.inj hkind
    exact ⟨.contentFirst, by rw [hv, hv', node, nodeMembers]⟩

/-- A well-formed element is a leaf or a node of a kind of its family. -/
theorem fits_kind {family : Family} {v : Json} (h : fits (.element family) v = true) :
    ∃ kind, (kind, none) ∈ family.kinds ∧ v = leaf kind ∨
      ∃ s order content, (kind, some s) ∈ family.kinds ∧ v = node order kind content ∧
        fits s content = true := by
  obtain ⟨members, kind, fields, rfl, hkind, hfields, hnames, hmembers⟩ := fits_element h
  obtain ⟨content, hlookup, rfl⟩ := Option.map_eq_some_iff.mp hfields
  have hperm := List.isPerm_iff.mp hnames
  refine ⟨kind, ?_⟩
  cases content with
  | none => exact .inl ⟨lookup_mem hlookup, eq_leaf hkind hperm⟩
  | some s =>
    obtain ⟨content, hcontent, -, hfit⟩ := member_fits (s := s) "c" hnames hmembers rfl
    obtain ⟨order, horder⟩ := eq_node hkind hcontent hperm
    exact .inr ⟨s, order, content, lookup_mem hlookup, horder, hfit⟩

theorem covers_element {family : Family} (h : ∀ p ∈ family.kinds, CoversKind n f p) :
    Covers (n + 1) (.element family) f := by
  intro v hn hv
  obtain ⟨kind, ⟨hk, rfl⟩ | ⟨s, order, content, hk, rfl, hcontent⟩⟩ := fits_kind hv
  · exact h _ hk
  · refine h _ hk order content ?_ hcontent
    cases order <;> simp [node, nodeMembers] at hn <;> omega

end covers

/-! ### The parts of elements -/

section parts

variable {n : Nat}

theorem covers_attributes : Covers n Shape.attributes Attributes.toJson := by
  have classes : Covers n (.list .text) fun as : List CodeText => .array (as.map .string) :=
    covers_text.list rfl fun _ _ => rfl
  have pairs : Covers n (.list (.tuple [.text, .text])) fun ps =>
      .array (List.map pairJson ps) :=
    (covers_text.pair covers_text).list rfl fun _ _ => rfl
  exact (covers_text.cons (classes.cons (pairs.cons coversItems_nil))).tuple.of_exists
    fun ⟨id, classes, pairs, _⟩ => ⟨⟨id, classes, pairs⟩, rfl⟩

theorem covers_target : Covers n Shape.target Target.toJson :=
  (covers_text.pair covers_text).of_exists fun ⟨url, title⟩ => ⟨⟨url, title⟩, rfl⟩

theorem covers_code : Covers n Shape.code fun p : Attributes × CodeText =>
    .array [p.1.toJson, .string p.2] :=
  covers_attributes.pair covers_text

theorem covers_raw : Covers n Shape.raw fun p : CodeText × CodeText =>
    .array [.string p.1, .string p.2] :=
  covers_text.pair covers_text

/-- A family of elements without content has the values whose kinds it lists. -/
theorem covers_leaves {α : Type} {family : Family} {kindOf : α → String} (values : List α)
    (h : family.kinds = values.map fun a => (kindOf a, none)) :
    Covers n (.element family) fun a => leaf (kindOf a) := by
  intro v _ hv
  obtain ⟨kind, ⟨hkind, rfl⟩ | ⟨s, order, content, hkind, -⟩⟩ := fits_kind hv
  · rw [h] at hkind
    obtain ⟨a, -, ha⟩ := List.mem_map.mp hkind
    exact ⟨a, by rw [← (Prod.mk.inj ha).1]⟩
  · rw [h] at hkind
    obtain ⟨a, -, ha⟩ := List.mem_map.mp hkind
    cases (Prod.mk.inj ha).2

theorem covers_quote : Covers n (.element .quote) fun q => leaf (QuoteType.kind q) :=
  covers_leaves [.single, .double] rfl

theorem covers_formula : Covers n (.element .formula) fun m => leaf (MathType.kind m) :=
  covers_leaves [.display, .inline] rfl

theorem covers_citationMode : Covers n (.element .citationMode) fun m => leaf (CitationMode.kind m) :=
  covers_leaves [.authorInText, .suppressAuthor, .normal] rfl

theorem covers_alignment : Covers n (.element .alignment) fun a => leaf (Alignment.kind a) :=
  covers_leaves [.left, .right, .center, .default] rfl

theorem covers_numbering :
    Covers n (.tuple [.whole, .element .numberStyle, .element .numberDelimiter]) Numbering.toJson := by
  have style : Covers n (.element .numberStyle) fun s => leaf (NumberStyle.kind s) :=
    covers_leaves [.default, .example, .decimal, .lowerRoman, .upperRoman, .lowerAlpha, .upperAlpha] rfl
  have delimiter : Covers n (.element .numberDelimiter) fun d => leaf (NumberDelimiter.kind d) :=
    covers_leaves [.default, .period, .oneParen, .twoParens] rfl
  exact (covers_whole.cons (style.cons (delimiter.cons coversItems_nil))).tuple.of_exists
    fun ⟨start, style, delimiter, _⟩ => ⟨⟨start, style, delimiter⟩, rfl⟩

theorem covers_columnWidth : Covers n (.element .columnWidth) ColumnWidth.toJson := by
  intro v _ hv
  obtain ⟨kind, ⟨hkind, rfl⟩ | ⟨s, order, content, hkind, rfl, hfit⟩⟩ := fits_kind hv
  · obtain rfl : kind = "ColWidthDefault" := by simpa [Family.kinds] using hkind
    exact ⟨.default, rfl⟩
  · obtain ⟨rfl, rfl⟩ : kind = "ColWidth" ∧ s = .number := by simpa [Family.kinds] using hkind
    cases content with
    | int i => exact ⟨.whole order i, rfl⟩
    | real text => exact ⟨.fraction order text, rfl⟩
    | _ => cases hfit

theorem covers_columns : Covers n (.list (.tuple [.element .alignment, .element .columnWidth]))
    fun columns => .array (List.map Column.toJson columns) :=
  have column : Covers n (.tuple [.element .alignment, .element .columnWidth]) Column.toJson :=
    (covers_alignment.pair covers_columnWidth).of_exists
      fun ⟨alignment, width⟩ => ⟨⟨alignment, width⟩, rfl⟩
  column.list rfl fun _ _ => rfl

end parts

/-! ### Blocks and inline elements -/

section trees

variable {n : Nat}

theorem covers_inlines (hi : Covers n (.element .inline) Inline.toJson) :
    Covers n Shape.inlines fun inlines => .array (inlinesJson inlines) :=
  hi.list rfl fun _ _ => rfl

theorem covers_blocks (hb : Covers n (.element .block) Block.toJson) :
    Covers n Shape.blocks fun blocks => .array (blocksJson blocks) :=
  hb.list rfl fun _ _ => rfl

theorem covers_items (hb : Covers n (.element .block) Block.toJson) :
    Covers n (.list .blocks) fun items => .array (itemsJson items) :=
  (covers_blocks hb).list rfl fun _ _ => rfl

theorem exists_field (hi : Covers n (.element .inline) Inline.toJson) {key : CodeText} {s : Shape}
    {v : Json} (hn : sizeOf v ≤ n) (hs : (key, s) ∈ Record.citation.fields) (hfit : fits s v = true) :
    ∃ field : CitationField, field.member = (key, v) := by
  simp only [Record.fields, List.mem_cons, Prod.mk.injEq, List.not_mem_nil, or_false] at hs
  obtain ⟨rfl, rfl⟩ | ⟨rfl, rfl⟩ | ⟨rfl, rfl⟩ | ⟨rfl, rfl⟩ | ⟨rfl, rfl⟩ | ⟨rfl, rfl⟩ := hs
  · obtain ⟨text, rfl⟩ := covers_text v hn hfit
    exact ⟨.id text, rfl⟩
  · obtain ⟨inlines, rfl⟩ := covers_inlines hi v hn hfit
    exact ⟨.before inlines, rfl⟩
  · obtain ⟨inlines, rfl⟩ := covers_inlines hi v hn hfit
    exact ⟨.after inlines, rfl⟩
  · obtain ⟨mode, rfl⟩ := covers_citationMode v hn hfit
    exact ⟨.mode mode, rfl⟩
  · obtain ⟨i, rfl⟩ := covers_whole v hn hfit
    exact ⟨.noteNumber i, rfl⟩
  · obtain ⟨i, rfl⟩ := covers_whole v hn hfit
    exact ⟨.hash i, rfl⟩

/-- The members of a citation are read one by one. -/
theorem covers_citation (hi : Covers n (.element .inline) Inline.toJson) :
    Covers n (.record .citation) fun fields => .object (citationMembers fields) := by
  intro v hn hv
  obtain ⟨members, rfl, -, hmembers⟩ := fits_record hv
  simp only [Json.object.sizeOf_spec] at hn
  have hbound : sizeOf members ≤ n := by omega
  clear hn hv
  suffices ∃ fields, citationMembers fields = members from
    this.imp fun fields h => congrArg Json.object h
  rw [fitsMembers_iff] at hmembers
  induction members with
  | nil => exact ⟨[], rfl⟩
  | cons m rest ih =>
    obtain ⟨key, v⟩ := m
    simp only [List.cons.sizeOf_spec, Prod.mk.sizeOf_spec] at hbound
    have hv : sizeOf v ≤ n := by omega
    obtain ⟨⟨s, hs, hfit⟩, hrest⟩ := List.forall_mem_cons.mp hmembers
    obtain ⟨fields, rfl⟩ := ih hrest (by omega)
    obtain ⟨field, hfield⟩ := exists_field hi hv (lookup_mem hs) hfit
    exact ⟨field :: fields, by rw [citationMembers, hfield]⟩

theorem covers_inline (hi : Covers n (.element .inline) Inline.toJson)
    (hb : Covers n (.element .block) Block.toJson) :
    Covers (n + 1) (.element .inline) Inline.toJson := by
  have inlines := covers_inlines hi
  have citations : Covers n (.list (.record .citation)) fun cs => .array (citationsJson cs) :=
    (covers_citation hi).list rfl fun _ _ => rfl
  have linked := (covers_attributes.cons (inlines.cons (covers_target.cons coversItems_nil))).tuple
  refine covers_element ?_
  simp only [Family.kinds, List.forall_mem_cons]
  exact ⟨covers_text.kind fun order text => ⟨.node order (.str text), rfl⟩,
    inlines.kind fun order inlines => ⟨.node order (.styled .emph inlines), rfl⟩,
    inlines.kind fun order inlines => ⟨.node order (.styled .underline inlines), rfl⟩,
    inlines.kind fun order inlines => ⟨.node order (.styled .strong inlines), rfl⟩,
    inlines.kind fun order inlines => ⟨.node order (.styled .strikeout inlines), rfl⟩,
    inlines.kind fun order inlines => ⟨.node order (.styled .superscript inlines), rfl⟩,
    inlines.kind fun order inlines => ⟨.node order (.styled .subscript inlines), rfl⟩,
    inlines.kind fun order inlines => ⟨.node order (.styled .smallCaps inlines), rfl⟩,
    (covers_quote.pair inlines).kind fun order p => ⟨.node order (.quoted p.1 p.2), rfl⟩,
    (citations.pair inlines).kind fun order p => ⟨.node order (.cite p.1 p.2), rfl⟩,
    covers_code.kind fun order p => ⟨.node order (.code p.1 p.2), rfl⟩,
    ⟨.node .kindFirst .space, rfl⟩, ⟨.node .kindFirst .softBreak, rfl⟩,
    ⟨.node .kindFirst .lineBreak, rfl⟩,
    (covers_formula.pair covers_text).kind fun order p => ⟨.node order (.math p.1 p.2), rfl⟩,
    covers_raw.kind fun order p => ⟨.node order (.raw p.1 p.2), rfl⟩,
    linked.kind fun order p => ⟨.node order (.link p.1 p.2.1 p.2.2.1), rfl⟩,
    linked.kind fun order p => ⟨.node order (.image p.1 p.2.1 p.2.2.1), rfl⟩,
    (covers_blocks hb).kind fun order blocks => ⟨.node order (.note blocks), rfl⟩,
    (covers_attributes.pair inlines).kind fun order p => ⟨.node order (.span p.1 p.2), rfl⟩,
    by simp⟩

theorem covers_caption (hi : Covers n (.element .inline) Inline.toJson)
    (hb : Covers n (.element .block) Block.toJson) : Covers n Shape.caption Caption.toJson := by
  have short : Covers n (.optionalList (.element .inline)) fun inlines : Option (List Inline) =>
      inlines.elim .null fun inlines => .array (inlinesJson inlines) := by
    intro v hn hv
    cases v with
    | null => exact ⟨none, rfl⟩
    | array items =>
      have hlist : fits Shape.inlines (.array items) = true := by
        simpa only [Shape.inlines, fits] using hv
      obtain ⟨inlines, h⟩ := covers_inlines hi (.array items) hn hlist
      exact ⟨some inlines, h⟩
    | _ => cases hv
  refine (short.pair (covers_blocks hb)).of_exists ?_
  rintro ⟨_ | inlines, blocks⟩
  · exact ⟨.long blocks, rfl⟩
  · exact ⟨.short inlines blocks, rfl⟩

theorem covers_rows (hb : Covers n (.element .block) Block.toJson) :
    Covers n Shape.rows fun rows => .array (rowsJson rows) := by
  have cell : Covers n Shape.cell Cell.toJson :=
    (covers_attributes.cons (covers_alignment.cons (covers_whole.cons (covers_whole.cons
      ((covers_blocks hb).cons coversItems_nil))))).tuple.of_exists
      fun ⟨attributes, alignment, rows, columns, blocks, _⟩ =>
        ⟨⟨attributes, alignment, rows, columns, blocks⟩, rfl⟩
  have cells : Covers n (.list Shape.cell) fun cells => .array (cellsJson cells) :=
    cell.list rfl fun _ _ => rfl
  have row : Covers n (.tuple [Shape.attributes, .list Shape.cell]) Row.toJson :=
    (covers_attributes.pair cells).of_exists fun ⟨attributes, cells⟩ => ⟨⟨attributes, cells⟩, rfl⟩
  exact row.list rfl fun _ _ => rfl

theorem covers_block (hi : Covers n (.element .inline) Inline.toJson)
    (hb : Covers n (.element .block) Block.toJson) :
    Covers (n + 1) (.element .block) Block.toJson := by
  have inlines := covers_inlines hi
  have blocks := covers_blocks hb
  have items := covers_items hb
  have caption := covers_caption hi hb
  have rows := covers_rows hb
  have lines : Covers n (.list .inlines) fun lines => .array (linesJson lines) :=
    inlines.list rfl fun _ _ => rfl
  have entries : Covers n (.list (.tuple [.inlines, .list .blocks])) fun entries =>
      .array (entriesJson entries) :=
    (inlines.pair items).list rfl fun _ _ => rfl
  have header := (covers_whole.cons (covers_attributes.cons (inlines.cons coversItems_nil))).tuple
  have figure := (covers_attributes.cons (caption.cons (blocks.cons coversItems_nil))).tuple
  have body : Covers n (.tuple [.attributes, .whole, .rows, .rows]) TableBody.toJson :=
    (covers_attributes.cons (covers_whole.cons (rows.cons (rows.cons coversItems_nil)))).tuple.of_exists
      fun ⟨attributes, headColumns, head, rows, _⟩ => ⟨⟨attributes, headColumns, head, rows⟩, rfl⟩
  have bodies : Covers n (.list (.tuple [.attributes, .whole, .rows, .rows])) fun bodies =>
      .array (bodiesJson bodies) :=
    body.list rfl fun _ _ => rfl
  have ends := covers_attributes.pair rows
  have table := (covers_attributes.cons (caption.cons (covers_columns.cons (ends.cons (bodies.cons
    (ends.cons coversItems_nil)))))).tuple
  refine covers_element ?_
  simp only [Family.kinds, List.forall_mem_cons]
  exact ⟨inlines.kind fun order inlines => ⟨.node order (.plain inlines), rfl⟩,
    inlines.kind fun order inlines => ⟨.node order (.para inlines), rfl⟩,
    lines.kind fun order lines => ⟨.node order (.lineBlock lines), rfl⟩,
    covers_code.kind fun order p => ⟨.node order (.code p.1 p.2), rfl⟩,
    covers_raw.kind fun order p => ⟨.node order (.raw p.1 p.2), rfl⟩,
    blocks.kind fun order blocks => ⟨.node order (.quote blocks), rfl⟩,
    (covers_numbering.pair items).kind fun order p => ⟨.node order (.orderedList p.1 p.2), rfl⟩,
    items.kind fun order items => ⟨.node order (.bulletList items), rfl⟩,
    entries.kind fun order entries => ⟨.node order (.definitionList entries), rfl⟩,
    header.kind fun order p => ⟨.node order (.header p.1 p.2.1 p.2.2.1), rfl⟩,
    ⟨.node .kindFirst .rule, rfl⟩,
    table.kind fun order ⟨attributes, caption, columns, head, bodies, foot, _⟩ =>
      ⟨.node order (.table attributes caption columns head.1 head.2 bodies foot.1 foot.2), rfl⟩,
    figure.kind fun order p => ⟨.node order (.figure p.1 p.2.1 p.2.2.1), rfl⟩,
    (covers_attributes.pair blocks).kind fun order p => ⟨.node order (.div p.1 p.2), rfl⟩,
    by simp⟩

/-- The content of an element is smaller than the element, and what is in it is no larger. -/
theorem covers_elements (n : Nat) :
    Covers n (.element .inline) Inline.toJson ∧ Covers n (.element .block) Block.toJson := by
  induction n with
  | zero =>
    have positive (v : Json) : ¬ sizeOf v ≤ 0 := by cases v <;> simp
    exact ⟨fun v hn => absurd hn (positive v), fun v hn => absurd hn (positive v)⟩
  | succ n ih => exact ⟨covers_inline ih.1 ih.2, covers_block ih.1 ih.2⟩

/-- A well-formed document has typed blocks. -/
theorem isDocument_of_fits {tree : Json} (h : fits (.record .document) tree = true) :
    ∃ blocks, IsDocument tree blocks := by
  obtain ⟨members, rfl, hnames, hmembers⟩ := fits_record h
  obtain ⟨v, hv, -, hfit⟩ := member_fits (s := .blocks) "blocks" hnames hmembers rfl
  obtain ⟨blocks, rfl⟩ := covers_blocks (covers_elements (sizeOf v)).2 v (Nat.le_refl _) hfit
  exact ⟨blocks, hv⟩

end trees

end CmsMarkup.Pandoc
