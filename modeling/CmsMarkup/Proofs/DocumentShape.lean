import CmsMarkup.Pandoc.Tree
import Mathlib.Data.List.Forall2

/-! Well-formed document trees. Every element is an object with its kind and, unless the kind
says it all, its content; a table for each family of elements gives the shapes of contents. -/

namespace CmsMarkup.Pandoc

/-- The families of elements of a document tree. -/
inductive Family where
  | block
  | inline
  | metadata
  | alignment
  | columnWidth
  | numberStyle
  | numberDelimiter
  | quote
  | formula
  | citationMode
  deriving DecidableEq, Repr

/-- The objects without a kind. -/
inductive Record where
  | citation
  | document
  deriving DecidableEq, Repr

inductive Shape where
  | text
  | truth
  /-- An integer of 64 bits. -/
  | whole
  | number
  | list (s : Shape)
  | tuple (ss : List Shape)
  /-- Null, or a list. -/
  | optionalList (s : Shape)
  | element (f : Family)
  | record (r : Record)
  /-- An object of metadata by their names. -/
  | metadataMap
  deriving Repr

namespace Shape

def blocks : Shape := .list (.element .block)

def inlines : Shape := .list (.element .inline)

/-- Id, classes and pairs. -/
def attributes : Shape := .tuple [.text, .list .text, .list (.tuple [.text, .text])]

/-- Address and title of a link. -/
def target : Shape := .tuple [.text, .text]

/-- A format and a text in it. -/
def raw : Shape := .tuple [.text, .text]

def code : Shape := .tuple [attributes, .text]

def caption : Shape := .tuple [.optionalList (.element .inline), blocks]

def cell : Shape := .tuple [attributes, .element .alignment, .whole, .whole, blocks]

def rows : Shape := .list (.tuple [attributes, .list cell])

def table : Shape :=
  .tuple [attributes, caption, .list (.tuple [.element .alignment, .element .columnWidth]),
    .tuple [attributes, rows], .list (.tuple [attributes, .whole, rows, rows]),
    .tuple [attributes, rows]]

end Shape

/-- The members of a record. -/
def Record.fields : Record → List (CodeText × Shape)
  | .citation =>
    [("citationId", .text), ("citationPrefix", .inlines), ("citationSuffix", .inlines),
     ("citationMode", .element .citationMode), ("citationNoteNum", .whole),
     ("citationHash", .whole)]
  | .document =>
    [("pandoc-api-version", .list .whole), ("meta", .metadataMap), ("blocks", .blocks)]

namespace Family

open Shape

/-- The kinds of a family with the shapes of their contents. -/
def kinds : Family → List (String × Option Shape)
  | .block =>
    [("Plain", some inlines), ("Para", some inlines), ("LineBlock", some (.list inlines)),
     ("CodeBlock", some code), ("RawBlock", some raw), ("BlockQuote", some blocks),
     ("OrderedList", some (.tuple
       [.tuple [.whole, .element .numberStyle, .element .numberDelimiter], .list blocks])),
     ("BulletList", some (.list blocks)),
     ("DefinitionList", some (.list (.tuple [inlines, .list blocks]))),
     ("Header", some (.tuple [.whole, attributes, inlines])), ("HorizontalRule", none),
     ("Table", some table), ("Figure", some (.tuple [attributes, caption, blocks])),
     ("Div", some (.tuple [attributes, blocks]))]
  | .inline =>
    [("Str", some .text), ("Emph", some inlines), ("Underline", some inlines),
     ("Strong", some inlines), ("Strikeout", some inlines), ("Superscript", some inlines),
     ("Subscript", some inlines), ("SmallCaps", some inlines),
     ("Quoted", some (.tuple [.element .quote, inlines])),
     ("Cite", some (.tuple [.list (.record .citation), inlines])), ("Code", some code), ("Space", none),
     ("SoftBreak", none), ("LineBreak", none), ("Math", some (.tuple [.element .formula, .text])),
     ("RawInline", some raw), ("Link", some (.tuple [attributes, inlines, target])),
     ("Image", some (.tuple [attributes, inlines, target])), ("Note", some blocks),
     ("Span", some (.tuple [attributes, inlines]))]
  | .metadata =>
    [("MetaMap", some .metadataMap), ("MetaList", some (.list (.element .metadata))),
     ("MetaBool", some .truth), ("MetaString", some .text), ("MetaInlines", some inlines),
     ("MetaBlocks", some blocks)]
  | .alignment =>
    [("AlignLeft", none), ("AlignRight", none), ("AlignCenter", none), ("AlignDefault", none)]
  | .columnWidth => [("ColWidth", some .number), ("ColWidthDefault", none)]
  | .numberStyle =>
    [("DefaultStyle", none), ("Example", none), ("Decimal", none), ("LowerRoman", none),
     ("UpperRoman", none), ("LowerAlpha", none), ("UpperAlpha", none)]
  | .numberDelimiter =>
    [("DefaultDelim", none), ("Period", none), ("OneParen", none), ("TwoParens", none)]
  | .quote => [("SingleQuote", none), ("DoubleQuote", none)]
  | .formula => [("DisplayMath", none), ("InlineMath", none)]
  | .citationMode => [("AuthorInText", none), ("SuppressAuthor", none), ("NormalCitation", none)]

/-- The members of an element of a kind, if the family has that kind. -/
def fields? (f : Family) (kind : String) : Option (List (CodeText × Shape)) :=
  (f.kinds.lookup kind).map fun content =>
    (.text "t", .text) :: content.toList.map (CodeText.text "c", ·)

end Family

/-- Whether an object has exactly the members of these names, in any order. -/
def namesFit (fields : List (CodeText × Shape)) (members : List (CodeText × Json)) : Bool :=
  (members.map (·.1)).isPerm (fields.map (·.1))

/-- The integers of 64 bits. -/
def isWord (n : Int) : Bool := -9223372036854775808 ≤ n && n ≤ 9223372036854775807

mutual

def fits : Shape → Json → Bool
  | .text, .string _ => true
  | .truth, .bool _ => true
  | .whole, .int n => isWord n
  | .number, .int n => isWord n
  | .number, .real _ => true
  | .optionalList _, .null => true
  | .optionalList s, .array items => fitsEach s items
  | .list s, .array items => fitsEach s items
  | .tuple ss, .array items => fitsInTurn ss items
  | .element f, .object members =>
    match (kindOf? members).bind f.fields? with
    | some fields => namesFit fields members && fitsMembers fields members
    | none => false
  | .record r, .object members => namesFit r.fields members && fitsMembers r.fields members
  | .metadataMap, .object members => fitsValues members
  | _, _ => false

def fitsEach (s : Shape) : List Json → Bool
  | [] => true
  | v :: rest => fits s v && fitsEach s rest

def fitsInTurn : List Shape → List Json → Bool
  | [], [] => true
  | s :: ss, v :: rest => fits s v && fitsInTurn ss rest
  | _, _ => false

def fitsMembers (fields : List (CodeText × Shape)) : List (CodeText × Json) → Bool
  | [] => true
  | (key, v) :: rest =>
    (match fields.lookup key with
      | some s => fits s v
      | none => false) && fitsMembers fields rest

def fitsValues : List (CodeText × Json) → Bool
  | [] => true
  | (_, v) :: rest => fits (.element .metadata) v && fitsValues rest

end

section Lookup

variable {α β : Type} [BEq α] [LawfulBEq α] {key : α} {pairs : List (α × β)}

theorem lookup_mem {b : β} (h : pairs.lookup key = some b) : (key, b) ∈ pairs := by
  obtain ⟨before, after, rfl, -⟩ := List.lookup_eq_some_iff.mp h
  exact List.mem_append_right _ List.mem_cons_self

theorem lookup_of_name (h : key ∈ pairs.map (·.1)) : ∃ b, pairs.lookup key = some b := by
  obtain ⟨p, hp, rfl⟩ := List.mem_map.mp h
  exact Option.isSome_iff_exists.mp (List.lookup_isSome_iff.mpr ⟨p, hp, beq_self_eq_true _⟩)

end Lookup

section

variable {s : Shape} {ss : List Shape} {fields : List (CodeText × Shape)} {v : Json}
  {items : List Json} {members : List (CodeText × Json)}

theorem fitsEach_iff : fitsEach s items = true ↔ ∀ v ∈ items, fits s v = true := by
  induction items with
  | nil => simp [fitsEach]
  | cons v rest ih => simp [fitsEach, ih]

theorem fitsInTurn_iff :
    fitsInTurn ss items = true ↔ List.Forall₂ (fun s v => fits s v = true) ss items := by
  induction ss generalizing items with
  | nil => cases items <;> simp [fitsInTurn]
  | cons s ss ih => cases items <;> simp [fitsInTurn, ih]

theorem fitsMembers_iff : fitsMembers fields members = true ↔
    ∀ m ∈ members, ∃ s, fields.lookup m.1 = some s ∧ fits s m.2 = true := by
  induction members with
  | nil => simp [fitsMembers]
  | cons m rest ih =>
    obtain ⟨key, v⟩ := m
    cases h : fields.lookup key <;> simp [fitsMembers, h, ih]

theorem fitsValues_iff :
    fitsValues members = true ↔ ∀ m ∈ members, fits (.element .metadata) m.2 = true := by
  induction members with
  | nil => simp [fitsValues]
  | cons m rest ih => simp [fitsValues, ih]

theorem fits_text (h : fits .text v = true) : ∃ t, v = .string t := by
  cases v <;> simp_all [fits]

theorem fits_list (h : fits (.list s) v = true) :
    ∃ items, v = .array items ∧ ∀ v ∈ items, fits s v = true := by
  cases v <;> simp_all [fits, fitsEach_iff]

theorem fits_tuple (h : fits (.tuple ss) v = true) :
    ∃ items, v = .array items ∧ List.Forall₂ (fun s v => fits s v = true) ss items := by
  cases v <;> simp_all [fits, fitsInTurn_iff]

theorem fits_record {r : Record} (h : fits (.record r) v = true) :
    ∃ members, v = .object members ∧ namesFit r.fields members = true ∧
      fitsMembers r.fields members = true := by
  cases v <;> simp_all [fits]

theorem fits_element {f : Family} (h : fits (.element f) v = true) :
    ∃ members kind fields, v = .object members ∧ kindOf? members = some kind ∧
      f.fields? kind = some fields ∧ namesFit fields members = true ∧
      fitsMembers fields members = true := by
  cases v with
  | object members =>
    cases hk : kindOf? members with
    | none => simp [fits, hk] at h
    | some kind =>
      cases hf : f.fields? kind with
      | none => simp [fits, hk, hf] at h
      | some fields =>
        simp only [fits, hk, hf, Option.bind_some, Bool.and_eq_true] at h
        exact ⟨members, kind, fields, rfl, hk, hf, h⟩
  | _ => cases h

theorem lookup_kind {kind : String} (h : kindOf? members = some kind) :
    members.lookup (.text "t") = some (.string kind) := by
  unfold kindOf? at h
  split at h
  · rename_i hk
    rw [hk, Option.some.inj h]
  · cases h

theorem item_fits {i : Nat} (h : List.Forall₂ (fun s v => fits s v = true) ss items)
    (hs : ss[i]? = some s) : ∃ v, items[i]? = some v ∧ fits s v = true := by
  obtain ⟨hi, rfl⟩ := List.getElem?_eq_some_iff.mp hs
  have hi' : i < items.length := by rw [← h.length_eq]; exact hi
  exact ⟨items[i], List.getElem?_eq_getElem hi', h.get hi hi'⟩

/-- A well-formed object has every member that its shape names. -/
theorem member_fits (key : CodeText) (hn : namesFit fields members = true)
    (hm : fitsMembers fields members = true) (hk : fields.lookup key = some s) :
    ∃ v, members.lookup key = some v ∧ (key, v) ∈ members ∧ fits s v = true := by
  have hname : key ∈ fields.map (·.1) :=
    List.mem_map_of_mem (f := Prod.fst) (lookup_mem hk)
  rw [← (List.isPerm_iff.mp hn).mem_iff] at hname
  obtain ⟨v, hv⟩ := lookup_of_name hname
  obtain ⟨s', hs', hf⟩ := fitsMembers_iff.mp hm _ (lookup_mem hv)
  rw [hk, Option.some.injEq] at hs'
  exact ⟨v, hv, lookup_mem hv, hs' ▸ hf⟩

end

end CmsMarkup.Pandoc
