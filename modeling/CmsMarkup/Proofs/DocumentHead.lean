import CmsMarkup.Document
import CmsMarkup.FrontMatter
import CmsMarkup.Html.Tree
import CmsMarkup.Proofs.WrittenMarkup
import Mathlib.Control.Monad.Basic

/-! The head of a document. Read back, it holds the elements that were written there and no
others, whatever the title, the fields and the body are. -/

namespace CmsMarkup

open Html

/-! ### A head that is being read -/

namespace Html.Construction

def lineEnd : Node := .text .plain "\n"

def doctype : Node := .text .doctype "html"

/-- The head of a page is open, and these are its elements so far. -/
structure InHead (elements : List Node) (c : Construction) : Prop where
  opened : ∃ children, c.opened = [⟨"head", [], children⟩, ⟨"html", [], [lineEnd]⟩] ∧
    children.reverse.filter (·.isElement) = elements
  finished : c.finished = [lineEnd, doctype]
  endsToCome : ∀ name ∈ c.endsToCome, isVoid name = true

theorem InHead.add {elements : List Node} {c : Construction} (h : InHead elements c) (n : Node) :
    InHead (elements ++ [n].filter (·.isElement)) (c.add n) := by
  obtain ⟨children, ho, he⟩ := h.opened
  have hadd : c.add n =
      { c with opened := [⟨"head", [], n :: children⟩, ⟨"html", [], [lineEnd]⟩] } := by
    rw [Construction.add, ho]
  rw [hadd]
  refine ⟨⟨n :: children, rfl, ?_⟩, h.finished, h.endsToCome⟩
  rw [List.reverse_cons, List.filter_append, he]

theorem InHead.withPending {elements : List Node} {c : Construction} (h : InHead elements c)
    (pending : List Char) : InHead elements { c with pending := pending } :=
  ⟨h.opened, h.finished, h.endsToCome⟩

theorem InHead.flush {elements : List Node} {c : Construction} (h : InHead elements c) :
    InHead elements c.flush := by
  unfold Construction.flush
  split
  · exact h
  · have hadd := (h.withPending []).add
      (.text (textKind c.opened) (String.ofList (shrink c.opened c.pending.reverse)))
    rwa [List.filter_singleton, Node.isElement_text, cond_false, List.append_nil] at hadd

theorem InHead.voidTag {elements : List Node} {c : Construction} (h : InHead elements c)
    {name : String} (hv : isVoid name = true) (attributes : List Attribute) :
    InHead (elements ++ [.element none name (attributes.map (.normalized name)) []])
      (c.step (.startTag name attributes false)) := by
  have hadd := h.flush.add (.element none name (attributes.map (.normalized name)) [])
  rw [step, if_pos hv, if_neg Bool.false_ne_true]
  refine ⟨hadd.opened, hadd.finished, List.forall_mem_cons.mpr ⟨hv, ?_⟩⟩
  exact hadd.endsToCome

theorem InHead.not_endsToCome {elements : List Node} {c : Construction} (h : InHead elements c)
    {name : String} (hv : isVoid name = false) : c.endsToCome.contains name = false := by
  rw [List.contains_eq_mem, decide_eq_false_iff_not]
  intro hm
  rw [h.endsToCome name hm] at hv
  cases hv

/-- An element of the head with nothing but text. -/
theorem InHead.textElement {elements : List Node} {c : Construction} (h : InHead elements c)
    {name : String} (hv : isVoid name = false) {kind : TextKind}
    (hk : ∀ children, textKind [⟨name, [], []⟩, ⟨"head", [], children⟩, ⟨"html", [], [lineEnd]⟩] =
      kind) {cs : List Char} (hcs : cs.all isAsciiBlank = false) :
    InHead (elements ++ [.element none name [] [.text kind (String.ofList cs)]])
      ((Token.startTag name [] false :: Token.characters cs ++
        [Token.endTag name]).foldl step c) := by
  have hadd := h.flush.add (.element none name [] [.text kind (String.ofList cs)])
  have hstart : c.step (.startTag name [] false) =
      { c.flush with opened := ⟨name, [], []⟩ :: c.flush.opened } := by
    rw [step, hv, if_neg Bool.false_ne_true, if_neg Bool.false_ne_true]
    rfl
  have hne : cs.reverse.isEmpty = false := by
    rw [List.isEmpty_reverse]
    cases cs with
    | nil => cases hcs
    | cons => rfl
  have hkind : textKind (⟨name, [], []⟩ :: c.flush.opened) = kind := by
    obtain ⟨children, ho, -⟩ := h.flush.opened
    rw [ho, hk]
  have hends := h.flush.not_endsToCome hv
  have hpending := flush_pending c
  generalize c.flush = c' at *
  have hflush : ({ c' with opened := ⟨name, [], []⟩ :: c'.opened, pending := cs.reverse } :
      Construction).flush =
      { c' with opened := ⟨name, [], [.text kind (String.ofList cs)]⟩ :: c'.opened } := by
    obtain ⟨opened, finished, pending, endsToCome⟩ := c'
    obtain rfl : pending = [] := hpending
    simp only [Construction.flush, hne, hkind, shrink, List.reverse_reverse, hcs]
    rfl
  rw [List.cons_append, List.foldl_cons, List.foldl_append, hstart, foldl_characters,
    List.foldl_cons, List.foldl_nil, step]
  dsimp only
  rw [hends, if_neg Bool.false_ne_true, hpending, List.append_nil, hflush,
    close_innermost (e := ⟨name, [], [.text kind (String.ofList cs)]⟩) rfl rfl]
  exact hadd

/-! ### A page whose head is read -/

/-- The page begins with this head, which nothing that follows can change. -/
inductive KeepsHead (head : Node) (c : Construction) : Prop
  | opened (inner : List OpenElement) (later : List Node)
      (opened : c.opened = inner ++ [⟨"html", [], later ++ [head, lineEnd]⟩])
      (finished : c.finished = [lineEnd, doctype])
  | closed (rest later : List Node)
      (finished : c.finished =
        later ++ [.element none "html" [] (lineEnd :: head :: rest), lineEnd, doctype])

theorem InHead.close {elements : List Node} {c : Construction} (h : InHead elements c) :
    ∃ children, children.filter (·.isElement) = elements ∧
      KeepsHead (.element none "head" [] children) (c.step (.endTag "head")) := by
  obtain ⟨children, ho, he⟩ := h.flush.opened
  refine ⟨children.reverse, he, ?_⟩
  rw [step, h.not_endsToCome rfl, if_neg Bool.false_ne_true, close_innermost ho rfl]
  refine .opened [] [] ?_ ?_
  · rw [closeOne, ho]
    rfl
  · rw [closeOne, ho]
    exact h.flush.finished

theorem add_length (c : Construction) (n : Node) : (c.add n).opened.length = c.opened.length := by
  unfold Construction.add
  split
  · rfl
  · rename_i e outer ho
    rw [ho]
    rfl

theorem closeMany_length (c : Construction) (k : Nat) :
    (closeMany k c).opened.length = c.opened.length - k := by
  induction k generalizing c with
  | zero => rfl
  | succ k ih =>
    have hone : c.closeOne.opened.length = c.opened.length - 1 := by
      cases ho : c.opened with
      | nil => rw [closeOne, ho, ho]; rfl
      | cons e outer => rw [closeOne, ho, add_length]; rfl
    rw [closeMany, ih, hone]
    omega

namespace KeepsHead

variable {head : Node} {c : Construction}

theorem congr {c' : Construction} (h : KeepsHead head c) (ho : c'.opened = c.opened)
    (hf : c'.finished = c.finished) : KeepsHead head c' := by
  cases h with
  | opened inner later opened finished =>
    exact .opened inner later (ho.trans opened) (hf.trans finished)
  | closed rest later finished => exact .closed rest later (hf.trans finished)

theorem add (h : KeepsHead head c) (n : Node) : KeepsHead head (c.add n) := by
  cases h with
  | opened inner later ho hf =>
    rw [Construction.add, ho]
    cases inner with
    | nil => exact .opened [] (n :: later) rfl hf
    | cons e inner => exact .opened ({ e with children := n :: e.children } :: inner) later rfl hf
  | closed rest later hf =>
    unfold Construction.add
    split
    · exact .closed rest (n :: later) (congrArg _ hf)
    · exact .closed rest later hf

theorem flush (h : KeepsHead head c) : KeepsHead head c.flush := by
  unfold Construction.flush
  split
  · exact h
  · have hp : KeepsHead head { c with pending := [] } := h.congr rfl rfl
    exact hp.add _

theorem closeOne (h : KeepsHead head c) : KeepsHead head c.closeOne := by
  cases h with
  | opened inner later ho hf =>
    rw [Construction.closeOne, ho]
    cases inner with
    | nil =>
      refine .closed later.reverse [] ?_
      simp only [Construction.add, hf, List.nil_append, List.reverse_append, List.reverse_cons,
        List.reverse_nil, List.cons_append]
    | cons e inner =>
      have hp : KeepsHead head
          { c with opened := inner ++ [⟨"html", [], later ++ [head, lineEnd]⟩] } :=
        .opened inner later rfl hf
      exact hp.add _
  | closed rest later hf =>
    cases ho : c.opened with
    | nil =>
      rw [Construction.closeOne, ho]
      exact .closed rest later hf
    | cons e outer =>
      have hp : KeepsHead head { c with opened := outer } := .closed rest later hf
      rw [Construction.closeOne, ho]
      exact hp.add _

theorem closeMany (h : KeepsHead head c) (k : Nat) : KeepsHead head (closeMany k c) := by
  induction k generalizing c with
  | zero => exact h
  | succ k ih => exact ih h.closeOne

theorem close (h : KeepsHead head c) (name : String) : KeepsHead head (c.close name) := by
  unfold Construction.close
  split
  · exact h
  · exact h.closeMany _

theorem push (h : KeepsHead head c) (e : OpenElement) :
    KeepsHead head { c with opened := e :: c.opened } := by
  cases h with
  | opened inner later ho hf => exact .opened (e :: inner) later (congrArg _ ho) hf
  | closed rest later hf => exact .closed rest later hf

theorem step (h : KeepsHead head c) (t : Token) : KeepsHead head (c.step t) := by
  cases t with
  | character ch => exact h.congr rfl rfl
  | special kind content => exact h.flush.add _
  | startTag name attributes closed =>
    have hpush := h.flush.push ⟨name, attributes.map (.normalized name), []⟩
    simp only [Construction.step]
    split_ifs
    · exact hpush.closeOne
    · exact hpush.closeOne.congr rfl rfl
    · exact hpush.closeOne
    · exact hpush
  | endTag name =>
    simp only [Construction.step]
    split_ifs
    · exact h.congr rfl rfl
    · exact h.flush.close name

theorem foldl (h : KeepsHead head c) (tokens : List Token) :
    KeepsHead head (tokens.foldl Construction.step c) := by
  induction tokens generalizing c with
  | nil => exact h
  | cons t rest ih => exact ih (h.step t)

theorem finish (h : KeepsHead head c) : ∃ rest later,
    c.finish =
      doctype :: lineEnd :: .element none "html" [] (lineEnd :: head :: rest) :: later := by
  have hlength := closeMany_length c.flush c.flush.opened.length
  have hclosed := h.flush.closeMany c.flush.opened.length
  rw [Nat.sub_self, List.length_eq_zero_iff] at hlength
  rw [Construction.finish]
  generalize Construction.closeMany c.flush.opened.length c.flush = c' at *
  cases hclosed with
  | opened inner later ho =>
    rw [hlength] at ho
    exact absurd ho.symm (List.append_ne_nil_of_right_ne_nil _ (List.cons_ne_nil _ _))
  | closed rest later hf =>
    exact ⟨rest, later.reverse, by rw [hf]; simp⟩

end KeepsHead

/-! ### What is written into a head -/

/-- A text that adds these elements to an open head, and nothing else that counts. -/
def Writes (cs : List Char) (elements : List Node) : Prop :=
  ∃ tokens, Token.Reads cs tokens ∧ ∀ before c, InHead before c →
    InHead (before ++ elements) (tokens.foldl step c)

theorem Writes.nil : Writes [] [] :=
  ⟨[], .nil, fun before c h => by rwa [List.append_nil]⟩

theorem Writes.append {cs ds : List Char} {elements more : List Node} (h : Writes cs elements)
    (h' : Writes ds more) : Writes (cs ++ ds) (elements ++ more) := by
  obtain ⟨tokens, hr, ha⟩ := h
  obtain ⟨tokens', hr', ha'⟩ := h'
  refine ⟨tokens ++ tokens', hr.append hr', fun before c hc => ?_⟩
  rw [← List.append_assoc, List.foldl_append]
  exact ha' _ _ (ha _ _ hc)

theorem writes_lineEnd : Writes ['\n'] [] := by
  refine ⟨[.character '\n'], Token.reads_character (by decide) (by decide), fun before c h => ?_⟩
  rw [List.append_nil]
  exact h.withPending ('\n' :: c.pending)

theorem Writes.intercalate {lines : List String} {groups : List (List Node)}
    (h : List.Forall₂ (fun line elements => Writes line.toList elements) lines groups) :
    Writes ("\n".intercalate lines).toList groups.flatten := by
  induction h with
  | nil => exact .nil
  | @cons line elements lines groups hline hlines ih =>
    cases hlines with
    | nil => simpa using hline
    | cons hnext hrest =>
      rw [String.intercalate_cons_cons, String.toList_append, String.toList_append,
        List.flatten_cons]
      have hend : "\n".toList = ['\n'] := rfl
      rw [hend, ← List.append_nil elements]
      exact (hline.append writes_lineEnd).append ih

theorem writes_voidTag (name : String) (hn : IsTagName name.toList)
    (hraw : Token.isRawName name.toList = false) (hv : isVoid name = true)
    {attributes : List Attribute} (ha : ∀ a ∈ attributes, IsTagName a.name.toList)
    (hd : Attribute.Distinct attributes) (hw : attributes.map (.normalized name) = attributes) :
    Writes (Token.writtenTag name.toList attributes) [.element none name attributes []] := by
  refine ⟨_, Token.reads_writtenTag hn hraw ha hd, fun before c h => ?_⟩
  have hadd := h.voidTag hv attributes
  rw [hw] at hadd
  rwa [String.ofList_toList]

theorem writes_escaped (name : String) (hn : IsTagName name.toList)
    (hraw : Token.isRawName name.toList = false) (hv : isVoid name = false)
    (hk : ∀ children, textKind [⟨name, [], []⟩, ⟨"head", [], children⟩, ⟨"html", [], [lineEnd]⟩] =
      .plain) {text : String} (ht : text.toList.all isAsciiBlank = false) :
    Writes (Token.writtenTag name.toList [] ++ (escape text.toList ++
      '<' :: '/' :: (name.toList ++ ['>']))) [.element none name [] [.text .plain text]] := by
  have hstart := Token.reads_writtenTag hn hraw (List.forall_mem_nil _) List.nodup_nil
  refine ⟨_, hstart.append ((Token.reads_escape text.toList).append (Token.reads_endTag hn.isName)),
    fun before c h => ?_⟩
  have hadd := h.textElement hv hk ht
  rwa [String.ofList_toList] at hadd ⊢

theorem writes_raw (name : String) (hn : IsTagName name.toList)
    (hraw : Token.isRawName name.toList = true) (hv : isVoid name = false) {kind : TextKind}
    (hk : ∀ children, textKind [⟨name, [], []⟩, ⟨"head", [], children⟩, ⟨"html", [], [lineEnd]⟩] =
      kind)
    {text : String} (ht : text.toList.all isAsciiBlank = false) (hopen : '<' ∉ text.toList) :
    Writes ('<' :: (name.toList ++ '>' :: (text.toList ++ '<' :: '/' :: (name.toList ++ ['>']))))
      [.element none name [] [.text kind text]] := by
  refine ⟨_, Token.reads_rawElement hn.isName hraw hopen, fun before c h => ?_⟩
  have hadd := h.textElement hv hk ht
  rwa [String.ofList_toList] at hadd ⊢

end Html.Construction

/-! ### The lines of a head -/

namespace Keywords

/-- The keywords in one text. -/
def joined : Keywords → String
  | .text s => s
  | .list items => ", ".intercalate items

end Keywords

namespace FrontMatter

/-- The fields that are there, by name and text. -/
def fields (m : FrontMatter) : List (String × String) :=
  (m.description.map fun s => ("description", s)).toList ++
    (m.keywords.map fun k => ("keywords", k.joined)).toList ++
    (m.author.map fun s => ("author", s)).toList

/-- No field is there without a text or a keyword. -/
structure IsFilled (m : FrontMatter) : Prop where
  description : m.description ≠ some ""
  keywords : m.keywords ≠ some (.text "") ∧ m.keywords ≠ some (.list [])
  author : m.author ≠ some ""

theorem textField_ne_empty (v : Value) : textField v ≠ some "" := by
  unfold textField
  split
  · rintro ⟨⟩
  · split_ifs with he
    · rintro ⟨⟩
    · rw [Ne, Option.some.injEq]
      rwa [String.isEmpty_iff] at he

theorem keywordField_filled (v : Value) :
    keywordField v ≠ some (.text "") ∧ keywordField v ≠ some (.list []) := by
  unfold keywordField
  split
  · rename_i items
    split_ifs with he
    · exact ⟨nofun, nofun⟩
    · refine ⟨nofun, fun h => he ?_⟩
      rw [Option.some.injEq, Keywords.list.injEq] at h
      rw [h]
      rfl
  · cases ht : textField v with
    | none => exact ⟨nofun, nofun⟩
    | some s =>
      refine ⟨fun h => textField_ne_empty v ?_, nofun⟩
      rw [Option.map_some, Option.some.injEq, Keywords.text.injEq] at h
      rw [ht, h]

theorem ofEntries_filled (entries : List (Value × Value)) : (ofEntries entries).IsFilled :=
  ⟨textField_ne_empty _, keywordField_filled _, textField_ne_empty _⟩

theorem empty_filled : empty.IsFilled := ⟨nofun, ⟨nofun, nofun⟩, nofun⟩

theorem ofBlock_filled {content : List Char} {r : FrontMatter × List LogRecord}
    (h : ofBlock content = .ok r) : r.1.IsFilled := by
  unfold ofBlock at h
  split at h
  · cases h
    exact empty_filled
  · cases h
  · cases h
    exact empty_filled
  · split_ifs at h
    cases h
    exact ofEntries_filled _
  · cases h
    exact empty_filled

theorem extract_filled {cs : List Char} {extracted : Extracted} (h : extract cs = .ok extracted) :
    extracted.frontMatter.IsFilled := by
  unfold extract at h
  split at h
  · cases h
    exact empty_filled
  · cases h
    exact empty_filled
  · rename_i content body _
    cases hb : ofBlock content with
    | error f =>
      rw [hb] at h
      cases h
    | ok r =>
      rw [hb] at h
      cases h
      exact ofBlock_filled hb

theorem tag_of_text (name : String) {text : Option String} (h : text ≠ some "") :
    (if ((text.map Value.text).getD .null).isAbsent then []
      else [Metadata.tag name ((text.map Value.text).getD .null).shown]) =
      (text.map fun s => (name, s)).toList.map fun f => Metadata.tag f.1 f.2 := by
  cases text with
  | none => rfl
  | some s =>
    have hs : s ≠ "" := fun he => h (congrArg some he)
    simp [Value.isAbsent, Value.shown, hs]

theorem tag_of_keywords {m : FrontMatter} (h : m.IsFilled) :
    (if m.metadata.keywords.isAbsent then []
      else [Metadata.tag "keywords" (Metadata.keywordText m.metadata.keywords)]) =
      (m.keywords.map fun k => ("keywords", k.joined)).toList.map
        fun f => Metadata.tag f.1 f.2 := by
  obtain ⟨htext, hlist⟩ := h.keywords
  cases hk : m.keywords with
  | none => simp [metadata, hk, Value.isAbsent]
  | some k =>
    rw [hk] at htext hlist
    cases k with
    | text s =>
      have hs : s ≠ "" := fun he => htext (by rw [he])
      simp [metadata, hk, Value.isAbsent, hs, Metadata.keywordText, Value.shown, Keywords.joined]
    | list items =>
      have hi : items ≠ [] := fun he => hlist (by rw [he])
      have hshown : (items.map Value.text).map Value.shown = items :=
        List.map_map.trans (List.map_id' items)
      simp [metadata, hk, Value.isAbsent, hi, Metadata.keywordText, hshown, Keywords.joined]

theorem tags_metadata {m : FrontMatter} (h : m.IsFilled) :
    m.metadata.tags = "\n".intercalate (m.fields.map fun f => Metadata.tag f.1 f.2) := by
  have hd := tag_of_text "description" h.description
  have hk := tag_of_keywords h
  have ha := tag_of_text "author" h.author
  rw [Metadata.tags, fields, List.map_append, List.map_append, ← hd, ← hk, ← ha]
  rfl

end FrontMatter

namespace Document

open Construction (Writes InHead KeepsHead isAsciiBlank lineEnd doctype)

def charsetElement : Node := .element none "meta" [⟨"charset", "utf-8"⟩] []

def titleElement (title : String) : Node :=
  .element none "title" [] [.text .plain (if title.isEmpty then defaultTitle else title)]

def fieldElement (name content : String) : Node :=
  .element none "meta" [⟨"name", name⟩, ⟨"content", content⟩] []

def linkElement : Node := .element none "link" [⟨"rel", "stylesheet"⟩, ⟨"href", cssUrl⟩] []

def styleText : String := "body \x7bpadding: " ++ padding ++ ";\x7d"

def styleElement : Node := .element none "style" [] [.text .stylesheet styleText]

/-- The elements of a head, in their order. -/
def headElements (title : String) (m : FrontMatter) (options : ConversionOptions) : List Node :=
  [charsetElement, titleElement title] ++ m.fields.map (fun f => fieldElement f.1 f.2) ++
    if options.includeCss then [linkElement, styleElement] else []

theorem isTagName_meta : IsTagName "meta".toList := isTagName_of_all rfl

theorem writes_charset : Writes "<meta charset=\"utf-8\">".toList [charsetElement] := by
  have hwritten : "<meta charset=\"utf-8\">".toList =
      Token.writtenTag "meta".toList [⟨"charset", "utf-8"⟩] := by decide +kernel
  rw [hwritten]
  refine Construction.writes_voidTag "meta" isTagName_meta rfl rfl ?_
    (List.pairwise_singleton _ _) rfl
  exact List.forall_mem_singleton.mpr (isTagName_of_all rfl)

/-! Literals are slow to compare, so the parts of a line are variables here. -/

theorem toList_around {start finish : String} {opening closing : List Char}
    (hs : start.toList = opening) (hf : finish.toList = closing) (written : List Char) :
    (start ++ String.ofList written ++ finish).toList = opening ++ (written ++ closing) := by
  rw [String.toList_append, String.toList_append, String.toList_ofList, List.append_assoc, hs, hf]

theorem toList_around_name {start middle finish : String} {opening between closing : List Char}
    (hs : start.toList = opening) (hm : middle.toList = between) (hf : finish.toList = closing)
    (name : String) (written : List Char) :
    (start ++ name ++ middle ++ String.ofList written ++ finish).toList =
      opening ++ (name.toList ++ (between ++ (written ++ closing))) := by
  rw [toList_around rfl hf, String.toList_append, String.toList_append, hs, hm, List.append_assoc,
    List.append_assoc]

theorem writes_title {title : String} (h : title = "" ∨ title.toList.all isAsciiBlank = false) :
    Writes (titleTag title).toList [titleElement title] := by
  have hshown :
      (if title.isEmpty then defaultTitle else title).toList.all isAsciiBlank = false := by
    split_ifs with he
    · decide
    · rw [String.isEmpty_iff] at he
      exact h.resolve_left he
  rw [titleTag, titleElement]
  generalize (if title.isEmpty then defaultTitle else title) = shown at *
  have hparts := toList_around (show "<title>".toList = Token.writtenTag "title".toList [] from rfl)
    (show "</title>".toList = '<' :: '/' :: ("title".toList ++ ['>']) from rfl)
    (escape shown.toList)
  rw [hparts]
  exact Construction.writes_escaped "title" (isTagName_of_all rfl) rfl rfl (fun _ => rfl) hshown

theorem toList_tag {name : String} (hn : IsTagName name.toList) (content : String) :
    (Metadata.tag name content).toList =
      Token.writtenTag "meta".toList [⟨"name", name⟩, ⟨"content", content⟩] := by
  have hstart : "<meta name=\"".toList =
      '<' :: ("meta".toList ++ ' ' :: ("name".toList ++ ['=', '"'])) := rfl
  have hmiddle : "\" content=\"".toList = '"' :: ' ' :: ("content".toList ++ ['=', '"']) := rfl
  have hfinish : "\">".toList = ['"', '>'] := rfl
  refine (toList_around_name hstart hmiddle hfinish name _).trans ?_
  simp only [Token.writtenTag, Token.writtenAttribute, escapeValue_of_small hn.small,
    List.flatMap_cons, List.flatMap_nil, List.append_assoc, List.cons_append, List.nil_append]

theorem writes_field {name : String} (hn : IsTagName name.toList) (content : String) :
    Writes (Metadata.tag name content).toList [fieldElement name content] := by
  rw [toList_tag hn]
  have hname : IsTagName "name".toList := isTagName_of_all rfl
  have hcontent : IsTagName "content".toList := isTagName_of_all rfl
  have hd : ["name", "content"].Nodup := by decide
  exact Construction.writes_voidTag "meta" isTagName_meta rfl rfl
    (List.forall_mem_cons.mpr ⟨hname, List.forall_mem_singleton.mpr hcontent⟩) hd rfl

theorem isTagName_of_field {m : FrontMatter} {f : String × String} (h : f ∈ m.fields) :
    IsTagName f.1.toList := by
  have hdescription : IsTagName "description".toList := isTagName_of_all rfl
  have hkeywords : IsTagName "keywords".toList := isTagName_of_all rfl
  have hauthor : IsTagName "author".toList := isTagName_of_all rfl
  simp only [FrontMatter.fields, List.mem_append, Option.mem_toList, Option.map_eq_some_iff] at h
  rcases h with (⟨s, -, rfl⟩ | ⟨k, -, rfl⟩) | ⟨s, -, rfl⟩
  · exact hdescription
  · exact hkeywords
  · exact hauthor

theorem writes_fields {m : FrontMatter} (h : m.IsFilled) :
    Writes m.metadata.tags.toList (m.fields.map fun f => fieldElement f.1 f.2) := by
  have hlines : List.Forall₂ (fun line elements => Writes line.toList elements)
      (m.fields.map fun f => Metadata.tag f.1 f.2)
      (m.fields.map fun f => [fieldElement f.1 f.2]) := by
    rw [List.forall₂_map_left_iff, List.forall₂_map_right_iff, List.forall₂_same]
    exact fun f hf => writes_field (isTagName_of_field hf) f.2
  have hall := Writes.intercalate hlines
  rwa [← List.flatMap_def, ← List.map_eq_flatMap, ← FrontMatter.tags_metadata h] at hall

theorem writes_link : Writes cssLink.toList [linkElement] := by
  have hwritten : cssLink.toList =
      Token.writtenTag "link".toList [⟨"rel", "stylesheet"⟩, ⟨"href", cssUrl⟩] := by decide +kernel
  have hrel : IsTagName "rel".toList := isTagName_of_all rfl
  have hhref : IsTagName "href".toList := isTagName_of_all rfl
  have hd : ["rel", "href"].Nodup := by decide
  rw [hwritten]
  exact Construction.writes_voidTag "link" (isTagName_of_all rfl) rfl rfl
    (List.forall_mem_cons.mpr ⟨hrel, List.forall_mem_singleton.mpr hhref⟩) hd rfl

theorem writes_style : Writes cssStyle.toList [styleElement] := by
  have hwritten : cssStyle.toList = '<' :: ("style".toList ++ '>' ::
      (styleText.toList ++ '<' :: '/' :: ("style".toList ++ ['>']))) := by decide +kernel
  rw [hwritten]
  exact Construction.writes_raw "style" (isTagName_of_all rfl) rfl rfl (fun _ => rfl)
    (by decide +kernel) (by decide +kernel)

theorem reads_opening :
    ∃ tokens, Token.Reads ("\n".intercalate ["<!DOCTYPE html>", "<html>", "<head>"]).toList tokens ∧
      InHead [] (tokens.foldl Construction.step .empty) := by
  have hdoctype : Token.Reads ('<' :: "!DOCTYPE html>".toList)
      [.special .doctype ['h', 't', 'm', 'l']] := Token.reads_markup fun _ => rfl
  have hend : Token.Reads ['\n'] [.character '\n'] :=
    Token.reads_character (by decide) (by decide)
  have hhtml : Token.Reads (Token.writtenTag ['h', 't', 'm', 'l'] []) [.startTag "html" [] false] :=
    Token.reads_writtenTag (isTagName_of_all rfl) rfl (List.forall_mem_nil _) List.nodup_nil
  have hhead : Token.Reads (Token.writtenTag ['h', 'e', 'a', 'd'] []) [.startTag "head" [] false] :=
    Token.reads_writtenTag (isTagName_of_all rfl) rfl (List.forall_mem_nil _) List.nodup_nil
  have htext : ("\n".intercalate ["<!DOCTYPE html>", "<html>", "<head>"]).toList =
      '<' :: "!DOCTYPE html>".toList ++ (['\n'] ++ (Token.writtenTag ['h', 't', 'm', 'l'] [] ++
        (['\n'] ++ Token.writtenTag ['h', 'e', 'a', 'd'] []))) := by decide +kernel
  rw [htext]
  refine ⟨_, hdoctype.append (hend.append (hhtml.append (hend.append hhead))),
    ⟨[], rfl, rfl⟩, rfl, ?_⟩
  exact List.forall_mem_nil _

/-- The lines between the two tags of a head. -/
def headLines (title : String) (metadata : Metadata) (options : ConversionOptions) : List String :=
  ["<meta charset=\"utf-8\">", titleTag title, metadata.tags,
   if options.includeCss then cssLink else "", if options.includeCss then cssStyle else ""]

theorem writes_headLines {title : String} (ht : title = "" ∨ title.toList.all isAsciiBlank = false)
    {m : FrontMatter} (hm : m.IsFilled) (options : ConversionOptions) :
    Writes ("\n".intercalate (headLines title m.metadata options)).toList
      (headElements title m options) := by
  have hline {line : String} {elements : List Node} (h : Writes line.toList elements) :
      Writes (if options.includeCss then line else "").toList
        (if options.includeCss then elements else []) := by
    split_ifs
    · exact h
    · exact Writes.nil
  have hall := Writes.intercalate (.cons writes_charset (.cons (writes_title ht)
    (.cons (writes_fields hm) (.cons (hline writes_link) (.cons (hline writes_style) .nil)))))
  have helements : [[charsetElement], [titleElement title],
      m.fields.map fun f => fieldElement f.1 f.2,
      if options.includeCss then [linkElement] else [],
      if options.includeCss then [styleElement] else []].flatten =
        headElements title m options := by
    unfold headElements
    split_ifs <;> simp
  rwa [helements] at hall

theorem toList_joined {lines more : List String} (hl : lines ≠ []) (hm : more ≠ []) :
    ("\n".intercalate (lines ++ more)).toList =
      ("\n".intercalate lines).toList ++ (['\n'] ++ ("\n".intercalate more).toList) := by
  have hend : "\n".toList = ['\n'] := rfl
  induction lines with
  | nil => exact absurd rfl hl
  | cons line lines ih =>
    cases lines with
    | nil =>
      obtain ⟨next, rest, rfl⟩ := List.exists_cons_of_ne_nil hm
      rw [List.singleton_append, String.intercalate_cons_cons, String.intercalate_singleton,
        String.toList_append, String.toList_append, hend, List.append_assoc]
    | cons next rest =>
      have hrest := ih (List.cons_ne_nil _ _)
      rw [List.cons_append, List.cons_append, String.intercalate_cons_cons,
        String.intercalate_cons_cons, String.toList_append, String.toList_append,
        String.toList_append, String.toList_append, ← List.cons_append, hrest, List.append_assoc,
        List.append_assoc, List.append_assoc]

/-- The text of a document, at the tags of its head. -/
theorem toList_assemble (body title : String) (metadata : Metadata) (options : ConversionOptions) :
    ∃ rest, (assemble body title metadata options).toList =
      ("\n".intercalate ["<!DOCTYPE html>", "<html>", "<head>"]).toList ++ (['\n'] ++
        (("\n".intercalate (headLines title metadata options)).toList ++ (['\n'] ++
          ('<' :: '/' :: ("head".toList ++ ['>']) ++ rest)))) := by
  let css (s : String) := if options.includeCss then s else ""
  let after := ["<body" ++ css " class=\"markdown-body\"" ++ ">", body, "</body>", "</html>"]
  have hlines : lines body title metadata options = ["<!DOCTYPE html>", "<html>", "<head>"] ++
      (headLines title metadata options ++ (["</head>"] ++ after)) := rfl
  have hend : "</head>".toList = '<' :: '/' :: ("head".toList ++ ['>']) := rfl
  refine ⟨['\n'] ++ ("\n".intercalate after).toList, ?_⟩
  rw [assemble, hlines, toList_joined, toList_joined, toList_joined,
    String.intercalate_singleton, hend]
  all_goals simp [headLines, after]

/-- The head of a document read back. Its elements are those that were written there, in their
order, and their texts and values are as they were. -/
theorem assemble_head {text : List Char} {extracted : FrontMatter.Extracted}
    (hx : FrontMatter.extract text = .ok extracted) {title : String}
    (ht : title = "" ∨ title.toList.all isAsciiBlank = false) {options : ConversionOptions}
    {body : String} {nodes : List Node}
    (hp : parse? (assemble body title extracted.frontMatter.metadata options) = some nodes) :
    ∃ children rest later,
      nodes = .text .doctype "html" :: .text .plain "\n" ::
        .element none "html" [] (.text .plain "\n" :: .element none "head" [] children :: rest) ::
          later ∧
      children.filter (·.isElement) = headElements title extracted.frontMatter options := by
  obtain ⟨tokens, htokens, rfl⟩ := parse?_eq_some_iff.mp hp
  obtain ⟨rest, hrest⟩ := toList_assemble body title extracted.frontMatter.metadata options
  obtain ⟨first, hfirst, hopen⟩ := reads_opening
  obtain ⟨middle, hmiddle, hinside⟩ := Construction.writes_lineEnd.append
    ((writes_headLines ht (FrontMatter.extract_filled hx) options).append
      Construction.writes_lineEnd)
  have hname : IsTagName "head".toList := isTagName_of_all rfl
  have hclose := Token.reads_endTag hname.isName
  have hreads := (hfirst.append (hmiddle.append hclose)) false rest
  simp only [List.append_assoc] at hreads
  rw [Token.ofChars, hrest, hreads] at htokens
  obtain ⟨more, -, rfl⟩ := Token.exists_of_map_eq_ok htokens
  have hhead := hinside [] _ hopen
  obtain ⟨children, hchildren, hkeeps⟩ := hhead.close
  obtain ⟨rest, later, hfinish⟩ := (hkeeps.foldl more).finish
  refine ⟨children, rest, later, ?_, ?_⟩
  · rw [treeOfTokens, List.foldl_append, List.foldl_append, List.foldl_append]
    exact hfinish
  · simpa using hchildren

def quotedAuthor : FrontMatter := ⟨none, none, some "\"><b>"⟩

/-- Neither the title nor the author nor the body gets out of its place. -/
theorem assemble_head_of_tags : ∃ nodes children rest later,
    FrontMatter.extract "---\nauthor: '\"><b>'\n---\n".toList =
        .ok ⟨quotedAuthor, [], FrontMatter.foundRecords quotedAuthor⟩ ∧
      parse? (assemble "</head><head>" "</title>&lt;" quotedAuthor.metadata ⟨false⟩) = some nodes ∧
      nodes = .text .doctype "html" :: .text .plain "\n" ::
        .element none "html" [] (.text .plain "\n" :: .element none "head" [] children :: rest) ::
          later ∧
      children.filter (·.isElement) =
        [.element none "meta" [⟨"charset", "utf-8"⟩] [],
          .element none "title" [] [.text .plain "</title>&lt;"],
          .element none "meta" [⟨"name", "author"⟩, ⟨"content", "\"><b>"⟩] []] := by
  have hx : FrontMatter.extract "---\nauthor: '\"><b>'\n---\n".toList =
      .ok ⟨quotedAuthor, [], FrontMatter.foundRecords quotedAuthor⟩ := by decide +kernel
  have ht : "</title>&lt;" = "" ∨ "</title>&lt;".toList.all isAsciiBlank = false := .inr rfl
  have hs :
      (parse? (assemble "</head><head>" "</title>&lt;" quotedAuthor.metadata ⟨false⟩)).isSome =
        true := by decide +kernel
  obtain ⟨nodes, hp⟩ := Option.isSome_iff_exists.mp hs
  obtain ⟨children, rest, later, hn, hc⟩ := assemble_head hx ht hp
  exact ⟨nodes, children, rest, later, hx, hp, hn, hc⟩

end Document

end CmsMarkup
