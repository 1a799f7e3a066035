import CmsMarkup.Html.Printer
import CmsMarkup.Proofs.WrittenMarkup
import Mathlib.Data.List.Chain

/-! Printed trees read back. A tree whose texts stand apart and lose nothing to the reader is
printed as a text that is read as the same tree, whatever its attribute values and texts are. -/

namespace CmsMarkup.Html

/-! ### Attributes -/

namespace Token

theorem quoteValue_reads (cs : List Char) :
    ∃ q w, quoteValue (escape cs) = q :: (w ++ [q]) ∧ isQuote q = true ∧ q ∉ w ∧
      IsValue w cs := by
  rw [quoteValue]
  split_ifs with hdouble hsingle
  · exact ⟨'"', escape cs, rfl, rfl, by simpa using hdouble, isValue_escape cs⟩
  · exact ⟨'\'', escape cs, rfl, rfl, by simpa using hsingle, isValue_escape cs⟩
  · refine ⟨'"', _, rfl, rfl, ?_, isValue_requoted ?_ ?_ (fun d hq _ => if_neg hq) cs⟩
    · rw [List.mem_flatMap]
      rintro ⟨c, -, hc⟩
      split_ifs at hc with hq
      · exact absurd hc (by decide)
      · exact hq (List.mem_singleton.mp hc).symm
    · exact ValueReference.decodes_quot
    · exact ValueReference.decodes_plain (by decide)

theorem isWritten_printAttribute {element : String} (he : element ≠ "meta")
    (attributes : List Attribute) {a : Attribute} (hn : IsName a.name.toList) :
    IsWritten (printAttribute element attributes a) a := by
  obtain ⟨q, w, hquoted, hq, hw, hvalue⟩ := quoteValue_reads a.value.toList
  have hprinted : printedValue element attributes a = a.value := if_pos (bne_iff_ne.mpr he)
  refine ⟨hn, q, w, hq, hw, hvalue, ?_⟩
  rw [printAttribute, hprinted, hquoted]
  rfl

mutual

/-- The tokens of a printed node. -/
def ofNode : Node → List Token
  | .text _ s => characters s.toList
  | .element _ name attributes children =>
    if isVoid name && children.isEmpty then [.startTag name attributes true]
    else .startTag name attributes false :: ofNodes children ++ [.endTag name]

def ofNodes : List Node → List Token
  | [] => []
  | n :: rest => ofNode n ++ ofNodes rest

end

end Token

/-! ### Trees that read back -/

namespace Node

/-- Elements whose text or attributes are not read as they are printed. -/
def exceptionalNames : List String := ["script", "style", "template", "rt", "rp", "meta"]

/-- Of two nodes next to each other one is an element. -/
def Apart (n m : Node) : Prop := n.isElement = true ∨ m.isElement = true

/-- A tree that is printed so that it can be read back. -/
inductive Printable : Node → Prop
  | text {s : String}
      (kept : s.toList.all Construction.isAsciiBlank = true → s = " " ∨ s = "\n") :
      Printable (.text .plain s)
  | element {name : String} {attributes : List Attribute} {children : List Node}
      (named : IsName name.toList) (ordinary : name ∉ exceptionalNames)
      (void : isVoid name = true → children = [])
      (attributesNamed : ∀ a ∈ attributes, IsName a.name.toList)
      (distinct : Attribute.Distinct attributes)
      (normal : attributes.map (.normalized name) = attributes)
      (apart : children.IsChain Apart) (inside : ∀ n ∈ children, Printable n) :
      Printable (.element none name attributes children)

end Node

namespace Token

theorem reads_printNodes_of_forall {nodes : List Node}
    (h : ∀ n ∈ nodes, Reads (printNode false n) (ofNode n)) :
    Reads (printNodes false nodes) (ofNodes nodes) := by
  induction nodes with
  | nil => exact .nil
  | cons n rest ih =>
    rw [List.forall_mem_cons] at h
    exact h.1.append (ih h.2)

theorem reads_printNode {n : Node} (h : n.Printable) : Reads (printNode false n) (ofNode n) := by
  induction n with
  | text kind s =>
    cases h
    exact reads_escape s.toList
  | element number name attributes children ih =>
    cases h with
    | element named ordinary void attributesNamed distinct normal apart inside =>
      have hne {other : String} (ho : other ∈ Node.exceptionalNames) : name ≠ other := fun he =>
        ordinary (he ▸ ho)
      have hletters {other : String} (ho : other ∈ Node.exceptionalNames) :
          (name.toList == other.toList) = false :=
        beq_eq_false_iff_ne.mpr fun he => hne ho (String.toList_inj.mp he)
      have hraw : isRawName name.toList = false := by
        have hscript : (name.toList == "script".toList) = false := hletters (by decide)
        have hstyle : (name.toList == "style".toList) = false := hletters (by decide)
        exact Bool.or_eq_false_iff.mpr ⟨hscript, hstyle⟩
      have hparent : isRawParent name = false := by
        rw [isRawParent, beq_eq_false_iff_ne.mpr (hne (by decide)),
          beq_eq_false_iff_ne.mpr (hne (by decide))]
        rfl
      have hstart (closed : Bool) := reads_startTag named hraw
        (fun a ha => isWritten_printAttribute (hne (by decide)) attributes (attributesNamed a ha))
        distinct closed
      rw [String.ofList_toList] at hstart
      rw [printNode, ofNode, hparent]
      split_ifs with hvoid
      · simpa [tagEnd] using hstart true
      · have hinside := reads_printNodes_of_forall fun n hn => ih n hn (inside n hn)
        have hend := reads_endTag named
        rw [String.ofList_toList] at hend
        have hall := (hstart false).append (hinside.append hend)
        simpa [tagEnd] using hall

end Token

/-! ### Building the tree again -/

namespace Construction

/-- No end tag is left out, and text is plain text here. -/
structure Ready (c : Construction) : Prop where
  endsToCome : c.endsToCome = []
  kind : textKind c.opened = .plain

theorem Ready.add {c : Construction} (h : c.Ready) (n : Node) : (c.add n).Ready := by
  unfold Construction.add
  split
  · exact ⟨h.endsToCome, h.kind⟩
  · rename_i e outer ho
    refine ⟨h.endsToCome, ?_⟩
    have hkind := h.kind
    rwa [ho] at hkind

theorem Ready.flush {c : Construction} (h : c.Ready) : c.flush.Ready := by
  unfold Construction.flush
  split
  · exact h
  · have hcleared : ({ c with pending := [] } : Construction).Ready := ⟨h.endsToCome, h.kind⟩
    exact hcleared.add _

theorem add_pending (c : Construction) (n : Node) : (c.add n).pending = c.pending := by
  unfold Construction.add
  split <;> rfl

theorem flush_of_pending_nil {c : Construction} (h : c.pending = []) : c.flush = c := by
  rw [Construction.flush, h]
  rfl

theorem shrink_kept {s : String}
    (h : s.toList.all isAsciiBlank = true → s = " " ∨ s = "\n") (opened : List OpenElement) :
    shrink opened s.toList = s.toList := by
  rw [shrink]
  split_ifs with hshrinks hline
  · rw [Bool.and_eq_true] at hshrinks
    rcases h hshrinks.1 with rfl | rfl
    · exact absurd hline (by decide)
    · rfl
  · rw [Bool.and_eq_true] at hshrinks
    rcases h hshrinks.1 with rfl | rfl
    · rfl
    · contradiction
  · rfl

theorem flush_text {c : Construction} (hc : c.Ready) (hp : c.pending = []) {s : String}
    (h : s.toList.all isAsciiBlank = true → s = " " ∨ s = "\n") :
    ({ c with pending := s.toList.reverse ++ c.pending } : Construction).flush =
      c.add (.text .plain s) := by
  have hsome : s.toList ≠ [] := by
    intro he
    rcases h (by rw [he]; rfl) with rfl | rfl <;> exact absurd he (by decide)
  have hnonempty : (s.toList.reverse ++ c.pending).isEmpty = false := by
    rw [hp, List.append_nil, List.isEmpty_reverse, List.isEmpty_eq_false_iff]
    exact hsome
  have hcleared : ({ c with pending := [] } : Construction) = c := by rw [← hp]
  rw [Construction.flush, hnonempty, if_neg Bool.false_ne_true]
  simp only [hc.kind, hp, List.append_nil, List.reverse_reverse, shrink_kept h, String.ofList_toList]
  rw [hcleared]

/-- The tokens of an element add the element, and end the text before it. -/
def Adds (n : Node) : Prop :=
  ∀ c : Construction, c.Ready → (Token.ofNode n).foldl step c = c.flush.add n

theorem foldl_ofNodes {nodes : List Node} (hprint : ∀ n ∈ nodes, n.Printable)
    (hadds : ∀ n ∈ nodes, n.isElement = true → Adds n) (hapart : nodes.IsChain Node.Apart)
    {c : Construction} (hc : c.Ready) (hp : c.pending = []) :
    ((Token.ofNodes nodes).foldl step c).flush = nodes.foldl (fun c n => c.add n) c := by
  induction nodes generalizing c with
  | nil => exact flush_of_pending_nil hp
  | cons n rest ih =>
    rw [List.forall_mem_cons] at hprint hadds
    rw [Token.ofNodes, List.foldl_append, List.foldl_cons]
    have hnext := ih hprint.2 hadds.2 hapart.tail (hc.add n) ((add_pending c n).trans hp)
    rw [← hnext]
    cases n with
    | element number name attributes children =>
      rw [hadds.1 rfl c hc, flush_of_pending_nil hp]
    | text kind s =>
      cases hprint.1 with
      | text kept =>
      have hflush := flush_text hc hp kept
      rw [Token.ofNode, foldl_characters]
      cases rest with
      | nil =>
        rw [Token.ofNodes, List.foldl_nil, List.foldl_nil, hflush,
          flush_of_pending_nil ((add_pending c _).trans hp)]
      | cons m rest =>
        -- The element that follows ends the text.
        have hm : m.isElement = true := by
          rcases (List.isChain_cons_cons.mp hapart).1 with hn | hm
          · cases hn
          · exact hm
        have hbegins := (List.forall_mem_cons.mp hadds.2).1 hm
        have hready : ({ c with pending := s.toList.reverse ++ c.pending } : Construction).Ready :=
          ⟨hc.endsToCome, hc.kind⟩
        rw [Token.ofNodes, List.foldl_append, List.foldl_append, hbegins _ hready, hflush,
          hbegins _ (hc.add _), flush_of_pending_nil ((add_pending c _).trans hp)]

theorem foldl_add_opened (nodes : List Node) {c : Construction} {e : OpenElement}
    {outer : List OpenElement} (h : c.opened = e :: outer) :
    nodes.foldl (fun c n => c.add n) c =
      { c with opened := { e with children := nodes.reverse ++ e.children } :: outer } := by
  induction nodes generalizing c e with
  | nil =>
    rw [List.foldl_nil, List.reverse_nil, List.nil_append, ← h]
  | cons n rest ih =>
    have hadd : c.add n = { c with opened := { e with children := n :: e.children } :: outer } := by
      rw [Construction.add, h]
    rw [List.foldl_cons, hadd, ih rfl, List.reverse_cons, List.append_assoc]
    rfl

theorem foldl_add_finished (nodes : List Node) {c : Construction} (h : c.opened = []) :
    nodes.foldl (fun c n => c.add n) c = { c with finished := nodes.reverse ++ c.finished } := by
  induction nodes generalizing c with
  | nil => rfl
  | cons n rest ih =>
    have hadd : c.add n = { c with finished := n :: c.finished } := by
      rw [Construction.add, h]
    have hrest := @ih { c with finished := n :: c.finished } h
    rw [List.foldl_cons, hadd, hrest, List.reverse_cons, List.append_assoc]
    rfl

theorem step_opening {name : String} {attributes : List Attribute}
    (hn : attributes.map (.normalized name) = attributes) (hv : isVoid name = false)
    (c : Construction) : c.step (.startTag name attributes false) =
      { c.flush with opened := ⟨name, attributes, []⟩ :: c.flush.opened } := by
  rw [step, hn, hv, if_neg Bool.false_ne_true, if_neg Bool.false_ne_true]

theorem step_void {name : String} {attributes : List Attribute}
    (hn : attributes.map (.normalized name) = attributes) (hv : isVoid name = true)
    (c : Construction) : c.step (.startTag name attributes true) =
      c.flush.add (.element none name attributes []) := by
  rw [step, hn, if_pos hv, if_pos rfl]
  rfl

theorem step_closing {c : Construction} (hc : c.endsToCome = []) {e : OpenElement}
    {outer : List OpenElement} (ho : c.flush.opened = e :: outer) :
    c.step (.endTag e.name) =
      { c.flush with opened := outer }.add (.element none e.name e.attributes e.children.reverse) := by
  have hends : c.endsToCome.contains e.name = false := by
    rw [hc]
    rfl
  rw [step, hends, if_neg Bool.false_ne_true, close_innermost ho rfl, closeOne, ho]

theorem flush_endsToCome (c : Construction) : c.flush.endsToCome = c.endsToCome := by
  unfold Construction.flush
  split
  · rfl
  · unfold Construction.add
    split <;> rfl

theorem textKind_ordinary {name : String} (h : name ∉ Node.exceptionalNames)
    (attributes : List Attribute) (children : List Node) (outer : List OpenElement) :
    textKind (⟨name, attributes, children⟩ :: outer) = textKind outer := by
  have hne {other : String} (ho : other ∈ Node.exceptionalNames) : ¬ (name == other) = true :=
    fun he => h (beq_iff_eq.mp he ▸ ho)
  rw [textKind, if_neg (hne (by decide)), if_neg (hne (by decide)), if_neg (hne (by decide)),
    if_neg (hne (by decide)), if_neg (hne (by decide))]

theorem adds_of_printable {n : Node} (h : n.Printable) (he : n.isElement = true) : Adds n := by
  induction n with
  | text => cases he
  | element number name attributes children ih =>
    cases h with
    | element named ordinary void attributesNamed distinct normal apart inside =>
      intro c hc
      rw [Token.ofNode]
      by_cases hvoid : isVoid name = true
      · have hnone := void hvoid
        subst hnone
        rw [hvoid]
        exact step_void normal hvoid c
      · have hvoid := Bool.eq_false_iff.mpr hvoid
        have hopened : ({ c.flush with opened := ⟨name, attributes, []⟩ :: c.flush.opened } :
            Construction).Ready :=
          ⟨hc.flush.endsToCome, (textKind_ordinary ordinary _ _ _).trans hc.flush.kind⟩
        have hchildren := foldl_ofNodes inside (fun n hn he => ih n hn (inside n hn) he) apart
          hopened (flush_pending c)
        rw [foldl_add_opened children rfl, List.append_nil] at hchildren
        rw [hvoid, Bool.false_and, if_neg Bool.false_ne_true, List.cons_append, List.foldl_cons,
          List.foldl_append, step_opening normal hvoid, List.foldl_cons, List.foldl_nil]
        generalize (Token.ofNodes children).foldl step
          { c.flush with opened := ⟨name, attributes, []⟩ :: c.flush.opened } = built at hchildren ⊢
        have hends : built.endsToCome = [] := by
          rw [← flush_endsToCome, hchildren]
          exact hc.flush.endsToCome
        have hclosed := step_closing hends (congrArg Construction.opened hchildren)
        rw [hchildren] at hclosed
        simpa using hclosed

end Construction

/-- A printed tree is read as the same tree. -/
theorem parse?_printNodes {nodes : List Node} (h : ∀ n ∈ nodes, n.Printable)
    (hapart : nodes.IsChain Node.Apart) :
    parse? (String.ofList (printNodes false nodes)) = some nodes := by
  have hreads := Token.reads_printNodes_of_forall fun n hn => Token.reads_printNode (h n hn)
  have htokens : Token.ofChars (printNodes false nodes) = .ok (Token.ofNodes nodes) := by
    have hall := hreads false []
    rwa [List.append_nil, Token.ofCharsFrom, Except.map, List.append_nil] at hall
  have hready : Construction.empty.Ready := ⟨rfl, rfl⟩
  have hbuilt := Construction.foldl_ofNodes h
    (fun n hn he => Construction.adds_of_printable (h n hn) he) hapart hready rfl
  rw [Construction.foldl_add_finished nodes rfl] at hbuilt
  refine parse?_eq_some_iff.mpr ⟨_, by rw [String.toList_ofList, htokens], ?_⟩
  rw [treeOfTokens, Construction.finish, hbuilt]
  simp [Construction.closeMany, Construction.empty]

end CmsMarkup.Html
