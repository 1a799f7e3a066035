import CmsMarkup.Proofs.PrintedTree
import CmsMarkup.Proofs.SlugWords
import Mathlib.Data.List.DropRight

/-! Whole trees are printed and read again. The text of a tree has no blanks at its ends, so the
tree that is read has lost the blanks that its first and last texts have there, and nothing else. -/

namespace CmsMarkup.Html

/-! ### Trees that nothing is lost of -/

/-- The value of a word list: at least one word, and one space between two of them. -/
def IsWordText (value : String) : Prop :=
  ∃ ws : List String, ws ≠ [] ∧ (∀ w ∈ ws, w ≠ "" ∧ ∀ c ∈ w.toList, isBlank c = false) ∧
    value = " ".intercalate ws

namespace Node

/-- A tree of plain texts and elements that hold nothing special, as a page has them. -/
inductive Clean : Node → Prop
  | text {s : String} (nonempty : s ≠ "")
      (single : s.toList.all Construction.isAsciiBlank = true → s = " " ∨ s = "\n") :
      Clean (.text .plain s)
  | element {name : String} {attributes : List Attribute} {children : List Node}
      (named : IsName name.toList) (ordinary : name ∉ exceptionalNames)
      (void : isVoid name = true → children = [])
      (attributesNamed : ∀ a ∈ attributes, IsName a.name.toList)
      (distinct : Attribute.Distinct attributes)
      (wordLists : ∀ a ∈ attributes, isWordList name a.name = true → IsWordText a.value)
      (apart : children.IsChain Apart) (inside : ∀ n ∈ children, Clean n) :
      Clean (.element none name attributes children)

end Node

theorem normalized_of_wordText {element : String} {a : Attribute}
    (h : isWordList element a.name = true → IsWordText a.value) : a.normalized element = a := by
  rw [Attribute.normalized]
  split_ifs with hlist
  · obtain ⟨ws, -, hws, hvalue⟩ := h hlist
    rw [hvalue, words_intercalate hws, ← hvalue]
  · rfl

theorem Node.Clean.printable {n : Node} (h : n.Clean) : n.Printable := by
  induction n with
  | text kind s =>
    cases h with
    | text nonempty single => exact .text single
  | element number name attributes children ih =>
    cases h with
    | element named ordinary void attributesNamed distinct wordLists apart inside =>
      have hnormal : attributes.map (.normalized name) = attributes := by
        rw [List.map_congr_left fun a ha => normalized_of_wordText (wordLists a ha), List.map_id']
      exact .element named ordinary void attributesNamed distinct hnormal apart
        fun n hn => ih n hn (inside n hn)

/-! ### Blanks at the ends of a text -/

theorem escapeChar_of_blank {c : Char} (h : isBlank c = true) : escapeChar c = [c] := by
  have hne {d : Char} (hd : isBlank d = false) : c ≠ d := by
    rintro rfl
    rw [h] at hd
    cases hd
  exact escapeChar_of_plain (hne (by decide)) (hne (by decide)) (hne (by decide))

/-- What a character is printed as has blanks at its ends only if it is one. -/
theorem escapeChar_ends {c : Char} (h : isBlank c = false) :
    (∃ d more, escapeChar c = d :: more ∧ isBlank d = false) ∧
      ∃ front d, escapeChar c = front ++ [d] ∧ isBlank d = false := by
  by_cases ha : c = '&'
  · subst ha
    exact ⟨⟨'&', _, rfl, by decide⟩, ['&', 'a', 'm', 'p'], ';', rfl, by decide⟩
  by_cases hl : c = '<'
  · subst hl
    exact ⟨⟨'&', _, rfl, by decide⟩, ['&', 'l', 't'], ';', rfl, by decide⟩
  by_cases hg : c = '>'
  · subst hg
    exact ⟨⟨'&', _, rfl, by decide⟩, ['&', 'g', 't'], ';', rfl, by decide⟩
  · rw [escapeChar_of_plain ha hl hg]
    exact ⟨⟨c, [], rfl, h⟩, [], c, rfl, h⟩

theorem escape_cons (c : Char) (cs : List Char) : escape (c :: cs) = escapeChar c ++ escape cs :=
  List.flatMap_cons

theorem dropWhile_escape (cs : List Char) :
    (escape cs).dropWhile isBlank = escape (cs.dropWhile isBlank) := by
  induction cs with
  | nil => rfl
  | cons c cs ih =>
    by_cases hc : isBlank c = true
    · rw [escape_cons, escapeChar_of_blank hc, List.singleton_append,
        List.dropWhile_cons_of_pos hc, List.dropWhile_cons_of_pos hc, ih]
    · obtain ⟨⟨d, more, hd, hblank⟩, -⟩ := escapeChar_ends (Bool.eq_false_iff.mpr hc)
      rw [List.dropWhile_cons_of_neg hc, escape_cons, hd, List.cons_append,
        List.dropWhile_cons_of_neg (by simp [hblank])]

theorem rdropWhile_escape (cs : List Char) :
    (escape cs).rdropWhile isBlank = escape (cs.rdropWhile isBlank) := by
  induction cs using List.reverseRecOn with
  | nil => rfl
  | append_singleton cs c ih =>
    have hsplit : escape (cs ++ [c]) = escape cs ++ escapeChar c := by
      simp [escape]
    by_cases hc : isBlank c = true
    · rw [hsplit, escapeChar_of_blank hc, List.rdropWhile_concat_pos _ _ _ hc,
        List.rdropWhile_concat_pos _ _ _ hc, ih]
    · obtain ⟨-, front, d, hd, hblank⟩ := escapeChar_ends (Bool.eq_false_iff.mpr hc)
      rw [List.rdropWhile_concat_neg _ _ _ hc, hsplit, hd, ← List.append_assoc,
        List.rdropWhile_concat_neg _ _ _ (by simp [hblank])]

theorem escape_eq_nil_iff (cs : List Char) : escape cs = [] ↔ cs = [] := by
  cases cs with
  | nil => exact ⟨fun _ => rfl, fun _ => rfl⟩
  | cons c cs =>
    have hne : escapeChar c ≠ [] := by
      by_cases hc : isBlank c = true
      · simp [escapeChar_of_blank hc]
      · obtain ⟨⟨d, more, hd, -⟩, -⟩ := escapeChar_ends (Bool.eq_false_iff.mpr hc)
        simp [hd]
    simp [escape_cons, hne]

/-! ### Blanks at the ends of a tree -/

/-- The text of these characters, if there are any. -/
def textOf (kind : TextKind) (cs : List Char) : List Node :=
  if cs.isEmpty then [] else [.text kind (String.ofList cs)]

/-- The nodes without the blanks before their first character. -/
def trimStart : List Node → List Node
  | .text kind s :: rest =>
    let kept := s.toList.dropWhile isBlank
    if kept.isEmpty then trimStart rest else textOf kind kept ++ rest
  | nodes => nodes

/-- The nodes without the blanks behind their last character. -/
def trimEnd : List Node → List Node
  | [] => []
  | .text kind s :: rest =>
    if (trimEnd rest).isEmpty then textOf kind (s.toList.rdropWhile isBlank)
    else .text kind s :: trimEnd rest
  | n :: rest => n :: trimEnd rest

def trimmed (nodes : List Node) : List Node := trimEnd (trimStart nodes)

theorem rdropWhile_append {α : Type} (p : α → Bool) (xs ys : List α) :
    (xs ++ ys).rdropWhile p =
      if (ys.rdropWhile p).isEmpty then xs.rdropWhile p else xs ++ ys.rdropWhile p := by
  simp only [List.rdropWhile, List.reverse_append, List.dropWhile_append, List.isEmpty_reverse]
  split_ifs
  · rfl
  · rw [List.reverse_append, List.reverse_reverse]

theorem printNode_plain (s : String) : printNode false (.text .plain s) = escape s.toList := rfl

theorem printNode_element_ends (number : Option Nat) (name : String) (attributes : List Attribute)
    (children : List Node) :
    (∃ more, printNode false (.element number name attributes children) = '<' :: more) ∧
      ∃ front, printNode false (.element number name attributes children) = front ++ ['>'] := by
  rw [printNode]
  split_ifs
  · exact ⟨⟨_, rfl⟩, _ ++ ['/'], (List.append_assoc _ ['/'] ['>']).symm⟩
  · exact ⟨⟨_, rfl⟩, _, rfl⟩

theorem Node.Printable.printNode_ne_nil {n : Node} (h : n.Printable) : printNode false n ≠ [] := by
  cases n with
  | element number name attributes children =>
    obtain ⟨⟨more, hmore⟩, -⟩ := printNode_element_ends number name attributes children
    simp [hmore]
  | text kind s =>
    cases h with
    | text kept =>
    rw [printNode_plain, ne_eq, escape_eq_nil_iff]
    intro hempty
    rcases kept (by simp [hempty]) with rfl | rfl <;> exact absurd hempty (by decide)

theorem isBlank_of_isAsciiBlank {c : Char} (h : Construction.isAsciiBlank c = true) :
    isBlank c = true := by
  have hlist : [' ', '\n', '\t', '\x0c', '\r'].all isBlank = true := by decide +kernel
  exact List.all_eq_true.mp hlist c (by simpa [Construction.isAsciiBlank] using h)

theorem printNodes_append (xs ys : List Node) :
    printNodes false (xs ++ ys) = printNodes false xs ++ printNodes false ys := by
  induction xs with
  | nil => rfl
  | cons n xs ih => rw [List.cons_append, printNodes, printNodes, ih, List.append_assoc]

theorem printNodes_textOf (cs : List Char) : printNodes false (textOf .plain cs) = escape cs := by
  cases cs with
  | nil => rfl
  | cons c cs =>
    rw [textOf, List.isEmpty_cons, if_neg Bool.false_ne_true, printNodes, printNodes, printNode_plain,
      String.toList_ofList, List.append_nil]

theorem printable_textOf {cs : List Char} (h : cs ≠ [] → ∃ c ∈ cs, isBlank c = false) :
    ∀ n ∈ textOf .plain cs, n.Printable := by
  intro n hn
  rw [textOf] at hn
  split_ifs at hn with hempty
  · cases hn
  · obtain rfl := List.mem_singleton.mp hn
    obtain ⟨c, hc, hb⟩ := h (by simpa using hempty)
    refine .text fun hall => ?_
    rw [String.toList_ofList] at hall
    have hascii := List.all_eq_true.mp hall c hc
    rw [isBlank_of_isAsciiBlank hascii] at hb
    cases hb

theorem printable_trimStart {nodes : List Node} (h : ∀ n ∈ nodes, n.Printable) :
    ∀ n ∈ trimStart nodes, n.Printable := by
  induction nodes with
  | nil => exact h
  | cons n rest ih =>
    rw [List.forall_mem_cons] at h
    cases n with
    | element => exact List.forall_mem_cons.mpr h
    | text kind s =>
      cases h.1
      rw [trimStart]
      split_ifs with hempty
      · exact ih h.2
      · have hkept : ∀ n ∈ textOf .plain (s.toList.dropWhile isBlank), n.Printable :=
          printable_textOf fun hne => ⟨_, List.head_mem hne, List.head_dropWhile_not isBlank hne⟩
        exact List.forall_mem_append.mpr ⟨hkept, h.2⟩

theorem printable_trimEnd {nodes : List Node} (h : ∀ n ∈ nodes, n.Printable) :
    ∀ n ∈ trimEnd nodes, n.Printable := by
  induction nodes with
  | nil => exact h
  | cons n rest ih =>
    rw [List.forall_mem_cons] at h
    cases n with
    | element => exact List.forall_mem_cons.mpr ⟨h.1, ih h.2⟩
    | text kind s =>
      rw [trimEnd]
      split_ifs with hempty
      · cases h.1
        exact printable_textOf fun hne =>
          ⟨_, List.getLast_mem hne, Bool.eq_false_iff.mpr (List.rdropWhile_last_not isBlank _ hne)⟩
      · exact List.forall_mem_cons.mpr ⟨h.1, ih h.2⟩

theorem kinds_textOf (kind : TextKind) (cs : List Char) :
    (textOf kind cs).map Node.isElement = [] ∨ (textOf kind cs).map Node.isElement = [false] := by
  rw [textOf]
  split_ifs
  · exact .inl rfl
  · exact .inr rfl

/-- Nodes go at the ends only, so texts that stand apart still do. -/
theorem kinds_trimStart (nodes : List Node) :
    (trimStart nodes).map Node.isElement <:+ nodes.map Node.isElement := by
  induction nodes with
  | nil => exact List.suffix_refl _
  | cons n rest ih =>
    cases n with
    | element => exact List.suffix_refl _
    | text kind s =>
      rw [trimStart]
      split_ifs
      · exact ih.trans (List.suffix_cons _ _)
      · rw [List.map_append]
        rcases kinds_textOf kind (s.toList.dropWhile isBlank) with hkept | hkept
        · rw [hkept]
          exact List.suffix_cons _ _
        · rw [hkept]
          exact List.suffix_refl _

theorem kinds_trimEnd (nodes : List Node) :
    (trimEnd nodes).map Node.isElement <+: nodes.map Node.isElement := by
  induction nodes with
  | nil => exact List.prefix_refl _
  | cons n rest ih =>
    cases n with
    | element => exact (List.prefix_cons_inj _).mpr ih
    | text kind s =>
      rw [trimEnd]
      split_ifs
      · rcases kinds_textOf kind (s.toList.rdropWhile isBlank) with hkept | hkept
        · rw [hkept]
          exact List.nil_prefix
        · rw [hkept]
          exact (List.prefix_cons_inj _).mpr List.nil_prefix
      · exact (List.prefix_cons_inj _).mpr ih

theorem printNodes_trimStart {nodes : List Node} (h : ∀ n ∈ nodes, n.Printable) :
    printNodes false (trimStart nodes) = (printNodes false nodes).dropWhile isBlank := by
  induction nodes with
  | nil => rfl
  | cons n rest ih =>
    rw [List.forall_mem_cons] at h
    cases n with
    | element number name attributes children =>
      obtain ⟨⟨more, hmore⟩, -⟩ := printNode_element_ends number name attributes children
      rw [trimStart, printNodes, hmore, List.cons_append,
        List.dropWhile_cons_of_neg (by decide)]
      simp
    | text kind s =>
      cases h.1
      have hempty (cs : List Char) : (escape cs).isEmpty = cs.isEmpty := by
        rw [Bool.eq_iff_iff, List.isEmpty_iff, List.isEmpty_iff, escape_eq_nil_iff]
      rw [printNodes, printNode_plain, List.dropWhile_append, dropWhile_escape, hempty, trimStart]
      split_ifs
      · exact ih h.2
      · rw [printNodes_append, printNodes_textOf]

theorem printNodes_trimEnd {nodes : List Node} (h : ∀ n ∈ nodes, n.Printable) :
    printNodes false (trimEnd nodes) = (printNodes false nodes).rdropWhile isBlank := by
  induction nodes with
  | nil => rfl
  | cons n rest ih =>
    rw [List.forall_mem_cons] at h
    -- What is left of the rest is printed as nothing only when nothing is left of it.
    have hempty : (printNodes false (trimEnd rest)).isEmpty = (trimEnd rest).isEmpty := by
      cases hkept : trimEnd rest with
      | nil => rfl
      | cons m kept =>
        have hm : m.Printable := printable_trimEnd h.2 m (by simp [hkept])
        simp [printNodes, hm.printNode_ne_nil]
    rw [printNodes, rdropWhile_append, ← ih h.2, hempty]
    cases n with
    | element number name attributes children =>
      obtain ⟨-, front, hfront⟩ := printNode_element_ends number name attributes children
      have hends : (printNode false (.element number name attributes children)).rdropWhile isBlank =
          printNode false (.element number name attributes children) := by
        rw [hfront, List.rdropWhile_concat_neg _ _ _ (by decide)]
      rw [trimEnd, printNodes, hends]
      split_ifs with hnone
      · rw [List.isEmpty_iff.mp hnone, printNodes, List.append_nil]
      · rfl
      · simp
    | text kind s =>
      cases h.1
      rw [trimEnd, printNode_plain, rdropWhile_escape]
      split_ifs
      · exact printNodes_textOf _
      · rfl

theorem print_trimmed {nodes : List Node} (h : ∀ n ∈ nodes, n.Printable) :
    print nodes = String.ofList (printNodes false (trimmed nodes)) := by
  have hends (cs : List Char) : dropEnds isBlank cs = (cs.dropWhile isBlank).rdropWhile isBlank :=
    rfl
  rw [print, strip, String.toList_ofList, hends, ← printNodes_trimStart h, trimmed,
    printNodes_trimEnd (printable_trimStart h)]

/-- A printed tree is read as the same tree without the blanks at its ends. -/
theorem parse?_print {nodes : List Node} (clean : ∀ n ∈ nodes, n.Clean)
    (apart : nodes.IsChain Node.Apart) : parse? (print nodes) = some (trimmed nodes) := by
  have hprint : ∀ n ∈ nodes, n.Printable := fun n hn => (clean n hn).printable
  have hkept : ∀ n ∈ trimmed nodes, n.Printable := printable_trimEnd (printable_trimStart hprint)
  have hkinds : (nodes.map Node.isElement).IsChain (fun a b => a = true ∨ b = true) :=
    (List.isChain_map Node.isElement).mpr apart
  have hinfix : (trimmed nodes).map Node.isElement <:+: nodes.map Node.isElement :=
    (kinds_trimEnd _).isInfix.trans (kinds_trimStart nodes).isInfix
  have hleft : ((trimmed nodes).map Node.isElement).IsChain (fun a b => a = true ∨ b = true) :=
    List.IsChain.infix hkinds hinfix
  have hapart : (trimmed nodes).IsChain Node.Apart := (List.isChain_map Node.isElement).mp hleft
  rw [print_trimmed hprint, parse?_printNodes hkept hapart]

theorem Node.clean_leaf {name : String} (named : IsName name.toList)
    (ordinary : name ∉ exceptionalNames) : (Node.element none name [] []).Clean :=
  .element named ordinary (fun _ => rfl) (by simp) List.nodup_nil (by simp) List.isChain_nil (by simp)

theorem Node.clean_ink {s : String} (h : s.toList.all Construction.isAsciiBlank = false) :
    (Node.text .plain s).Clean := by
  have hne : s ≠ "" := by
    rintro rfl
    cases h
  exact .text hne fun hall => by simp [hall] at h

/-- Both quotes and a reference in a value, and text that looks like markup. -/
def quotedParagraph : Node :=
  .element none "p" [⟨"class", "wide note"⟩, ⟨"data-tip", "\" and ' &lt;"⟩]
    [.text .plain "&amp;", .element none "br" [] [], .text .plain "\n", .element none "b" [] []]

theorem clean_quotedParagraph : quotedParagraph.Clean := by
  have hclass : IsName "class".toList := (isTagName_of_all rfl).isName
  have hdata : IsName ('d' :: "ata-tip".toList) := .mk rfl (List.all_eq_true.mp rfl)
  have hbr : (Node.element none "br" [] []).Clean :=
    Node.clean_leaf (isTagName_of_all rfl).isName (by decide)
  have hb : (Node.element none "b" [] []).Clean :=
    Node.clean_leaf (isTagName_of_all rfl).isName (by decide)
  have hline : (Node.text .plain "\n").Clean := .text (by decide) fun _ => .inr rfl
  have hreference : (Node.text .plain "&amp;").Clean := Node.clean_ink rfl
  refine .element (isTagName_of_all rfl).isName (by decide) (by decide) ?_
    (by simp [Attribute.Distinct]) ?_ (by simp [Node.Apart, Node.isElement]) ?_
  · exact List.forall_mem_cons.mpr ⟨hclass, List.forall_mem_singleton.mpr hdata⟩
  · intro a ha hlist
    rcases List.mem_pair.mp ha with rfl | rfl
    · have hwide : "wide".toList.all (!isBlank ·) = true := by decide +kernel
      have hnote : "note".toList.all (!isBlank ·) = true := by decide +kernel
      exact ⟨["wide", "note"], by simp, by simpa [List.all_eq_true] using And.intro hwide hnote,
        by decide +kernel⟩
    · exact absurd hlist (by decide)
  · simp [hreference, hbr, hline, hb]

theorem parse?_print_quotedParagraph :
    parse? (print [.text .plain "\u00a0 <b> & ", quotedParagraph, .text .plain "\n"]) =
      some [.text .plain "<b> & ", quotedParagraph] := by
  have hline : (Node.text .plain "\n").Clean := .text (by decide) fun _ => .inr rfl
  have hmarkup : (Node.text .plain "\u00a0 <b> & ").Clean := Node.clean_ink rfl
  exact parse?_print (by simp [hmarkup, clean_quotedParagraph, hline])
    (by simp [Node.Apart, quotedParagraph, Node.isElement])

end CmsMarkup.Html
