import CmsMarkup.Proofs.SlugWords
import CmsMarkup.Proofs.VisibleText
import Mathlib.Data.List.TakeWhile

/-! Ids of headings. An id is read off the text that a heading has before the rules go on
inside it; stripping code there takes white space out of the text, but not out of the id. -/

namespace CmsMarkup

open Html

theorem Html.Attribute.find?_set (name value : String) (attributes : List Attribute) :
    find? name (set name value attributes) = some value := by
  induction attributes with
  | nil => simp [set, find?]
  | cons a rest ih =>
    by_cases ha : a.name = name
    · simp [set, find?, ha]
    · simp [set, find?, ha, ih]

namespace Rule

/-! ### The text that the rules leave -/

mutual

/-- A tree in which the text that comes first in `code` is stripped, and nothing else done. -/
def trimNode : Node → Node
  | .text kind s => .text kind s
  | .element number name attributes children =>
    .element number name attributes
      (if name = "code" then stripLeading (trimNodes children) else trimNodes children)

def trimNodes : List Node → List Node
  | [] => []
  | n :: rest => trimNode n :: trimNodes rest

end

theorem trimNodes_eq_map (nodes : List Node) : trimNodes nodes = nodes.map trimNode := by
  induction nodes with
  | nil => rfl
  | cons n rest ih => rw [trimNodes, ih, List.map_cons]

/-- The same to a reader: the same string, or two elements with the same text. -/
structure Alike (n m : Node) : Prop where
  text : m.visibleText = n.visibleText
  string : ∀ kind s, n = .text kind s ↔ m = .text kind s

theorem visibleTexts_of_alike {xs ys : List Node} (h : List.Forall₂ Alike xs ys) :
    Node.visibleTexts ys = Node.visibleTexts xs := by
  induction h with
  | nil => rfl
  | cons hn _ ih => rw [Node.visibleTexts, Node.visibleTexts, hn.text, ih]

theorem visibleTexts_stripLeading_of_alike {xs ys : List Node} (h : List.Forall₂ Alike xs ys) :
    Node.visibleTexts (stripLeading ys) = Node.visibleTexts (stripLeading xs) := by
  cases h with
  | nil => rfl
  | @cons n m xs ys hn hrest =>
    have hall := visibleTexts_of_alike (.cons hn hrest)
    cases n with
    | text kind s =>
      obtain rfl := (hn.string kind s).mp rfl
      have hxs := visibleTexts_of_alike hrest
      simp only [stripLeading]
      split_ifs
      · exact hall
      · rw [Node.visibleTexts, Node.visibleTexts, hxs]
    | element number name attributes children =>
      cases m with
      | text kind s => cases (hn.string kind s).mpr rfl
      | element => exact hall

theorem alike_of_element {number number' : Option Nat} {name name' : String}
    {attributes attributes' : List Attribute} {children children' : List Node}
    (h : Node.visibleTexts children' = Node.visibleTexts children) :
    Alike (.element number name attributes children) (.element number' name' attributes' children') :=
  ⟨h, fun _ _ => by simp⟩

/-- What the rules make of a node reads like the node with its code trimmed. -/
theorem trimNode_alike {n : Node} (h : ImagesEmpty [n]) : Alike (trimNode n) (fixNode n).1 := by
  induction n with
  | text kind s => exact ⟨rfl, fun _ _ => Iff.rfl⟩
  | element number name attributes children ih =>
    have hempty := h.children
    -- The layers of a table and the item of an image bring no text of their own.
    have hinner : List.Forall₂ Alike (trimNodes children) (fixNodes children).1 := by
      rw [trimNodes_eq_map, fixNodes_eq_map, List.forall₂_map_left_iff, List.forall₂_map_right_iff,
        List.forall₂_same]
      exact fun n hn => ih n hn (hempty.2.of_mem hn)
    have htext : (rewritten (.element number name attributes children)).visibleText =
        (trimNode (.element number name attributes children)).visibleText := by
      rw [visibleText_rewritten, trimNode, Node.visibleText]
      split_ifs
      · exact visibleTexts_stripLeading_of_alike hinner
      · exact visibleTexts_of_alike hinner
    obtain ⟨attributes', children', he, _⟩ := rewritten_element number name attributes children
    rw [he] at htext
    rw [fixNode_eq, he]
    split_ifs with ht hi
    · refine alike_of_element ?_
      rw [Node.visibleTexts, Node.visibleTexts, String.append_empty]
      exact htext
    · have hname : name = "img" := by simpa using hi
      subst hname
      rw [hempty.1 rfl]
      exact alike_of_element rfl
    · exact alike_of_element htext

theorem trimNode_alike_self {n : Node}
    (h : ∀ c ∈ Node.elements n, c.hasName "code" = true →
      Node.visibleTexts (stripLeading c.children) = Node.visibleTexts c.children) :
    Alike n (trimNode n) := by
  induction n with
  | text kind s => exact ⟨rfl, fun _ _ => Iff.rfl⟩
  | element number name attributes children ih =>
    have hinner : List.Forall₂ Alike children (trimNodes children) := by
      rw [trimNodes_eq_map, List.forall₂_map_right_iff, List.forall₂_same]
      exact fun n hn => ih n hn fun c hc => h c (Node.mem_elements_of_child hn hc)
    refine alike_of_element ?_
    split_ifs with hname
    · have hown := h _ List.mem_cons_self (by simp [hname])
      exact (visibleTexts_stripLeading_of_alike hinner).trans hown
    · exact visibleTexts_of_alike hinner

/-! ### White space that is lost -/

theorem visibleText_toList_loses {xs ys : List Node}
    (h : List.Forall₂ (fun n m => Loses isBlank n.visibleText.toList m.visibleText.toList) xs ys) :
    Loses isBlank (Node.visibleTexts xs).toList (Node.visibleTexts ys).toList := by
  induction h with
  | nil => exact .nil
  | cons hn _ ih =>
    rw [Node.visibleTexts, Node.visibleTexts, String.toList_append, String.toList_append]
    exact hn.append ih

theorem loses_strip (s : String) : Loses isBlank s.toList (strip s).toList := by
  rw [strip, String.toList_ofList]
  exact .dropEnds isBlank s.toList

theorem strip_of_ink_nil {s : String} (h : ink s = []) : strip s = "" := by
  have hblank : s.toList.dropWhile isBlank = [] := by
    rw [List.dropWhile_eq_nil_iff]
    exact fun c hc => by simpa using List.filter_eq_nil_iff.mp h c hc
  rw [strip, dropEnds, hblank]
  rfl

/-- Where no hidden string comes first, stripping takes nothing but white space away. -/
theorem stripLeading_loses {nodes : List Node} (h : unhidden nodes = []) :
    Loses isBlank (Node.visibleTexts nodes).toList
      (Node.visibleTexts (stripLeading nodes)).toList := by
  cases nodes with
  | nil => exact .nil
  | cons n rest =>
    cases n with
    | element => exact .refl _ _
    | text kind s =>
      by_cases hkeep : kind = .comment ∨ strip s = s
      · have hs : stripLeading (.text kind s :: rest) = .text kind s :: rest := by
          simp [stripLeading, hkeep]
        rw [hs]
        exact .refl _ _
      · have hs : stripLeading (.text kind s :: rest) = .text .plain (strip s) :: rest := by
          simp [stripLeading, hkeep]
        rw [hs, Node.visibleTexts, Node.visibleTexts, String.toList_append, String.toList_append]
        refine Loses.append ?_ (.refl _ _)
        by_cases hv : kind = .plain ∨ kind = .cdata
        · simpa [Node.visibleText, hv] using loses_strip s
        · -- A hidden string that shows nothing when it is stripped.
          simp only [not_or] at hkeep hv
          have hink : ink s = [] := by simpa [unhidden, hkeep, hv] using h
          rw [strip_of_ink_nil hink]
          simpa [Node.visibleText, hv] using Loses.nil

theorem unhidden_trimNodes (children : List Node) :
    unhidden (trimNodes children) = unhidden children := by
  cases children with
  | nil => rfl
  | cons n rest => cases n <;> rfl

theorem trimNode_loses {n : Node} (h : ∀ c ∈ Node.elements n, revealed c = []) :
    Loses isBlank n.visibleText.toList (trimNode n).visibleText.toList := by
  induction n with
  | text kind s => exact .refl _ _
  | element number name attributes children ih =>
    have hinner : Loses isBlank (Node.visibleTexts children).toList
        (Node.visibleTexts (trimNodes children)).toList := by
      refine visibleText_toList_loses ?_
      rw [trimNodes_eq_map, List.forall₂_map_right_iff, List.forall₂_same]
      exact fun n hn => ih n hn fun c hc => h c (Node.mem_elements_of_child hn hc)
    rw [trimNode, Node.visibleText, Node.visibleText]
    split_ifs with hname
    · have hown := h _ List.mem_cons_self
      rw [revealed, Node.hasName_element, hname, beq_self_eq_true, if_pos rfl, Node.children,
        ← unhidden_trimNodes] at hown
      exact hinner.trans (stripLeading_loses hown)
    · exact hinner

/-! ### Headings -/

/-- A heading of one of the four levels that has a child. -/
def isHeading (n : Node) : Bool := RuleKind.of? n == some .heading

theorem ofElement?_eq_heading_iff {name : String} {children : List Node} :
    RuleKind.ofElement? name children = some .heading ↔
      name ∈ Convention.headingNames ∧ children ≠ [] := by
  simp only [RuleKind.ofElement?, List.contains_eq_mem, decide_eq_true_eq, List.isEmpty_iff, beq_iff_eq]
  split_ifs <;> simp_all

theorem isHeading_element {number : Option Nat} {name : String} {attributes : List Attribute}
    {children : List Node} : isHeading (.element number name attributes children) = true ↔
      name ∈ Convention.headingNames ∧ children ≠ [] := by
  rw [isHeading, beq_iff_eq, RuleKind.of?, ofElement?_eq_heading_iff]

theorem isHeading_eq_false {n : Node} {name : String} (h : n.hasName name = true)
    (hname : name ∉ Convention.headingNames) : isHeading n = false := by
  refine Bool.eq_false_iff.mpr fun hh => ?_
  cases n with
  | text kind s => simp at h
  | element number m attributes children =>
    obtain rfl : m = name := by simpa using h
    exact hname (isHeading_element.mp hh).1

theorem fixNodes_eq_nil_iff {nodes : List Node} : (fixNodes nodes).1 = [] ↔ nodes = [] := by
  rw [fixNodes_eq_map, List.map_eq_nil_iff]

theorem stripLeading_eq_nil_iff {nodes : List Node} : stripLeading nodes = [] ↔ nodes = [] := by
  unfold stripLeading
  split
  · split_ifs <;> simp
  · rfl

theorem isHeading_rewritten (n : Node) : isHeading (rewritten n) = isHeading n := by
  cases n with
  | text kind s => rfl
  | element number name attributes children =>
    rw [Bool.eq_iff_iff, isHeading_element, rewritten]
    split <;> rw [isHeading_element] <;> simp [fixNodes_eq_nil_iff, stripLeading_eq_nil_iff]

theorem images_filter_isHeading (o : Placed) :
    (images o).filter (isHeading ·.node) =
      if isHeading o.node then [⟨rewritten o.node, o.ancestors.flatMap enclosing⟩] else [] := by
  have hdiv {n : Node} (h : n.hasName "div" = true) : isHeading n = false :=
    isHeading_eq_false h (by decide)
  have hwrap (n : Node) : isHeading (wrapTable n) = false := hdiv rfl
  have hgrid (alt : String) : isHeading (grid alt) = false := hdiv rfl
  have hgallery (alt : String) : isHeading (gallery alt) = false := hdiv rfl
  have hitem (alt : String) : isHeading (mediaItem alt) = false := rfl
  unfold images
  by_cases ht : o.node.hasName "table" = true
  · have hf : isHeading o.node = false := isHeading_eq_false ht (by decide)
    simp [ht, hf, hwrap, isHeading_rewritten]
  · by_cases hi : o.node.hasName "img" = true
    · have hf : isHeading o.node = false := isHeading_eq_false hi (by decide)
      simp [ht, hi, hf, hgrid, hgallery, hitem]
    · cases hh : isHeading o.node <;> simp [ht, hi, hh, isHeading_rewritten]

theorem headings_fixNodes {nodes : List Node} (h : ImagesEmpty nodes) :
    (Node.elementsOf (fixNodes nodes).1).filter isHeading =
      ((Node.elementsOf nodes).filter isHeading).map rewritten := by
  have hall := filter_flatMap_eq_map images_filter_isHeading (Node.placedElements [] nodes)
  rw [← placedElements_fixNodes h] at hall
  rw [← Node.placedElements_map_node [] (fixNodes nodes).1, ← Node.placedElements_map_node [] nodes,
    List.filter_map, List.filter_map, Function.comp_def, hall, List.map_map, List.map_map]
  rfl

theorem elements_subset {n m : Node} (h : n ∈ Node.elements m) : Node.elements n ⊆ Node.elements m := by
  induction m with
  | text kind s => cases h
  | element number name attributes children ih =>
    rw [Node.elements] at h
    rcases List.mem_cons.mp h with rfl | h
    · exact List.Subset.refl _
    · rw [Node.elementsOf_eq_flatMap] at h
      obtain ⟨c, hc, hn⟩ := List.mem_flatMap.mp h
      exact fun e he => Node.mem_elements_of_child hc (ih c hc hn he)

theorem ImagesEmpty.of_mem_elementsOf {nodes : List Node} (h : ImagesEmpty nodes) {n : Node}
    (hn : n ∈ Node.elementsOf nodes) : ImagesEmpty [n] := by
  intro e he
  rw [Node.elementsOf_eq_flatMap, List.flatMap_singleton] at he
  rw [Node.elementsOf_eq_flatMap] at hn
  obtain ⟨m, hm, hn⟩ := List.mem_flatMap.mp hn
  exact h e (Node.mem_elementsOf_of_mem hm (elements_subset hn he))

def idOf : Node → Option String
  | .text .. => none
  | .element _ _ attributes _ => Attribute.find? "id" attributes

/-- A heading of a page and what the rules make of it. The id is that of the text before;
it is that of the text after exactly when the two have the same words. Unless a hidden string
comes to light, the text after can only have lost breaks between its words. -/
structure Titled (n m : Node) : Prop where
  id : idOf m = some (headingId n.visibleText)
  agrees_iff : idOf m = some (headingId m.visibleText) ↔
    Slug.slugWords m.visibleText.toList = Slug.slugWords n.visibleText.toList
  glued : (∀ c ∈ Node.elements n, revealed c = []) →
    Glued (Slug.slugWords n.visibleText.toList) (Slug.slugWords m.visibleText.toList)
  kept : (∀ c ∈ Node.elements n, c.hasName "code" = true →
      Node.visibleTexts (stripLeading c.children) = Node.visibleTexts c.children) →
    m.visibleText = n.visibleText

theorem idOf_rewritten {n : Node} (h : isHeading n = true) :
    idOf (rewritten n) = some (headingId n.visibleText) := by
  cases n with
  | text kind s => cases h
  | element number name attributes children =>
    have hk : RuleKind.ofElement? name children = some .heading := by
      simpa [isHeading, RuleKind.of?] using h
    simp only [rewritten, hk, idOf, Node.visibleText]
    exact Attribute.find?_set "id" _ attributes

theorem visibleText_rewritten_heading {n : Node} (h : isHeading n = true) (he : ImagesEmpty [n]) :
    (rewritten n).visibleText = (trimNode n).visibleText := by
  have htable : n.hasName "table" = false := by
    refine Bool.eq_false_iff.mpr fun ht => ?_
    rw [isHeading_eq_false ht (by decide)] at h
    cases h
  have himg : n.hasName "img" = false := by
    refine Bool.eq_false_iff.mpr fun hi => ?_
    rw [isHeading_eq_false hi (by decide)] at h
    cases h
  have ht := (trimNode_alike he).text
  rwa [fixNode_eq, htable, himg] at ht

theorem titled_rewritten {n : Node} (h : isHeading n = true) (he : ImagesEmpty [n]) :
    Titled n (rewritten n) := by
  have hid := idOf_rewritten h
  have htext := visibleText_rewritten_heading h he
  refine ⟨hid, ?_, fun hr => ?_, fun hc => ?_⟩
  · rw [hid, Option.some.injEq, eq_comm, headingId_eq_iff]
  · rw [htext]
    exact Slug.slugWords_glued (trimNode_loses hr)
  · rw [htext, (trimNode_alike_self hc).text]

end Rule

/-- The headings of a page, in their order, with the ids that the rules give them. -/
theorem fixup_heading_ids {text : String} {nodes : List Node} (h : parse? text = some nodes) :
    List.Forall₂ Rule.Titled ((Node.elementsOf nodes).filter Rule.isHeading)
      ((Node.elementsOf (fixup nodes).1).filter Rule.isHeading) := by
  have he := (parse?_regular h).imagesEmpty
  have hfix : (fixup nodes).1 = (Rule.fixNodes nodes).1 := rfl
  rw [hfix, Rule.headings_fixNodes he, List.forall₂_map_right_iff, List.forall₂_same]
  intro n hn
  obtain ⟨hmem, hheading⟩ := List.mem_filter.mp hn
  exact Rule.titled_rewritten hheading (he.of_mem_elementsOf hmem)

theorem fixup_heading_ids_with_code :
    parse? "<h2>Run <code>ls</code></h2>" =
        some [.element none "h2" [] [.text .plain "Run ", .element none "code" [] [.text .plain "ls"]]] ∧
      List.Forall₂ Rule.Titled
        [.element none "h2" [] [.text .plain "Run ", .element none "code" [] [.text .plain "ls"]]]
        [.element none "h2" [⟨"id", "run-ls"⟩]
          [.text .plain "Run ", .element none "code" [] [.text .plain "ls"]]] := by
  have h : parse? "<h2>Run <code>ls</code></h2>" =
      some [.element none "h2" []
        [.text .plain "Run ", .element none "code" [] [.text .plain "ls"]]] := rfl
  exact ⟨h, fixup_heading_ids h⟩

/-- The id has a hyphen where the heading reads as one word. -/
theorem heading_id_of_lost_space :
    parse? "<h1>a<code> b</code></h1>" =
        some [.element none "h1" [] [.text .plain "a", .element none "code" [] [.text .plain " b"]]] ∧
      ¬ ∀ m ∈ (Node.elementsOf (fixup
          [.element none "h1" []
            [.text .plain "a", .element none "code" [] [.text .plain " b"]]]).1).filter Rule.isHeading,
        Rule.idOf m = some (headingId m.visibleText) :=
  ⟨rfl, by decide⟩

end CmsMarkup
