import CmsMarkup.Proofs.HeadingIds
import CmsMarkup.Toc

/-! Links of a table of contents. A table lists the headings of a page in their order, and the
id that a heading has is the one that its link goes to: where the id is empty, so is the slug of
the text that is left, as a text that loses white space gains no letter. -/

namespace CmsMarkup

open Html

/-! ### Entries in order -/

namespace TocEntry

def title : TocEntry → String
  | .entry _ _ title _ _ => title

def href : TocEntry → String
  | .entry _ _ _ href _ => href

mutual

/-- The entries of a tree, each before those below it and without them. -/
def preorder : TocEntry → List TocEntry
  | .entry level id title href children => .entry level id title href [] :: preorderOf children

def preorderOf : List TocEntry → List TocEntry
  | [] => []
  | e :: rest => preorder e ++ preorderOf rest

end

mutual

theorem preorder_insert (h : Heading) : ∀ e, preorder (insert h e) = preorder e ++ [ofHeading h]
  | .entry level id title href children => by
    rw [insert, preorder, preorder, preorderOf_insertLast h children, List.cons_append]

/-- A heading goes behind all that is there, on whatever level. -/
theorem preorderOf_insertLast (h : Heading) :
    ∀ forest, preorderOf (insertLast h forest) = preorderOf forest ++ [ofHeading h]
  | [] => rfl
  | [e] => by
    rw [insertLast]
    split_ifs
    · simp only [preorderOf, preorder_insert h e, List.append_nil]
    · simp [preorderOf, ofHeading, preorder]
  | e :: f :: rest => by
    rw [insertLast, preorderOf, preorderOf_insertLast h (f :: rest), ← List.append_assoc]
    rfl

end

theorem preorderOf_tocOfNodes (nodes : List Node) :
    preorderOf (tocOfNodes nodes) = (Heading.listOf nodes).map ofHeading := by
  have step (headings : List Heading) (forest : List TocEntry) :
      preorderOf (headings.foldl (fun forest h => insertLast h forest) forest) =
        preorderOf forest ++ headings.map ofHeading := by
    induction headings generalizing forest with
    | nil => rw [List.foldl_nil, List.map_nil, List.append_nil]
    | cons h rest ih =>
      rw [List.foldl_cons, ih, preorderOf_insertLast, List.append_assoc, List.map_cons]
      rfl
  exact step (Heading.listOf nodes) []

end TocEntry

/-! ### Headings with a title -/

theorem runs_eq_nil_iff {sep : Char → Bool} {cs : List Char} :
    runs sep cs = [] ↔ ∀ c ∈ cs, sep c = true := by
  induction cs with
  | nil => simp [runs]
  | cons c cs ih =>
    rw [List.forall_mem_cons]
    cases hc : sep c with
    | true => rw [runs_cons_of_sep hc, ih, and_iff_right rfl]
    | false => simp [runs_ne_nil cs hc]

theorem intercalate_words_eq_empty_iff (s : String) :
    " ".intercalate (words s) = "" ↔ s.toList.all isBlank = true := by
  rw [List.all_eq_true, ← runs_eq_nil_iff, words]
  have hword : ∀ w ∈ runs isBlank s.toList, w ≠ [] := fun w hw => (mem_runs hw).1
  cases hr : runs isBlank s.toList with
  | nil => simp
  | cons w ws =>
    have hw : w ≠ [] := hword w (hr ▸ List.mem_cons_self)
    cases ws with
    | nil => simpa using hw
    | cons v vs => simp [String.intercalate_cons_cons, hw]

namespace Heading

/-- An element of one of the four levels, with or without a text. -/
def hasLevel (n : Node) : Bool := Convention.headingNames.any (n.hasName ·)

def isTitled (n : Node) : Bool := hasLevel n && !n.visibleText.toList.all isBlank

theorem isTitled_iff {n : Node} :
    isTitled n = true ↔ hasLevel n = true ∧ n.visibleText.toList.all isBlank = false := by
  simp [isTitled]

theorem hasLevel_element {number : Option Nat} {name : String} {attributes : List Attribute}
    {children : List Node} :
    hasLevel (.element number name attributes children) = true ↔
      name ∈ Convention.headingNames := by
  simp [hasLevel]

theorem exists_name_of_hasLevel {n : Node} (h : hasLevel n = true) :
    ∃ name ∈ Convention.headingNames, n.hasName name = true := by
  simpa [hasLevel] using h

theorem hasLevel_eq_false {n : Node} {name : String} (h : n.hasName name = true)
    (hname : name ∉ Convention.headingNames) : hasLevel n = false := by
  refine Bool.eq_false_iff.mpr fun hl => ?_
  obtain ⟨other, ho, hn⟩ := exists_name_of_hasLevel hl
  rw [Node.hasName_eq_false h fun he => hname (he ▸ ho)] at hn
  cases hn

theorem ofNode?_isSome (n : Node) : (ofNode? n).isSome = isTitled n := by
  cases n with
  | text kind s => rfl
  | element number name attributes children =>
    have ht := intercalate_words_eq_empty_iff (Node.visibleTexts children)
    rw [Bool.eq_iff_iff, isTitled_iff, hasLevel_element, Node.visibleText, ← Bool.not_eq_true, ← ht]
    simp only [ofNode?, List.contains_eq_mem, decide_eq_true_eq, String.isEmpty_iff]
    split_ifs <;> simp_all

/-- The id of a heading is the one it is given, or the one that its text would have. -/
theorem ofNode?_eq_some {n : Node} {h : Heading} (hn : ofNode? n = some h) :
    h.id = (if ((Rule.idOf n).getD "").isEmpty then headingId n.visibleText
      else (Rule.idOf n).getD "") ∧ h.title = " ".intercalate (words n.visibleText) := by
  cases n with
  | text kind s => cases hn
  | element number name attributes children =>
    simp only [ofNode?] at hn
    split_ifs at hn with _ _ he
    all_goals
      obtain rfl := Option.some.inj hn
      simp [Rule.idOf, Node.visibleText, he]

/-- What a reader sees of the headings of a page, in their order: ids and texts. -/
def faces (nodes : List Node) : List (Option String × String) :=
  ((Node.elementsOf nodes).filter hasLevel).map fun n => (Rule.idOf n, n.visibleText)

theorem forall₂_of_faces {nodes more : List Node} (h : faces nodes = faces more) :
    List.Forall₂ (fun n m => Rule.idOf n = Rule.idOf m ∧ n.visibleText = m.visibleText)
      ((Node.elementsOf nodes).filter isTitled) ((Node.elementsOf more).filter isTitled) := by
  have htitled (nodes : List Node) : (Node.elementsOf nodes).filter isTitled =
      ((Node.elementsOf nodes).filter hasLevel).filter (!·.visibleText.toList.all isBlank) := by
    rw [List.filter_filter]
    exact List.filter_congr fun n _ => Bool.and_comm _ _
  have hfaces : List.Forall₂ (fun n m => Rule.idOf n = Rule.idOf m ∧ n.visibleText = m.visibleText)
      ((Node.elementsOf nodes).filter hasLevel) ((Node.elementsOf more).filter hasLevel) := by
    rw [faces, faces, ← List.forall₂_eq_eq_eq, List.forall₂_map_left_iff,
      List.forall₂_map_right_iff] at h
    exact h.imp fun n m hnm => Prod.mk.inj hnm
  rw [htitled, htitled]
  exact List.rel_filter (fun n m hnm => by simp only [hnm.2]) hfaces

theorem forall₂_filterMap {α β : Type} (f : α → Option β) (xs : List α) :
    List.Forall₂ (fun x y => f x = some y) (xs.filter fun x => (f x).isSome) (xs.filterMap f) := by
  induction xs with
  | nil => exact .nil
  | cons x xs ih =>
    cases hx : f x with
    | none => simpa [List.filter_cons, List.filterMap_cons, hx] using ih
    | some y => simpa [List.filter_cons, List.filterMap_cons, hx] using ih

end Heading

/-! ### Ids that are empty -/

theorem Slug.slugWords_eq_nil_iff {cs : List Char} :
    slugWords cs = [] ↔ ∀ c ∈ cs, ∀ d ∈ kept c, isBreak d = true := by
  rw [slugWords_eq, runs_eq_nil_iff]
  simp only [List.mem_flatMap, forall_exists_index, and_imp]
  exact ⟨fun h c hc d hd => h d c hc hd, fun h d c hc hd => h c hc d hd⟩

/-- White space has no part in whether a slug is empty. -/
theorem headingId_eq_empty_iff {s : String} :
    headingId s = "" ↔ ∀ c ∈ ink s, ∀ d ∈ Slug.kept c, Slug.isBreak d = true := by
  have hempty : headingId "" = "" := rfl
  have hwords : Slug.slugWords "".toList = [] := rfl
  rw [← hempty, headingId_eq_iff, hwords, Slug.slugWords_eq_nil_iff]
  refine ⟨fun h c hc => h c (List.mem_filter.mp hc).1, fun h c hc => ?_⟩
  cases hb : isBlank c with
  | true => exact Slug.isBreak_of_mem_kept hb
  | false => exact h c (List.mem_filter.mpr ⟨hc, by rw [hb]; rfl⟩)

theorem headingId_empty_of_subset {s t : String} (h : ink t ⊆ ink s) (hs : headingId s = "") :
    headingId t = "" := by
  rw [headingId_eq_empty_iff] at hs ⊢
  exact fun c hc => hs c (h hc)

/-! ### Pages of plain text -/

/-- A tree of elements and plain strings. -/
inductive Html.Node.IsPlain : Node → Prop
  | text (s : String) : IsPlain (.text .plain s)
  | element (number : Option Nat) (name : String) (attributes : List Attribute)
    {children : List Node} (below : ∀ n ∈ children, IsPlain n) :
    IsPlain (.element number name attributes children)

namespace Html.Node

theorem IsPlain.children {n : Node} (h : n.IsPlain) : ∀ c ∈ n.children, c.IsPlain := by
  cases h with
  | text => nofun
  | element _ _ _ below => exact below

theorem IsPlain.elements {n c : Node} (h : n.IsPlain) (hc : c ∈ n.elements) : c.IsPlain := by
  induction n with
  | text kind s => cases hc
  | element number name attributes children ih =>
    rw [Node.elements, List.mem_cons, elementsOf_eq_flatMap, List.mem_flatMap] at hc
    obtain rfl | ⟨n, hn, hc⟩ := hc
    · exact h
    · exact ih n hn (h.children n hn) hc

end Html.Node

theorem CodeFence.Relabelled.isPlain {n m : Node} (h : Relabelled n m) (hn : n.IsPlain) :
    m.IsPlain := by
  induction n generalizing m with
  | text kind s =>
    cases h
    exact hn
  | element number name attributes children ih =>
    cases h with
    | element kept below =>
      have hplain : ∀ n ∈ children, n.IsPlain := hn.children
      clear hn
      refine .element _ _ _ ?_
      induction below with
      | nil => nofun
      | cons hr _ hrest =>
        rw [List.forall_mem_cons] at hplain ⊢
        exact ⟨ih _ List.mem_cons_self hr hplain.1,
          hrest (fun n hn => ih n (List.mem_cons_of_mem _ hn)) hplain.2⟩

namespace Rule

theorem unhidden_of_plain {nodes : List Node} (h : ∀ n ∈ nodes, n.IsPlain) :
    unhidden nodes = [] := by
  cases nodes with
  | nil => rfl
  | cons n rest =>
    cases h n List.mem_cons_self with
    | text s => simp [unhidden]
    | element => rfl

/-- A rule takes no letter into a text: it strips code, and an image goes with all that is in it. -/
theorem ink_rewritten (number : Option Nat) (name : String) (attributes : List Attribute)
    {children : List Node} (hplain : ∀ n ∈ children, n.IsPlain)
    (h : (ink (Node.visibleTexts (fixNodes children).1)).Sublist
      (ink (Node.visibleTexts children))) :
    (ink (rewritten (.element number name attributes children)).visibleText).Sublist
      (ink (Node.visibleTexts children)) := by
  rw [visibleText_rewritten]
  split_ifs
  · have hs := stripLeading_adds (fixNodes children).1
    rw [unhidden_fixNodes, unhidden_of_plain hplain] at hs
    rwa [hs.eq_iff.mpr rfl]
  · exact h

theorem ink_fixNodes_of_forall {nodes : List Node}
    (h : ∀ n ∈ nodes, (ink (fixNode n).1.visibleText).Sublist (ink n.visibleText)) :
    (ink (Node.visibleTexts (fixNodes nodes).1)).Sublist (ink (Node.visibleTexts nodes)) := by
  induction nodes with
  | nil => exact .refl _
  | cons n rest ih =>
    have hn := h n List.mem_cons_self
    have hrest := ih fun m hm => h m (List.mem_cons_of_mem _ hm)
    simpa [Node.visibleTexts, fixNodes] using hn.append hrest

theorem ink_fixNode {n : Node} (h : n.IsPlain) :
    (ink (fixNode n).1.visibleText).Sublist (ink n.visibleText) := by
  induction n with
  | text kind s => exact .refl _
  | element number name attributes children ih =>
    have hinner := ink_fixNodes_of_forall fun n hn => ih n hn (h.children n hn)
    have hplain : ∀ n ∈ children, n.IsPlain := h.children
    have hown := ink_rewritten number name attributes hplain hinner
    rw [fixNode_eq, Node.visibleText]
    split_ifs
    · simpa [wrapTable, Node.visibleText, Node.visibleTexts] using hown
    · exact List.nil_sublist _
    · exact hown

theorem visibleText_rewritten_ink {n : Node} (h : n.IsPlain) :
    (ink (rewritten n).visibleText).Sublist (ink n.visibleText) := by
  cases n with
  | text kind s => exact .refl _
  | element number name attributes children =>
    have hplain : ∀ n ∈ children, n.IsPlain := h.children
    exact ink_rewritten number name attributes hplain
      (ink_fixNodes_of_forall fun n hn => ink_fixNode (hplain n hn))

theorem elements_rewritten (number : Option Nat) (name : String) (attributes : List Attribute)
    (children : List Node) :
    Node.elements (rewritten (.element number name attributes children)) =
      rewritten (.element number name attributes children) ::
        Node.elementsOf (fixNodes children).1 := by
  obtain ⟨attributes', children', he, hc⟩ := rewritten_element number name attributes children
  rw [he, Node.elements, ← Node.placedElements_map_node [] children', hc,
    Node.placedElements_map_node]

/-- Headings come from headings only; what a rule puts around an element is none. -/
theorem heading_of_mem_fixNode {n m : Node} (hm : m ∈ Node.elements (fixNode n).1)
    (hl : Heading.hasLevel m = true) : ∃ o ∈ Node.elements n, m = rewritten o := by
  induction n with
  | text kind s => cases hm
  | element number name attributes children ih =>
    have hwithin (h : m ∈ Node.elements (rewritten (.element number name attributes children))) :
        ∃ o ∈ Node.elements (.element number name attributes children), m = rewritten o := by
      rw [elements_rewritten, List.mem_cons, Node.elementsOf_eq_flatMap, List.mem_flatMap] at h
      obtain rfl | ⟨c, hc, hm⟩ := h
      · exact ⟨_, List.mem_cons_self, rfl⟩
      · rw [fixNodes_eq_map, List.mem_map] at hc
        obtain ⟨n, hn, rfl⟩ := hc
        obtain ⟨o, ho, he⟩ := ih n hn hm
        exact ⟨o, Node.mem_elements_of_child hn ho, he⟩
    have hnone (name : String) (hname : name ∉ Convention.headingNames)
        (h : m.hasName name = true) : False := by
      rw [Heading.hasLevel_eq_false h hname] at hl
      cases hl
    rw [fixNode_eq] at hm
    split_ifs at hm
    · rw [wrapTable, Node.elements, List.mem_cons, Node.elementsOf_eq_flatMap,
        List.flatMap_singleton] at hm
      obtain rfl | hm := hm
      · exact (hnone "div" (by decide) rfl).elim
      · exact hwithin hm
    · simp only [grid_eq, gallery, mediaItem, Node.elements, Node.elementsOf, List.append_nil,
        List.mem_cons, List.not_mem_nil, or_false] at hm
      obtain rfl | rfl | rfl := hm
      · exact (hnone "div" (by decide) rfl).elim
      · exact (hnone "div" (by decide) rfl).elim
      · exact (hnone Convention.mediaName (by decide) rfl).elim
    · exact hwithin hm

end Rule

/-- The id that a link to a heading of a text names is the id it has. -/
def Heading.IsLinked (m : Node) : Prop :=
  ∃ id, Rule.idOf m = some id ∧ (id = "" → headingId m.visibleText = "")

theorem ImageGrid.ink_lifted (n : Node) : ink (lifted n).visibleText = ink n.visibleText := by
  cases n with
  | text kind s => rfl
  | element number name attributes children =>
    have hl : (liftParts children).flatMap (·.nodes) = lift children := by
      rw [liftParts_eq_map, List.flatMap_map, lift]
    rw [lifted, hl, Node.visibleText, Node.visibleText, ink_lift]

theorem ink_eq_nil_iff {s : String} : ink s = [] ↔ s.toList.all isBlank = true := by
  simp [ink]

/-- A heading that reads as something had a text when it got its id, and has no new letter. -/
theorem Rule.isLinked_lifted {n : Node} (hplain : n.IsPlain)
    (ht : Heading.isTitled (ImageGrid.lifted (rewritten n)) = true) :
    Heading.IsLinked (ImageGrid.lifted (rewritten n)) := by
  have hink : ink (ImageGrid.lifted (rewritten n)).visibleText ⊆ ink n.visibleText := by
    rw [ImageGrid.ink_lifted]
    exact (visibleText_rewritten_ink hplain).subset
  obtain ⟨hlevel, hblank⟩ := Heading.isTitled_iff.mp ht
  have hheading : isHeading n = true := by
    cases n with
    | text kind s => cases hlevel
    | element number name attributes children =>
      have hlevel' : Heading.hasLevel (.element number name attributes children) = true := by
        simpa [Heading.hasLevel] using hlevel
      refine isHeading_element.mpr ⟨Heading.hasLevel_element.mp hlevel', ?_⟩
      rintro rfl
      rw [ink_eq_nil_iff.mp (List.subset_nil.mp hink)] at hblank
      cases hblank
  have hid : idOf (ImageGrid.lifted (rewritten n)) = idOf (rewritten n) := by
    cases rewritten n <;> rfl
  exact ⟨headingId n.visibleText, by rw [hid, idOf_rewritten hheading],
    headingId_empty_of_subset hink⟩

/-- The headings of a page with a text, and the id that each of them has. -/
theorem postprocess_isLinked {nodes : List Node} (hplain : ∀ n ∈ nodes, n.IsPlain) :
    ∀ m ∈ Node.elementsOf (postprocess nodes).1,
      Heading.isTitled m = true → Heading.IsLinked m := by
  have hq (n : Node) (hn : Heading.hasLevel n = true) :
      n.isElement = true ∧ n.hasName "p" = false := by
    obtain ⟨name, hname, hn⟩ := Heading.exists_name_of_hasLevel hn
    exact ImageGrid.stays_of_hasName (fun he => absurd (he ▸ hname) (by decide)) n hn
  have hlift (n : Node) : Heading.hasLevel (ImageGrid.lifted n) = Heading.hasLevel n := by
    simp only [Heading.hasLevel, ImageGrid.hasName_lifted]
  -- The elements before the lifting are those of the rules, and these come from plain ones.
  have hfixed : ∀ n ∈ Node.elementsOf (Rule.fixNodes (CodeFence.normalizeNodes nodes)).1,
      Heading.hasLevel n = true → Heading.isTitled (ImageGrid.lifted n) = true →
        Heading.IsLinked (ImageGrid.lifted n) := by
    intro n hn hl ht
    rw [Rule.fixNodes_eq_map, CodeFence.normalizeNodes_eq_map, Node.elementsOf_eq_flatMap,
      List.map_map, List.mem_flatMap] at hn
    obtain ⟨fixed, hf, hn⟩ := hn
    obtain ⟨source, hs, rfl⟩ := List.mem_map.mp hf
    obtain ⟨o, ho, rfl⟩ := Rule.heading_of_mem_fixNode hn hl
    have hnormal := (CodeFence.normalizeNode_relabelled source).isPlain (hplain source hs)
    exact Rule.isLinked_lifted (hnormal.elements ho) ht
  intro m hm ht
  have hall := (forall_mem_iff_of_forall₂
    (p := fun o => Heading.isTitled (ImageGrid.lifted o.node) = true →
      Heading.IsLinked (ImageGrid.lifted o.node))
    (q := fun o => Heading.isTitled o.node = true → Heading.IsLinked o.node)
    (ImageGrid.lift_elements hq hlift (Rule.fixNodes (CodeFence.normalizeNodes nodes)).1)
    fun o _ o' h => by rw [h.node]).mp fun o ho => by
      obtain ⟨ho, hl⟩ := List.mem_filter.mp ho
      refine hfixed o.node ?_ hl
      rw [← Node.placedElements_map_node []]
      exact List.mem_map_of_mem ho
  rw [postprocess_nodes, ← Node.placedElements_map_node []] at hm
  obtain ⟨o, ho, rfl⟩ := List.mem_map.mp hm
  exact hall o (List.mem_filter.mpr ⟨ho, (Heading.isTitled_iff.mp ht).1⟩) ht

/-- The table of contents of a printed page of plain text has one entry for each heading of the
page with a text, in their order, with the text as its title and a link to the heading's own id.
The headings have to be read back as they were, with their ids and texts. -/
theorem toc_links {nodes back : List Node} (hplain : ∀ n ∈ nodes, n.IsPlain)
    (hback : parse? (print (postprocess nodes).1) = some back)
    (hfaces : Heading.faces back = Heading.faces (postprocess nodes).1) :
    ∃ entries, tocOf? (print (postprocess nodes).1) = some entries ∧
      List.Forall₂
        (fun m e => ∃ id, Rule.idOf m = some id ∧ TocEntry.href e = "#" ++ id ∧
          TocEntry.title e = " ".intercalate (words m.visibleText))
        ((Node.elementsOf (postprocess nodes).1).filter Heading.isTitled)
        (TocEntry.preorderOf entries) := by
  refine ⟨tocOfNodes back, by rw [tocOf?, hback, Option.map_some], ?_⟩
  have hread : List.Forall₂ (fun n h => Heading.ofNode? n = some h)
      ((Node.elementsOf back).filter Heading.isTitled) (Heading.listOf back) := by
    have hentries := Heading.forall₂_filterMap Heading.ofNode? (Node.elementsOf back)
    simp only [Heading.ofNode?_isSome] at hentries
    exact hentries
  have hlinked : ∀ m ∈ (Node.elementsOf (postprocess nodes).1).filter Heading.isTitled,
      Heading.IsLinked m := by
    intro m hm
    obtain ⟨hm, ht⟩ := List.mem_filter.mp hm
    exact postprocess_isLinked hplain m hm ht
  have hall := forall₂_comp (Heading.forall₂_of_faces hfaces.symm) hread
  rw [TocEntry.preorderOf_tocOfNodes, List.forall₂_map_right_iff]
  refine ((List.forall₂_and_left _ _).mpr ⟨hlinked, hall⟩).imp ?_
  rintro m h ⟨⟨id, hid, hempty⟩, n, ⟨hsame, htext⟩, hn⟩
  obtain ⟨hown, htitle⟩ := Heading.ofNode?_eq_some hn
  rw [← hsame, ← htext, hid, Option.getD_some] at hown
  refine ⟨id, hid, ?_, by rw [htext, ← htitle]; rfl⟩
  have hlink : h.id = id := by
    rw [hown]
    split_ifs with he
    · rw [String.isEmpty_iff] at he
      rw [hempty he, he]
    · rfl
  rw [← hlink]
  rfl

def silentTitle : List Node :=
  [.element none "h1" [] [.text .plain "? ", .element none "code" [] [.text .plain " !"]],
    .element none "h3" [] [.text .plain "A b"]]

/-- A title without letters has an empty id, and what is left of it has one too. -/
theorem toc_links_of_silent_title :
    ∃ entries, tocOf? (print (postprocess silentTitle).1) = some entries ∧
      (TocEntry.preorderOf entries).map TocEntry.href = ["#", "#a-b"] := by
  have hcode : (Node.element none "code" [] [.text .plain " !"]).IsPlain :=
    .element _ _ _ (List.forall_mem_singleton.mpr (.text _))
  have hplain : ∀ n ∈ silentTitle, n.IsPlain := List.forall_mem_cons.mpr
    ⟨.element _ _ _ (List.forall_mem_cons.mpr ⟨.text _, List.forall_mem_singleton.mpr hcode⟩),
      List.forall_mem_singleton.mpr (.element _ _ _ (List.forall_mem_singleton.mpr (.text _)))⟩
  have hback : parse? (print (postprocess silentTitle).1) = some (postprocess silentTitle).1 := rfl
  obtain ⟨entries, he, hlinks⟩ := toc_links hplain hback rfl
  refine ⟨entries, he, ?_⟩
  have htitled : (Node.elementsOf (postprocess silentTitle).1).filter Heading.isTitled =
      [.element none "h1" [⟨"id", ""⟩]
        [.text .plain "? ", .element none "code" [] [.text .plain "!"]],
        .element none "h3" [⟨"id", "a-b"⟩] [.text .plain "A b"]] := rfl
  rw [htitled] at hlinks
  obtain ⟨first, rest, ⟨id, hid, hfirst, -⟩, hrest, hentries⟩ := List.forall₂_cons_left_iff.mp hlinks
  obtain ⟨second, last, ⟨id', hid', hsecond, -⟩, hlast, rfl⟩ :=
    List.forall₂_cons_left_iff.mp hrest
  obtain rfl := List.forall₂_nil_left_iff.mp hlast
  obtain rfl : "" = id := Option.some.inj hid
  obtain rfl : "a-b" = id' := Option.some.inj hid'
  rw [hentries, List.map_cons, List.map_cons, hfirst, hsecond]
  rfl

end CmsMarkup
