import CmsMarkup.Rule
import CmsMarkup.Proofs.DocumentOrder

/-! The rules in document order: every element of the rewritten tree comes from one element
of the old tree, and what it is and what stands around it can be read off that one. -/

namespace CmsMarkup.Rule

open Html

def altText : Node → String
  | .text .. => ""
  | .element _ _ attributes _ => (Attribute.find? "alt" attributes).getD ""

def mediaItem (alt : String) : Node :=
  .element none Convention.mediaName (⟨"alt", alt⟩ :: ⟨"title", alt⟩ :: Convention.mediaAttributes) []

def gallery (alt : String) : Node :=
  .element none "div" [⟨"class", Convention.galleryClass⟩] [mediaItem alt]

/-- An element after its rule, without what the rule puts around it. -/
def rewritten : Node → Node
  | .text kind s => .text kind s
  | .element number name attributes children =>
    match RuleKind.ofElement? name children with
    | some .heading =>
      .element number name
        (Attribute.set "id" (headingId (Node.visibleTexts children)) attributes) (fixNodes children).1
    | some .table =>
      .element number name (Attribute.set "class" Convention.tableClass attributes)
        (fixNodes children).1
    | some .code =>
      .element number name (codeAttributes attributes) (stripLeading (fixNodes children).1)
    | _ => .element number name attributes (fixNodes children).1

def enclosing (n : Node) : List Node :=
  if n.hasName "table" then [rewritten n, wrapTable (rewritten n)] else [rewritten n]

/-- The elements that a rule gives for one element where it stands. -/
def images (o : Placed) : List Placed :=
  let around := o.ancestors.flatMap enclosing
  if o.node.hasName "table" then
    [⟨wrapTable (rewritten o.node), around⟩,
     ⟨rewritten o.node, wrapTable (rewritten o.node) :: around⟩]
  else if o.node.hasName "img" then
    let alt := altText o.node
    [⟨grid alt, around⟩, ⟨gallery alt, grid alt :: around⟩,
     ⟨mediaItem alt, gallery alt :: grid alt :: around⟩]
  else [⟨rewritten o.node, around⟩]

theorem grid_eq (alt : String) :
    grid alt = .element none "div" [⟨"class", Convention.gridClass⟩] [gallery alt] := rfl

def ImagesEmpty (nodes : List Node) : Prop :=
  ∀ n ∈ Node.elementsOf nodes, n.hasName "img" = true → n.children = []

/-- The name of the elements that a rule is for; headings have several. -/
def elementName? : RuleKind → Option String
  | .heading => none
  | .table => some "table"
  | .image => some "img"
  | .code => some "code"

theorem ofElement?_eq_some_iff (kind : RuleKind) {own : String}
    (hk : elementName? kind = some own) (name : String) (children : List Node) :
    RuleKind.ofElement? name children = some kind ↔ name = own := by
  constructor
  · intro h
    simp only [RuleKind.ofElement?, beq_iff_eq] at h
    split_ifs at h <;> cases h <;> cases hk <;> assumption
  · rintro rfl
    cases kind <;> cases hk <;> simp [RuleKind.ofElement?, Convention.headingNames]

theorem of?_eq_some_iff (kind : RuleKind) {own : String} (hk : elementName? kind = some own)
    (n : Node) : RuleKind.of? n = some kind ↔ n.hasName own = true := by
  cases n with
  | text => simp [RuleKind.of?]
  | element number name attributes children =>
    rw [RuleKind.of?, ofElement?_eq_some_iff kind hk, Node.hasName_element, beq_iff_eq]

theorem fixNodes_eq_map (nodes : List Node) :
    (fixNodes nodes).1 = nodes.map fun n => (fixNode n).1 := by
  induction nodes with
  | nil => rfl
  | cons n rest ih => simp only [fixNodes, ih, List.map_cons]

theorem fixNode_eq (n : Node) :
    (fixNode n).1 =
      if n.hasName "table" then wrapTable (rewritten n)
      else if n.hasName "img" then grid (altText n)
      else rewritten n := by
  cases n with
  | text kind s => rfl
  | element number name attributes children =>
    have ht := ofElement?_eq_some_iff .table rfl name children
    have hi := ofElement?_eq_some_iff .image rfl name children
    simp only [fixNode, rewritten, Node.hasName_element, beq_iff_eq]
    cases hk : RuleKind.ofElement? name children with
    | none => simp_all
    | some kind => cases kind <;> simp_all [result, altText]

theorem placedElements_stripLeading (outer nodes : List Node) :
    Node.placedElements outer (stripLeading nodes) = Node.placedElements outer nodes := by
  unfold stripLeading
  split
  · split_ifs
    · rfl
    · simp [Node.placedElements, Node.placedOf, Node.placed]
  · rfl

theorem rewritten_element (number : Option Nat) (name : String) (attributes : List Attribute)
    (children : List Node) :
    ∃ attributes' children',
      rewritten (.element number name attributes children) =
        .element number name attributes' children' ∧
      ∀ outer, Node.placedElements outer children' = Node.placedElements outer (fixNodes children).1 := by
  simp only [rewritten]
  split
  · exact ⟨_, _, rfl, fun _ => rfl⟩
  · exact ⟨_, _, rfl, fun _ => rfl⟩
  · exact ⟨_, _, rfl, fun outer => placedElements_stripLeading outer _⟩
  · exact ⟨_, _, rfl, fun _ => rfl⟩

theorem ImagesEmpty.of_mem {nodes : List Node} (h : ImagesEmpty nodes) {n : Node}
    (hn : n ∈ nodes) : ImagesEmpty [n] := by
  intro e he
  refine h e ?_
  simp only [Node.elementsOf_eq_flatMap, List.mem_flatMap, List.mem_singleton,
    exists_eq_left] at he ⊢
  exact ⟨n, hn, he⟩

theorem ImagesEmpty.children {number : Option Nat} {name : String} {attributes : List Attribute}
    {children : List Node} (h : ImagesEmpty [.element number name attributes children]) :
    (name = "img" → children = []) ∧ ImagesEmpty children := by
  refine ⟨fun hn => ?_, fun n hn => h n ?_⟩
  · exact h (.element number name attributes children)
      (by simp [Node.elementsOf, Node.elements]) (by simp [hn])
  · simp [Node.elementsOf, Node.elements, hn]

theorem placedElements_rewritten {number : Option Nat} {name : String}
    {attributes : List Attribute} {children around : List Node} :
    Node.placedElements around [rewritten (.element number name attributes children)] =
      ⟨rewritten (.element number name attributes children), around⟩ ::
        Node.placedElements (rewritten (.element number name attributes children) :: around)
          (fixNodes children).1 := by
  obtain ⟨attributes', children', he, hc⟩ := rewritten_element number name attributes children
  rw [he, Node.placedElements_element, hc]

theorem placedElements_grid (around : List Node) (alt : String) :
    Node.placedElements around [grid alt] =
      [⟨grid alt, around⟩, ⟨gallery alt, grid alt :: around⟩,
       ⟨mediaItem alt, gallery alt :: grid alt :: around⟩] := by
  simp [grid_eq, gallery, mediaItem]

theorem placedElements_fixNode {n : Node} (h : ImagesEmpty [n]) (outer : List Node) :
    Node.placedElements (outer.flatMap enclosing) [(fixNode n).1] =
      (Node.placedElements outer [n]).flatMap images := by
  induction n generalizing outer with
  | text kind s => rfl
  | element number name attributes children ih =>
    have hempty := h.children
    have hbelow (around : List Node) :
        Node.placedElements (around.flatMap enclosing) (fixNodes children).1 =
          (Node.placedElements around children).flatMap images := by
      rw [fixNodes_eq_map, Node.placedElements_eq_flatMap, Node.placedElements_eq_flatMap,
        List.flatMap_map, List.flatMap_assoc]
      exact List.flatMap_congr fun n hn => ih n hn (hempty.2.of_mem hn) around
    have hinner := hbelow (.element number name attributes children :: outer)
    rw [Node.placedElements_element, List.flatMap_cons, ← hinner, fixNode_eq]
    by_cases ht : name = "table"
    · -- `enclosing` gives two elements here, as what is in a table is in its wrapper too.
      simp [images, enclosing, ht, wrapTable, placedElements_rewritten]
    · by_cases hi : name = "img"
      · simp [images, hi, placedElements_grid, hempty.1 hi, fixNodes]
      · simp [images, enclosing, ht, hi, placedElements_rewritten]

/-- The elements of the rewritten tree, element by element of the old one. -/
theorem placedElements_fixNodes {nodes : List Node} (h : ImagesEmpty nodes) :
    Node.placedElements [] (fixNodes nodes).1 = (Node.placedElements [] nodes).flatMap images := by
  rw [fixNodes_eq_map, Node.placedElements_eq_flatMap, Node.placedElements_eq_flatMap [] nodes,
    List.flatMap_map, List.flatMap_assoc]
  exact List.flatMap_congr fun n hn => placedElements_fixNode (h.of_mem hn) []

@[simp] theorem hasName_rewritten (n : Node) (name : String) :
    (rewritten n).hasName name = n.hasName name := by
  cases n with
  | text kind s => rfl
  | element number name' attributes children =>
    obtain ⟨attributes', children', he, _⟩ := rewritten_element number name' attributes children
    rw [he]
    rfl

theorem rewritten_of_no_rule {name : String} {children : List Node}
    (h : RuleKind.ofElement? name children = none) (number : Option Nat)
    (attributes : List Attribute) :
    rewritten (.element number name attributes children) =
      .element number name attributes (fixNodes children).1 := by
  simp [rewritten, h]

theorem ofElement?_div (children : List Node) : RuleKind.ofElement? "div" children = none := by
  simp [RuleKind.ofElement?, Convention.headingNames]

theorem isDiv_rewritten (n : Node) (test : List String → Bool) :
    (rewritten n).isDiv test = n.isDiv test := by
  cases n with
  | text kind s => rfl
  | element number name attributes children =>
    by_cases hd : name = "div"
    · subst hd
      rw [rewritten_of_no_rule (ofElement?_div children)]
      rfl
    · obtain ⟨attributes', children', he, _⟩ := rewritten_element number name attributes children
      simp only [he, Node.isDiv, beq_eq_false_iff_ne.mpr hd, Bool.false_and]

theorem forall_mem_images {o : Placed} {p : Placed → Prop} :
    (∀ x ∈ images o, p x) ↔
      let around := o.ancestors.flatMap enclosing
      if o.node.hasName "table" then
        p ⟨wrapTable (rewritten o.node), around⟩ ∧
          p ⟨rewritten o.node, wrapTable (rewritten o.node) :: around⟩
      else if o.node.hasName "img" then
        let alt := altText o.node
        p ⟨grid alt, around⟩ ∧ p ⟨gallery alt, grid alt :: around⟩ ∧
          p ⟨mediaItem alt, gallery alt :: grid alt :: around⟩
      else p ⟨rewritten o.node, around⟩ := by
  unfold images
  dsimp only
  split_ifs <;> simp

/-- What an element itself becomes; all else that a rule gives is a `div` around it. -/
def successor (o : Placed) : Placed :=
  let around := o.ancestors.flatMap enclosing
  if o.node.hasName "table" then ⟨rewritten o.node, wrapTable (rewritten o.node) :: around⟩
  else if o.node.hasName "img" then
    let alt := altText o.node
    ⟨mediaItem alt, gallery alt :: grid alt :: around⟩
  else ⟨rewritten o.node, around⟩

theorem images_filter_hasName {name : String} (hne : name ≠ "div") (o : Placed) :
    (images o).filter (·.node.hasName name) =
      if (successor o).node.hasName name then [successor o] else [] := by
  have hdiv {n : Node} (h : n.hasName "div" = true) : n.hasName name = false :=
    Node.hasName_eq_false h hne.symm
  have hwrap (n : Node) : (wrapTable n).hasName name = false := hdiv rfl
  have hgrid (alt : String) : (grid alt).hasName name = false := hdiv rfl
  have hgallery (alt : String) : (gallery alt).hasName name = false := hdiv rfl
  unfold images successor
  dsimp only
  split_ifs <;> simp_all

theorem hasName_successor (o : Placed) (name : String) :
    (successor o).node.hasName name =
      if o.node.hasName "img" then Convention.mediaName == name else o.node.hasName name := by
  unfold successor
  by_cases ht : o.node.hasName "table" = true
  · have hi : o.node.hasName "img" = false := Node.hasName_eq_false ht (by decide)
    simp [ht, hi]
  · by_cases hi : o.node.hasName "img" = true
    · simp [ht, hi, mediaItem]
    · simp [ht, hi]

end CmsMarkup.Rule
