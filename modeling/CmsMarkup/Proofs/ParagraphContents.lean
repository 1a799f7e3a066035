import CmsMarkup.Proofs.ParagraphTurns

/-! What a page shows after its paragraphs were split in place. The new paragraphs aside, every
element keeps its number, so nothing in document order goes unnoticed. -/

namespace CmsMarkup

open Html

namespace Unwrapping

open ImageGrid (Part isGrid lift liftNode liftParts splitGrids splitParagraph staying staying_text
  staying_element)

/-- A node without what is inside it. -/
def bare : Node → Node
  | .text kind s => .text kind s
  | .element number name attributes _ => .element number name attributes []

/-- The elements other than paragraphs and the strings that are not blank, in document order. -/
def contents (nodes : List Node) : List Node :=
  (staying [] nodes).map (bare ·.node)

theorem isElement_bare (n : Node) : (bare n).isElement = n.isElement := by
  cases n <;> rfl

theorem isElement_forgetNode (base : Nat) (n : Node) :
    (forgetNode base n).isElement = n.isElement := by
  cases n <;> rfl

theorem staying_forgetNode (base : Nat) (outer around : List Node) (n : Node) :
    (staying around [forgetNode base n]).map (bare ·.node) =
      (staying outer [n]).map fun o => forgetNode base (bare o.node) := by
  induction n generalizing outer around with
  | text kind s =>
    rw [forgetNode, staying_text, staying_text]
    split_ifs <;> rfl
  | element number name attributes children ih =>
    have hchildren (outer around : List Node) :
        (staying around (forgetNodes base children)).map (bare ·.node) =
          (staying outer children).map fun o => forgetNode base (bare o.node) := by
      rw [ImageGrid.staying_eq_flatMap, ImageGrid.staying_eq_flatMap outer, forgetNodes_eq_map,
        List.flatMap_map, List.map_flatMap, List.map_flatMap]
      exact List.flatMap_congr fun n hn => ih n hn outer around
    rw [forgetNode, staying_element, staying_element, List.map_append, List.map_append,
      hchildren]
    split_ifs <;> rfl

theorem contents_forgetNodes (base : Nat) (nodes : List Node) :
    contents (forgetNodes base nodes) = (contents nodes).map (forgetNode base) := by
  rw [contents, contents, ImageGrid.staying_eq_flatMap, ImageGrid.staying_eq_flatMap [] nodes,
    forgetNodes_eq_map, List.flatMap_map, List.map_flatMap, List.map_map, List.map_flatMap]
  exact List.flatMap_congr fun n _ => staying_forgetNode base [] [] n

theorem contents_lift (nodes : List Node) : contents (lift nodes) = contents nodes := by
  have hbare : ∀ n : Node, bare (ImageGrid.lifted n) = bare n := by
    intro n
    cases n <;> rfl
  have hsame := (ImageGrid.staying_lift nodes).imp fun o o' h =>
    show bare o.node = bare o'.node by rw [h.node, hbare]
  exact (List.forall₂_eq_eq_eq ▸ List.forall₂_map_left_iff.mpr
    (List.forall₂_map_right_iff.mpr hsame)).symm

theorem unnumbered_forgetNode (base : Nat) (n : Node) :
    (forgetNode base n).unnumbered = n.unnumbered := by
  induction n with
  | text kind s => rfl
  | element number name attributes children ih =>
    rw [forgetNode, Node.unnumbered, Node.unnumbered, forgetNodes_eq_map, Node.unnumberedOf_eq_map,
      Node.unnumberedOf_eq_map, List.map_map]
    exact congrArg _ (List.map_congr_left ih)

theorem unnumberedOf_forgetNodes (base : Nat) (nodes : List Node) :
    Node.unnumberedOf (forgetNodes base nodes) = Node.unnumberedOf nodes := by
  rw [forgetNodes_eq_map, Node.unnumberedOf_eq_map, Node.unnumberedOf_eq_map, List.map_map]
  exact List.map_congr_left fun n _ => unnumbered_forgetNode base n

theorem forgetNode_of_number {base : Nat} {n : Node}
    (h : n.isElement = true → (forgetNode base (bare n)).number? ≠ none) :
    forgetNode base (bare n) = bare n := by
  cases n with
  | text kind s => rfl
  | element number name attributes children =>
    have hnumber : number.filter (· < base) ≠ none := h rfl
    obtain ⟨k, hk⟩ := Option.ne_none_iff_exists'.mp hnumber
    rw [bare, forgetNode, hk, (Option.filter_eq_some_iff.mp hk).1]
    rfl

theorem number?_of_mem_contents {nodes : List Node} {k : Nat} (h : Node.Counted k nodes) {n : Node}
    (hn : n ∈ contents nodes) (he : n.isElement = true) : n.number? ≠ none := by
  obtain ⟨o, ho, rfl⟩ := List.mem_map.mp hn
  have helement : o.node.isElement = true := by rwa [isElement_bare] at he
  have hmem : o.node ∈ Node.elementsOf nodes := by
    rw [← Node.placedElements_map_node []]
    exact List.mem_map_of_mem (List.mem_filter.mpr ⟨(List.mem_filter.mp ho).1, helement⟩)
  obtain ⟨j, hj, -⟩ := h.bounds hmem
  have hbare : (bare o.node).number? = o.node.number? := by
    cases o.node <;> rfl
  rw [hbare, hj]
  exact Option.some_ne_none j

/-- New paragraphs aside, every element of a page that was lifted had its number before. -/
theorem contents_eq_of_forgetNodes {base k : Nat} {nodes after : List Node}
    (h : Node.Counted k nodes) (hafter : forgetNodes base after = lift nodes) :
    contents after = contents nodes := by
  have hforget : (contents after).map (forgetNode base) = contents nodes := by
    rw [← contents_forgetNodes, hafter, contents_lift]
  have hself : ∀ n ∈ contents after, forgetNode base n = n := by
    intro n hn
    have hmem : forgetNode base n ∈ contents nodes := hforget ▸ List.mem_map_of_mem hn
    obtain ⟨o, -, rfl⟩ := List.mem_map.mp hn
    refine forgetNode_of_number fun he => number?_of_mem_contents h hmem ?_
    rw [isElement_forgetNode, isElement_bare, he]
  rw [← hforget, List.map_congr_left hself, List.map_id']

theorem splitGrids_forgetPart (base : Nat) (parts : List Part) :
    splitGrids (parts.map (forgetPart base)) =
      ((splitGrids parts).1.map (forgetPart base),
        (splitGrids parts).2.map fun (grid, segment) =>
          (forgetPart base grid, segment.map (forgetPart base))) := by
  induction parts with
  | nil => rfl
  | cons p rest ih =>
    have hgrid : (forgetPart base p).isGrid = p.isGrid := rfl
    rw [List.map_cons, splitGrids, splitGrids, ih, hgrid]
    split_ifs <;> rfl

theorem forgetNodes_splitParagraph (base : Nat) (number : Option Nat) (attributes : List Attribute)
    (parts : List Part) : forgetNodes base (splitParagraph number attributes parts) =
      splitParagraph (number.filter (· < base)) attributes (parts.map (forgetPart base)) := by
  simp only [splitParagraph, splitGrids_forgetPart, forgetNodes_append, forgetNodes_paragraph,
    forgetNodes_flatMap, List.flatMap_map, Option.filter_none]
  rfl

theorem isGrid_forgetNode (base : Nat) (n : Node) : isGrid (forgetNode base n) = isGrid n := by
  cases n <;> rfl

theorem isBlankText_forgetNode (base : Nat) (n : Node) :
    (forgetNode base n).isBlankText = n.isBlankText := by
  cases n <;> rfl

theorem liftParts_forgetNodes {base : Nat} {nodes : List Node}
    (h : ∀ n ∈ nodes, liftNode (forgetNode base n) = forgetNodes base (liftNode n)) :
    liftParts (forgetNodes base nodes) = (liftParts nodes).map (forgetPart base) := by
  rw [ImageGrid.liftParts_eq_map, ImageGrid.liftParts_eq_map, forgetNodes_eq_map, List.map_map,
    List.map_map]
  refine List.map_congr_left fun n hn => ?_
  simp only [Function.comp_apply, forgetPart, isGrid_forgetNode, isBlankText_forgetNode, h n hn]

theorem liftNode_forgetNode (base : Nat) (n : Node) :
    liftNode (forgetNode base n) = forgetNodes base (liftNode n) := by
  induction n with
  | text kind s => rfl
  | element number name attributes children ih =>
    have hany : (forgetNodes base children).any isGrid = children.any isGrid := by
      rw [forgetNodes_eq_map, List.any_map]
      exact congrArg children.any (funext (isGrid_forgetNode base))
    rw [forgetNode, ImageGrid.liftNode_element, ImageGrid.liftNode_element, hany, ImageGrid.lifted,
      ImageGrid.lifted, liftParts_forgetNodes ih]
    split_ifs
    · rw [forgetNodes_splitParagraph]
    · rw [forgetNodes, forgetNode, forgetNodes_flatMap, List.flatMap_map]
      rfl

theorem lift_forgetNodes (base : Nat) (nodes : List Node) :
    lift (forgetNodes base nodes) = forgetNodes base (lift nodes) := by
  rw [lift, lift, forgetNodes_flatMap, forgetNodes_eq_map, List.flatMap_map]
  exact List.flatMap_congr fun n _ => liftNode_forgetNode base n

theorem forgetNode_zero (n : Node) : forgetNode 0 n = n.unnumbered := by
  induction n with
  | text kind s => rfl
  | element number name attributes children ih =>
    have hnumber : number.filter (· < 0) = none := by
      cases number <;> simp [Option.filter_some]
    rw [forgetNode, Node.unnumbered, hnumber, forgetNodes_eq_map, Node.unnumberedOf_eq_map,
      List.map_congr_left ih]

theorem forgetNodes_zero (nodes : List Node) : forgetNodes 0 nodes = Node.unnumberedOf nodes := by
  rw [forgetNodes_eq_map, Node.unnumberedOf_eq_map]
  exact List.map_congr_left fun n _ => forgetNode_zero n

theorem lift_unnumberedOf (nodes : List Node) :
    lift (Node.unnumberedOf nodes) = Node.unnumberedOf (lift nodes) := by
  rw [← forgetNodes_zero, lift_forgetNodes, forgetNodes_zero]

/-- Splitting in place makes the page that lifting makes, and comes to an end on any page without
a fault: each paragraph that was listed stands in the page when its turn comes. No element but a
paragraph and no string that shows is lost, doubled or moved past another one. -/
theorem unwrap_keeps (nodes : List Node) :
    ∃ after, (ofNodes nodes).unwrap.run = some (.ok after) ∧
      Turns (paragraphs (ofNodes nodes).nodes) (ofNodes nodes) after ∧
      contents after.nodes = contents (ofNodes nodes).nodes ∧
      Node.unnumberedOf after.nodes = lift (Node.unnumberedOf nodes) := by
  obtain ⟨after, hturns, hafter⟩ := turns_ofNodes nodes
  have hcount : Node.Counted 0 (ofNodes nodes).nodes := (Node.numberedFrom_counted 0 nodes).1
  have hnodes : Node.unnumberedOf (ofNodes nodes).nodes = Node.unnumberedOf nodes :=
    Node.unnumberedOf_numberedFrom nodes 0
  refine ⟨after, hturns.foldlM, hturns, contents_eq_of_forgetNodes hcount hafter, ?_⟩
  rw [← unnumberedOf_forgetNodes (ofNodes nodes).next, hafter, ← lift_unnumberedOf, hnodes]

end Unwrapping

end CmsMarkup
