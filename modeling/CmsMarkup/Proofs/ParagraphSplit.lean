import CmsMarkup.Proofs.ParagraphContents

/-! A paragraph without others inside it is cut at its grids. What is between two grids goes into
a paragraph of its own unless it is blank, and nothing else on the page changes. -/

namespace CmsMarkup

open Html

namespace Unwrapping

open ImageGrid (isGrid lift liftNode liftParts splitGrids splitParagraph)

/-- The children of a paragraph are `first`, then each grid with the nodes up to the next one. -/
structure IsCut (children first : List Node) (grids : List (Node × List Node)) : Prop where
  whole : children = first ++ grids.flatMap fun (grid, trailing) => grid :: trailing
  first : ∀ n ∈ first, isGrid n = false
  grid : ∀ g ∈ grids, isGrid g.1 = true
  trailing : ∀ g ∈ grids, ∀ n ∈ g.2, isGrid n = false

def segment (number : Option Nat) (attributes : List Attribute) (nodes : List Node) : List Node :=
  if isBlank nodes then [] else [.element number "p" attributes nodes]

/-- The nodes in the place of a node when no paragraph is inside another. -/
inductive SplitsTo : Node → List Node → Prop
  | text (kind : TextKind) (s : String) : SplitsTo (.text kind s) [.text kind s]
  | element {number : Option Nat} {name : String} {attributes : List Attribute}
      {children : List Node} {parts : List (List Node)} (notParagraph : name ≠ "p")
      (inside : List.Forall₂ SplitsTo children parts) :
      SplitsTo (.element number name attributes children)
        [.element number name attributes parts.flatten]
  | whole {number : Option Nat} {attributes : List Attribute} {children : List Node}
      (noGrid : ∀ n ∈ children, isGrid n = false) :
      SplitsTo (.element number "p" attributes children) [.element number "p" attributes children]
  | cut {number : Option Nat} {attributes : List Attribute} {children first : List Node}
      {grids : List (Node × List Node)} (cut : IsCut children first grids) (someGrid : grids ≠ []) :
      SplitsTo (.element number "p" attributes children)
        (segment number attributes first ++
          grids.flatMap fun (grid, trailing) => grid :: segment none [] trailing)

def SplitOut (nodes result : List Node) : Prop :=
  ∃ parts, List.Forall₂ SplitsTo nodes parts ∧ parts.flatten = result

/-- No paragraph has another one inside it. -/
def Flat (nodes : List Node) : Prop :=
  ∀ e ∈ Node.elementsOf nodes, e.hasName "p" = true →
    ∀ d ∈ Node.elementsOf e.children, d.hasName "p" = false

theorem exists_cut (children : List Node) : ∃ first grids, IsCut children first grids := by
  induction children with
  | nil => exact ⟨[], [], rfl, List.forall_mem_nil _, List.forall_mem_nil _, List.forall_mem_nil _⟩
  | cons n rest ih =>
    obtain ⟨first, grids, hcut⟩ := ih
    by_cases hg : isGrid n = true
    · refine ⟨[], (n, first) :: grids, ?_, List.forall_mem_nil _, ?_, ?_⟩
      · rw [hcut.whole]
        rfl
      · exact List.forall_mem_cons.mpr ⟨hg, hcut.grid⟩
      · exact List.forall_mem_cons.mpr ⟨hcut.first, hcut.trailing⟩
    · refine ⟨n :: first, grids, ?_, ?_, hcut.grid, hcut.trailing⟩
      · rw [hcut.whole]
        rfl
      · exact List.forall_mem_cons.mpr ⟨Bool.eq_false_iff.mpr hg, hcut.first⟩

theorem splitGrids_wholeParts_append {nodes : List Node} (h : ∀ n ∈ nodes, isGrid n = false)
    (parts : List ImageGrid.Part) :
    splitGrids (wholeParts nodes ++ parts) =
      (wholeParts nodes ++ (splitGrids parts).1, (splitGrids parts).2) := by
  induction nodes with
  | nil => rfl
  | cons n rest ih =>
    rw [List.forall_mem_cons] at h
    have hparts : wholeParts (n :: rest) = ⟨false, n.isBlankText, [n]⟩ :: wholeParts rest := by
      rw [← h.1]
      rfl
    rw [hparts, List.cons_append, splitGrids, ih h.2]
    rfl

theorem IsCut.splitGrids_eq {children first : List Node} {grids : List (Node × List Node)}
    (h : IsCut children first grids) :
    splitGrids (wholeParts children) =
      (wholeParts first, grids.map fun (grid, trailing) =>
        (⟨true, grid.isBlankText, [grid]⟩, wholeParts trailing)) := by
  obtain ⟨rfl, hfirst, hgrid, htrailing⟩ := h
  induction grids generalizing first with
  | nil =>
    have hsplit := splitGrids_wholeParts_append hfirst []
    rw [List.append_nil, splitGrids, List.append_nil] at hsplit
    rwa [List.flatMap_nil, List.append_nil]
  | cons g grids ih =>
    rw [List.forall_mem_cons] at hgrid htrailing
    have hparts : wholeParts (first ++ (g :: grids).flatMap fun (grid, trailing) => grid :: trailing) =
        wholeParts first ++ ⟨true, g.1.isBlankText, [g.1]⟩ ::
          wholeParts (g.2 ++ grids.flatMap fun (grid, trailing) => grid :: trailing) := by
      simp [wholeParts, hgrid.1]
    rw [hparts, splitGrids_wholeParts_append hfirst, splitGrids,
      ih htrailing.1 hgrid.2 htrailing.2]
    simp

theorem IsCut.splitParagraph_eq {children first : List Node} {grids : List (Node × List Node)}
    (h : IsCut children first grids) (number : Option Nat) (attributes : List Attribute) :
    splitParagraph number attributes (wholeParts children) =
      segment number attributes first ++
        grids.flatMap fun (grid, trailing) => grid :: segment none [] trailing := by
  simp only [splitParagraph, h.splitGrids_eq, List.flatMap_map, paragraph_wholeParts]
  rfl

theorem IsCut.any_isGrid {children first : List Node} {grids : List (Node × List Node)}
    (h : IsCut children first grids) : children.any isGrid = true ↔ grids ≠ [] := by
  obtain ⟨rfl, hfirst, hgrid, -⟩ := h
  have hnone : first.any isGrid = false := List.any_eq_false.mpr fun n hn => by simp [hfirst n hn]
  cases grids with
  | nil => simp [hnone]
  | cons g grids => simp [hgrid g List.mem_cons_self]

theorem liftNode_of_no_paragraph {n : Node}
    (h : ∀ e ∈ Node.elements n, e.hasName "p" = false) : liftNode n = [n] := by
  induction n with
  | text kind s => rfl
  | element number name attributes children ih =>
    rw [Node.elements, List.forall_mem_cons] at h
    have hchildren : (liftParts children).flatMap (·.nodes) = children := by
      rw [ImageGrid.liftParts_eq_map, List.flatMap_map]
      refine (List.flatMap_congr fun n hn => ih n hn fun e he => ?_).trans
        (List.flatMap_singleton' children)
      exact h.2 e (Node.mem_elementsOf_of_mem hn he)
    have hname : (name == "p") = false := h.1
    rw [ImageGrid.liftNode_element, hname, Bool.false_and, if_neg Bool.false_ne_true,
      ImageGrid.lifted, hchildren]

theorem liftParts_of_no_paragraph {nodes : List Node}
    (h : ∀ e ∈ Node.elementsOf nodes, e.hasName "p" = false) : liftParts nodes = wholeParts nodes := by
  rw [ImageGrid.liftParts_eq_map, wholeParts]
  refine List.map_congr_left fun n hn => ?_
  rw [liftNode_of_no_paragraph fun e he => h e (Node.mem_elementsOf_of_mem hn he)]

theorem Flat.of_mem {nodes : List Node} (h : Flat nodes) {n : Node} (hn : n ∈ nodes) :
    Flat [n] := by
  intro e he
  rw [Node.elementsOf_singleton] at he
  exact h e (Node.mem_elementsOf_of_mem hn he)

theorem Flat.children {number : Option Nat} {name : String} {attributes : List Attribute}
    {children : List Node} (h : Flat [.element number name attributes children]) :
    Flat children ∧ (name = "p" → ∀ d ∈ Node.elementsOf children, d.hasName "p" = false) := by
  rw [Flat, Node.elementsOf_singleton, Node.elements, List.forall_mem_cons] at h
  exact ⟨h.2, fun hp => h.1 (by rw [hp]; rfl)⟩

theorem forall₂_splitsTo_iff {nodes : List Node}
    (h : ∀ n ∈ nodes, ∀ out, SplitsTo n out ↔ out = liftNode n) (parts : List (List Node)) :
    List.Forall₂ SplitsTo nodes parts ↔ parts = nodes.map liftNode := by
  induction nodes generalizing parts with
  | nil => rw [List.forall₂_nil_left_iff, List.map_nil]
  | cons n rest ih =>
    rw [List.forall_mem_cons] at h
    simp only [List.forall₂_cons_left_iff, h.1, ih h.2, List.map_cons]
    constructor
    · rintro ⟨_, _, rfl, rfl, rfl⟩
      rfl
    · rintro rfl
      exact ⟨_, _, rfl, rfl, rfl⟩

theorem splitsTo_paragraph_iff {number : Option Nat} {attributes : List Attribute}
    {children out : List Node} (h : ∀ d ∈ Node.elementsOf children, d.hasName "p" = false) :
    SplitsTo (.element number "p" attributes children) out ↔
      out = liftNode (.element number "p" attributes children) := by
  have hlift : liftNode (.element number "p" attributes children) =
      if children.any isGrid then splitParagraph number attributes (wholeParts children)
      else [.element number "p" attributes children] := by
    rw [ImageGrid.liftNode_element, ImageGrid.lifted, liftParts_of_no_paragraph h, wholeParts_nodes]
    rfl
  rw [hlift]
  constructor
  · intro hsplit
    cases hsplit with
    | element hp => exact absurd rfl hp
    | whole hnone =>
      have hany : children.any isGrid = false := List.any_eq_false.mpr fun n hn => by simp [hnone n hn]
      rw [hany, if_neg Bool.false_ne_true]
    | cut hcut hgrids => rw [if_pos (hcut.any_isGrid.mpr hgrids), hcut.splitParagraph_eq]
  · rintro rfl
    obtain ⟨first, grids, hcut⟩ := exists_cut children
    by_cases hany : children.any isGrid = true
    · rw [if_pos hany, hcut.splitParagraph_eq]
      exact .cut hcut (hcut.any_isGrid.mp hany)
    · rw [if_neg hany]
      exact .whole (by simpa using hany)

theorem splitsTo_iff {n : Node} (h : Flat [n]) (out : List Node) :
    SplitsTo n out ↔ out = liftNode n := by
  induction n generalizing out with
  | text kind s =>
    constructor
    · intro hsplit
      cases hsplit
      rfl
    · rintro rfl
      exact .text kind s
  | element number name attributes children ih =>
    obtain ⟨hflat, hinside⟩ := h.children
    by_cases hp : name = "p"
    · subst hp
      exact splitsTo_paragraph_iff (hinside rfl)
    · have hlift : liftNode (.element number name attributes children) =
          [.element number name attributes (children.map liftNode).flatten] := by
        rw [ImageGrid.liftNode_element, beq_eq_false_iff_ne.mpr hp, Bool.false_and,
          if_neg Bool.false_ne_true, ImageGrid.lifted, ImageGrid.liftParts_eq_map, List.flatMap_map,
          List.flatMap_def]
      have hiff := forall₂_splitsTo_iff fun n hn => ih n hn (hflat.of_mem hn)
      rw [hlift]
      constructor
      · intro hsplit
        cases hsplit with
        | element _ inside => rw [(hiff _).mp inside]
        | whole => exact absurd rfl hp
        | cut => exact absurd rfl hp
      · rintro rfl
        exact .element hp ((hiff _).mpr rfl)

theorem splitOut_iff {nodes : List Node} (h : Flat nodes) (result : List Node) :
    SplitOut nodes result ↔ result = lift nodes := by
  have hiff := forall₂_splitsTo_iff fun n hn => splitsTo_iff (h.of_mem hn)
  simp only [SplitOut, hiff, exists_eq_left, lift, List.flatMap_def]
  exact eq_comm

theorem flat_unnumberedOf {nodes : List Node} : Flat (Node.unnumberedOf nodes) ↔ Flat nodes := by
  simp only [Flat, Node.elementsOf_unnumberedOf, List.forall_mem_map, Node.hasName_unnumbered,
    Node.children_unnumbered]

/-- On a page on which no paragraph is inside another, every paragraph with grids is cut at them,
and nothing else changes. -/
theorem unwrap_splits {nodes : List Node} (h : Flat nodes) :
    ∃ after, (ofNodes nodes).unwrap.run = some (.ok after) ∧
      (∀ result, SplitOut (ofNodes nodes).nodes result ↔
        result = forgetNodes (ofNodes nodes).next after.nodes) ∧
      ∀ result, SplitOut nodes result ↔ result = lift nodes := by
  obtain ⟨after, hturns, hafter⟩ := turns_ofNodes nodes
  have hunnumbered : Node.unnumberedOf (ofNodes nodes).nodes = Node.unnumberedOf nodes :=
    Node.unnumberedOf_numberedFrom nodes 0
  have hflat : Flat (ofNodes nodes).nodes := by
    rwa [← flat_unnumberedOf, hunnumbered, flat_unnumberedOf]
  refine ⟨after, hturns.foldlM, fun result => ?_, splitOut_iff h⟩
  rw [hafter, splitOut_iff hflat]

theorem unwrap_splits_two_grids :
    let page : List Node := [.element none "div" [] [.element none "p" [⟨"id", "a"⟩]
      [.text .plain "b", .element none "div" [⟨"class", "img-grid--1"⟩] [], .text .plain "c",
        .element none "div" [⟨"class", "img-grid--1"⟩] [], .text .plain " "]]]
    let result : List Node := [.element none "div" []
      [.element none "p" [⟨"id", "a"⟩] [.text .plain "b"],
        .element none "div" [⟨"class", "img-grid--1"⟩] [],
        .element none "p" [] [.text .plain "c"],
        .element none "div" [⟨"class", "img-grid--1"⟩] []]]
    parse? "<div><p id=a>b<div class=img-grid--1></div>c<div class=img-grid--1></div> </p></div>" =
        some page ∧ Flat page ∧
      (∃ after, (ofNodes page).unwrap.run = some (.ok after)) ∧ SplitOut page result := by
  intro page result
  have hflat : Flat page := by
    unfold Flat
    decide
  obtain ⟨after, hrun, -, hsplit⟩ := unwrap_splits hflat
  exact ⟨rfl, hflat, ⟨after, hrun⟩, (hsplit result).mpr rfl⟩

end Unwrapping

end CmsMarkup
