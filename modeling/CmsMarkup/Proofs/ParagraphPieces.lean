import CmsMarkup.ImageGrid.Unwrapping
import CmsMarkup.Proofs.LiftOrder
import CmsMarkup.Proofs.SingleRule

/-! A paragraph in pieces. Splitting it at one grid after the other, wherever it stands in a page,
comes to an end without a fault, and leaves what lifting leaves when nothing inside it changes. -/

namespace CmsMarkup

open Html

namespace Unwrapping

open Collected (find? find?_append find?_element find?_eq_none_iff)
open ImageGrid (Part isGrid)

/-! ### A place for nodes in a page -/

theorem spliceNodes_eq_flatMap (j : Nat) (f : Node → List Node) (nodes : List Node) :
    spliceNodes j f nodes = nodes.flatMap (spliceNode j f) := by
  induction nodes with
  | nil => rfl
  | cons n rest ih => rw [spliceNodes, ih, List.flatMap_cons]

theorem spliceNodes_append (j : Nat) (f : Node → List Node) (nodes more : List Node) :
    spliceNodes j f (nodes ++ more) = spliceNodes j f nodes ++ spliceNodes j f more := by
  simp only [spliceNodes_eq_flatMap, List.flatMap_append]

theorem spliceNodes_element (j : Nat) (f : Node → List Node) (number : Option Nat) (name : String)
    (attributes : List Attribute) (children : List Node) :
    spliceNodes j f [.element number name attributes children] =
      if number = some j then f (.element number name attributes children)
      else [.element number name attributes (spliceNodes j f children)] := by
  simp [spliceNodes, spliceNode]

theorem find?_of_mem {j : Nat} {nodes : List Node} (h : find? j nodes = none) {n : Node}
    (hn : n ∈ nodes) : find? j [n] = none := by
  rw [find?_eq_none_iff] at h ⊢
  intro e he
  rw [Node.elementsOf_singleton] at he
  exact h e (Node.mem_elementsOf_of_mem hn he)

theorem spliceNodes_eq_self {j : Nat} {f : Node → List Node} {nodes : List Node}
    (h : ∀ n ∈ nodes, spliceNode j f n = [n]) : spliceNodes j f nodes = nodes := by
  rw [spliceNodes_eq_flatMap]
  exact (List.flatMap_congr h).trans (List.flatMap_singleton' nodes)

theorem spliceNode_of_find?_eq_none {j : Nat} {n : Node} (h : find? j [n] = none)
    (f : Node → List Node) : spliceNode j f n = [n] := by
  induction n with
  | text kind s => rfl
  | element number name attributes children ih =>
    rw [find?_element] at h
    split_ifs at h with hnumber
    have hchildren := spliceNodes_eq_self fun n hn => ih n hn (find?_of_mem h hn)
    simp [spliceNode, hnumber, hchildren]

theorem spliceNodes_of_find?_eq_none {j : Nat} {nodes : List Node} (h : find? j nodes = none)
    (f : Node → List Node) : spliceNodes j f nodes = nodes :=
  spliceNodes_eq_self fun _ hn => spliceNode_of_find?_eq_none (find?_of_mem h hn) f

/-- Nodes around a place for others, without the element `j`: it can stand in the place alone. -/
structure Hosts (j : Nat) (place : List Node → List Node) : Prop where
  found : ∀ nodes, find? j (place nodes) = find? j nodes
  spliced : ∀ f nodes, spliceNodes j f (place nodes) = place (spliceNodes j f nodes)

theorem Hosts.comp {j : Nat} {outer inner : List Node → List Node} (ho : Hosts j outer)
    (hi : Hosts j inner) : Hosts j fun nodes => outer (inner nodes) :=
  ⟨fun nodes => by rw [ho.found, hi.found], fun f nodes => by rw [ho.spliced, hi.spliced]⟩

theorem Hosts.before {j : Nat} {place : List Node → List Node} (h : Hosts j place)
    {after : List Node} (ha : find? j after = none) : Hosts j fun nodes => place nodes ++ after :=
  ⟨fun nodes => by rw [find?_append, ha, Option.or_none, h.found],
    fun f nodes => by rw [spliceNodes_append, spliceNodes_of_find?_eq_none ha, h.spliced]⟩

theorem Hosts.behind {j : Nat} {place : List Node → List Node} (h : Hosts j place)
    {before : List Node} (hb : find? j before = none) :
    Hosts j fun nodes => before ++ place nodes :=
  ⟨fun nodes => by rw [find?_append, hb, Option.none_or, h.found],
    fun f nodes => by rw [spliceNodes_append, spliceNodes_of_find?_eq_none hb, h.spliced]⟩

theorem Hosts.inside {j : Nat} {place : List Node → List Node} (h : Hosts j place)
    {number : Option Nat} (hn : number ≠ some j) (name : String) (attributes : List Attribute) :
    Hosts j fun nodes => [.element number name attributes (place nodes)] :=
  ⟨fun nodes => by rw [find?_element, if_neg hn, h.found],
    fun f nodes => by rw [spliceNodes_element, if_neg hn, h.spliced]⟩

theorem hosts_whole (j : Nat) : Hosts j fun nodes => nodes := ⟨fun _ => rfl, fun _ _ => rfl⟩

/-! ### A paragraph in pieces -/

def wholeParts (nodes : List Node) : List Part :=
  nodes.map fun n => ⟨isGrid n, n.isBlankText, [n]⟩

/-- What a paragraph with these parts is split into. The parts in `lead` have been passed since
the last grid, and the next new paragraph gets the number `next`. -/
def pieces (next : Nat) (number : Option Nat) (attributes : List Attribute) (lead : List Part) :
    List Part → List Node
  | [] => ImageGrid.paragraph number attributes lead
  | p :: rest =>
    if p.isGrid then
      ImageGrid.paragraph number attributes lead ++ (p.nodes ++ pieces (next + 1) (some next) [] [] rest)
    else pieces next number attributes (lead ++ [p]) rest

theorem wholeParts_nodes (nodes : List Node) : (wholeParts nodes).flatMap (·.nodes) = nodes := by
  rw [wholeParts, List.flatMap_map]
  exact List.flatMap_singleton' nodes

theorem isGrid_wholeParts {nodes : List Node} (h : ∀ n ∈ nodes, isGrid n = false) :
    ∀ p ∈ wholeParts nodes, p.isGrid = false := by
  intro p hp
  obtain ⟨n, hn, rfl⟩ := List.mem_map.mp hp
  exact h n hn

theorem find?_wholeParts {j : Nat} {nodes : List Node} (h : find? j nodes = none) :
    ∀ p ∈ wholeParts nodes, find? j p.nodes = none := by
  intro p hp
  obtain ⟨n, hn, rfl⟩ := List.mem_map.mp hp
  exact find?_of_mem h hn

theorem isBlank_wholeParts (nodes : List Node) :
    (wholeParts nodes).all (·.isBlank) = isBlank nodes := by
  rw [wholeParts, List.all_map]
  rfl

theorem paragraph_wholeParts (number : Option Nat) (attributes : List Attribute)
    (nodes : List Node) : ImageGrid.paragraph number attributes (wholeParts nodes) =
      if isBlank nodes then [] else [.element number "p" attributes nodes] := by
  rw [ImageGrid.paragraph, isBlank_wholeParts, wholeParts_nodes]

theorem pieces_append {next : Nat} {number : Option Nat} {attributes : List Attribute}
    {lead more : List Part} (h : ∀ p ∈ more, p.isGrid = false) (rest : List Part) :
    pieces next number attributes lead (more ++ rest) =
      pieces next number attributes (lead ++ more) rest := by
  induction more generalizing lead with
  | nil => rw [List.nil_append, List.append_nil]
  | cons p more ih =>
    rw [List.forall_mem_cons] at h
    rw [List.cons_append, pieces, h.1, if_neg Bool.false_ne_true, ih h.2, List.append_assoc]
    rfl

theorem isGrid_of_isBlankText {n : Node} (h : n.isBlankText = true) : isGrid n = false := by
  cases n with
  | text kind s => rfl
  | element => cases h

theorem pieces_of_no_grid {nodes : List Node} (h : ∀ n ∈ nodes, isGrid n = false) (next : Nat)
    (number : Option Nat) (attributes : List Attribute) :
    pieces next number attributes [] (wholeParts nodes) =
      ImageGrid.paragraph number attributes (wholeParts nodes) := by
  have happend : pieces next number attributes [] (wholeParts nodes ++ []) =
      pieces next number attributes ([] ++ wholeParts nodes) [] :=
    pieces_append (isGrid_wholeParts h) []
  rwa [List.append_nil, List.nil_append, pieces] at happend

theorem firstGrid?_eq_none_iff {nodes : List Node} :
    firstGrid? nodes = none ↔ ∀ n ∈ nodes, isGrid n = false := by
  induction nodes with
  | nil => simp [firstGrid?]
  | cons n rest ih =>
    rw [firstGrid?, List.forall_mem_cons, ← ih]
    cases isGrid n with
    | true => simp
    | false => simp

theorem firstGrid?_eq_some {nodes leading trailing : List Node} {grid : Node}
    (h : firstGrid? nodes = some (leading, grid, trailing)) :
    nodes = leading ++ grid :: trailing ∧ isGrid grid = true ∧ ∀ n ∈ leading, isGrid n = false := by
  induction nodes generalizing leading with
  | nil => cases h
  | cons n rest ih =>
    rw [firstGrid?] at h
    split_ifs at h with hg
    · simp only [Option.some.injEq, Prod.mk.injEq] at h
      obtain ⟨rfl, rfl, rfl⟩ := h
      exact ⟨rfl, hg, nofun⟩
    · obtain ⟨⟨before, found, after⟩, hfirst, he⟩ := Option.map_eq_some_iff.mp h
      simp only [Prod.mk.injEq] at he
      obtain ⟨rfl, rfl, rfl⟩ := he
      obtain ⟨rfl, hgrid, hbefore⟩ := ih hfirst
      exact ⟨rfl, hgrid, List.forall_mem_cons.mpr ⟨by simpa using hg, hbefore⟩⟩

theorem pieces_firstGrid {nodes leading trailing : List Node} {grid : Node}
    (h : firstGrid? nodes = some (leading, grid, trailing)) (next : Nat) (number : Option Nat)
    (attributes : List Attribute) :
    pieces next number attributes [] (wholeParts nodes) =
      ImageGrid.paragraph number attributes (wholeParts leading) ++
        grid :: pieces (next + 1) (some next) [] [] (wholeParts trailing) := by
  obtain ⟨rfl, hgrid, hleading⟩ := firstGrid?_eq_some h
  have hsplit : wholeParts (leading ++ grid :: trailing) =
      wholeParts leading ++ ⟨true, grid.isBlankText, [grid]⟩ :: wholeParts trailing := by
    simp [wholeParts, hgrid]
  rw [hsplit, pieces_append (isGrid_wholeParts hleading), pieces, if_pos rfl]
  rfl

theorem find?_flatMap_nodes {j : Nat} {parts : List Part}
    (h : ∀ p ∈ parts, find? j p.nodes = none) : find? j (parts.flatMap (·.nodes)) = none := by
  induction parts with
  | nil => rfl
  | cons p rest ih =>
    rw [List.forall_mem_cons] at h
    rw [List.flatMap_cons, find?_append, h.1, Option.none_or, ih h.2]

theorem find?_paragraph {j : Nat} {number : Option Nat} {parts : List Part}
    (hn : number ≠ some j) (hp : ∀ p ∈ parts, find? j p.nodes = none)
    (attributes : List Attribute) : find? j (ImageGrid.paragraph number attributes parts) = none := by
  rw [ImageGrid.paragraph]
  split_ifs
  · rfl
  · rw [find?_element, if_neg hn, find?_flatMap_nodes hp]

theorem find?_pieces {j next : Nat} {number : Option Nat} {lead parts : List Part}
    (hn : number ≠ some j) (hlead : ∀ p ∈ lead, find? j p.nodes = none)
    (hparts : ∀ p ∈ parts, find? j p.nodes = none)
    (hfresh : j < next ∨ next + parts.countP (·.isGrid) ≤ j) (attributes : List Attribute) :
    find? j (pieces next number attributes lead parts) = none := by
  induction parts generalizing next number lead attributes with
  | nil => exact find?_paragraph hn hlead attributes
  | cons p rest ih =>
    rw [List.forall_mem_cons] at hparts
    rw [List.countP_cons] at hfresh
    rw [pieces]
    split_ifs with hg
    · rw [if_pos hg] at hfresh
      have hnext : some next ≠ some j := mt Option.some.inj (by omega)
      rw [find?_append, find?_paragraph hn hlead, find?_append, hparts.1,
        ih hnext (List.forall_mem_nil _) hparts.2 (by omega)]
      rfl
    · rw [if_neg hg] at hfresh
      exact ih hn (List.forall_mem_append.mpr ⟨hlead, List.forall_mem_singleton.mpr hparts.1⟩)
        hparts.2 (by omega) attributes

/-! ### One paragraph in its turn -/

theorem split_of_found (u : Unwrapping) {number : Nat} (h : find? number u.nodes ≠ none)
    (attributes : List Attribute) (leading : List Node) (grid : Node) (trailing : List Node) :
    ∃ removed, u.split number (.element (some number) "p" attributes) leading grid trailing =
      .ok (if isBlank trailing then none else some u.next,
        ⟨spliceNodes number (fun _ =>
            ImageGrid.paragraph (some number) attributes (wholeParts leading) ++
              grid :: ImageGrid.paragraph (some u.next) [] (wholeParts trailing)) u.nodes,
          removed, u.next + 1⟩) := by
  have hdetached : u.isDetached number = false := by
    rw [isDetached, Option.isNone_eq_false_iff.mpr (Option.isSome_iff_ne_none.mpr h),
      Bool.false_and]
  have hbehind : ((if isBlank trailing then none else some u.next).toList.map fun k =>
      Node.element (some k) "p" [] trailing) =
        ImageGrid.paragraph (some u.next) [] (wholeParts trailing) := by
    rw [paragraph_wholeParts]
    split_ifs <;> rfl
  simp only [split, hdetached, hbehind, paragraph_wholeParts (some number), splice,
    Bool.false_eq_true, if_false]
  split_ifs <;> exact ⟨_, rfl⟩

theorem countP_isGrid_of_none {nodes : List Node} (h : ∀ n ∈ nodes, isGrid n = false) :
    nodes.countP isGrid = 0 :=
  List.countP_eq_zero.mpr fun n hn => by simp [h n hn]

theorem countP_firstGrid {nodes leading trailing : List Node} {grid : Node}
    (h : firstGrid? nodes = some (leading, grid, trailing)) :
    nodes.countP isGrid = trailing.countP isGrid + 1 := by
  obtain ⟨rfl, hgrid, hleading⟩ := firstGrid?_eq_some h
  rw [List.countP_append, countP_isGrid_of_none hleading, List.countP_cons, hgrid, Nat.zero_add]
  rfl

theorem find?_firstGrid {j : Nat} {nodes leading trailing : List Node} {grid : Node}
    (h : firstGrid? nodes = some (leading, grid, trailing)) (hj : find? j nodes = none) :
    (∀ p ∈ wholeParts leading, find? j p.nodes = none) ∧ find? j [grid] = none ∧
      find? j trailing = none := by
  obtain ⟨rfl, -, -⟩ := firstGrid?_eq_some h
  rw [find?_append, Option.or_eq_none_iff, ← List.singleton_append, find?_append,
    Option.or_eq_none_iff] at hj
  exact ⟨find?_wholeParts hj.1, hj.2⟩

/-- The new paragraphs become shorter and shorter, so a turn comes to an end. -/
theorem unwrapFrom_place {number next : Nat} {attributes : List Attribute}
    {children : List Node} {place : List Node → List Node} (removed : List Node)
    (hshown : (∃ n ∈ children, isGrid n = true) ∨ isBlank children = false) (hn : number < next)
    (hplace : ∀ j, j = number ∨ next ≤ j → Hosts j place)
    (hfree : ∀ j, next ≤ j → find? j children = none) :
    ∃ u, (unwrapFrom (some number)
        ⟨place [.element (some number) "p" attributes children], removed, next⟩).run = some (.ok u) ∧
      u.nodes = place (pieces next (some number) attributes [] (wholeParts children)) ∧
      u.next = next + children.countP isGrid := by
  induction hl : children.length using Nat.strongRecOn
    generalizing number next attributes children place removed with
  | ind length ih =>
  have hown := hplace number (.inl rfl)
  have hfound : find? number (place [.element (some number) "p" attributes children]) =
      some (.element (some number) "p" attributes children) := by
    rw [hown.found, find?_element, if_pos rfl]
  rw [unwrapFrom]
  simp only [find?_append, hfound, Option.some_or]
  cases hfirst : firstGrid? children with
  | none =>
    have hnone := firstGrid?_eq_none_iff.mp hfirst
    have hblank : isBlank children = false := by
      rcases hshown with ⟨n, hm, hg⟩ | hblank
      · rw [hnone n hm] at hg
        cases hg
      · exact hblank
    refine ⟨_, rfl, ?_, ?_⟩
    · rw [pieces_of_no_grid hnone, paragraph_wholeParts, hblank]
      rfl
    · rw [countP_isGrid_of_none hnone]
      rfl
  | some found =>
    obtain ⟨leading, grid, trailing⟩ := found
    have hin : find? number (place [.element (some number) "p" attributes children]) ≠ none := by
      rw [hfound]
      exact Option.some_ne_none _
    obtain ⟨removed', hsplit⟩ := split_of_found
      ⟨place [.element (some number) "p" attributes children], removed, next⟩ hin
      attributes leading grid trailing
    simp only [hsplit, hown.spliced, spliceNodes_element, if_true]
    rw [pieces_firstGrid hfirst, countP_firstGrid hfirst]
    cases hblank : isBlank trailing with
    | true =>
      -- Nothing but blanks trails the grid, so there is no new paragraph.
      have hnone : ∀ n ∈ trailing, isGrid n = false := fun n hm =>
        isGrid_of_isBlankText (List.all_eq_true.mp hblank n hm)
      refine ⟨_, by rw [if_pos rfl, unwrapFrom]; rfl, ?_, ?_⟩
      · rw [pieces_of_no_grid hnone]
      · rw [countP_isGrid_of_none hnone]
    | false =>
      have hfree' (j : Nat) (hj : next ≤ j) := find?_firstGrid hfirst (hfree j hj)
      have hbefore (j : Nat) (hj : next ≤ j) : find? j
          (ImageGrid.paragraph (some number) attributes (wholeParts leading) ++ [grid]) = none := by
        have hne : some number ≠ some j := mt Option.some.inj (by omega)
        rw [find?_append, find?_paragraph hne (hfree' j hj).1, (hfree' j hj).2.1, Option.none_or]
      have hlength : trailing.length < length := by
        rw [← hl, (firstGrid?_eq_some hfirst).1, List.length_append, List.length_cons]
        omega
      have hrest := @ih trailing.length hlength next (next + 1) [] trailing
        (fun nodes => place
          (ImageGrid.paragraph (some number) attributes (wholeParts leading) ++ [grid] ++ nodes))
        removed' (.inr hblank) (Nat.lt_succ_self next)
        (fun j hj => (hplace j (.inr (by omega))).comp
          ((hosts_whole j).behind (hbefore j (by omega))))
        (fun j hj => (hfree' j (by omega)).2.2) rfl
      simp only [List.append_assoc, List.singleton_append] at hrest
      obtain ⟨u, hrun, hnodes, hnext⟩ := hrest
      refine ⟨u, ?_, hnodes, by rw [hnext]; omega⟩
      rw [if_neg Bool.false_ne_true, paragraph_wholeParts _ _ trailing, hblank,
        if_neg Bool.false_ne_true]
      exact hrun

end Unwrapping

end CmsMarkup
