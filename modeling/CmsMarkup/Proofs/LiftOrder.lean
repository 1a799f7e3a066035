import CmsMarkup.ImageGrid
import CmsMarkup.Proofs.DocumentOrder

/-! Lifting grids in document order. Only paragraphs and blank text come and go; all other
nodes keep their order, and of what is around a node only a paragraph that a grid left is
missing afterwards. -/

namespace CmsMarkup.ImageGrid

open Html

def stays (n : Node) : Bool := !n.hasName "p" && !n.isBlankText

/-- The nodes that no lifting splits or drops, where they stand. -/
def staying (outer nodes : List Node) : List Placed :=
  (Node.placedOf outer nodes).filter (stays ·.node)

def lifted : Node → Node
  | .text kind s => .text kind s
  | .element number name attributes children =>
    .element number name attributes ((liftParts children).flatMap (·.nodes))

inductive StandsFor : Node → Node → Prop
  | paragraph {n m : Node} (hn : n.hasName "p" = true) (hm : m.hasName "p" = true) : StandsFor n m
  | lifted {n : Node} (hn : n.hasName "p" = false) : StandsFor n (lifted n)

/-- The elements that are still around a node: a grid leaves the paragraph around it. -/
def remaining : Node → List Node → List Node
  | _, [] => []
  | n, a :: outer =>
    if isGrid n && a.hasName "p" then remaining a outer else a :: remaining a outer

structure Follows (o o' : Placed) : Prop where
  node : o'.node = lifted o.node
  ancestors : List.Forall₂ StandsFor (remaining o.node o.ancestors) o'.ancestors

@[simp] theorem hasName_lifted (n : Node) (name : String) :
    (lifted n).hasName name = n.hasName name := by
  cases n <;> rfl

@[simp] theorem isDiv_lifted (n : Node) (test : List String → Bool) :
    (lifted n).isDiv test = n.isDiv test := by
  cases n <;> rfl

theorem isGrid_eq_isDiv (n : Node) :
    isGrid n = n.isDiv fun classes => classes.contains Convention.gridClass := by
  cases n <;> rfl

theorem isGrid_lifted (n : Node) : isGrid (lifted n) = isGrid n := by
  simp only [isGrid_eq_isDiv, isDiv_lifted]

theorem isGrid_eq_false {n : Node} {name : String} (h : n.hasName name = true)
    (hne : name ≠ "div") : isGrid n = false := by
  rw [isGrid_eq_isDiv]
  exact Node.isDiv_eq_false h hne

theorem liftParts_eq_map (nodes : List Node) :
    liftParts nodes = nodes.map fun n => ⟨isGrid n, n.isBlankText, liftNode n⟩ := by
  induction nodes with
  | nil => rfl
  | cons n rest ih => rw [liftParts, ih, List.map_cons]

theorem liftNode_element (number : Option Nat) (name : String) (attributes : List Attribute)
    (children : List Node) :
    liftNode (.element number name attributes children) =
      if name == "p" && children.any isGrid then
        splitParagraph number attributes (liftParts children)
      else [lifted (.element number name attributes children)] := by
  have ha : (liftParts children).any (·.isGrid) = children.any isGrid := by
    rw [liftParts_eq_map, List.any_map]
    rfl
  simp only [liftNode, ha, lifted]

@[simp] theorem staying_nil (outer : List Node) : staying outer [] = [] := rfl

theorem staying_append (outer nodes more : List Node) :
    staying outer (nodes ++ more) = staying outer nodes ++ staying outer more := by
  simp only [staying, Node.placedOf_append, List.filter_append]

theorem staying_cons (outer : List Node) (n : Node) (rest : List Node) :
    staying outer (n :: rest) = staying outer [n] ++ staying outer rest :=
  staying_append outer [n] rest

theorem staying_flatMap {α : Type} (outer : List Node) (xs : List α) (f : α → List Node) :
    staying outer (xs.flatMap f) = xs.flatMap fun x => staying outer (f x) := by
  induction xs with
  | nil => rfl
  | cons x xs ih => rw [List.flatMap_cons, staying_append, ih, List.flatMap_cons]

theorem staying_eq_flatMap (outer nodes : List Node) :
    staying outer nodes = nodes.flatMap fun n => staying outer [n] := by
  simpa using staying_flatMap outer nodes fun n => [n]

theorem staying_text (outer : List Node) (kind : TextKind) (s : String) :
    staying outer [.text kind s] =
      if (Node.text kind s).isBlankText then [] else [⟨.text kind s, outer⟩] := by
  cases hb : (Node.text kind s).isBlankText <;>
    simp [staying, Node.placedOf, Node.placed, stays, hb]

theorem staying_element (outer : List Node) (number : Option Nat) (name : String)
    (attributes : List Attribute) (children : List Node) :
    staying outer [.element number name attributes children] =
      (if name == "p" then [] else [⟨.element number name attributes children, outer⟩]) ++
        staying (.element number name attributes children :: outer) children := by
  by_cases hp : name = "p" <;>
    simp [staying, Node.placedOf, Node.placed, stays, Node.isBlankText, hp]

theorem staying_liftNode_of_blank {n : Node} (h : n.isBlankText = true) (around : List Node) :
    staying around (liftNode n) = [] := by
  cases n with
  | text kind s => simp [liftNode, staying_text, h]
  | element number name attributes children => simp [Node.isBlankText] at h

/-- A new paragraph, or none when all in it is blank, shows the same as some paragraph would. -/
theorem staying_paragraph {segment : List Part}
    (hb : ∀ p ∈ segment, p.isBlank = true → ∀ around, staying around p.nodes = [])
    (number : Option Nat) (attributes : List Attribute) (around : List Node) :
    ∃ P : Node, P.hasName "p" = true ∧
      staying around (paragraph number attributes segment) =
        staying (P :: around) (segment.flatMap (·.nodes)) := by
  by_cases hall : segment.all (·.isBlank) = true
  · refine ⟨.element none "p" [] [], rfl, ?_⟩
    have hnone : ∀ p ∈ segment, staying (.element none "p" [] [] :: around) p.nodes = [] :=
      fun p hp => hb p hp (List.all_eq_true.mp hall p hp) _
    simp only [paragraph, hall, if_true, staying_nil, staying_flatMap]
    exact (List.flatMap_eq_nil_iff.mpr hnone).symm
  · refine ⟨.element number "p" attributes (segment.flatMap (·.nodes)), rfl, ?_⟩
    simp [paragraph, hall, staying_element]

theorem splitGrids_fst_subset (parts : List Part) : (splitGrids parts).1 ⊆ parts := by
  induction parts with
  | nil => simp [splitGrids]
  | cons p rest ih =>
    simp only [splitGrids]
    split_ifs
    · simp
    · exact List.cons_subset_cons p ih

theorem firstSegment_blank (nodes : List Node) :
    ∀ p ∈ (splitGrids (liftParts nodes)).1, p.isBlank = true →
      ∀ around, staying around p.nodes = [] := by
  intro p hp hblank around
  have hm := splitGrids_fst_subset _ hp
  rw [liftParts_eq_map] at hm
  obtain ⟨n, _, rfl⟩ := List.mem_map.mp hm
  exact staying_liftNode_of_blank hblank around

theorem remaining_cons_of_paragraph {n a : Node} {outer : List Node} (hn : isGrid n = true)
    (ha : a.hasName "p" = true) : remaining n (a :: outer) = remaining a outer := by
  simp [remaining, hn, ha]

theorem remaining_cons {n a : Node} {outer : List Node}
    (h : isGrid n = false ∨ a.hasName "p" = false) :
    remaining n (a :: outer) = a :: remaining a outer := by
  rcases h with h | h <;> simp [remaining, h]

theorem around_of_remaining_cons {n a : Node} {outer around : List Node}
    (h : List.Forall₂ StandsFor (remaining n (a :: outer)) around) (ha : a.hasName "p" = false) :
    ∃ rest, around = lifted a :: rest ∧ List.Forall₂ StandsFor (remaining a outer) rest := by
  rw [remaining_cons (.inr ha)] at h
  cases h with
  | cons hb hrest =>
    cases hb with
    | paragraph hn _ => simp [ha] at hn
    | lifted => exact ⟨_, rfl, hrest⟩

def LiftsTo (outer : List Node) (n : Node) : Prop :=
  ∀ around, List.Forall₂ StandsFor (remaining n outer) around →
    List.Forall₂ Follows (staying outer [n]) (staying around (liftNode n))

theorem staying_split {E : Node} {outer around : List Node} (hE : E.hasName "p" = true)
    (ho : List.Forall₂ StandsFor (remaining E outer) around) {children : List Node}
    (hc : ∀ n ∈ children, LiftsTo (E :: outer) n) {P : Node} (hP : P.hasName "p" = true) :
    List.Forall₂ Follows (staying (E :: outer) children)
      (staying (P :: around) ((splitGrids (liftParts children)).1.flatMap (·.nodes)) ++
        staying around ((splitGrids (liftParts children)).2.flatMap fun (grid, segment) =>
          grid.nodes ++ paragraph none [] segment)) := by
  -- `P` is the paragraph that is being filled; every grid starts another one.
  induction children generalizing P with
  | nil => exact .nil
  | cons n rest ih =>
    have hn := hc n List.mem_cons_self
    have hrest := fun m hm => hc m (List.mem_cons_of_mem _ hm)
    rw [staying_cons]
    by_cases hg : isGrid n = true
    · -- What follows the grid goes into a paragraph of its own.
      obtain ⟨Q, hQ, hq⟩ := staying_paragraph (firstSegment_blank rest) none [] around
      have hgrid := hn around (by rw [remaining_cons_of_paragraph hg hE]; exact ho)
      simp only [liftParts, splitGrids, hg, if_true, List.flatMap_nil, staying_nil,
        List.nil_append, List.flatMap_cons, staying_append, hq, List.append_assoc]
      exact List.rel_append hgrid (ih hrest hQ)
    · have hinside := hn (P :: around)
        (by rw [remaining_cons (.inl (by simpa using hg))]; exact .cons (.paragraph hE hP) ho)
      simp only [liftParts, splitGrids, hg, Bool.false_eq_true, if_false, List.flatMap_cons,
        staying_append, List.append_assoc]
      exact List.rel_append hinside (ih hrest hP)

theorem staying_whole {E F : Node} {outer around children : List Node}
    (hE : E.hasName "p" = false ∨ ∀ n ∈ children, isGrid n = false)
    (hF : StandsFor E F) (ho : List.Forall₂ StandsFor (remaining E outer) around)
    (hc : ∀ n ∈ children, LiftsTo (E :: outer) n) :
    List.Forall₂ Follows (staying (E :: outer) children)
      (staying (F :: around) ((liftParts children).flatMap (·.nodes))) := by
  rw [staying_eq_flatMap, staying_flatMap, liftParts_eq_map, List.flatMap_map]
  refine forall₂_flatMap (List.forall₂_same.mpr fun n _ => rfl) fun n hn m hm => ?_
  subst hm
  refine hc n hn _ ?_
  rw [remaining_cons (hE.symm.imp_left fun h => h n hn)]
  exact .cons hF ho

theorem liftNode_liftsTo (n : Node) (outer : List Node) : LiftsTo outer n := by
  induction n generalizing outer with
  | text kind s =>
    intro around ho
    simp only [liftNode, staying_text]
    split_ifs
    · exact .nil
    · exact .cons ⟨rfl, ho⟩ .nil
  | element number name attributes children ih =>
    intro around ho
    have hc := fun n hn => ih n hn (.element number name attributes children :: outer)
    rw [liftNode_element, staying_element]
    by_cases hp : name = "p"
    · subst hp
      have hE : (Node.element number "p" attributes children).hasName "p" = true := rfl
      by_cases hg : children.any isGrid = true
      · obtain ⟨P, hP, hq⟩ :=
          staying_paragraph (firstSegment_blank children) number attributes around
        simp only [hg, beq_self_eq_true, Bool.and_self, if_true, List.nil_append,
          splitParagraph, staying_append, hq]
        exact staying_split hE ho hc hP
      · have hnone : ∀ n ∈ children, isGrid n = false := by simpa using hg
        simp only [hg, lifted, Bool.and_false, Bool.false_eq_true, if_false, beq_self_eq_true,
          if_true, List.nil_append, staying_element]
        exact staying_whole (.inr hnone) (.paragraph hE rfl) ho hc
    · have hE : (Node.element number name attributes children).hasName "p" = false := by simp [hp]
      have hw := staying_whole (.inl hE) (.lifted hE) ho hc
      simp only [lifted, Bool.false_and, Bool.false_eq_true, if_false,
        List.singleton_append, staying_element, beq_eq_false_iff_ne.mpr hp] at hw ⊢
      exact .cons ⟨rfl, ho⟩ hw

/-- Nothing but paragraphs and blank text is lost, doubled or moved past another node. -/
theorem staying_lift (nodes : List Node) :
    List.Forall₂ Follows (staying [] nodes) (staying [] (lift nodes)) := by
  rw [lift, staying_flatMap, staying_eq_flatMap]
  refine forall₂_flatMap (List.forall₂_same.mpr fun n _ => rfl) fun n _ m hm => ?_
  subst hm
  exact liftNode_liftsTo n [] [] .nil

theorem stays_of_hasName {name : String} (hne : name ≠ "p") (n : Node)
    (h : n.hasName name = true) : n.isElement = true ∧ n.hasName "p" = false :=
  ⟨Node.isElement_of_hasName h, Node.hasName_eq_false h hne⟩

theorem stays_of_isDiv {test : List String → Bool} (n : Node) (h : n.isDiv test = true) :
    n.isElement = true ∧ n.hasName "p" = false :=
  stays_of_hasName (by decide) n (Node.hasName_of_isDiv h)

theorem filter_staying {q : Node → Bool}
    (hq : ∀ n, q n = true → n.isElement = true ∧ n.hasName "p" = false) (outer nodes : List Node) :
    (staying outer nodes).filter (q ·.node) =
      (Node.placedElements outer nodes).filter (q ·.node) := by
  rw [staying, Node.placedElements, List.filter_filter, List.filter_filter]
  refine List.filter_congr fun o _ => ?_
  cases hn : q o.node with
  | false => rfl
  | true =>
    obtain ⟨he, hp⟩ := hq _ hn
    cases hnode : o.node with
    | text kind s => simp [hnode] at he
    | element number name attributes children =>
      rw [hnode] at hp
      simp [stays, hp, Node.isBlankText]

theorem lift_elements {q : Node → Bool}
    (hq : ∀ n, q n = true → n.isElement = true ∧ n.hasName "p" = false)
    (hl : ∀ n, q (lifted n) = q n) (nodes : List Node) :
    List.Forall₂ Follows ((Node.placedElements [] nodes).filter (q ·.node))
      ((Node.placedElements [] (lift nodes)).filter (q ·.node)) := by
  rw [← filter_staying hq, ← filter_staying hq]
  exact List.rel_filter (fun o o' h => by simp only [h.node, hl]) (staying_lift nodes)

end CmsMarkup.ImageGrid
