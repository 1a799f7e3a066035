import CmsMarkup.Proofs.ParagraphPieces

/-! Paragraphs in their turn. Splitting the paragraphs of a page one after the other, outer ones
before those inside them, comes to an end without a fault, and leaves the page as lifting does.
At its turn every listed paragraph stands in the page: what is taken out holds only blanks. -/

namespace CmsMarkup

open Html

namespace Unwrapping

open Collected (find? find?_append find?_element)
open ImageGrid (Part isGrid lift liftNode liftParts splitGrids splitParagraph)

/-! ### The turns of all paragraphs -/

/-- Paragraphs one after the other. Each stands in the page when its turn comes, and its turn
ends without a fault. -/
inductive Turns : List Nat → Unwrapping → Unwrapping → Prop
  | nil (u : Unwrapping) : Turns [] u u
  | cons {j : Nat} {rest : List Nat} {u v w : Unwrapping} {attributes : List Attribute}
      {children : List Node}
      (found : find? j u.nodes = some (.element (some j) "p" attributes children))
      (turn : (unwrapFrom (some j) u).run = some (.ok v)) (onward : Turns rest v w) :
      Turns (j :: rest) u w

theorem Turns.append {js more : List Nat} {u v w : Unwrapping} (h : Turns js u v)
    (h' : Turns more v w) : Turns (js ++ more) u w := by
  induction h with
  | nil u => exact h'
  | cons found turn _ ih => exact .cons found turn (ih h')

theorem Turns.foldlM {js : List Nat} {u w : Unwrapping} (h : Turns js u w) :
    (js.foldlM (fun u j => unwrapFrom (some j) u) u).run = some (.ok w) := by
  induction h with
  | nil u => rfl
  | @cons j rest u v w attributes children _ turn _ ih =>
    rw [List.foldlM_cons, ExceptT.run_bind, turn]
    exact ih

theorem paragraphs_append (nodes more : List Node) :
    paragraphs (nodes ++ more) = paragraphs nodes ++ paragraphs more := by
  simp only [paragraphs, Node.elementsOf_append, List.filter_append, List.filterMap_append]

theorem paragraphs_element (k : Nat) (name : String) (attributes : List Attribute)
    (children : List Node) : paragraphs [.element (some k) name attributes children] =
      (if name = "p" then [k] else []) ++ paragraphs children := by
  by_cases hp : name = "p" <;>
    simp [paragraphs, Node.elementsOf_singleton, Node.elements, hp, Node.number?]

mutual

/-- Drops the numbers from `base` on: those of the paragraphs that are new. -/
def forgetNode (base : Nat) : Node → Node
  | .text kind s => .text kind s
  | .element number name attributes children =>
    .element (number.filter (· < base)) name attributes (forgetNodes base children)

def forgetNodes (base : Nat) : List Node → List Node
  | [] => []
  | n :: rest => forgetNode base n :: forgetNodes base rest

end

theorem forgetNodes_eq_map (base : Nat) (nodes : List Node) :
    forgetNodes base nodes = nodes.map (forgetNode base) := by
  induction nodes with
  | nil => rfl
  | cons n rest ih => rw [forgetNodes, ih, List.map_cons]

theorem forgetNodes_append (base : Nat) (nodes more : List Node) :
    forgetNodes base (nodes ++ more) = forgetNodes base nodes ++ forgetNodes base more := by
  simp only [forgetNodes_eq_map, List.map_append]

theorem forgetNodes_flatMap {α : Type} (base : Nat) (xs : List α) (f : α → List Node) :
    forgetNodes base (xs.flatMap f) = xs.flatMap fun x => forgetNodes base (f x) := by
  induction xs with
  | nil => rfl
  | cons x xs ih => rw [List.flatMap_cons, forgetNodes_append, ih, List.flatMap_cons]

def forgetPart (base : Nat) (p : Part) : Part := { p with nodes := forgetNodes base p.nodes }

theorem forgetNodes_paragraph (base : Nat) (number : Option Nat) (attributes : List Attribute)
    (parts : List Part) : forgetNodes base (ImageGrid.paragraph number attributes parts) =
      ImageGrid.paragraph (number.filter (· < base)) attributes (parts.map (forgetPart base)) := by
  have hblank : (parts.map (forgetPart base)).all (·.isBlank) = parts.all (·.isBlank) := by
    rw [List.all_map]
    rfl
  have hnodes : forgetNodes base (parts.flatMap (·.nodes)) =
      (parts.map (forgetPart base)).flatMap (·.nodes) := by
    rw [forgetNodes_flatMap, List.flatMap_map]
    rfl
  rw [ImageGrid.paragraph, ImageGrid.paragraph, hblank]
  split_ifs
  · rfl
  · rw [forgetNodes, forgetNode, hnodes]
    rfl

/-- Without the numbers of new paragraphs, the pieces are those that lifting makes. -/
theorem forgetNodes_pieces {base next : Nat} (hbase : base ≤ next) (number : Option Nat)
    (attributes : List Attribute) (lead parts : List Part) :
    forgetNodes base (pieces next number attributes lead parts) =
      ImageGrid.paragraph (number.filter (· < base)) attributes
          (lead.map (forgetPart base) ++ (splitGrids (parts.map (forgetPart base))).1) ++
        (splitGrids (parts.map (forgetPart base))).2.flatMap fun (grid, segment) =>
          grid.nodes ++ ImageGrid.paragraph none [] segment := by
  induction parts generalizing next number attributes lead with
  | nil => simp [pieces, splitGrids, forgetNodes_paragraph]
  | cons p rest ih =>
    have hnew : (some next).filter (· < base) = none := by
      simp only [Option.filter_some, decide_eq_true_eq]
      rw [if_neg (by omega)]
    rw [pieces, List.map_cons, splitGrids]
    by_cases hg : p.isGrid = true
    · rw [if_pos hg, forgetNodes_append, forgetNodes_append, forgetNodes_paragraph,
        ih (Nat.le_succ_of_le hbase), hnew]
      simp [hg, forgetPart]
    · have hg' : (forgetPart base p).isGrid = false := by simpa [forgetPart] using hg
      rw [if_neg hg, ih hbase]
      simp [hg']

theorem hosts_pieces_of_lead {j next : Nat} {number : Option Nat} {lead between todo : List Part}
    (hn : number ≠ some j) (hlead : ∀ p ∈ lead, find? j p.nodes = none)
    (hbetween : ∀ p ∈ between, find? j p.nodes = none) (htodo : ∀ p ∈ todo, find? j p.nodes = none)
    (hfresh : j < next ∨ next + todo.countP (·.isGrid) ≤ j) (attributes : List Attribute) :
    Hosts j fun nodes =>
      pieces next number attributes (lead ++ ⟨false, false, nodes⟩ :: between) todo := by
  have hparagraph {between : List Part} (hbetween : ∀ p ∈ between, find? j p.nodes = none) :
      Hosts j fun nodes =>
        ImageGrid.paragraph number attributes (lead ++ ⟨false, false, nodes⟩ :: between) := by
    have hinside := (((hosts_whole j).before (find?_flatMap_nodes hbetween)).behind
      (find?_flatMap_nodes hlead)).inside hn "p" attributes
    simpa [ImageGrid.paragraph] using hinside
  induction todo generalizing between with
  | nil => exact hparagraph hbetween
  | cons q rest ih =>
    rw [List.forall_mem_cons] at htodo
    rw [List.countP_cons] at hfresh
    by_cases hg : q.isGrid = true
    · rw [if_pos hg] at hfresh
      have hnext : some next ≠ some j := mt Option.some.inj (by omega)
      have hrest : find? j (q.nodes ++ pieces (next + 1) (some next) [] [] rest) = none := by
        rw [find?_append, htodo.1, Option.none_or]
        exact find?_pieces hnext (List.forall_mem_nil _) htodo.2 (by omega) []
      simpa only [pieces, hg, if_true] using (hparagraph hbetween).before hrest
    · have hfresh' : j < next ∨ next + rest.countP (·.isGrid) ≤ j := by
        rw [if_neg hg] at hfresh
        exact hfresh
      have hbetween' : ∀ p ∈ between ++ [q], find? j p.nodes = none :=
        List.forall_mem_append.mpr ⟨hbetween, List.forall_mem_singleton.mpr htodo.1⟩
      have hrest := ih hbetween' htodo.2 hfresh'
      simpa only [pieces, hg, Bool.false_eq_true, if_false, List.append_assoc, List.cons_append]
        using hrest

theorem hosts_pieces {j next : Nat} {number : Option Nat} {lead done todo : List Part} {g : Bool}
    (hn : number ≠ some j) (hlead : ∀ p ∈ lead, find? j p.nodes = none)
    (hdone : ∀ p ∈ done, find? j p.nodes = none) (htodo : ∀ p ∈ todo, find? j p.nodes = none)
    (hfresh : j < next ∨ next + (done ++ ⟨g, false, []⟩ :: todo).countP (·.isGrid) ≤ j)
    (attributes : List Attribute) :
    Hosts j fun nodes => pieces next number attributes lead (done ++ ⟨g, false, nodes⟩ :: todo) := by
  induction done generalizing next number attributes lead with
  | nil =>
    rw [List.nil_append, List.countP_cons] at hfresh
    cases g with
    | true =>
      rw [if_pos rfl] at hfresh
      have hnext : some next ≠ some j := mt Option.some.inj (by omega)
      have hrest : find? j (pieces (next + 1) (some next) [] [] todo) = none :=
        find?_pieces hnext (List.forall_mem_nil _) htodo (by omega) []
      simpa only [pieces, List.nil_append, if_true] using
        ((hosts_whole j).before hrest).behind (find?_paragraph hn hlead attributes)
    | false =>
      have hslot := hosts_pieces_of_lead hn hlead (List.forall_mem_nil _) htodo hfresh attributes
      simpa only [pieces, List.nil_append, Bool.false_eq_true, if_false] using hslot
  | cons q rest ih =>
    rw [List.forall_mem_cons] at hdone
    rw [List.cons_append, List.countP_cons] at hfresh
    by_cases hg : q.isGrid = true
    · rw [if_pos hg] at hfresh
      have hnext : some next ≠ some j := mt Option.some.inj (by omega)
      have hrest := (@ih (next + 1) (some next) [] hnext (List.forall_mem_nil _) hdone.2
        (by omega) []).behind hdone.1
      simpa only [List.cons_append, pieces, hg, if_true] using
        hrest.behind (find?_paragraph hn hlead attributes)
    · have hlead' : ∀ p ∈ lead ++ [q], find? j p.nodes = none :=
        List.forall_mem_append.mpr ⟨hlead, List.forall_mem_singleton.mpr hdone.1⟩
      have hfresh' : j < next ∨ next + (rest ++ ⟨g, false, []⟩ :: todo).countP (·.isGrid) ≤ j := by
        rw [if_neg hg] at hfresh
        exact hfresh
      simpa only [List.cons_append, pieces, hg, Bool.false_eq_true, if_false] using
        ih hn hlead' hdone.2 hfresh' attributes

/-- A way to put parts together, in which a part that is more than a blank hosts the element `j`
when no other part does. -/
def IsFrame (j : Nat) (grids : List Bool) (frame : List Part → List Node) : Prop :=
  ∀ (done todo : List Part) (g : Bool), (done ++ ⟨g, false, []⟩ :: todo).map (·.isGrid) = grids →
    (∀ p ∈ done, find? j p.nodes = none) → (∀ p ∈ todo, find? j p.nodes = none) →
      Hosts j fun nodes => frame (done ++ ⟨g, false, nodes⟩ :: todo)

theorem isFrame_flatMap (j : Nat) (grids : List Bool) :
    IsFrame j grids fun parts => parts.flatMap (·.nodes) := by
  intro done todo g _ hdone htodo
  have hslot := ((hosts_whole j).before (find?_flatMap_nodes htodo)).behind
    (find?_flatMap_nodes hdone)
  simpa only [List.flatMap_append, List.flatMap_cons] using hslot

theorem IsFrame.inside {j : Nat} {grids : List Bool} {frame : List Part → List Node}
    (h : IsFrame j grids frame) {number : Option Nat} (hn : number ≠ some j) (name : String)
    (attributes : List Attribute) :
    IsFrame j grids fun parts => [.element number name attributes (frame parts)] :=
  fun done todo g hg hdone htodo => (h done todo g hg hdone htodo).inside hn name attributes

theorem isFrame_pieces {j next : Nat} {number : Option Nat} {grids : List Bool}
    (hn : number ≠ some j) (hfresh : j < next ∨ next + grids.countP id ≤ j)
    (attributes : List Attribute) : IsFrame j grids (pieces next number attributes []) := by
  intro done todo g hg hdone htodo
  rw [← hg, List.countP_map] at hfresh
  exact hosts_pieces hn (List.forall_mem_nil _) hdone htodo hfresh attributes

/-- The numbers of the elements of some nodes, counted from `k` on, and those still free. -/
def Owned (k : Nat) (nodes : List Node) (next j : Nat) : Prop :=
  (k ≤ j ∧ j < k + (Node.elementsOf nodes).length) ∨ next ≤ j

/-- What a node becomes, from the first free number before to the one after. -/
structure Becomes (base next next' : Nat) (n : Node) (p : Part) : Prop where
  grid : p.isGrid = isGrid n
  blank : p.isBlank = n.isBlankText
  forgotten : forgetNodes base p.nodes = liftNode n
  numbers : ∀ j, find? j p.nodes ≠ none → find? j [n] ≠ none ∨ (next ≤ j ∧ j < next')

/-- The turns of the paragraphs of a node leave it as lifting does, wherever it stands. -/
def Lifts (base : Nat) (n : Node) : Prop :=
  ∀ (k next : Nat) (place : List Node → List Node) (removed : List Node), Node.Counted k [n] →
    k + (Node.elements n).length ≤ base → base ≤ next →
    (∀ j, Owned k [n] next j → Hosts j place) →
    ∃ p u, Turns (paragraphs [n]) ⟨place [n], removed, next⟩ u ∧ u.nodes = place p.nodes ∧
      next ≤ u.next ∧ Becomes base next u.next n p

theorem range_of_find?_ne_none {k j : Nat} {nodes : List Node} (h : Node.Counted k nodes)
    (hj : find? j nodes ≠ none) : k ≤ j ∧ j < k + (Node.elementsOf nodes).length := by
  by_contra hout
  exact hj (Collected.find?_eq_none_of_counted h (by omega))

theorem Becomes.mono {base next low next' high : Nat} {n : Node} {p : Part}
    (h : Becomes base next next' n p) (hlow : low ≤ next) (hhigh : next' ≤ high) :
    Becomes base low high n p := by
  refine ⟨h.grid, h.blank, h.forgotten, fun j hj => ?_⟩
  rcases h.numbers j hj with hn | hn
  · exact .inl hn
  · exact .inr ⟨by omega, by omega⟩

theorem Becomes.eq {base next next' : Nat} {n : Node} {p : Part}
    (h : Becomes base next next' n p) (hn : n.isBlankText = false) :
    p = ⟨isGrid n, false, p.nodes⟩ := by
  rw [← h.grid, ← hn, ← h.blank]

/-- The turns of the first of some children. `done` are those that have had theirs. -/
theorem turns_first {base k next : Nat} {frame : List Part → List Node}
    {place : List Node → List Node} {n : Node} {rest : List Node} {done : List Part}
    (removed : List Node)
    (hlift : Lifts base n) (hcount : Node.Counted k (n :: rest))
    (hhigh : k + (Node.elementsOf (n :: rest)).length ≤ base) (hnext : base ≤ next)
    (hframe : ∀ j, Owned k (n :: rest) next j →
      IsFrame j ((done ++ wholeParts (n :: rest)).map (·.isGrid)) frame)
    (hplace : ∀ j, Owned k (n :: rest) next j → Hosts j place)
    (hdone : ∀ j, Owned k (n :: rest) next j → ∀ p ∈ done, find? j p.nodes = none) :
    ∃ p u,
      Turns (paragraphs [n]) ⟨place (frame (done ++ wholeParts (n :: rest))), removed, next⟩ u ∧
        u.nodes = place (frame (done ++ p :: wholeParts rest)) ∧ next ≤ u.next ∧
          Becomes base next u.next n p := by
  cases hb : n.isBlankText with
  | true =>
    cases n with
    | element => cases hb
    | text kind s =>
      exact ⟨_, _, .nil _, rfl, Nat.le_refl _, rfl, rfl, rfl, fun j hj => absurd rfl hj⟩
  | false =>
    obtain ⟨hcn, hcr⟩ := Node.counted_cons.mp hcount
    rw [Node.elementsOf, List.length_append] at hhigh
    have hwhole : done ++ wholeParts (n :: rest) =
        done ++ ⟨isGrid n, false, [n]⟩ :: wholeParts rest := by
      rw [← hb]
      rfl
    have howned {j : Nat} (hj : Owned k [n] next j) : Owned k (n :: rest) next j := by
      rw [Owned, Node.elementsOf_singleton] at hj
      rw [Owned, Node.elementsOf, List.length_append]
      omega
    have hfree {j : Nat} (hj : Owned k [n] next j) :
        ∀ p ∈ wholeParts rest, find? j p.nodes = none := by
      rw [Owned, Node.elementsOf_singleton] at hj
      exact find?_wholeParts (Collected.find?_eq_none_of_counted hcr (by omega))
    have hslot {j : Nat} (hj : Owned k [n] next j) :
        Hosts j fun nodes => frame (done ++ ⟨isGrid n, false, nodes⟩ :: wholeParts rest) :=
      hframe j (howned hj) done (wholeParts rest) (isGrid n)
        (by rw [hwhole, List.map_append, List.map_append]; rfl) (hdone j (howned hj)) (hfree hj)
    obtain ⟨p, u, hturns, hnodes, hle, hbecomes⟩ := hlift k next _ removed hcn (by omega) hnext
      fun j hj => (hplace j (howned hj)).comp (hslot hj)
    rw [← hbecomes.eq hb] at hnodes
    rw [← hwhole] at hturns
    exact ⟨p, u, hturns, hnodes, hle, hbecomes⟩

/-- The turns of some children, one child after the other. -/
theorem turns_children {base k next : Nat} {todo : List Node} (frame : List Part → List Node)
    (place : List Node → List Node) (done : List Part) (removed : List Node)
    (hlifts : ∀ n ∈ todo, Lifts base n) (hcount : Node.Counted k todo)
    (hhigh : k + (Node.elementsOf todo).length ≤ base) (hnext : base ≤ next)
    (hframe : ∀ j, Owned k todo next j →
      IsFrame j ((done ++ wholeParts todo).map (·.isGrid)) frame)
    (hplace : ∀ j, Owned k todo next j → Hosts j place)
    (hdone : ∀ j, Owned k todo next j → ∀ p ∈ done, find? j p.nodes = none) :
    ∃ parts u,
      Turns (paragraphs todo) ⟨place (frame (done ++ wholeParts todo)), removed, next⟩ u ∧
        u.nodes = place (frame (done ++ parts)) ∧ next ≤ u.next ∧
          List.Forall₂ (Becomes base next u.next) todo parts := by
  induction todo generalizing done k next removed with
  | nil => exact ⟨[], _, .nil _, rfl, Nat.le_refl _, .nil⟩
  | cons n rest ih =>
    rw [List.forall_mem_cons] at hlifts
    have hcr := (Node.counted_cons.mp hcount).2
    have hlength : (Node.elementsOf (n :: rest)).length =
        (Node.elements n).length + (Node.elementsOf rest).length := by
      rw [Node.elementsOf, List.length_append]
    obtain ⟨p, u, hturns, hnodes, hle, hbecomes⟩ := turns_first removed hlifts.1 hcount
      hhigh hnext hframe hplace hdone
    rw [hlength] at hhigh
    have hlater {j : Nat} (hj : Owned (k + (Node.elements n).length) rest u.next j) :
        Owned k (n :: rest) next j := by
      rw [Owned] at hj
      rw [Owned, hlength]
      omega
    have hpassed (j : Nat) (hj : Owned (k + (Node.elements n).length) rest u.next j) :
        find? j p.nodes = none := by
      rw [Owned] at hj
      by_contra hfound
      rcases hbecomes.numbers j hfound with hn | hn
      · have hrange := range_of_find?_ne_none (Node.counted_cons.mp hcount).1 hn
        rw [Node.elementsOf_singleton] at hrange
        omega
      · omega
    have hgrids : (done ++ [p] ++ wholeParts rest).map (·.isGrid) =
        (done ++ wholeParts (n :: rest)).map (·.isGrid) := by
      simp [wholeParts, hbecomes.grid]
    obtain ⟨parts, v, hmore, hnodes', hle', hbecome⟩ := ih (done ++ [p]) u.removed hlifts.2 hcr
      (by omega) (Nat.le_trans hnext hle)
      (fun j hj => hgrids ▸ hframe j (hlater hj)) (fun j hj => hplace j (hlater hj))
      (fun j hj => List.forall_mem_append.mpr
        ⟨hdone j (hlater hj), List.forall_mem_singleton.mpr (hpassed j hj)⟩)
    rw [List.append_assoc, List.singleton_append] at hmore hnodes'
    rw [← hnodes] at hmore
    rw [← List.singleton_append, paragraphs_append]
    exact ⟨p :: parts, v, hturns.append hmore, hnodes', Nat.le_trans hle hle',
      .cons (hbecomes.mono (Nat.le_refl _) hle')
        (hbecome.imp fun _ _ h => h.mono hle (Nat.le_refl _))⟩

theorem map_forgetPart {base next next' : Nat} {nodes : List Node} {parts : List Part}
    (h : List.Forall₂ (Becomes base next next') nodes parts) :
    parts.map (forgetPart base) = liftParts nodes := by
  induction h with
  | nil => rfl
  | cons hb _ ih => rw [List.map_cons, ih, forgetPart, hb.grid, hb.blank, hb.forgotten, liftParts]

theorem find?_parts {base next next' j : Nat} {nodes : List Node} {parts : List Part}
    (h : List.Forall₂ (Becomes base next next') nodes parts) (hj : find? j nodes = none)
    (hfresh : j < next ∨ next' ≤ j) : ∀ p ∈ parts, find? j p.nodes = none := by
  intro p hp
  obtain ⟨n, hn, hb⟩ := forall₂_exists_left h hp
  by_contra hfound
  rcases hb.numbers j hfound with hm | hm
  · exact hm (find?_of_mem hj hn)
  · omega

theorem countP_parts {base next next' : Nat} {nodes : List Node} {parts : List Part}
    (h : List.Forall₂ (Becomes base next next') nodes parts) :
    parts.countP (·.isGrid) = nodes.countP isGrid := by
  induction h with
  | nil => rfl
  | cons hb _ ih => rw [List.countP_cons, List.countP_cons, ih, hb.grid]

theorem filter_lt_of_lt {base k : Nat} (h : k < base) : (some k).filter (· < base) = some k := by
  rw [Option.filter_some, if_pos (decide_eq_true h)]

theorem lifts_text (base : Nat) (kind : TextKind) (s : String) : Lifts base (.text kind s) := by
  intro k next place removed _ _ _ _
  exact ⟨⟨false, (Node.text kind s).isBlankText, [.text kind s]⟩, _, .nil _, rfl, Nat.le_refl _,
    rfl, rfl, rfl, fun j hj => absurd rfl hj⟩

section Element

variable {base k next : Nat} {name : String} {attributes : List Attribute}
  {children : List Node} {place : List Node → List Node}

theorem length_elements :
    (Node.elements (.element (some k) name attributes children)).length =
      (Node.elementsOf children).length + 1 := by
  rw [Node.elements, List.length_cons]

/-- A paragraph with grids has its own turn before those inside it. -/
theorem turns_split (removed : List Node) (hlifts : ∀ n ∈ children, Lifts base n)
    (hcount : Node.Counted (k + 1) children)
    (hhigh : k + 1 + (Node.elementsOf children).length ≤ base) (hnext : base ≤ next)
    (hplace : ∀ j, Owned k [.element (some k) "p" attributes children] next j → Hosts j place)
    (hgrid : ∃ n ∈ children, isGrid n = true) :
    ∃ p u, Turns (k :: paragraphs children)
        ⟨place [.element (some k) "p" attributes children], removed, next⟩ u ∧
      u.nodes = place p.nodes ∧ next ≤ u.next ∧
        Becomes base next u.next (.element (some k) "p" attributes children) p := by
  have hwhole {j : Nat} (hj : j = k ∨ Owned (k + 1) children next j) :
      Owned k [.element (some k) "p" attributes children] next j := by
    rw [Owned] at hj
    rw [Owned, Node.elementsOf_singleton, length_elements]
    omega
  have hfree (j : Nat) (hj : next ≤ j) : find? j children = none :=
    Collected.find?_eq_none_of_counted hcount (by omega)
  obtain ⟨u, hturn, hnodes, hfirst⟩ := unwrapFrom_place removed (.inl hgrid)
    (by omega) (fun j hj => hplace j (hwhole (hj.imp_right .inr))) hfree
  have hlater {j : Nat} (hj : Owned (k + 1) children u.next j) : Owned (k + 1) children next j := by
    rw [Owned] at hj ⊢
    omega
  have hcountP : ((([] : List Part) ++ wholeParts children).map (·.isGrid)).countP id =
      children.countP isGrid := by
    rw [List.countP_map, List.nil_append, wholeParts, List.countP_map]
    rfl
  obtain ⟨parts, v, hturns, hnodes', hle, hbecome⟩ := turns_children
    (pieces next (some k) attributes []) place [] u.removed hlifts
    hcount hhigh (show base ≤ u.next by omega)
    (fun j hj => by
      rw [Owned] at hj
      exact isFrame_pieces (mt Option.some.inj (by omega))
        (by rw [hcountP]; omega) attributes)
    (fun j hj => hplace j (hwhole (.inr (hlater hj)))) (fun _ _ => List.forall_mem_nil _)
  rw [List.nil_append, ← hnodes] at hturns
  have hfound : find? k (place [.element (some k) "p" attributes children]) =
      some (.element (some k) "p" attributes children) := by
    rw [(hplace k (hwhole (.inl rfl))).found, find?_element, if_pos rfl]
  refine ⟨⟨false, false, pieces next (some k) attributes [] parts⟩, v,
    .cons hfound hturn hturns, hnodes', by omega, rfl, rfl, ?_, fun j hj => ?_⟩
  · have hany : children.any isGrid = true := List.any_eq_true.mpr hgrid
    rw [forgetNodes_pieces hnext, map_forgetPart hbecome, filter_lt_of_lt (by omega),
      ImageGrid.liftNode_element, hany]
    rfl
  · by_contra hout
    rw [not_or, not_not, find?_element] at hout
    obtain ⟨hnone, hrange⟩ := hout
    split_ifs at hnone with hk
    have hflags := countP_parts hbecome
    exact hj (find?_pieces hk (List.forall_mem_nil _)
      (find?_parts hbecome hnone (by omega)) (by omega) attributes)

/-- An element stays where no grid is among the children of a paragraph, after the turns inside it. -/
theorem turns_inside (removed : List Node) (hlifts : ∀ n ∈ children, Lifts base n)
    (hcount : Node.Counted (k + 1) children)
    (hhigh : k + 1 + (Node.elementsOf children).length ≤ base) (hnext : base ≤ next)
    (hplace : ∀ j, Owned k [.element (some k) name attributes children] next j → Hosts j place)
    (hwhole : name ≠ "p" ∨ ∀ n ∈ children, isGrid n = false) :
    ∃ p u, Turns (paragraphs children)
        ⟨place [.element (some k) name attributes children], removed, next⟩ u ∧
      u.nodes = place p.nodes ∧ next ≤ u.next ∧
        Becomes base next u.next (.element (some k) name attributes children) p := by
  have howned {j : Nat} (hj : Owned (k + 1) children next j) :
      some k ≠ some j ∧ Owned k [.element (some k) name attributes children] next j := by
    rw [Owned] at hj
    rw [Owned, Node.elementsOf_singleton, length_elements]
    exact ⟨mt Option.some.inj (by omega), by omega⟩
  obtain ⟨parts, u, hturns, hnodes, hle, hbecome⟩ := turns_children
    (fun parts => [.element (some k) name attributes (parts.flatMap (·.nodes))]) place [] removed hlifts
    hcount hhigh hnext (fun j hj => (isFrame_flatMap j _).inside (howned hj).1 name attributes)
    (fun j hj => hplace j (howned hj).2) (fun _ _ => List.forall_mem_nil _)
  simp only [List.nil_append, wholeParts_nodes] at hturns hnodes
  refine ⟨⟨isGrid (.element (some k) name attributes children), false,
    [.element (some k) name attributes (parts.flatMap (·.nodes))]⟩, u, hturns, hnodes, hle, rfl, rfl,
    ?_, fun j hj => ?_⟩
  · have hinner : forgetNodes base (parts.flatMap (·.nodes)) =
        (liftParts children).flatMap (·.nodes) := by
      rw [forgetNodes_flatMap, ← map_forgetPart hbecome, List.flatMap_map]
      rfl
    have hsplit : (name == "p" && children.any isGrid) = false := by
      rcases hwhole with hname | hnone
      · rw [beq_eq_false_iff_ne.mpr hname, Bool.false_and]
      · rw [List.any_eq_false.mpr fun n hn => by simp [hnone n hn], Bool.and_false]
    rw [ImageGrid.liftNode_element, hsplit, if_neg Bool.false_ne_true, forgetNodes, forgetNode,
      hinner, filter_lt_of_lt (by omega)]
    rfl
  · by_contra hout
    rw [not_or, not_not, find?_element] at hout
    obtain ⟨hnone, hrange⟩ := hout
    split_ifs at hnone with hk
    rw [find?_element, if_neg hk] at hj
    exact hj (find?_flatMap_nodes (find?_parts hbecome hnone (by omega)))

end Element

theorem lifts (base : Nat) (n : Node) : Lifts base n := by
  induction n with
  | text kind s => exact lifts_text base kind s
  | element number name attributes children ih =>
    intro k next place removed hcount hhigh hnext hplace
    obtain ⟨rfl, hcc⟩ := Node.counted_element.mp hcount
    rw [length_elements] at hhigh
    rw [paragraphs_element]
    by_cases hgrid : ∃ n ∈ children, isGrid n = true
    · by_cases hp : name = "p"
      · subst hp
        exact turns_split removed ih hcc (by omega) hnext hplace hgrid
      · rw [if_neg hp]
        exact turns_inside removed ih hcc (by omega) hnext hplace (.inl hp)
    · have hnone : ∀ n ∈ children, isGrid n = false := by simpa using hgrid
      obtain ⟨p, u, hturns, hrest⟩ := turns_inside removed ih hcc (by omega) hnext hplace
        (.inr hnone)
      refine ⟨p, u, ?_, hrest⟩
      by_cases hp : name = "p"
      · subst hp
        have hown : find? k (place [.element (some k) "p" attributes children]) =
            some (.element (some k) "p" attributes children) := by
          rw [(hplace k (.inl ⟨Nat.le_refl k, ?_⟩)).found, find?_element, if_pos rfl]
          rw [Node.elementsOf_singleton, length_elements]
          omega
        have hturn : (unwrapFrom (some k)
            ⟨place [.element (some k) "p" attributes children], removed, next⟩).run =
              some (.ok ⟨place [.element (some k) "p" attributes children], removed, next⟩) := by
          rw [unwrapFrom]
          simp only [find?_append, hown, Option.some_or, firstGrid?_eq_none_iff.mpr hnone]
          rfl
        exact .cons hown hturn hturns
      · rwa [if_neg hp]

/-- All paragraphs of a page get their turn, and the page is left as lifting leaves it. -/
theorem turns_ofNodes (nodes : List Node) :
    ∃ u, Turns (paragraphs (ofNodes nodes).nodes) (ofNodes nodes) u ∧
      forgetNodes (ofNodes nodes).next u.nodes = lift (ofNodes nodes).nodes := by
  have hcount : Node.Counted 0 (ofNodes nodes).nodes := (Node.numberedFrom_counted 0 nodes).1
  have hnext : (ofNodes nodes).next = 0 + (Node.elementsOf (ofNodes nodes).nodes).length :=
    (Node.numberedFrom_counted 0 nodes).2
  obtain ⟨parts, u, hturns, hnodes, -, hbecome⟩ := turns_children
    (fun parts => parts.flatMap (·.nodes)) id [] []
    (fun n _ => lifts (ofNodes nodes).next n) hcount
    (Nat.le_of_eq hnext.symm) (Nat.le_refl _)
    (fun j _ => isFrame_flatMap j _) (fun j _ => hosts_whole j) (fun _ _ => List.forall_mem_nil _)
  simp only [List.nil_append, wholeParts_nodes, id_eq] at hturns hnodes
  refine ⟨u, hturns, ?_⟩
  have hparts : parts.flatMap (fun p => forgetNodes (ofNodes nodes).next p.nodes) =
      (liftParts (ofNodes nodes).nodes).flatMap (·.nodes) := by
    rw [← map_forgetPart hbecome, List.flatMap_map]
    rfl
  rw [hnodes, forgetNodes_flatMap, hparts, ImageGrid.liftParts_eq_map, List.flatMap_map, lift]

end Unwrapping

end CmsMarkup
