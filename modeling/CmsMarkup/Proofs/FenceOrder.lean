import CmsMarkup.CodeFence
import CmsMarkup.Proofs.DocumentOrder

/-! The fence pass changes attributes of `pre` and `code` only, and nothing moves. -/

namespace CmsMarkup.CodeFence

open Html

inductive Relabelled : Node → Node → Prop
  | text (kind : TextKind) (s : String) : Relabelled (.text kind s) (.text kind s)
  | element {number : Option Nat} {name : String} {attributes relabelled : List Attribute}
      {children inner : List Node}
      (kept : name ≠ "pre" → name ≠ "code" → relabelled = attributes)
      (below : List.Forall₂ Relabelled children inner) :
      Relabelled (.element number name attributes children)
        (.element number name relabelled inner)

theorem labelCode_relabelled {label : String} {nodes inner labelled : List Node}
    (h : List.Forall₂ Relabelled nodes inner) (hl : labelCode label inner = some labelled) :
    List.Forall₂ Relabelled nodes labelled := by
  induction h generalizing labelled with
  | nil => simp [labelCode] at hl
  | @cons n m nodes inner hn hrest ih =>
    unfold labelCode at hl
    split at hl
    · cases hl
    · rename_i number attributes children rest he
      obtain ⟨rfl, rfl⟩ := List.cons.inj he
      split_ifs at hl
      obtain rfl := Option.some.inj hl
      cases hn with
      | element _ below => exact .cons (.element (fun _ hc => absurd rfl hc) below) hrest
    · rename_i _ he
      obtain ⟨rfl, rfl⟩ := List.cons.inj he
      obtain ⟨rest, hr, rfl⟩ := Option.map_eq_some_iff.mp hl
      exact .cons hn (ih hr)

theorem moved_relabelled (attributes : List Attribute) {children inner : List Node}
    (h : List.Forall₂ Relabelled children inner) :
    List.Forall₂ Relabelled children (moved attributes inner).2 := by
  unfold moved
  split
  · exact h
  · split
    · exact h
    · rename_i labelled hl
      exact labelCode_relabelled h hl

theorem normalizeNodes_eq_map (nodes : List Node) :
    normalizeNodes nodes = nodes.map normalizeNode := by
  induction nodes with
  | nil => rfl
  | cons n rest ih => rw [normalizeNodes, ih, List.map_cons]

theorem normalizeNode_relabelled (n : Node) : Relabelled n (normalizeNode n) := by
  induction n with
  | text kind s => exact .text kind s
  | element number name attributes children ih =>
    have hc : List.Forall₂ Relabelled children (normalizeNodes children) := by
      rw [normalizeNodes_eq_map, List.forall₂_map_right_iff, List.forall₂_same]
      exact ih
    simp only [normalizeNode]
    split_ifs with hm
    · refine .element (fun hpre => ?_) (moved_relabelled _ hc)
      simp [hpre] at hm
    · exact .element (fun _ _ => rfl) hc

theorem normalizeNodes_relabelled (nodes : List Node) :
    List.Forall₂ Relabelled nodes (normalizeNodes nodes) := by
  rw [normalizeNodes_eq_map, List.forall₂_map_right_iff, List.forall₂_same]
  exact fun n _ => normalizeNode_relabelled n

namespace Relabelled

theorem hasName_eq {n m : Node} (h : Relabelled n m) (name : String) :
    m.hasName name = n.hasName name := by
  cases h <;> rfl

theorem isElement_eq {n m : Node} (h : Relabelled n m) : m.isElement = n.isElement := by
  cases h <;> rfl

theorem isDiv_eq {n m : Node} (h : Relabelled n m) (test : List String → Bool) :
    m.isDiv test = n.isDiv test := by
  cases h with
  | text => rfl
  | @element number name attributes relabelled children inner kept below =>
    by_cases hd : name = "div"
    · subst hd
      rw [kept (by decide) (by decide)]
      rfl
    · simp only [Node.isDiv, beq_eq_false_iff_ne.mpr hd, Bool.false_and]

theorem children_eq_nil_iff {n m : Node} (h : Relabelled n m) : m.children = [] ↔ n.children = [] := by
  cases h with
  | text => rfl
  | element kept below => cases below <;> simp [Node.children]

theorem placed {n m : Node} (h : Relabelled n m) {outer around : List Node}
    (ho : List.Forall₂ Relabelled outer around) :
    List.Forall₂ (Placed.Rel Relabelled) (n.placed outer) (m.placed around) := by
  induction n generalizing m outer around with
  | text kind s =>
    cases h
    exact .cons ⟨.text kind s, ho⟩ .nil
  | element number name attributes children ih =>
    have h' := h
    cases h with
    | element kept below =>
      simp only [Node.placed, Node.placedOf_eq_flatMap]
      exact .cons ⟨h', ho⟩ (forall₂_flatMap below fun n hn m hm => ih n hn hm (.cons h' ho))

theorem visibleText_eq {n m : Node} (h : Relabelled n m) : m.visibleText = n.visibleText := by
  induction n generalizing m with
  | text kind s =>
    cases h
    rfl
  | element number name attributes children ih =>
    cases h with
    | element kept below =>
      simp only [Node.visibleText]
      induction below with
      | nil => rfl
      | cons hn _ hrest =>
        simp only [Node.visibleTexts, ih _ List.mem_cons_self hn,
          hrest fun n hn => ih n (List.mem_cons_of_mem _ hn)]

end Relabelled

theorem placedElements_relabelled (nodes : List Node) :
    List.Forall₂ (Placed.Rel Relabelled) (Node.placedElements [] nodes)
      (Node.placedElements [] (normalizeNodes nodes)) := by
  refine List.rel_filter (fun o o' h => by simp only [h.node.isElement_eq]) ?_
  rw [Node.placedOf_eq_flatMap, Node.placedOf_eq_flatMap]
  exact forall₂_flatMap (normalizeNodes_relabelled nodes) fun n _ m hm => hm.placed .nil

theorem visibleTexts_normalizeNodes (nodes : List Node) :
    Node.visibleTexts (normalizeNodes nodes) = Node.visibleTexts nodes := by
  induction nodes with
  | nil => rfl
  | cons n rest ih =>
    simp only [normalizeNodes, Node.visibleTexts, ih, (normalizeNode_relabelled n).visibleText_eq]

end CmsMarkup.CodeFence
