import CmsMarkup.Postprocess
import CmsMarkup.Proofs.FenceOrder
import CmsMarkup.Proofs.LiftOrder
import CmsMarkup.Proofs.RegularTree
import CmsMarkup.Proofs.RuleOrder

/-! The three passes one after the other on the tree of a text. -/

namespace CmsMarkup

open Html

theorem postprocess_nodes (nodes : List Node) :
    (postprocess nodes).1 = ImageGrid.lift (Rule.fixNodes (CodeFence.normalizeNodes nodes)).1 := rfl

theorem Html.Node.Regular.imagesEmpty {nodes : List Node} (h : Node.Regular nodes) :
    Rule.ImagesEmpty nodes := by
  intro n hn hi
  have hr := h n hn
  cases n with
  | text kind s => rfl
  | element number name attributes children =>
    have hname : name = "img" := by simpa using hi
    exact hr.2 (by rw [hname]; decide)

theorem CodeFence.normalizeNodes_imagesEmpty {nodes : List Node} (h : Rule.ImagesEmpty nodes) :
    Rule.ImagesEmpty (normalizeNodes nodes) := by
  refine (Node.forall_mem_elementsOf_iff []).mpr ?_
  refine (forall_mem_iff_of_forall₂ (placedElements_relabelled nodes) fun o _ o' ho => ?_).mp
    ((Node.forall_mem_elementsOf_iff []).mp h)
  rw [ho.node.hasName_eq, ho.node.children_eq_nil_iff]

theorem imagesEmpty_normalizeNodes {text : String} {nodes : List Node}
    (h : parse? text = some nodes) : Rule.ImagesEmpty (CodeFence.normalizeNodes nodes) :=
  CodeFence.normalizeNodes_imagesEmpty (parse?_regular h).imagesEmpty

/-- Elements of one kind through the passes, when the rules make one element `f` of each. -/
theorem trace_elements {text : String} {nodes : List Node} (h : parse? text = some nodes)
    {p q : Node → Bool} {f : Placed → Placed}
    (hp : ∀ n m, CodeFence.Relabelled n m → p m = p n)
    (hf : ∀ o, (Rule.images o).filter (q ·.node) = if p o.node then [f o] else [])
    (hq : ∀ n, q n = true → n.isElement = true ∧ n.hasName "p" = false)
    (hl : ∀ n, q (ImageGrid.lifted n) = q n) :
    List.Forall₂
      (fun n o' => n ∈ Node.elementsOf nodes ∧ p n = true ∧
        ∃ o, CodeFence.Relabelled n o.node ∧ ImageGrid.Follows (f o) o')
      ((Node.elementsOf nodes).filter p)
      ((Node.placedElements [] (postprocess nodes).1).filter (q ·.node)) := by
  have hfence : List.Forall₂ (fun n o => CodeFence.Relabelled n o.node)
      ((Node.elementsOf nodes).filter p)
      ((Node.placedElements [] (CodeFence.normalizeNodes nodes)).filter (p ·.node)) := by
    refine List.rel_filter (fun n o hr => by simp only [hp _ _ hr]) ?_
    rw [← Node.placedElements_map_node [], List.forall₂_map_left_iff]
    exact (CodeFence.placedElements_relabelled nodes).imp fun o o' hr => hr.node
  have hlift := ImageGrid.lift_elements hq hl (Rule.fixNodes (CodeFence.normalizeNodes nodes)).1
  rw [Rule.placedElements_fixNodes (imagesEmpty_normalizeNodes h), filter_flatMap_eq_map hf,
    List.forall₂_map_left_iff] at hlift
  have hmem : ∀ n ∈ (Node.elementsOf nodes).filter p, n ∈ Node.elementsOf nodes ∧ p n = true :=
    fun n hn => List.mem_filter.mp hn
  have hh := (List.forall₂_and_left _ _).mpr ⟨hmem, forall₂_comp hfence hlift⟩
  exact hh.imp fun n o' ho => ⟨ho.1.1, ho.1.2, ho.2⟩

end CmsMarkup
