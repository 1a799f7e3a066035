import CmsMarkup.Proofs.Passes

/-! Where grids stand in the end. A grid goes up by one element only, and the paragraph it
goes to is not split again, so a grid is left in a paragraph when it began in two. -/

namespace CmsMarkup

open Html

namespace Html.Placed

def inParagraph (o : Placed) : Bool :=
  match o.ancestors with
  | a :: _ => a.hasName "p"
  | [] => false

def inNestedParagraph (o : Placed) : Bool :=
  match o.ancestors with
  | a :: b :: _ => a.hasName "p" && b.hasName "p"
  | _ => false

end Html.Placed

namespace ImageGrid

theorem StandsFor.hasName_paragraph {n m : Node} (h : StandsFor n m) :
    m.hasName "p" = n.hasName "p" := by
  cases h with
  | paragraph hn hm => rw [hn, hm]
  | lifted => exact hasName_lifted _ _

/-- Of two paragraphs around a grid the inner one goes. -/
theorem Follows.inParagraph_eq {o o' : Placed} (h : Follows o o') (hg : isGrid o.node = true) :
    o'.inParagraph = o.inNestedParagraph := by
  obtain ⟨n, outer⟩ := o
  obtain ⟨m, around⟩ := o'
  have ha := h.ancestors
  cases outer with
  | nil =>
    cases ha
    rfl
  | cons a outer =>
    by_cases hp : a.hasName "p" = true
    · have hna : isGrid a = false := isGrid_eq_false hp (by decide)
      simp only [remaining_cons_of_paragraph hg hp] at ha
      cases outer with
      | nil =>
        cases ha
        rfl
      | cons b outer =>
        rw [remaining_cons (.inl hna)] at ha
        cases ha with
        | cons hb _ => simp [Placed.inParagraph, Placed.inNestedParagraph, hp, hb.hasName_paragraph]
    · have hp' : a.hasName "p" = false := Bool.eq_false_iff.mpr hp
      simp only [remaining_cons (.inr hp')] at ha
      have hnested : Placed.inNestedParagraph ⟨n, a :: outer⟩ = false := by
        cases outer <;> simp [Placed.inNestedParagraph, hp']
      cases ha with
      | cons hb _ => simp [hnested, Placed.inParagraph, hb.hasName_paragraph, hp']

theorem lift_grids (nodes : List Node) :
    (∀ o ∈ Node.placedElements [] (lift nodes), isGrid o.node = true → o.inParagraph = false) ↔
      ∀ o ∈ Node.placedElements [] nodes, isGrid o.node = true → o.inNestedParagraph = false := by
  have hq (n : Node) (hn : isGrid n = true) : n.isElement = true ∧ n.hasName "p" = false :=
    stays_of_isDiv n (by rw [← isGrid_eq_isDiv, hn])
  have hh : (∀ o ∈ (Node.placedElements [] nodes).filter (isGrid ·.node),
      o.inNestedParagraph = false) ↔
      ∀ o ∈ (Node.placedElements [] (lift nodes)).filter (isGrid ·.node), o.inParagraph = false :=
    forall_mem_iff_of_forall₂ (lift_elements hq isGrid_lifted nodes)
      fun o ho o' h => by rw [h.inParagraph_eq (List.mem_filter.mp ho).2]
  simpa only [List.mem_filter, and_imp] using hh.symm

end ImageGrid

namespace Rule

open ImageGrid (isGrid isGrid_eq_isDiv isGrid_eq_false)

theorem inNestedParagraph_enclosing (n m : Node) (outer : List Node) :
    Placed.inNestedParagraph ⟨m, outer.flatMap enclosing⟩ =
      Placed.inNestedParagraph ⟨n, outer⟩ := by
  have henclosing (a : Node) : enclosing a = [rewritten a] ∨
      a.hasName "p" = false ∧ enclosing a = [rewritten a, wrapTable (rewritten a)] := by
    unfold enclosing
    split_ifs with ht
    · exact .inr ⟨Node.hasName_eq_false ht (by decide), rfl⟩
    · exact .inl rfl
  cases outer with
  | nil => rfl
  | cons a outer =>
    rcases henclosing a with ha | ⟨hp, ha⟩
    · cases outer with
      | nil => simp [Placed.inNestedParagraph, ha]
      | cons b outer =>
        rcases henclosing b with hb | ⟨_, hb⟩ <;>
          simp [Placed.inNestedParagraph, ha, hb]
    · cases outer <;> simp [Placed.inNestedParagraph, ha, hp]

theorem fixNodes_grids {nodes : List Node} (h : ImagesEmpty nodes) :
    (∀ o ∈ Node.placedElements [] (fixNodes nodes).1,
        isGrid o.node = true → o.inNestedParagraph = false) ↔
      ∀ o ∈ Node.placedElements [] nodes,
        (o.node.hasName "img" || isGrid o.node) = true → o.inNestedParagraph = false := by
  rw [placedElements_fixNodes h, List.forall_mem_flatMap]
  refine forall₂_congr fun o _ => ?_
  rw [forall_mem_images]
  have hwrap (n : Node) : isGrid (wrapTable n) = false := rfl
  have hgallery (alt : String) : isGrid (gallery alt) = false := rfl
  have hitem (alt : String) : isGrid (mediaItem alt) = false := rfl
  have hgrid (alt : String) : isGrid (grid alt) = true := rfl
  have hrewritten (n : Node) : isGrid (rewritten n) = isGrid n := by
    simp only [isGrid_eq_isDiv, isDiv_rewritten]
  have hnested (m : Node) := inNestedParagraph_enclosing o.node m o.ancestors
  by_cases ht : o.node.hasName "table" = true
  · have hg : isGrid o.node = false := isGrid_eq_false ht (by decide)
    have hi : o.node.hasName "img" = false := Node.hasName_eq_false ht (by decide)
    simp [ht, hi, hg, hwrap, hrewritten]
  · by_cases hi : o.node.hasName "img" = true
    · simp [ht, hi, hgallery, hitem, hgrid, hnested]
    · simp [ht, hi, hrewritten, hnested]

end Rule

namespace CodeFence

open ImageGrid (isGrid isGrid_eq_isDiv)

theorem inNestedParagraph_relabelled {o o' : Placed} (h : Placed.Rel Relabelled o o') :
    o'.inNestedParagraph = o.inNestedParagraph := by
  obtain ⟨n, outer⟩ := o
  obtain ⟨m, around⟩ := o'
  have ha := h.ancestors
  simp only at ha
  cases ha with
  | nil => rfl
  | cons h₁ hrest =>
    cases hrest with
    | nil => rfl
    | cons h₂ _ => simp [Placed.inNestedParagraph, h₁.hasName_eq, h₂.hasName_eq]

theorem normalizeNodes_grids (nodes : List Node) :
    (∀ o ∈ Node.placedElements [] nodes,
        (o.node.hasName "img" || isGrid o.node) = true → o.inNestedParagraph = false) ↔
      ∀ o ∈ Node.placedElements [] (normalizeNodes nodes),
        (o.node.hasName "img" || isGrid o.node) = true → o.inNestedParagraph = false :=
  forall_mem_iff_of_forall₂ (placedElements_relabelled nodes) fun o _ o' h => by
    have hg : isGrid o'.node = isGrid o.node := by simp only [isGrid_eq_isDiv, h.node.isDiv_eq]
    rw [h.node.hasName_eq, hg, inNestedParagraph_relabelled h]

end CodeFence

open ImageGrid (isGrid)

/-- The pages on which no grid is left as a child of a paragraph are exactly those on which
no image or grid stands in a paragraph that is itself a child of a paragraph. -/
theorem grids_out_of_paragraphs_iff {text : String} {nodes : List Node}
    (h : parse? text = some nodes) :
    (∀ o ∈ Node.placedElements [] (postprocess nodes).1,
        isGrid o.node = true → o.inParagraph = false) ↔
      ∀ o ∈ Node.placedElements [] nodes,
        (o.node.hasName "img" || isGrid o.node) = true → o.inNestedParagraph = false := by
  rw [postprocess_nodes, ImageGrid.lift_grids, Rule.fixNodes_grids (imagesEmpty_normalizeNodes h),
    ← CodeFence.normalizeNodes_grids]

theorem grids_out_of_flat_paragraph :
    parse? "<p>a<img alt=b></p>" =
        some [.element none "p" [] [.text .plain "a", .element none "img" [⟨"alt", "b"⟩] []]] ∧
      ∀ o ∈ Node.placedElements [] (postprocess
          [.element none "p" [] [.text .plain "a", .element none "img" [⟨"alt", "b"⟩] []]]).1,
        isGrid o.node = true → o.inParagraph = false := by
  have h : parse? "<p>a<img alt=b></p>" =
      some [.element none "p" [] [.text .plain "a", .element none "img" [⟨"alt", "b"⟩] []]] := rfl
  exact ⟨h, (grids_out_of_paragraphs_iff h).mpr (by decide)⟩

/-- The grid goes up into a paragraph that was there all along. -/
theorem grid_left_in_nested_paragraph :
    parse? "<p><p><img alt=a></p></p>" =
        some [.element none "p" []
          [.element none "p" [] [.element none "img" [⟨"alt", "a"⟩] []]]] ∧
      ¬ ∀ o ∈ Node.placedElements [] (postprocess
          [.element none "p" []
            [.element none "p" [] [.element none "img" [⟨"alt", "a"⟩] []]]]).1,
        isGrid o.node = true → o.inParagraph = false :=
  ⟨rfl, by decide⟩

end CmsMarkup
