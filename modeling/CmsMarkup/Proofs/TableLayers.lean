import CmsMarkup.Proofs.Passes

/-! Tables and the layers around them. Every table of a page gets one layer of its own,
whatever was around it before. -/

namespace CmsMarkup

open Html

namespace Html.Attribute

theorem remove_set (name value : String) (attributes : List Attribute) :
    remove name (set name value attributes) = remove name attributes := by
  induction attributes with
  | nil => simp [set, remove]
  | cons a rest ih =>
    by_cases ha : a.name = name
    · simp [set, remove, ha]
    · simpa [set, remove, ha] using ih

theorem Distinct.filter_set {attributes : List Attribute} (h : Distinct attributes)
    (name value : String) :
    (Attribute.set name value attributes).filter (·.name == name) = [⟨name, value⟩] := by
  induction attributes with
  | nil => simp [Attribute.set]
  | cons a rest ih =>
    have hd := List.nodup_cons.mp h
    by_cases ha : a.name = name
    · have hrest : rest.filter (·.name == name) = [] := by
        refine List.filter_eq_nil_iff.mpr fun b hb hn => hd.1 ?_
        have hm : b.name ∈ rest.map (·.name) := List.mem_map_of_mem hb
        rwa [beq_iff_eq.mp hn, ← ha] at hm
      simp [Attribute.set, ha, hrest]
    · simpa [Attribute.set, ha] using ih hd.2

end Html.Attribute

namespace Rule

def isTableLayer (n : Node) : Bool := n.isDiv (· == [Convention.tableWrapperClass])

/-- A table of a page and what it becomes: its class is set, its other attributes stay, and
it is the only child of a layer. -/
inductive Layered : Node → Placed → Prop
  | table {number : Option Nat} {attributes layered : List Attribute} {children inner : List Node}
      (hclass : layered.filter (·.name == "class") = [⟨"class", Convention.tableClass⟩])
      (hothers : Attribute.remove "class" layered = Attribute.remove "class" attributes)
      (around : List Node) :
      Layered (.element number "table" attributes children)
        ⟨.element number "table" layered inner,
          .element none "div" [⟨"class", Convention.tableWrapperClass⟩]
            [.element number "table" layered inner] :: around⟩

theorem layered_of_follows {n : Node} {o o' : Placed} (hregular : n.IsRegular)
    (hn : n.hasName "table" = true) (hr : CodeFence.Relabelled n o.node)
    (hf : ImageGrid.Follows (successor o) o') : Layered n o' := by
  obtain ⟨m, outer⟩ := o
  obtain ⟨m', around⟩ := o'
  cases hr with
  | text => simp at hn
  | @element number name attributes relabelled children inner kept below =>
    obtain rfl : name = "table" := by simpa using hn
    obtain rfl := kept (by decide) (by decide)
    obtain ⟨t, ht⟩ : ∃ t, t = Node.element number "table"
        (Attribute.set "class" Convention.tableClass relabelled) (fixNodes inner).1 := ⟨_, rfl⟩
    have hs : successor ⟨.element number "table" relabelled inner, outer⟩ =
        ⟨t, wrapTable t :: outer.flatMap enclosing⟩ := by
      rw [ht]
      rfl
    rw [hs] at hf
    obtain ⟨rest, rfl, _⟩ := ImageGrid.around_of_remaining_cons hf.ancestors rfl
    obtain rfl : m' = ImageGrid.lifted t := hf.node
    rw [ht]
    exact .table (hregular.1.filter_set _ _) (Attribute.remove_set _ _ _) rest

theorem images_countP_layers (o : Placed) :
    (images o).countP (isTableLayer ·.node) =
      (if isTableLayer o.node then 1 else 0) + if o.node.hasName "table" then 1 else 0 := by
  have hwrap (n : Node) : isTableLayer (wrapTable n) = true := rfl
  have hgrid (alt : String) : isTableLayer (grid alt) = false := rfl
  have hgallery (alt : String) : isTableLayer (gallery alt) = false := rfl
  have hitem (alt : String) : isTableLayer (mediaItem alt) = false := rfl
  have hrewritten (n : Node) : isTableLayer (rewritten n) = isTableLayer n := isDiv_rewritten n _
  have hnone {name : String} (hne : name ≠ "div") (hn : o.node.hasName name = true) :
      isTableLayer o.node = false := Node.isDiv_eq_false hn hne
  unfold images
  by_cases ht : o.node.hasName "table" = true
  · simp [ht, hwrap, hrewritten, hnone (by decide) ht]
  · by_cases hi : o.node.hasName "img" = true
    · simp [ht, hi, hgrid, hgallery, hitem, hnone (by decide) hi]
    · simp [ht, hi, hrewritten, List.countP_cons]

theorem countP_layers_images (os : List Placed) :
    (os.flatMap images).countP (isTableLayer ·.node) =
      os.countP (isTableLayer ·.node) + os.countP (·.node.hasName "table") := by
  induction os with
  | nil => rfl
  | cons o os ih =>
    rw [List.flatMap_cons, List.countP_append, ih, images_countP_layers, List.countP_cons,
      List.countP_cons]
    omega

end Rule

theorem countP_elementsOf (q : Node → Bool) (nodes : List Node) :
    (Node.elementsOf nodes).countP q = (Node.placedElements [] nodes).countP (q ·.node) := by
  rw [← Node.placedElements_map_node [], List.countP_map]
  rfl

theorem countP_normalizeNodes {q : Node → Bool}
    (hq : ∀ n m, CodeFence.Relabelled n m → q m = q n) (nodes : List Node) :
    (Node.placedElements [] (CodeFence.normalizeNodes nodes)).countP (q ·.node) =
      (Node.placedElements [] nodes).countP (q ·.node) := by
  have hf : List.Forall₂ (Placed.Rel CodeFence.Relabelled)
      ((Node.placedElements [] nodes).filter (q ·.node))
      ((Node.placedElements [] (CodeFence.normalizeNodes nodes)).filter (q ·.node)) :=
    List.rel_filter (fun o o' h => by simp only [hq _ _ h.node])
      (CodeFence.placedElements_relabelled nodes)
  simpa only [List.countP_eq_length_filter] using hf.length_eq.symm

theorem layered_tables {text : String} {nodes : List Node} (h : parse? text = some nodes) :
    List.Forall₂ Rule.Layered ((Node.elementsOf nodes).filter (·.hasName "table"))
      ((Node.placedElements [] (postprocess nodes).1).filter (·.node.hasName "table")) := by
  have htable (o : Placed) : (Rule.images o).filter (·.node.hasName "table") =
      if o.node.hasName "table" then [Rule.successor o] else [] := by
    have hs : (Rule.successor o).node.hasName "table" = o.node.hasName "table" := by
      rw [Rule.hasName_successor]
      split_ifs with hi
      · exact (Node.hasName_eq_false hi (by decide)).symm
      · rfl
    rw [Rule.images_filter_hasName (by decide), hs]
  have ht := trace_elements h (fun n m hr => hr.hasName_eq "table") htable
    (ImageGrid.stays_of_hasName (by decide)) (fun n => ImageGrid.hasName_lifted n _)
  exact ht.imp fun n o' ⟨hn, hname, o, hr, hf⟩ =>
    Rule.layered_of_follows (parse?_regular h n hn) hname hr hf

theorem countP_layers {text : String} {nodes : List Node} (h : parse? text = some nodes) :
    (Node.elementsOf (postprocess nodes).1).countP Rule.isTableLayer =
      (Node.elementsOf nodes).countP Rule.isTableLayer +
        (Node.elementsOf nodes).countP (·.hasName "table") := by
  have hl := (ImageGrid.lift_elements (q := Rule.isTableLayer) ImageGrid.stays_of_isDiv
    (fun n => ImageGrid.isDiv_lifted n _)
    (Rule.fixNodes (CodeFence.normalizeNodes nodes)).1).length_eq
  rw [← List.countP_eq_length_filter, ← List.countP_eq_length_filter,
    Rule.placedElements_fixNodes (imagesEmpty_normalizeNodes h), Rule.countP_layers_images,
    countP_normalizeNodes (q := Rule.isTableLayer) (fun n m hr => hr.isDiv_eq _),
    countP_normalizeNodes (fun n m hr => hr.hasName_eq "table")] at hl
  simpa only [countP_elementsOf, postprocess_nodes] using hl.symm

/-- The tables of a page, in their order, are the tables of the result, each in a layer, and
there is one more layer for each of them. -/
theorem postprocess_tables {text : String} {nodes : List Node} (h : parse? text = some nodes) :
    List.Forall₂ Rule.Layered ((Node.elementsOf nodes).filter (·.hasName "table"))
        ((Node.placedElements [] (postprocess nodes).1).filter (·.node.hasName "table")) ∧
      (Node.elementsOf (postprocess nodes).1).countP Rule.isTableLayer =
        (Node.elementsOf nodes).countP Rule.isTableLayer +
          (Node.elementsOf nodes).countP (·.hasName "table") :=
  ⟨layered_tables h, countP_layers h⟩

theorem postprocess_tables_nested :
    parse? "<div class=table-layer><table id=a><td><table></table></td></table></div>" =
        some [.element none "div" [⟨"class", "table-layer"⟩]
          [.element none "table" [⟨"id", "a"⟩]
            [.element none "td" [] [.element none "table" [] []]]]] ∧
      (Node.elementsOf (postprocess
        [.element none "div" [⟨"class", "table-layer"⟩]
          [.element none "table" [⟨"id", "a"⟩]
            [.element none "td" [] [.element none "table" [] []]]]]).1).countP
        Rule.isTableLayer = 3 := by
  have h : parse? "<div class=table-layer><table id=a><td><table></table></td></table></div>" =
      some [.element none "div" [⟨"class", "table-layer"⟩]
        [.element none "table" [⟨"id", "a"⟩]
          [.element none "td" [] [.element none "table" [] []]]]] := rfl
  exact ⟨h, (postprocess_tables h).2.trans (by decide)⟩

end CmsMarkup
