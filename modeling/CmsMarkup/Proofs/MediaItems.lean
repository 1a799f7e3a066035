import CmsMarkup.Proofs.Passes

/-! Images and media items. Every image of a page gives one new media item in its two
wrappers, at its place among the items that were there before. -/

namespace CmsMarkup

open Html

namespace Rule

def isMediaSource (n : Node) : Bool := n.hasName "img" || n.hasName Convention.mediaName

/-- The media item that an image or an old media item of a page becomes. -/
inductive Embedded : Node → Placed → Prop
  | image {number : Option Nat} {attributes : List Attribute} {children : List Node} {alt : String}
      (halt : alt = (Attribute.find? "alt" attributes).getD "") (around : List Node) :
      Embedded (.element number "img" attributes children)
        ⟨mediaItem alt, gallery alt :: grid alt :: around⟩
  | kept {number : Option Nat} {attributes : List Attribute} {children inner : List Node}
      (around : List Node) :
      Embedded (.element number Convention.mediaName attributes children)
        ⟨.element number Convention.mediaName attributes inner, around⟩

theorem ofElement?_media (children : List Node) :
    RuleKind.ofElement? Convention.mediaName children = none := by
  simp [RuleKind.ofElement?, Convention.headingNames, Convention.mediaName]

theorem embedded_of_follows {n : Node} {o o' : Placed} (hn : isMediaSource n = true)
    (hr : CodeFence.Relabelled n o.node) (hf : ImageGrid.Follows (successor o) o') :
    Embedded n o' := by
  obtain ⟨m, outer⟩ := o
  obtain ⟨m', around⟩ := o'
  cases hr with
  | text => simp [isMediaSource] at hn
  | @element number name attributes relabelled children inner kept below =>
    by_cases hi : name = "img"
    · subst hi
      obtain rfl := kept (by decide) (by decide)
      obtain ⟨alt, halt⟩ : ∃ alt, alt = (Attribute.find? "alt" relabelled).getD "" := ⟨_, rfl⟩
      have hs : successor ⟨.element number "img" relabelled inner, outer⟩ =
          ⟨mediaItem alt, gallery alt :: grid alt :: outer.flatMap enclosing⟩ := by
        rw [halt]
        rfl
      rw [hs] at hf
      obtain ⟨rest, rfl, hrest⟩ := ImageGrid.around_of_remaining_cons hf.ancestors rfl
      obtain ⟨rest, rfl, _⟩ := ImageGrid.around_of_remaining_cons hrest rfl
      obtain rfl : m' = mediaItem alt := hf.node
      exact .image halt rest
    · have hm : name = Convention.mediaName := by simpa [isMediaSource, hi] using hn
      subst hm
      obtain rfl := kept (by decide) (by decide)
      have hs : successor ⟨.element number Convention.mediaName relabelled inner, outer⟩ =
          ⟨rewritten (.element number Convention.mediaName relabelled inner),
            outer.flatMap enclosing⟩ := rfl
      rw [hs, rewritten_of_no_rule (ofElement?_media inner)] at hf
      obtain rfl := hf.node
      exact .kept around

end Rule

theorem postprocess_no_img {text : String} {nodes : List Node} (h : parse? text = some nodes) :
    ∀ n ∈ Node.elementsOf (postprocess nodes).1, n.hasName "img" = false := by
  have hnone (o : Placed) : (Rule.images o).filter (·.node.hasName "img") =
      if false then [Rule.successor o] else [] := by
    have hs : (Rule.successor o).node.hasName "img" = false := by
      rw [Rule.hasName_successor]
      cases o.node.hasName "img" <;> rfl
    rw [Rule.images_filter_hasName (by decide), hs]
  have ht := trace_elements h (p := fun _ => false) (fun _ _ _ => rfl) hnone
    (ImageGrid.stays_of_hasName (by decide)) (fun n => ImageGrid.hasName_lifted n _)
  rw [List.filter_false, List.forall₂_nil_left_iff, List.filter_eq_nil_iff] at ht
  rw [Node.forall_mem_elementsOf_iff []]
  exact fun o ho => Bool.eq_false_iff.mpr (ht o ho)

/-- No image is left, and the images and media items of a page are, in their order, the media
items of the result: each image in the two wrappers of its own, each old item with its
attributes. -/
theorem postprocess_media {text : String} {nodes : List Node} (h : parse? text = some nodes) :
    (∀ n ∈ Node.elementsOf (postprocess nodes).1, n.hasName "img" = false) ∧
      List.Forall₂ Rule.Embedded ((Node.elementsOf nodes).filter Rule.isMediaSource)
        ((Node.placedElements [] (postprocess nodes).1).filter
          (·.node.hasName Convention.mediaName)) := by
  refine ⟨postprocess_no_img h, ?_⟩
  have hsource (n m : Node) (hr : CodeFence.Relabelled n m) :
      Rule.isMediaSource m = Rule.isMediaSource n := by
    simp only [Rule.isMediaSource, hr.hasName_eq]
  have hitem (o : Placed) : (Rule.images o).filter (·.node.hasName Convention.mediaName) =
      if Rule.isMediaSource o.node then [Rule.successor o] else [] := by
    rw [Rule.images_filter_hasName (by decide), Rule.hasName_successor, Rule.isMediaSource]
    cases o.node.hasName "img" <;> rfl
  have ht := trace_elements h hsource hitem
    (ImageGrid.stays_of_hasName (by decide)) (fun n => ImageGrid.hasName_lifted n _)
  exact ht.imp fun n o' ⟨_, hn, o, hr, hf⟩ => Rule.embedded_of_follows hn hr hf

theorem postprocess_media_in_heading :
    parse? "<h1><img alt=a></h1><drupal-entity id=b></drupal-entity>" =
        some [.element none "h1" [] [.element none "img" [⟨"alt", "a"⟩] []],
          .element none "drupal-entity" [⟨"id", "b"⟩] []] ∧
      List.Forall₂ Rule.Embedded
        [.element none "img" [⟨"alt", "a"⟩] [], .element none "drupal-entity" [⟨"id", "b"⟩] []]
        ((Node.placedElements [] (postprocess
          [.element none "h1" [] [.element none "img" [⟨"alt", "a"⟩] []],
            .element none "drupal-entity" [⟨"id", "b"⟩] []]).1).filter
          (·.node.hasName Convention.mediaName)) := by
  have h : parse? "<h1><img alt=a></h1><drupal-entity id=b></drupal-entity>" =
      some [.element none "h1" [] [.element none "img" [⟨"alt", "a"⟩] []],
        .element none "drupal-entity" [⟨"id", "b"⟩] []] := rfl
  exact ⟨h, (postprocess_media h).2⟩

end CmsMarkup
