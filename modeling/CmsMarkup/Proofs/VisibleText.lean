import CmsMarkup.Proofs.Passes

/-! The visible text of a page without its white space. Nothing of it is lost or moved; what
is added are hidden strings that come first in `code` and are stripped to plain text. -/

namespace CmsMarkup

open Html

def ink (s : String) : List Char := s.toList.filter (!isBlank ·)

theorem filter_dropWhile (p : Char → Bool) (cs : List Char) :
    (cs.dropWhile p).filter (!p ·) = cs.filter (!p ·) := by
  induction cs with
  | nil => rfl
  | cons c cs ih =>
    cases hc : p c with
    | true => simpa [hc] using ih
    | false => simp [hc]

theorem ink_strip (s : String) : ink (strip s) = ink s := by
  rw [ink, strip, String.toList_ofList, dropEnds, List.filter_reverse, filter_dropWhile,
    List.filter_reverse, List.reverse_reverse, filter_dropWhile, ink]

@[simp] theorem ink_empty : ink "" = [] := rfl

@[simp] theorem ink_append (s t : String) : ink (s ++ t) = ink s ++ ink t := by
  rw [ink, String.toList_append, List.filter_append]
  rfl

theorem ink_visibleTexts (nodes : List Node) :
    ink (Node.visibleTexts nodes) = nodes.flatMap fun n => ink n.visibleText := by
  simp only [ink, Node.visibleTexts_toList, List.filter_flatMap]

/-- One text is another, in its order, with `extra` put in. -/
structure Adds (extra before after : List Char) : Prop where
  sublist : before.Sublist after
  perm : after.Perm (before ++ extra)

namespace Adds

theorem refl (cs : List Char) : Adds [] cs cs := ⟨.refl cs, by rw [List.append_nil]⟩

theorem of_nil (cs : List Char) : Adds cs [] cs := ⟨List.nil_sublist cs, .refl cs⟩

theorem append {extra before after extra' before' after' : List Char}
    (h : Adds extra before after) (h' : Adds extra' before' after') :
    Adds (extra ++ extra') (before ++ before') (after ++ after') := by
  refine ⟨h.sublist.append h'.sublist, (h.perm.append h'.perm).trans ?_⟩
  simp only [List.append_assoc]
  exact (List.perm_append_comm_assoc extra before' extra').append_left before

theorem trans {extra extra' before between after : List Char}
    (h : Adds extra before between) (h' : Adds extra' between after) :
    Adds (extra' ++ extra) before after := by
  refine ⟨h.sublist.trans h'.sublist, h'.perm.trans ((h.perm.append_right extra').trans ?_)⟩
  rw [List.append_assoc]
  exact List.perm_append_comm.append_left before

theorem eq_iff {extra before after : List Char} (h : Adds extra before after) :
    after = before ↔ extra = [] := by
  have hl : after.length = before.length + extra.length := by
    rw [h.perm.length_eq, List.length_append]
  constructor
  · rintro rfl
    exact List.length_eq_zero_iff.mp (by omega)
  · rintro rfl
    exact (h.sublist.eq_of_length (by simpa using hl.symm)).symm

end Adds

namespace Rule

/-- The leading string that is hidden and becomes plain text when it is stripped. -/
def unhidden : List Node → List Char
  | .text kind s :: _ =>
    if kind = .plain ∨ kind = .cdata ∨ kind = .comment ∨ strip s = s then [] else ink s
  | _ => []

def revealed (n : Node) : List Char := if n.hasName "code" then unhidden n.children else []

theorem stripLeading_adds (nodes : List Node) :
    Adds (unhidden nodes) (ink (Node.visibleTexts nodes))
      (ink (Node.visibleTexts (stripLeading nodes))) := by
  cases nodes with
  | nil => exact .refl _
  | cons n rest =>
    cases n with
    | element => exact .refl _
    | text kind s =>
      by_cases hkeep : kind = .comment ∨ strip s = s
      · have hs : stripLeading (.text kind s :: rest) = .text kind s :: rest := by
          simp [stripLeading, hkeep]
        have hu : unhidden (.text kind s :: rest) = [] := by
          rcases hkeep with h | h <;> simp [unhidden, h]
        rw [hs, hu]
        exact .refl _
      · have hs : stripLeading (.text kind s :: rest) = .text .plain (strip s) :: rest := by
          simp [stripLeading, hkeep]
        rw [hs]
        simp only [not_or] at hkeep
        -- What was visible only loses blanks; what was hidden is all new.
        by_cases hv : kind = .plain ∨ kind = .cdata
        · rcases hv with hv | hv <;>
            simp [unhidden, hv, Node.visibleTexts, Node.visibleText, ink_strip, Adds.refl]
        · have hh := (Adds.of_nil (ink s)).append (.refl (ink (Node.visibleTexts rest)))
          simp only [not_or] at hv
          simpa [unhidden, hv, hkeep, Node.visibleTexts, Node.visibleText, ink_strip] using hh

theorem isElement_fixNode (n : Node) : (fixNode n).1.isElement = n.isElement := by
  cases n with
  | text kind s => rfl
  | element number name attributes children =>
    obtain ⟨attributes', children', he, _⟩ := rewritten_element number name attributes children
    rw [fixNode_eq, he]
    split_ifs <;> rfl

theorem unhidden_fixNodes (children : List Node) :
    unhidden (fixNodes children).1 = unhidden children := by
  cases children with
  | nil => rfl
  | cons n rest =>
    cases n with
    | text kind s => rfl
    | element number name attributes inner =>
      have he := isElement_fixNode (.element number name attributes inner)
      rw [fixNodes_eq_map, List.map_cons]
      cases hn : (fixNode (.element number name attributes inner)).1 with
      | text kind s => simp [hn] at he
      | element => rfl

theorem visibleText_rewritten (number : Option Nat) (name : String) (attributes : List Attribute)
    (children : List Node) :
    (rewritten (.element number name attributes children)).visibleText =
      Node.visibleTexts
        (if name = "code" then stripLeading (fixNodes children).1 else (fixNodes children).1) := by
  have hc := ofElement?_eq_some_iff .code rfl name children
  rw [rewritten]
  cases hk : RuleKind.ofElement? name children with
  | none => simp_all [Node.visibleText]
  | some kind => cases kind <;> simp_all [Node.visibleText]

theorem rewritten_adds (number : Option Nat) (name : String) (attributes : List Attribute)
    {children : List Node} {extra : List Char}
    (h : Adds extra (ink (Node.visibleTexts children))
      (ink (Node.visibleTexts (fixNodes children).1))) :
    Adds (revealed (.element number name attributes children) ++ extra)
      (ink (Node.visibleTexts children))
      (ink (rewritten (.element number name attributes children)).visibleText) := by
  rw [visibleText_rewritten]
  by_cases hc : name = "code"
  · have hs := stripLeading_adds (fixNodes children).1
    rw [unhidden_fixNodes] at hs
    simpa [revealed, hc, Node.children] using h.trans hs
  · simpa [revealed, hc] using h

theorem fixNodes_adds_of_forall {nodes : List Node}
    (h : ∀ n ∈ nodes, Adds ((Node.elements n).flatMap revealed) (ink n.visibleText)
      (ink (fixNode n).1.visibleText)) :
    Adds ((Node.elementsOf nodes).flatMap revealed) (ink (Node.visibleTexts nodes))
      (ink (Node.visibleTexts (fixNodes nodes).1)) := by
  induction nodes with
  | nil => exact .refl _
  | cons n rest ih =>
    have hn := h n List.mem_cons_self
    have hrest := ih fun m hm => h m (List.mem_cons_of_mem _ hm)
    simpa [Node.elementsOf, Node.visibleTexts, fixNodes] using hn.append hrest

theorem fixNode_adds {n : Node} (h : ImagesEmpty [n]) :
    Adds ((Node.elements n).flatMap revealed) (ink n.visibleText)
      (ink (fixNode n).1.visibleText) := by
  induction n with
  | text kind s => exact .refl _
  | element number name attributes children ih =>
    have hempty := h.children
    by_cases hi : name = "img"
    · subst hi
      rw [hempty.1 rfl]
      exact .refl _
    · have hinner := fixNodes_adds_of_forall fun n hn => ih n hn (hempty.2.of_mem hn)
      have hown := rewritten_adds number name attributes hinner
      rw [Node.elements, List.flatMap_cons, Node.visibleText, fixNode_eq]
      by_cases ht : name = "table"
      · simpa [ht, wrapTable, Node.visibleText, Node.visibleTexts] using hown
      · simpa [ht, hi] using hown

theorem fixNodes_adds {nodes : List Node} (h : ImagesEmpty nodes) :
    Adds ((Node.elementsOf nodes).flatMap revealed) (ink (Node.visibleTexts nodes))
      (ink (Node.visibleTexts (fixNodes nodes).1)) :=
  fixNodes_adds_of_forall fun _ hn => fixNode_adds (h.of_mem hn)

end Rule

namespace ImageGrid

def textInk : Node → List Char
  | .text kind s => ink (Node.visibleText (.text kind s))
  | .element .. => []

theorem ink_visibleText (n : Node) (outer : List Node) :
    ink n.visibleText = (staying outer [n]).flatMap (textInk ·.node) := by
  induction n generalizing outer with
  | text kind s =>
    rw [staying_text]
    split_ifs with hb
    · have hs : ink s = [] := by simpa [ink, Node.isBlankText] using hb
      by_cases hv : kind = .plain ∨ kind = .cdata <;> simp [Node.visibleText, hv, hs]
    · simp [textInk]
  | element number name attributes children ih =>
    have hself : (if name == "p" then []
        else [(⟨.element number name attributes children, outer⟩ : Placed)]).flatMap
          (textInk ·.node) = [] := by
      split_ifs <;> rfl
    rw [staying_element, List.flatMap_append, hself, List.nil_append, staying_eq_flatMap,
      List.flatMap_assoc, Node.visibleText, ink_visibleTexts]
    exact List.flatMap_congr fun n hn => ih n hn _

theorem ink_visibleTexts_staying (nodes : List Node) :
    ink (Node.visibleTexts nodes) = (staying [] nodes).flatMap (textInk ·.node) := by
  rw [ink_visibleTexts, staying_eq_flatMap, List.flatMap_assoc]
  exact List.flatMap_congr fun n _ => ink_visibleText n []

theorem ink_lift (nodes : List Node) :
    ink (Node.visibleTexts (lift nodes)) = ink (Node.visibleTexts nodes) := by
  have hlifted (n : Node) : textInk (lifted n) = textInk n := by
    cases n <;> rfl
  rw [ink_visibleTexts_staying, ink_visibleTexts_staying]
  exact flatMap_eq_of_forall₂ (staying_lift nodes) fun o o' ho => by rw [ho.node, hlifted]

end ImageGrid

namespace CodeFence

theorem revealed_relabelled {n m : Node} (h : Relabelled n m) :
    Rule.revealed m = Rule.revealed n := by
  unfold Rule.revealed
  rw [h.hasName_eq]
  cases h with
  | text => rfl
  | element kept below =>
    cases below with
    | nil => rfl
    | cons hn _ => cases hn <;> rfl

theorem revealed_normalizeNodes (nodes : List Node) :
    (Node.elementsOf (normalizeNodes nodes)).flatMap Rule.revealed =
      (Node.elementsOf nodes).flatMap Rule.revealed := by
  rw [← Node.placedElements_map_node [], ← Node.placedElements_map_node [] nodes,
    List.flatMap_map, List.flatMap_map]
  exact flatMap_eq_of_forall₂ (placedElements_relabelled nodes)
    fun o o' ho => revealed_relabelled ho.node

end CodeFence

/-- The visible text of a page, white space apart, is found in the result in its order, and
what the result has more are the hidden strings that lead `code` elements and are stripped;
so it is unchanged exactly when no page element has such a string. -/
theorem postprocess_visibleText {text : String} {nodes : List Node}
    (h : parse? text = some nodes) :
    (ink (Node.visibleTexts nodes)).Sublist (ink (Node.visibleTexts (postprocess nodes).1)) ∧
      (ink (Node.visibleTexts (postprocess nodes).1)).Perm
        (ink (Node.visibleTexts nodes) ++ (Node.elementsOf nodes).flatMap Rule.revealed) ∧
      (ink (Node.visibleTexts (postprocess nodes).1) = ink (Node.visibleTexts nodes) ↔
        ∀ n ∈ Node.elementsOf nodes, Rule.revealed n = []) := by
  have ha := Rule.fixNodes_adds (imagesEmpty_normalizeNodes h)
  rw [CodeFence.revealed_normalizeNodes, CodeFence.visibleTexts_normalizeNodes] at ha
  rw [postprocess_nodes, ImageGrid.ink_lift]
  exact ⟨ha.sublist, ha.perm, ha.eq_iff.trans List.flatMap_eq_nil_iff⟩

theorem postprocess_visibleText_of_code :
    parse? "<p>a <img></p><code> b </code>" =
        some [.element none "p" [] [.text .plain "a ", .element none "img" [] []],
          .element none "code" [] [.text .plain " b "]] ∧
      ink (Node.visibleTexts (postprocess
        [.element none "p" [] [.text .plain "a ", .element none "img" [] []],
          .element none "code" [] [.text .plain " b "]]).1) = ['a', 'b'] := by
  have h : parse? "<p>a <img></p><code> b </code>" =
      some [.element none "p" [] [.text .plain "a ", .element none "img" [] []],
        .element none "code" [] [.text .plain " b "]] := rfl
  exact ⟨h, (postprocess_visibleText h).2.2.mpr (by decide)⟩

/-- A processing instruction shows once it is stripped. -/
theorem instruction_shown_in_code :
    parse? "<code><? x ></code>" =
        some [.element none "code" [] [.text .instruction " x "]] ∧
      ink (Node.visibleTexts [.element none "code" [] [.text .instruction " x "]]) = [] ∧
      ink (Node.visibleTexts
        (postprocess [.element none "code" [] [.text .instruction " x "]]).1) = ['x'] :=
  ⟨rfl, by decide, by decide⟩

end CmsMarkup
