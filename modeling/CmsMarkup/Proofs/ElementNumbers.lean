import CmsMarkup.Html.Tree
import CmsMarkup.Rule.Single
import CmsMarkup.Proofs.RuleOrder
import Mathlib.Data.List.Nodup

/-! Numbers of elements. They count a tree in document order, so two parts of it never share
one, and the rules do the same with a tree that has numbers as with one that has none. -/

namespace CmsMarkup

open Html

namespace Html.Node

/-- Numbered in document order from `k` on. -/
def Counted (k : Nat) (nodes : List Node) : Prop :=
  (elementsOf nodes).map number? = (List.range' k (elementsOf nodes).length).map some

theorem elementsOf_append (nodes more : List Node) :
    elementsOf (nodes ++ more) = elementsOf nodes ++ elementsOf more := by
  simp only [elementsOf_eq_flatMap, List.flatMap_append]

theorem elementsOf_singleton (n : Node) : elementsOf [n] = elements n := by
  simp [elementsOf]

theorem counted_append {k : Nat} {nodes more : List Node} :
    Counted k (nodes ++ more) ↔
      Counted k nodes ∧ Counted (k + (elementsOf nodes).length) more := by
  simp only [Counted, elementsOf_append, List.map_append, List.length_append,
    ← List.range'_append_1]
  exact ⟨fun h => List.append_inj h (by simp), fun h => by rw [h.1, h.2]⟩

theorem counted_cons {k : Nat} {n : Node} {rest : List Node} :
    Counted k (n :: rest) ↔ Counted k [n] ∧ Counted (k + (elements n).length) rest := by
  have h := @counted_append k [n] rest
  rwa [elementsOf_singleton] at h

theorem counted_element {k : Nat} {number : Option Nat} {name : String}
    {attributes : List Attribute} {children : List Node} :
    Counted k [.element number name attributes children] ↔
      number = some k ∧ Counted (k + 1) children := by
  simp [Counted, elementsOf_singleton, elements, number?, List.range'_succ]

theorem Counted.bounds {k : Nat} {nodes : List Node} (h : Counted k nodes) {e : Node}
    (he : e ∈ elementsOf nodes) :
    ∃ j, e.number? = some j ∧ k ≤ j ∧ j < k + (elementsOf nodes).length := by
  have hm := List.mem_map_of_mem (f := number?) he
  rw [h] at hm
  obtain ⟨j, hj, he⟩ := List.mem_map.mp hm
  rw [List.mem_range'_1] at hj
  exact ⟨j, he.symm, hj⟩

theorem Counted.of_mem {k : Nat} {nodes : List Node} (h : Counted k nodes) {n : Node}
    (hn : n ∈ nodes) : ∃ i, Counted i [n] := by
  induction nodes generalizing k with
  | nil => cases hn
  | cons m rest ih =>
    obtain ⟨hm, hrest⟩ := counted_cons.mp h
    rcases List.mem_cons.mp hn with rfl | hn
    · exact ⟨k, hm⟩
    · exact ih hrest hn

theorem Counted.unique {k : Nat} {nodes : List Node} (h : Counted k nodes) {e e' : Node}
    (he : e ∈ elementsOf nodes) (he' : e' ∈ elementsOf nodes) (hn : e.number? = e'.number?) :
    e = e' := by
  have hd : ((elementsOf nodes).map number?).Nodup := by
    rw [h]
    exact List.Nodup.map (fun _ _ => Option.some.inj) List.nodup_range'
  exact List.inj_on_of_nodup_map hd he he' hn

theorem numberedFrom_cons (k : Nat) (n : Node) (rest : List Node) :
    numberedFrom k (n :: rest) =
      ((numbered k n).1 :: (numberedFrom (numbered k n).2 rest).1,
        (numberedFrom (numbered k n).2 rest).2) := rfl

theorem numbered_element (k : Nat) (number : Option Nat) (name : String)
    (attributes : List Attribute) (children : List Node) :
    numbered k (.element number name attributes children) =
      (.element (some k) name attributes (numberedFrom (k + 1) children).1,
        (numberedFrom (k + 1) children).2) := rfl

theorem numberedFrom_counted_of_forall {nodes : List Node}
    (h : ∀ n ∈ nodes, ∀ k, Counted k [(numbered k n).1] ∧
      (numbered k n).2 = k + (elements (numbered k n).1).length) (k : Nat) :
    Counted k (numberedFrom k nodes).1 ∧
      (numberedFrom k nodes).2 = k + (elementsOf (numberedFrom k nodes).1).length := by
  induction nodes generalizing k with
  | nil => exact ⟨rfl, rfl⟩
  | cons n rest ih =>
    have hn := h n List.mem_cons_self k
    have hrest := ih (fun m hm => h m (List.mem_cons_of_mem _ hm)) (numbered k n).2
    rw [numberedFrom_cons]
    refine ⟨counted_cons.mpr ⟨hn.1, hn.2 ▸ hrest.1⟩, ?_⟩
    rw [hrest.2, elementsOf, List.length_append]
    omega

theorem numbered_counted (n : Node) (k : Nat) : Counted k [(numbered k n).1] ∧
    (numbered k n).2 = k + (elements (numbered k n).1).length := by
  induction n generalizing k with
  | text kind s => exact ⟨rfl, rfl⟩
  | element number name attributes children ih =>
    have hc := numberedFrom_counted_of_forall ih (k + 1)
    rw [numbered_element]
    refine ⟨counted_element.mpr ⟨rfl, hc.1⟩, ?_⟩
    rw [hc.2, elements, List.length_cons]
    omega

theorem numberedFrom_counted (k : Nat) (nodes : List Node) :
    Counted k (numberedFrom k nodes).1 ∧
      (numberedFrom k nodes).2 = k + (elementsOf (numberedFrom k nodes).1).length :=
  numberedFrom_counted_of_forall (fun n _ => numbered_counted n) k

/-! ### Trees without numbers -/

mutual

def unnumbered : Node → Node
  | .text kind s => .text kind s
  | .element _ name attributes children => .element none name attributes (unnumberedOf children)

def unnumberedOf : List Node → List Node
  | [] => []
  | n :: rest => unnumbered n :: unnumberedOf rest

end

theorem unnumberedOf_eq_map (nodes : List Node) : unnumberedOf nodes = nodes.map unnumbered := by
  induction nodes with
  | nil => rfl
  | cons n rest ih => rw [unnumberedOf, ih, List.map_cons]

theorem unnumberedOf_of_forall {nodes : List Node} (h : ∀ n ∈ nodes, n.unnumbered = n) :
    unnumberedOf nodes = nodes := by
  rw [unnumberedOf_eq_map, List.map_congr_left h, List.map_id']

theorem unnumbered_numbered (n : Node) (k : Nat) :
    unnumbered (numbered k n).1 = unnumbered n := by
  induction n generalizing k with
  | text kind s => rfl
  | element number name attributes children ih =>
    have hc : ∀ nodes ⊆ children, ∀ k,
        unnumberedOf (numberedFrom k nodes).1 = unnumberedOf nodes := by
      intro nodes hnodes
      induction nodes with
      | nil => exact fun _ => rfl
      | cons n rest ihrest =>
        intro k
        rw [numberedFrom_cons, unnumberedOf, unnumberedOf, ih n (hnodes List.mem_cons_self),
          ihrest fun m hm => hnodes (List.mem_cons_of_mem _ hm)]
    rw [numbered_element, unnumbered, unnumbered, hc children (List.Subset.refl _)]

theorem unnumberedOf_numberedFrom (nodes : List Node) (k : Nat) :
    unnumberedOf (numberedFrom k nodes).1 = unnumberedOf nodes := by
  induction nodes generalizing k with
  | nil => rfl
  | cons n rest ih =>
    rw [numberedFrom_cons, unnumberedOf, unnumberedOf, unnumbered_numbered, ih]

theorem elements_unnumbered (n : Node) : elements (unnumbered n) = (elements n).map unnumbered := by
  induction n with
  | text kind s => rfl
  | element number name attributes children ih =>
    rw [unnumbered, elements, elements, List.map_cons, unnumbered, elementsOf_eq_flatMap,
      elementsOf_eq_flatMap, unnumberedOf_eq_map, List.flatMap_map, List.map_flatMap]
    exact congrArg _ (List.flatMap_congr fun n hn => ih n hn)

theorem elementsOf_unnumberedOf (nodes : List Node) :
    elementsOf (unnumberedOf nodes) = (elementsOf nodes).map unnumbered := by
  rw [elementsOf_eq_flatMap, elementsOf_eq_flatMap, unnumberedOf_eq_map, List.flatMap_map,
    List.map_flatMap]
  exact List.flatMap_congr fun n _ => elements_unnumbered n

@[simp] theorem hasName_unnumbered (n : Node) (name : String) :
    (unnumbered n).hasName name = n.hasName name := by
  cases n <;> rfl

theorem children_unnumbered (n : Node) : (unnumbered n).children = unnumberedOf n.children := by
  cases n <;> rfl

theorem visibleText_unnumbered (n : Node) : (unnumbered n).visibleText = n.visibleText := by
  induction n with
  | text kind s => rfl
  | element number name attributes children ih =>
    refine String.toList_inj.mp ?_
    rw [unnumbered, visibleText, visibleText, visibleTexts_toList, visibleTexts_toList,
      unnumberedOf_eq_map, List.flatMap_map]
    exact List.flatMap_congr fun n hn => congrArg _ (ih n hn)

theorem visibleTexts_unnumberedOf (nodes : List Node) :
    visibleTexts (unnumberedOf nodes) = visibleTexts nodes := by
  induction nodes with
  | nil => rfl
  | cons n rest ih => rw [unnumberedOf, visibleTexts, visibleTexts, visibleText_unnumbered, ih]

end Html.Node

/-! ### Rules and numbers -/

theorem RuleKind.ofElement?_unnumberedOf (name : String) (children : List Node) :
    ofElement? name (Node.unnumberedOf children) = ofElement? name children := by
  cases children <;> rfl

theorem RuleKind.of?_unnumbered (n : Node) : of? n.unnumbered = of? n := by
  cases n with
  | text kind s => rfl
  | element number name attributes children => exact ofElement?_unnumberedOf name children

namespace Rule

theorem stripLeading_unnumberedOf (nodes : List Node) :
    stripLeading (Node.unnumberedOf nodes) = Node.unnumberedOf (stripLeading nodes) := by
  cases nodes with
  | nil => rfl
  | cons n rest =>
    cases n with
    | element => rfl
    | text kind s =>
      simp only [Node.unnumberedOf, Node.unnumbered, stripLeading]
      split_ifs <;> rfl

theorem result_unnumbered (number : Option Nat) (name : String) (attributes : List Attribute)
    (source children : List Node) (kind : RuleKind) :
    result none name attributes (Node.unnumberedOf source) (Node.unnumberedOf children) kind =
      (result number name attributes source children kind).unnumbered := by
  cases kind with
  | heading => simp only [result, Node.visibleTexts_unnumberedOf, Node.unnumbered]
  | table => rfl
  | image => rfl
  | code => simp only [result, stripLeading_unnumberedOf, Node.unnumbered]

theorem fixNodes_unnumberedOf_of_forall {nodes : List Node}
    (h : ∀ n ∈ nodes, fixNode n.unnumbered = ((fixNode n).1.unnumbered, (fixNode n).2)) :
    fixNodes (Node.unnumberedOf nodes) =
      (Node.unnumberedOf (fixNodes nodes).1, (fixNodes nodes).2) := by
  induction nodes with
  | nil => rfl
  | cons n rest ih =>
    rw [List.forall_mem_cons] at h
    simp only [Node.unnumberedOf, fixNodes, h.1, ih h.2]

theorem fixNode_unnumbered (n : Node) :
    fixNode n.unnumbered = ((fixNode n).1.unnumbered, (fixNode n).2) := by
  induction n with
  | text kind s => rfl
  | element number name attributes children ih =>
    have hc := fixNodes_unnumberedOf_of_forall ih
    simp only [Node.unnumbered, fixNode, hc, RuleKind.ofElement?_unnumberedOf]
    cases RuleKind.ofElement? name children with
    | none => rfl
    | some kind => exact Prod.ext (result_unnumbered number name attributes _ _ kind) rfl

theorem fixNodes_unnumberedOf (nodes : List Node) :
    fixNodes (Node.unnumberedOf nodes) =
      (Node.unnumberedOf (fixNodes nodes).1, (fixNodes nodes).2) :=
  fixNodes_unnumberedOf_of_forall fun n _ => fixNode_unnumbered n

theorem imagesEmpty_unnumberedOf {nodes : List Node} :
    ImagesEmpty (Node.unnumberedOf nodes) ↔ ImagesEmpty nodes := by
  rw [ImagesEmpty, ImagesEmpty, Node.elementsOf_unnumberedOf, List.forall_mem_map]
  simp only [Node.hasName_unnumbered, Node.children_unnumbered, Node.unnumberedOf_eq_map,
    List.map_eq_nil_iff]

end Rule

/-! ### Trees that come from a text have no numbers -/

namespace Html

def Construction.Unnumbered (c : Construction) : Prop :=
  (∀ e ∈ c.opened, ∀ n ∈ e.children, n.unnumbered = n) ∧ ∀ n ∈ c.finished, n.unnumbered = n

namespace Construction.Unnumbered

variable {c : Construction}

theorem add (h : c.Unnumbered) {n : Node} (hn : n.unnumbered = n) : (c.add n).Unnumbered := by
  unfold Construction.add
  split
  · exact ⟨h.1, List.forall_mem_cons.mpr ⟨hn, h.2⟩⟩
  · rename_i e outer he
    have ho := List.forall_mem_cons.mp (he ▸ h.1)
    exact ⟨List.forall_mem_cons.mpr ⟨List.forall_mem_cons.mpr ⟨hn, ho.1⟩, ho.2⟩, h.2⟩

theorem flush (h : c.Unnumbered) : c.flush.Unnumbered := by
  unfold Construction.flush
  split
  · exact h
  · have hp : ({ c with pending := [] } : Construction).Unnumbered := h
    exact hp.add rfl

theorem closeOne (h : c.Unnumbered) : c.closeOne.Unnumbered := by
  unfold Construction.closeOne
  split
  · exact h
  · rename_i e outer he
    have ho := List.forall_mem_cons.mp (he ▸ h.1)
    have hp : ({ c with opened := outer } : Construction).Unnumbered := ⟨ho.2, h.2⟩
    refine hp.add ?_
    rw [Node.unnumbered, Node.unnumberedOf_of_forall fun n hn => ho.1 n (List.mem_reverse.mp hn)]

theorem closeMany (h : c.Unnumbered) (n : Nat) : (closeMany n c).Unnumbered := by
  induction n generalizing c with
  | zero => exact h
  | succ n ih => exact ih h.closeOne

theorem close (h : c.Unnumbered) (name : String) : (c.close name).Unnumbered := by
  unfold Construction.close
  split
  · exact h
  · exact h.closeMany _

theorem step (h : c.Unnumbered) (t : Token) : (c.step t).Unnumbered := by
  cases t with
  | character ch => exact h
  | special kind content => exact h.flush.add rfl
  | startTag name attributes closed =>
    have hf := h.flush
    have hopen : ({ c.flush with opened := ⟨name, attributes.map (.normalized name), []⟩ ::
        c.flush.opened } : Construction).Unnumbered :=
      ⟨List.forall_mem_cons.mpr ⟨nofun, hf.1⟩, hf.2⟩
    simp only [Construction.step]
    split_ifs
    · exact hopen.closeOne
    · exact hopen.closeOne
    · exact hopen.closeOne
    · exact hopen
  | endTag name =>
    simp only [Construction.step]
    split_ifs
    · exact h
    · exact h.flush.close name

theorem foldl (h : c.Unnumbered) (tokens : List Token) :
    (tokens.foldl Construction.step c).Unnumbered := by
  induction tokens generalizing c with
  | nil => exact h
  | cons t rest ih => exact ih (h.step t)

end Construction.Unnumbered

theorem parse?_unnumbered {text : String} {nodes : List Node} (h : parse? text = some nodes) :
    Node.unnumberedOf nodes = nodes := by
  obtain ⟨tokens, -, rfl⟩ := parse?_eq_some_iff.mp h
  have hempty : Construction.empty.Unnumbered := ⟨nofun, nofun⟩
  have hc := (hempty.foldl tokens).flush
  exact Node.unnumberedOf_of_forall fun n hn => (hc.closeMany _).2 n (List.mem_reverse.mp hn)

end Html

end CmsMarkup
