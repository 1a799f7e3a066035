import CmsMarkup.Html.Node
import Mathlib.Data.List.Forall2

/-! Trees as lists in document order, every node with the elements around it. A pass over
a tree is described by what it does to these lists. -/

namespace CmsMarkup.Html

/-- A node where it stands: the elements around it, innermost first. -/
structure Placed where
  node : Node
  ancestors : List Node

structure Placed.Rel (R : Node → Node → Prop) (o o' : Placed) : Prop where
  node : R o.node o'.node
  ancestors : List.Forall₂ R o.ancestors o'.ancestors

theorem forall₂_flatMap {α β γ δ : Type} {R : α → β → Prop} {S : γ → δ → Prop}
    {f : α → List γ} {g : β → List δ} {xs : List α} {ys : List β} (h : List.Forall₂ R xs ys)
    (hfg : ∀ x ∈ xs, ∀ y, R x y → List.Forall₂ S (f x) (g y)) :
    List.Forall₂ S (xs.flatMap f) (ys.flatMap g) := by
  induction h with
  | nil => exact .nil
  | cons hxy _ ih =>
    rw [List.flatMap_cons, List.flatMap_cons]
    exact List.rel_append (hfg _ List.mem_cons_self _ hxy)
      (ih fun x hx => hfg x (List.mem_cons_of_mem _ hx))

theorem forall₂_comp {α β γ : Type} {R : α → β → Prop} {S : β → γ → Prop} {xs : List α}
    {ys : List β} {zs : List γ} (h : List.Forall₂ R xs ys) (h' : List.Forall₂ S ys zs) :
    List.Forall₂ (fun x z => ∃ y, R x y ∧ S y z) xs zs := by
  induction h generalizing zs with
  | nil =>
    cases h'
    exact .nil
  | cons hxy _ ih =>
    cases h' with
    | cons hyz hrest => exact .cons ⟨_, hxy, hyz⟩ (ih hrest)

theorem flatMap_eq_of_forall₂ {α β γ : Type} {R : α → β → Prop} {f : α → List γ} {g : β → List γ}
    {xs : List α} {ys : List β} (h : List.Forall₂ R xs ys) (hfg : ∀ x y, R x y → g y = f x) :
    ys.flatMap g = xs.flatMap f := by
  induction h with
  | nil => rfl
  | cons hxy _ ih => rw [List.flatMap_cons, List.flatMap_cons, ih, hfg _ _ hxy]

theorem filter_flatMap_eq_map {α β : Type} {p : α → Bool} {q : β → Bool} {f : α → List β}
    {g : α → β} (h : ∀ x, (f x).filter q = if p x then [g x] else []) (xs : List α) :
    (xs.flatMap f).filter q = (xs.filter p).map g := by
  induction xs with
  | nil => rfl
  | cons x xs ih =>
    rw [List.flatMap_cons, List.filter_append, ih, h, List.filter_cons]
    split_ifs <;> rfl

theorem forall₂_map_of_mem {α β γ : Type} {R : α → β → Prop} {S : α → γ → Prop} {g : β → γ}
    {xs : List α} {ys : List β} (h : List.Forall₂ R xs ys)
    (hs : ∀ x ∈ xs, ∀ y, R x y → S x (g y)) : List.Forall₂ S xs (ys.map g) := by
  induction h with
  | nil => exact .nil
  | cons hxy _ ih =>
    exact .cons (hs _ List.mem_cons_self _ hxy) (ih fun x hx => hs x (List.mem_cons_of_mem _ hx))

theorem forall₂_of_mem {α β : Type} {R S : α → β → Prop} {xs : List α} {ys : List β}
    (h : List.Forall₂ R xs ys) (hs : ∀ x ∈ xs, ∀ y, R x y → S x y) : List.Forall₂ S xs ys := by
  have hm := forall₂_map_of_mem (g := id) h hs
  rwa [List.map_id] at hm

theorem forall₂_exists_left {α β : Type} {R : α → β → Prop} {xs : List α} {ys : List β}
    (h : List.Forall₂ R xs ys) {y : β} (hy : y ∈ ys) : ∃ x ∈ xs, R x y := by
  induction h with
  | nil => cases hy
  | cons hxy _ ih =>
    rcases List.mem_cons.mp hy with rfl | hy
    · exact ⟨_, List.mem_cons_self, hxy⟩
    · obtain ⟨x, hx, hr⟩ := ih hy
      exact ⟨x, List.mem_cons_of_mem _ hx, hr⟩

theorem forall_mem_iff_of_forall₂ {α β : Type} {R : α → β → Prop} {p : α → Prop} {q : β → Prop}
    {xs : List α} {ys : List β} (h : List.Forall₂ R xs ys)
    (hpq : ∀ x ∈ xs, ∀ y, R x y → (p x ↔ q y)) : (∀ x ∈ xs, p x) ↔ ∀ y ∈ ys, q y := by
  induction h with
  | nil => simp
  | cons hxy _ ih =>
    rw [List.forall_mem_cons, List.forall_mem_cons, hpq _ List.mem_cons_self _ hxy,
      ih fun x hx => hpq x (List.mem_cons_of_mem _ hx)]

namespace Node

def children : Node → List Node
  | .text .. => []
  | .element _ _ _ children => children

def isDiv (test : List String → Bool) : Node → Bool
  | .text .. => false
  | .element _ name attributes _ => name == "div" && test (Attribute.classes attributes)

mutual

def placed (outer : List Node) : Node → List Placed
  | .text kind s => [⟨.text kind s, outer⟩]
  | .element number name attributes children =>
    ⟨.element number name attributes children, outer⟩ ::
      placedOf (.element number name attributes children :: outer) children

def placedOf (outer : List Node) : List Node → List Placed
  | [] => []
  | n :: rest => placed outer n ++ placedOf outer rest

end

@[elab_as_elim, induction_eliminator]
theorem induction {motive : Node → Prop}
    (text : ∀ kind s, motive (.text kind s))
    (element : ∀ number name attributes children, (∀ n ∈ children, motive n) →
      motive (.element number name attributes children)) (n : Node) : motive n := by
  refine @Node.rec motive (fun nodes => ∀ n ∈ nodes, motive n) text element ?_ ?_ n
  · simp
  · intro n rest hn hrest m hm
    rcases List.mem_cons.mp hm with rfl | hm
    · exact hn
    · exact hrest m hm

@[simp] theorem isElement_text (kind : TextKind) (s : String) : (text kind s).isElement = false := rfl

@[simp] theorem isElement_element (number : Option Nat) (name : String)
    (attributes : List Attribute) (children : List Node) :
    (element number name attributes children).isElement = true := rfl

@[simp] theorem hasName_text (name : String) (kind : TextKind) (s : String) :
    (text kind s).hasName name = false := rfl

@[simp] theorem hasName_element (name : String) (number : Option Nat) (n : String)
    (attributes : List Attribute) (children : List Node) :
    (element number n attributes children).hasName name = (n == name) := rfl

theorem isElement_of_hasName {n : Node} {name : String} (h : n.hasName name = true) :
    n.isElement = true := by
  cases n with
  | text kind s => simp at h
  | element => rfl

theorem hasName_eq_false {n : Node} {name other : String} (h : n.hasName name = true)
    (hne : name ≠ other) : n.hasName other = false := by
  cases n with
  | text kind s => rfl
  | element number m attributes children =>
    have hm : m = name := by simpa using h
    simpa [hm] using hne

theorem hasName_of_isDiv {test : List String → Bool} {n : Node} (h : n.isDiv test = true) :
    n.hasName "div" = true := by
  cases n with
  | text kind s => simp [isDiv] at h
  | element number name attributes children =>
    simp only [isDiv, Bool.and_eq_true] at h
    exact h.1

theorem isDiv_eq_false {test : List String → Bool} {n : Node} {name : String}
    (h : n.hasName name = true) (hne : name ≠ "div") : n.isDiv test = false := by
  refine Bool.eq_false_iff.mpr fun hd => ?_
  have hdiv := hasName_of_isDiv hd
  rw [hasName_eq_false h hne] at hdiv
  cases hdiv

theorem placedOf_eq_flatMap (outer nodes : List Node) :
    placedOf outer nodes = nodes.flatMap (placed outer) := by
  induction nodes with
  | nil => rfl
  | cons n rest ih => rw [placedOf, ih, List.flatMap_cons]

theorem placedOf_append (outer nodes more : List Node) :
    placedOf outer (nodes ++ more) = placedOf outer nodes ++ placedOf outer more := by
  simp only [placedOf_eq_flatMap, List.flatMap_append]

theorem elementsOf_eq_flatMap (nodes : List Node) : elementsOf nodes = nodes.flatMap elements := by
  induction nodes with
  | nil => rfl
  | cons n rest ih => rw [elementsOf, ih, List.flatMap_cons]

theorem mem_elementsOf_of_mem {nodes : List Node} {n e : Node} (hn : n ∈ nodes)
    (he : e ∈ elements n) : e ∈ elementsOf nodes := by
  rw [elementsOf_eq_flatMap]
  exact List.mem_flatMap.mpr ⟨n, hn, he⟩

theorem mem_elements_of_child {number : Option Nat} {name : String} {attributes : List Attribute}
    {children : List Node} {n e : Node} (hn : n ∈ children) (he : e ∈ elements n) :
    e ∈ elements (.element number name attributes children) :=
  List.mem_cons_of_mem _ (mem_elementsOf_of_mem hn he)

theorem visibleTexts_toList (nodes : List Node) :
    (visibleTexts nodes).toList = nodes.flatMap fun n => (visibleText n).toList := by
  induction nodes with
  | nil => rfl
  | cons n rest ih => rw [visibleTexts, String.toList_append, ih, List.flatMap_cons]

def placedElements (outer nodes : List Node) : List Placed :=
  (placedOf outer nodes).filter (·.node.isElement)

@[simp] theorem placedElements_nil (outer : List Node) : placedElements outer [] = [] := rfl

theorem placedElements_cons (outer : List Node) (n : Node) (rest : List Node) :
    placedElements outer (n :: rest) = placedElements outer [n] ++ placedElements outer rest := by
  simp [placedElements, placedOf]

@[simp] theorem placedElements_text (outer : List Node) (kind : TextKind) (s : String) :
    placedElements outer [.text kind s] = [] := by
  simp [placedElements, placedOf, placed]

@[simp] theorem placedElements_element (outer : List Node) (number : Option Nat) (name : String)
    (attributes : List Attribute) (children : List Node) :
    placedElements outer [.element number name attributes children] =
      ⟨.element number name attributes children, outer⟩ ::
        placedElements (.element number name attributes children :: outer) children := by
  simp [placedElements, placedOf, placed, List.filter_cons]

theorem placedElements_eq_flatMap (outer nodes : List Node) :
    placedElements outer nodes = nodes.flatMap fun n => placedElements outer [n] := by
  induction nodes with
  | nil => rfl
  | cons n rest ih => rw [placedElements_cons, ih, List.flatMap_cons]

theorem placedElements_singleton_map_node (outer : List Node) (n : Node) :
    (placedElements outer [n]).map (·.node) = elements n := by
  induction n generalizing outer with
  | text kind s => rfl
  | element number name attributes children ih =>
    rw [placedElements_element, List.map_cons, elements, placedElements_eq_flatMap,
      elementsOf_eq_flatMap, List.map_flatMap]
    exact congrArg _ (List.flatMap_congr fun n hn => ih n hn _)

theorem placedElements_map_node (outer nodes : List Node) :
    (placedElements outer nodes).map (·.node) = elementsOf nodes := by
  rw [placedElements_eq_flatMap, elementsOf_eq_flatMap, List.map_flatMap]
  exact List.flatMap_congr fun n _ => placedElements_singleton_map_node outer n

theorem forall_mem_elementsOf_iff {nodes : List Node} {p : Node → Prop} (outer : List Node) :
    (∀ n ∈ elementsOf nodes, p n) ↔ ∀ o ∈ placedElements outer nodes, p o.node := by
  rw [← placedElements_map_node outer, List.forall_mem_map]

end Node

end CmsMarkup.Html
