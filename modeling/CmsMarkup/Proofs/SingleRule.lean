import CmsMarkup.Proofs.ElementNumbers

/-! One call of a rule. In the tree it puts what the rule makes in the place of the element; for
an image that was taken out before, it fails and leaves everything as it was. -/

namespace CmsMarkup

open Html

namespace Rule

/-- What a rule leaves in the place of an element. -/
def applied (kind : RuleKind) (n : Node) : Node :=
  match replacement? kind with
  | none => revise kind n
  | some replacement => replacement.of (revise kind n)

theorem applied_element (kind : RuleKind) (number : Option Nat) (name : String)
    (attributes : List Attribute) (children : List Node) :
    applied kind (.element number name attributes children) =
      result number name attributes children children kind := by
  cases kind <;> rfl

theorem revise_image (n : Node) : revise .image n = n := by
  cases n <;> rfl

end Rule

namespace Collected

theorem ofNodes_counted (nodes : List Node) : Node.Counted 0 (ofNodes nodes).nodes :=
  (Node.numberedFrom_counted 0 nodes).1

theorem ofNodes_count (nodes : List Node) :
    (ofNodes nodes).count = (Node.elementsOf (ofNodes nodes).nodes).length :=
  (Node.numberedFrom_counted 0 nodes).2.trans (Nat.zero_add _)

theorem ofNodes_numbers (nodes : List Node) :
    (Node.elementsOf (ofNodes nodes).nodes).map Node.number? =
      (List.range (ofNodes nodes).count).map some := by
  rw [ofNodes_counted, ofNodes_count, List.range_eq_range']

theorem unnumberedOf_ofNodes {text : String} {nodes : List Node} (h : parse? text = some nodes) :
    Node.unnumberedOf (ofNodes nodes).nodes = nodes :=
  (Node.unnumberedOf_numberedFrom nodes 0).trans (parse?_unnumbered h)

theorem unnumberedOf_fixup {text : String} {nodes : List Node} (h : parse? text = some nodes) :
    Node.unnumberedOf (fixup (ofNodes nodes).nodes).1 = (fixup nodes).1 := by
  have hfix := congrArg Prod.fst (Rule.fixNodes_unnumberedOf (ofNodes nodes).nodes)
  rw [unnumberedOf_ofNodes h] at hfix
  exact hfix.symm

theorem ofNodes_kinds (nodes : List Node) :
    (Node.elementsOf (ofNodes nodes).nodes).map RuleKind.of? =
      (Node.elementsOf nodes).map RuleKind.of? := by
  have hmap (nodes : List Node) : (Node.elementsOf nodes).map RuleKind.of? =
      (Node.elementsOf (Node.unnumberedOf nodes)).map RuleKind.of? := by
    rw [Node.elementsOf_unnumberedOf, List.map_map]
    exact List.map_congr_left fun n _ => (RuleKind.of?_unnumbered n).symm
  rw [hmap, ofNodes, Node.unnumberedOf_numberedFrom, ← hmap]

theorem ofNodes_imagesEmpty {nodes : List Node} (h : Rule.ImagesEmpty nodes) :
    Rule.ImagesEmpty (ofNodes nodes).nodes := by
  rwa [← Rule.imagesEmpty_unnumberedOf, ofNodes, Node.unnumberedOf_numberedFrom,
    Rule.imagesEmpty_unnumberedOf]

/-! ### Elements by their numbers -/

theorem find?_append (j : Nat) (nodes more : List Node) :
    find? j (nodes ++ more) = (find? j nodes).or (find? j more) := by
  rw [find?, Node.elementsOf_append, List.find?_append]
  rfl

theorem find?_element (j : Nat) (number : Option Nat) (name : String)
    (attributes : List Attribute) (children : List Node) :
    find? j [.element number name attributes children] =
      if number = some j then some (.element number name attributes children)
      else find? j children := by
  by_cases h : number = some j
  · simp [find?, Node.elementsOf_singleton, Node.elements, Node.number?, h]
  · simp [find?, Node.elementsOf_singleton, Node.elements, Node.number?, h]

theorem find?_eq_none_iff {j : Nat} {nodes : List Node} :
    find? j nodes = none ↔ ∀ e ∈ Node.elementsOf nodes, e.number? ≠ some j := by
  simp [find?]

theorem number?_of_find? {j : Nat} {nodes : List Node} {e : Node} (h : find? j nodes = some e) :
    e.number? = some j := by
  simpa using List.find?_some h

theorem find?_eq_none_of_counted {k j : Nat} {nodes : List Node} (h : Node.Counted k nodes)
    (hj : j < k ∨ k + (Node.elementsOf nodes).length ≤ j) : find? j nodes = none := by
  rw [find?_eq_none_iff]
  intro e he hn
  obtain ⟨i, hi, hlow, hhigh⟩ := h.bounds he
  rw [hn, Option.some.injEq] at hi
  omega

theorem replaceNodes_eq_map (j : Nat) (f : Node → Node) (nodes : List Node) :
    replaceNodes j f nodes = nodes.map (replaceNode j f) := by
  induction nodes with
  | nil => rfl
  | cons n rest ih => rw [replaceNodes, ih, List.map_cons]

theorem replaceNodes_append (j : Nat) (f : Node → Node) (nodes more : List Node) :
    replaceNodes j f (nodes ++ more) = replaceNodes j f nodes ++ replaceNodes j f more := by
  simp only [replaceNodes_eq_map, List.map_append]

theorem replaceNode_element (j : Nat) (f : Node → Node) (number : Option Nat) (name : String)
    (attributes : List Attribute) (children : List Node) :
    replaceNode j f (.element number name attributes children) =
      if number = some j then f (.element number name attributes children)
      else .element number name attributes (replaceNodes j f children) := by
  simp only [replaceNode, beq_iff_eq]

theorem replaceNode_eq_self {j : Nat} {f : Node → Node} {n : Node}
    (h : ∀ e ∈ Node.elements n, e.number? = some j → f e = e) : replaceNode j f n = n := by
  induction n with
  | text kind s => rfl
  | element number name attributes children ih =>
    have hc : replaceNodes j f children = children := by
      rw [replaceNodes_eq_map]
      exact (List.map_congr_left fun n hn => ih n hn fun e he =>
        h e (Node.mem_elements_of_child hn he)).trans (List.map_id' _)
    rw [replaceNode_element, hc]
    split_ifs with hnumber
    · exact h _ List.mem_cons_self hnumber
    · rfl

theorem replaceNodes_eq_self {j : Nat} {f : Node → Node} {nodes : List Node}
    (h : ∀ e ∈ Node.elementsOf nodes, e.number? = some j → f e = e) :
    replaceNodes j f nodes = nodes := by
  rw [replaceNodes_eq_map]
  exact (List.map_congr_left fun n hn => replaceNode_eq_self fun e he =>
    h e (Node.mem_elementsOf_of_mem hn he)).trans (List.map_id' _)

theorem replaceNodes_of_find?_eq_none {j : Nat} {nodes : List Node} (h : find? j nodes = none)
    (f : Node → Node) : replaceNodes j f nodes = nodes :=
  replaceNodes_eq_self fun e he hn => absurd hn (find?_eq_none_iff.mp h e he)

theorem any_removed_eq_false {j : Nat} {nodes : List Node} (h : find? j nodes = none) :
    nodes.any (·.number? == some j) = false := by
  rw [List.any_eq_false]
  intro n hn
  cases n with
  | text kind s => simp [Node.number?]
  | element number name attributes children =>
    have hm : Node.element number name attributes children ∈ Node.elementsOf nodes :=
      Node.mem_elementsOf_of_mem hn List.mem_cons_self
    simpa using find?_eq_none_iff.mp h _ hm

section

variable {c : Collected} {j : Nat} {e : Node}

/-- The state after the rule of an element that is in the tree. -/
def ruled (j : Nat) (e : Node) (c : Collected) : Collected :=
  match RuleKind.of? e with
  | none => c
  | some kind =>
    { c with
      nodes := replaceNodes j (Rule.applied kind) c.nodes
      removed := c.removed ++ if kind = .image then [e] else [] }

theorem call_of_found (hf : find? j c.nodes = some e) (hr : find? j c.removed = none) :
    c.call j = (.ok (RuleKind.of? e), c.ruled j e) := by
  have he : c.element? j = some e := by rw [element?, find?_append, hf, Option.some_or]
  have hany := any_removed_eq_false hr
  have hkeep (f : Node → Node) : replaceNodes j f c.removed = c.removed :=
    replaceNodes_of_find?_eq_none hr f
  unfold call
  rw [he]
  dsimp only
  cases hk : RuleKind.of? e with
  | none => simp [ruled, hk]
  | some kind =>
    have happlied : Rule.applied kind = fun n => Rule.applied kind n := rfl
    cases kind <;>
      simp [Rule.replacement?, hany, ruled, hk, change, hkeep, happlied, Rule.applied,
        Rule.revise_image]

/-- A rule fails outside the tree before it has changed anything: of the rules that put something
in the place of an element, only the one for images takes elements out of the tree. -/
theorem call_of_removed (hf : find? j c.nodes = none) (hr : find? j c.removed = some e)
    (he : RuleKind.of? e = some .image) (htop : e ∈ c.removed) :
    c.call j = (.error .notInTree, c) := by
  have hfound : c.element? j = some e := by rw [element?, find?_append, hf, hr, Option.none_or]
  have hany : c.removed.any (·.number? == some j) = true :=
    List.any_eq_true.mpr ⟨e, htop, by simp [number?_of_find? hr]⟩
  have hsame (nodes : List Node) : replaceNodes j (Rule.revise .image) nodes = nodes :=
    replaceNodes_eq_self fun e _ _ => Rule.revise_image e
  unfold call
  rw [hfound]
  simp [he, Rule.replacement?, hany, change, hsame]

theorem call_of_missing (hf : find? j c.nodes = none) (hr : find? j c.removed = none) :
    c.call j = (.error .noSuchElement, c) := by
  have hnone : c.element? j = none := by rw [element?, find?_append, hf, hr, Option.none_or]
  simp [call, hnone]

end

/-- The rules of some elements one after the other. A call that fails does not keep the next
ones from their turn. -/
def callAll : List Nat → Collected → List (Except SingleRuleError (Option RuleKind)) × Collected
  | [], c => ([], c)
  | j :: rest, c =>
    let (answer, c) := c.call j
    let (answers, c) := callAll rest c
    (answer :: answers, c)

end Collected

end CmsMarkup
