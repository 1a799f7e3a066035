import CmsMarkup.Proofs.Passes
import CmsMarkup.Proofs.SingleRule

/-! The rules as a walk over a tree that changes under it. A walk lists the children of an
element, applies the rule of each, and goes on inside it wherever it now stands. It meets the
elements of the page once each, in document order, and nothing that a rule has built. -/

namespace CmsMarkup

open Html

namespace Rule

/-- An element after its own rule, with the nodes inside it. -/
def settled (number : Option Nat) (name : String) (attributes : List Attribute)
    (source children : List Node) : Node :=
  match RuleKind.ofElement? name source with
  | some kind => result number name attributes source children kind
  | none => .element number name attributes children

theorem fixNode_element (number : Option Nat) (name : String) (attributes : List Attribute)
    (children : List Node) :
    (fixNode (.element number name attributes children)).1 =
      settled number name attributes children (fixNodes children).1 := by
  simp only [fixNode, settled]
  cases RuleKind.ofElement? name children <;> rfl

theorem fixNode_kinds (number : Option Nat) (name : String) (attributes : List Attribute)
    (children : List Node) :
    (fixNode (.element number name attributes children)).2 =
      (RuleKind.ofElement? name children).toList ++ (fixNodes children).2 := by
  simp only [fixNode]
  cases RuleKind.ofElement? name children <;> rfl

theorem isElement_result (number : Option Nat) (name : String) (attributes : List Attribute)
    (source children : List Node) (kind : RuleKind) :
    (result number name attributes source children kind).isElement = true := by
  cases kind <;> rfl

/-- The rules that are applied are those of the elements, each once and in their order. -/
theorem fixNodes_kinds (nodes : List Node) :
    (fixNodes nodes).2 = (Node.elementsOf nodes).filterMap RuleKind.of? := by
  have hnode (n : Node) : (fixNode n).2 = (Node.elements n).filterMap RuleKind.of? := by
    induction n with
    | text kind s => rfl
    | element number name attributes children ih =>
      have hc : (fixNodes children).2 = (Node.elementsOf children).filterMap RuleKind.of? := by
        induction children with
        | nil => rfl
        | cons n rest ihrest =>
          rw [List.forall_mem_cons] at ih
          rw [Node.elementsOf, List.filterMap_append, ← ih.1, ← ihrest ih.2]
          rfl
      rw [fixNode_kinds, hc, Node.elements, List.filterMap_cons, RuleKind.of?]
      cases RuleKind.ofElement? name children <;> rfl
  induction nodes with
  | nil => rfl
  | cons n rest ih =>
    rw [Node.elementsOf, List.filterMap_append, ← hnode, ← ih]
    rfl

end Rule

namespace Collected

def childrenOf (j : Nat) (c : Collected) : List Node :=
  ((c.element? j).map Node.children).getD []

/-- A walk over nodes that were listed before it began, with the rule of every element that it
meets. There is no way on where a call fails, or at an element that is not numbered. -/
inductive Walk : List Node → Collected → List (Option RuleKind × Nat) → Collected → Prop
  | nil (c : Collected) : Walk [] c [] c
  | text {kind : TextKind} {s : String} {rest : List Node} {c d : Collected}
      {visits : List (Option RuleKind × Nat)} (onward : Walk rest c visits d) :
      Walk (.text kind s :: rest) c visits d
  | element {j : Nat} {name : String} {attributes : List Attribute} {children rest : List Node}
      {kind : Option RuleKind} {c called done d : Collected}
      {inner more : List (Option RuleKind × Nat)} (call : c.call j = (.ok kind, called))
      (inside : Walk (called.childrenOf j) called inner done) (onward : Walk rest done more d) :
      Walk (.element (some j) name attributes children :: rest) c ((kind, j) :: (inner ++ more)) d

theorem Walk.append {nodes more : List Node} {c d e : Collected}
    {visits later : List (Option RuleKind × Nat)} (h : Walk nodes c visits d)
    (h' : Walk more d later e) : Walk (nodes ++ more) c (visits ++ later) e := by
  induction h with
  | nil c => exact h'
  | text _ ih => exact .text (ih h')
  | element call inside _ _ ih =>
    rw [List.cons_append, List.cons_append, List.append_assoc]
    exact .element call inside (ih h')

theorem Walk.unique {nodes : List Node} {c d d' : Collected}
    {visits visits' : List (Option RuleKind × Nat)} (h : Walk nodes c visits d)
    (h' : Walk nodes c visits' d') : visits' = visits ∧ d' = d := by
  induction h generalizing visits' d' with
  | nil c =>
    cases h'
    exact ⟨rfl, rfl⟩
  | text _ ih =>
    cases h' with
    | text onward => exact ih onward
  | element call _ _ ihinside ihonward =>
    cases h' with
    | element call' inside' onward' =>
      rw [call, Prod.mk.injEq, Except.ok.injEq] at call'
      obtain ⟨rfl, rfl⟩ := call'
      obtain ⟨rfl, rfl⟩ := ihinside inside'
      obtain ⟨rfl, rfl⟩ := ihonward onward'
      exact ⟨rfl, rfl⟩

/-- A walk is nothing but the calls on the elements that it meets. -/
theorem Walk.callAll {nodes : List Node} {c d : Collected}
    {visits : List (Option RuleKind × Nat)} (h : Walk nodes c visits d) :
    c.callAll (visits.map Prod.snd) = (visits.map fun v => .ok v.1, d) := by
  have happend (first second : List Nat) (c : Collected) : c.callAll (first ++ second) =
      ((c.callAll first).1 ++ ((c.callAll first).2.callAll second).1,
        ((c.callAll first).2.callAll second).2) := by
    induction first generalizing c with
    | nil => rfl
    | cons j first ih => simp only [List.cons_append, Collected.callAll, ih]
  induction h with
  | nil c => rfl
  | text _ ih => exact ih
  | element call _ _ ihinside ihonward =>
    simp only [List.map_cons, List.map_append, Collected.callAll, call, happend, ihinside, ihonward]

theorem Walk.stripLeading {nodes : List Node} {c d : Collected}
    {visits : List (Option RuleKind × Nat)} (h : Walk nodes c visits d) :
    Walk (Rule.stripLeading nodes) c visits d := by
  cases h with
  | nil c => exact .nil c
  | text onward =>
    simp only [Rule.stripLeading]
    split_ifs <;> exact .text onward
  | element call inside onward => exact .element call inside onward

/-! ### The place of some nodes in a tree -/

/-- A tree around a place for nodes, as far as the elements with certain numbers are concerned:
they stand in that place alone, and are changed there. -/
structure IsPlace (low high : Nat) (place : List Node → List Node) : Prop where
  found : ∀ j, low ≤ j → j < high → ∀ nodes, find? j (place nodes) = find? j nodes
  replaced : ∀ j, low ≤ j → j < high → ∀ f : Node → Node,
    (∀ n, n.isElement = true → (f n).isElement = true) →
    ∀ nodes, replaceNodes j f (place nodes) = place (replaceNodes j f nodes)

theorem find?_stripLeading (j : Nat) (nodes : List Node) :
    find? j (Rule.stripLeading nodes) = find? j nodes := by
  cases nodes with
  | nil => rfl
  | cons n rest =>
    cases n with
    | element => rfl
    | text kind s =>
      simp only [Rule.stripLeading]
      split_ifs <;> rfl

theorem replaceNodes_stripLeading (j : Nat) {f : Node → Node}
    (hf : ∀ n, n.isElement = true → (f n).isElement = true) (nodes : List Node) :
    replaceNodes j f (Rule.stripLeading nodes) = Rule.stripLeading (replaceNodes j f nodes) := by
  cases nodes with
  | nil => rfl
  | cons n rest =>
    cases n with
    | text kind s =>
      simp only [Rule.stripLeading, replaceNodes, replaceNode]
      split_ifs <;> rfl
    | element number name attributes children =>
      have he : (replaceNode j f (.element number name attributes children)).isElement = true := by
        rw [replaceNode_element]
        split_ifs
        · exact hf _ rfl
        · rfl
      simp only [replaceNodes]
      cases hn : replaceNode j f (.element number name attributes children) with
      | text kind s => simp [hn] at he
      | element => simp [Rule.stripLeading, replaceNodes, hn]

theorem isElement_applied {n : Node} (h : n.isElement = true) (kind : RuleKind) :
    (Rule.applied kind n).isElement = true := by
  cases n with
  | text k s => simp at h
  | element number name attributes children =>
    rw [Rule.applied_element]
    exact Rule.isElement_result ..

/-- The place inside an element whose rule has been applied. An image has no such place. -/
theorem isPlace_settled {k : Nat} {name : String} (hname : name ≠ "img")
    (attributes : List Attribute) (source : List Node) (high : Nat) :
    IsPlace (k + 1) high fun inner =>
      [Rule.settled (some k) name attributes source inner] := by
  have hkind : RuleKind.ofElement? name source ≠ some .image := fun h =>
    hname ((Rule.ofElement?_eq_some_iff .image rfl name source).mp h)
  have hk {j : Nat} (hj : k + 1 ≤ j) : k ≠ j := by omega
  refine ⟨fun j hj _ nodes => ?_, fun j hj _ f hf nodes => ?_⟩
  · simp only [Rule.settled]
    cases hr : RuleKind.ofElement? name source with
    | none => simp [find?_element, hk hj]
    | some kind =>
      cases kind with
      | image => exact absurd hr hkind
      | heading => simp [Rule.result, find?_element, hk hj]
      | table => simp [Rule.result, Rule.wrapTable, find?_element, hk hj]
      | code => simp [Rule.result, find?_element, hk hj, find?_stripLeading]
  · simp only [Rule.settled]
    cases hr : RuleKind.ofElement? name source with
    | none => simp [replaceNodes, replaceNode_element, hk hj]
    | some kind =>
      cases kind with
      | image => exact absurd hr hkind
      | heading => simp [Rule.result, replaceNodes, replaceNode_element, hk hj]
      | table => simp [Rule.result, Rule.wrapTable, replaceNodes, replaceNode_element, hk hj]
      | code =>
        simp [Rule.result, replaceNodes, replaceNode_element, hk hj, replaceNodes_stripLeading j hf]

theorem IsPlace.comp {low high : Nat} {outer inner : List Node → List Node}
    (ho : IsPlace low high outer) (hi : IsPlace low high inner) :
    IsPlace low high fun nodes => outer (inner nodes) :=
  ⟨fun j hl hh nodes => by rw [ho.found j hl hh, hi.found j hl hh],
    fun j hl hh f hf nodes => by rw [ho.replaced j hl hh f hf, hi.replaced j hl hh f hf]⟩

theorem IsPlace.mono {low low' high high' : Nat} {place : List Node → List Node}
    (h : IsPlace low high place) (hlow : low ≤ low') (hhigh : high' ≤ high) :
    IsPlace low' high' place :=
  ⟨fun j _ _ => h.found j (by omega) (by omega), fun j _ _ => h.replaced j (by omega) (by omega)⟩

theorem isPlace_before {low high : Nat} {after : List Node}
    (h : ∀ j, low ≤ j → j < high → find? j after = none) :
    IsPlace low high fun nodes => nodes ++ after :=
  ⟨fun j hl hh nodes => by rw [find?_append, h j hl hh, Option.or_none],
    fun j hl hh f _ nodes => by
      rw [replaceNodes_append, replaceNodes_of_find?_eq_none (h j hl hh)]⟩

theorem isPlace_after {low high : Nat} {before : List Node}
    (h : ∀ j, low ≤ j → j < high → find? j before = none) :
    IsPlace low high fun nodes => before ++ nodes :=
  ⟨fun j hl hh nodes => by rw [find?_append, h j hl hh, Option.none_or],
    fun j hl hh f _ nodes => by
      rw [replaceNodes_append, replaceNodes_of_find?_eq_none (h j hl hh)]⟩

/-! ### The walk over a page -/

def imagesOf (nodes : List Node) : List Node := (Node.elementsOf nodes).filter (·.hasName "img")

def visitsFrom (k : Nat) (nodes : List Node) : List (Option RuleKind × Nat) :=
  ((Node.elementsOf nodes).map RuleKind.of?).zipIdx k

theorem imagesOf_cons (n : Node) (rest : List Node) :
    imagesOf (n :: rest) = imagesOf [n] ++ imagesOf rest := by
  simp [imagesOf, Node.elementsOf]

theorem visitsFrom_cons (k : Nat) (n : Node) (rest : List Node) :
    visitsFrom k (n :: rest) =
      visitsFrom k [n] ++ visitsFrom (k + (Node.elements n).length) rest := by
  simp [visitsFrom, Node.elementsOf, List.zipIdx_append]

theorem find?_imagesOf {j : Nat} {nodes : List Node} (he : Rule.ImagesEmpty nodes)
    (h : find? j nodes = none) : find? j (imagesOf nodes) = none := by
  rw [find?_eq_none_iff] at h ⊢
  intro e hm
  rw [Node.elementsOf_eq_flatMap] at hm
  obtain ⟨n, hn, hm⟩ := List.mem_flatMap.mp hm
  obtain ⟨hmem, hname⟩ := List.mem_filter.mp hn
  have hempty := he n hmem hname
  cases n with
  | text kind s => cases hm
  | element number name attributes children =>
    obtain rfl : children = [] := hempty
    obtain rfl := List.mem_singleton.mp hm
    exact h _ hmem

theorem find?_fixNodes {j : Nat} {nodes : List Node} (he : Rule.ImagesEmpty nodes)
    (h : find? j nodes = none) : find? j (Rule.fixNodes nodes).1 = none := by
  rw [find?_eq_none_iff, Node.forall_mem_elementsOf_iff []] at h ⊢
  rw [Rule.placedElements_fixNodes he]
  intro o ho
  obtain ⟨p, hp, ho⟩ := List.mem_flatMap.mp ho
  have hn := h p hp
  have hr : (Rule.rewritten p.node).number? = p.node.number? := by
    cases p.node with
    | text kind s => rfl
    | element number name attributes children =>
      obtain ⟨attributes', children', hr, -⟩ :=
        Rule.rewritten_element number name attributes children
      rw [hr]
      rfl
  have hnew : (none : Option Nat) ≠ some j := nofun
  unfold Rule.images at ho
  dsimp only at ho
  split_ifs at ho <;> simp only [List.mem_cons, List.not_mem_nil, or_false] at ho
  · rcases ho with rfl | rfl
    · exact hnew
    · exact hr ▸ hn
  · rcases ho with rfl | rfl | rfl <;> exact hnew
  · obtain rfl := ho
    exact hr ▸ hn

/-- Where the elements of some nodes are all those with certain numbers, a walk over the nodes
leaves them as the rules do. -/
def Walks (nodes : List Node) : Prop :=
  ∀ (k count : Nat) (place : List Node → List Node) (removed : List Node), Node.Counted k nodes →
    IsPlace k (k + (Node.elementsOf nodes).length) place →
    (∀ j, k ≤ j → j < k + (Node.elementsOf nodes).length → find? j removed = none) →
    Walk nodes ⟨place nodes, removed, count⟩ (visitsFrom k nodes)
      ⟨place (Rule.fixNodes nodes).1, removed ++ imagesOf nodes, count⟩

theorem walks_nil : Walks [] := by
  intro k count place removed _ _ _
  have hremoved : removed ++ imagesOf [] = removed := List.append_nil removed
  rw [hremoved]
  exact .nil _

theorem walks_text (kind : TextKind) (s : String) : Walks [.text kind s] := by
  intro k count place removed _ _ _
  have hremoved : removed ++ imagesOf [.text kind s] = removed := List.append_nil removed
  rw [hremoved]
  exact .text (.nil _)

theorem walks_cons {n : Node} {rest : List Node} (he : Rule.ImagesEmpty (n :: rest))
    (hn : Walks [n]) (hrest : Walks rest) : Walks (n :: rest) := by
  intro k count place removed hcount hp hr
  have hlength : (Node.elementsOf (n :: rest)).length =
      (Node.elements n).length + (Node.elementsOf rest).length := by
    rw [Node.elementsOf, List.length_append]
  obtain ⟨hcn, hcr⟩ := Node.counted_cons.mp hcount
  have hen : Rule.ImagesEmpty [n] := he.of_mem List.mem_cons_self
  have hout {j : Nat} (hj : j < k ∨ k + (Node.elements n).length ≤ j) : find? j [n] = none :=
    find?_eq_none_of_counted hcn (by rwa [Node.elementsOf_singleton])
  have hafter : IsPlace k (k + (Node.elementsOf [n]).length) fun nodes => place (nodes ++ rest) := by
    rw [Node.elementsOf_singleton]
    exact (hp.mono (Nat.le_refl k) (by omega)).comp
      (isPlace_before fun j _ hj => find?_eq_none_of_counted hcr (.inl hj))
  have hbefore : IsPlace (k + (Node.elements n).length)
      (k + (Node.elements n).length + (Node.elementsOf rest).length)
      fun nodes => place ((Rule.fixNodes [n]).1 ++ nodes) := by
    refine IsPlace.comp (hp.mono (Nat.le_add_right k _) (by omega)) (isPlace_after fun j hj _ => ?_)
    exact find?_fixNodes hen (hout (.inr hj))
  have hfirst := hn k count (fun nodes => place (nodes ++ rest)) removed hcn hafter
    fun j hl hh => hr j hl (by rw [Node.elementsOf_singleton] at hh; omega)
  have hsecond := hrest (k + (Node.elements n).length) count
    (fun nodes => place ((Rule.fixNodes [n]).1 ++ nodes)) (removed ++ imagesOf [n]) hcr hbefore
    fun j hl hh => by
      rw [find?_append, hr j (by omega) (by omega), find?_imagesOf hen (hout (.inr hl)),
        Option.none_or]
  have hfix : (Rule.fixNodes (n :: rest)).1 =
      (Rule.fixNodes [n]).1 ++ (Rule.fixNodes rest).1 := rfl
  rw [visitsFrom_cons, imagesOf_cons, hfix, ← List.append_assoc]
  exact hfirst.append hsecond

theorem ruled_settled {k count : Nat} {name : String} {attributes : List Attribute}
    {children removed : List Node} {place : List Node → List Node}
    (hp : IsPlace k (k + 1) place) :
    ruled k (.element (some k) name attributes children)
        ⟨place [.element (some k) name attributes children], removed, count⟩ =
      ⟨place [Rule.settled (some k) name attributes children children],
        removed ++ if name = "img" then [.element (some k) name attributes children] else [],
        count⟩ := by
  have hi := Rule.ofElement?_eq_some_iff .image rfl name children
  have hr (kind : RuleKind) := hp.replaced k (Nat.le_refl k) (Nat.lt_succ_self k)
    (Rule.applied kind) fun n hn => isElement_applied hn kind
  simp only [ruled, RuleKind.of?, Rule.settled, hr, replaceNodes, replaceNode_element, if_true,
    Rule.applied_element]
  cases hk : RuleKind.ofElement? name children with
  | none =>
    have hname : name ≠ "img" := fun h => by simp [hi.mpr h] at hk
    simp [hname]
  | some kind =>
    have hname : kind = .image ↔ name = "img" := by rw [← hi, hk, Option.some.injEq]
    simp only [hname]

theorem find?_settled {k : Nat} {name : String} (hname : name ≠ "img")
    (attributes : List Attribute) (source inner : List Node) :
    ∃ attributes', find? k [Rule.settled (some k) name attributes source inner] =
      some (.element (some k) name attributes'
        (if name = "code" then Rule.stripLeading inner else inner)) := by
  have hi := Rule.ofElement?_eq_some_iff .image rfl name source
  have hc := Rule.ofElement?_eq_some_iff .code rfl name source
  simp only [Rule.settled]
  cases hk : RuleKind.ofElement? name source with
  | none =>
    have hcode : name ≠ "code" := fun h => by simp [hc.mpr h] at hk
    exact ⟨attributes, by rw [find?_element, if_pos rfl, if_neg hcode]⟩
  | some kind =>
    have hcode (h : kind ≠ .code) : name ≠ "code" := fun h' => by simp_all
    cases kind with
    | image => exact absurd (hi.mp hk) hname
    | heading =>
      dsimp only [Rule.result]
      exact ⟨_, by rw [find?_element, if_pos rfl, if_neg (hcode nofun)]⟩
    | table =>
      dsimp only [Rule.result, Rule.wrapTable]
      exact ⟨_, by
        rw [find?_element, if_neg nofun, find?_element, if_pos rfl, if_neg (hcode nofun)]⟩
    | code =>
      dsimp only [Rule.result]
      exact ⟨_, by rw [find?_element, if_pos rfl, if_pos (hc.mp hk)]⟩

theorem walks_element {number : Option Nat} {name : String} {attributes : List Attribute}
    {children : List Node} (he : Rule.ImagesEmpty [.element number name attributes children])
    (hc : Walks children) : Walks [.element number name attributes children] := by
  intro k count place removed hcount hp hr
  obtain ⟨rfl, hcc⟩ := Node.counted_element.mp hcount
  have hlength : (Node.elementsOf [.element (some k) name attributes children]).length =
      (Node.elementsOf children).length + 1 := by
    rw [Node.elementsOf_singleton, Node.elements, List.length_cons]
  rw [hlength] at hp hr
  have hown := hp.mono (Nat.le_refl k) (show k + 1 ≤ _ by omega)
  have hfound := hown.found k (Nat.le_refl k) (Nat.lt_succ_self k)
    [.element (some k) name attributes children]
  rw [find?_element, if_pos rfl] at hfound
  have hcall := call_of_found (c := ⟨_, removed, count⟩) hfound (hr k (Nat.le_refl k) (by omega))
  rw [ruled_settled hown] at hcall
  have hvisits : visitsFrom k [.element (some k) name attributes children] =
      (RuleKind.of? (.element (some k) name attributes children), k) ::
        (visitsFrom (k + 1) children ++ []) := by
    simp [visitsFrom, Node.elementsOf_singleton, Node.elements, List.zipIdx_cons]
  have himages : imagesOf [.element (some k) name attributes children] =
      (if name = "img" then [.element (some k) name attributes children] else []) ++
        imagesOf children := by
    by_cases hname : name = "img" <;>
      simp [imagesOf, Node.elementsOf_singleton, Node.elements, hname]
  have hfix : (Rule.fixNodes [.element (some k) name attributes children]).1 =
      [Rule.settled (some k) name attributes children (Rule.fixNodes children).1] := by
    rw [Rule.fixNodes_eq_map, List.map_singleton, Rule.fixNode_element]
  rw [hvisits, himages, hfix, ← List.append_assoc]
  refine .element hcall ?_ (.nil _)
  by_cases hname : name = "img"
  · obtain rfl : children = [] := he.children.1 hname
    subst hname
    have hgrid : find? k [Rule.settled (some k) "img" attributes [] []] = none := rfl
    have hlist : childrenOf k ⟨place [Rule.settled (some k) "img" attributes [] []],
        removed ++ [.element (some k) "img" attributes []], count⟩ = [] := by
      rw [childrenOf, element?, find?_append, hown.found k (Nat.le_refl k) (Nat.lt_succ_self k),
        hgrid, find?_append, hr k (Nat.le_refl k) (by omega), find?_element, if_pos rfl]
      rfl
    have hnone : removed ++ [.element (some k) "img" attributes []] ++ imagesOf [] =
        removed ++ [.element (some k) "img" attributes []] := List.append_nil _
    rw [if_pos rfl, hlist, hnone]
    exact .nil _
  · obtain ⟨attributes', hfind⟩ := find?_settled hname attributes children children
    have hlist : childrenOf k
        ⟨place [Rule.settled (some k) name attributes children children], removed ++ [], count⟩ =
          if name = "code" then Rule.stripLeading children else children := by
      rw [childrenOf, element?, find?_append, hown.found k (Nat.le_refl k) (Nat.lt_succ_self k),
        hfind]
      rfl
    have hinner := hc (k + 1) count
      (fun inner => place [Rule.settled (some k) name attributes children inner])
      (removed ++ []) hcc ?_ ?_
    · rw [if_neg hname, hlist]
      split_ifs
      · exact hinner.stripLeading
      · exact hinner
    · exact (hp.mono (Nat.le_succ k) (by omega)).comp (isPlace_settled hname attributes children _)
    · rw [List.append_nil]
      exact fun j hl hh => hr j (by omega) (by omega)

theorem walks_of_forall {nodes : List Node} (he : Rule.ImagesEmpty nodes)
    (h : ∀ n ∈ nodes, Walks [n]) : Walks nodes := by
  induction nodes with
  | nil => exact walks_nil
  | cons n rest ih =>
    rw [List.forall_mem_cons] at h
    have hrest : Rule.ImagesEmpty rest := fun e hm => he e (List.mem_append_right _ hm)
    exact walks_cons he h.1 (ih hrest h.2)

theorem walks_of_imagesEmpty {nodes : List Node} (he : Rule.ImagesEmpty nodes) : Walks nodes := by
  refine walks_of_forall he fun n hn => ?_
  have hempty := he.of_mem hn
  clear he hn
  induction n with
  | text kind s => exact walks_text kind s
  | element number name attributes children ih =>
    have hc := hempty.children.2
    exact walks_element hempty (walks_of_forall hc fun n hn => ih n hn (hc.of_mem hn))

/-- A page is left by a walk as the rules leave it. -/
theorem walk_ofNodes {nodes : List Node} (he : Rule.ImagesEmpty nodes) :
    Walk (ofNodes nodes).nodes (ofNodes nodes) (visitsFrom 0 (ofNodes nodes).nodes)
      ⟨(Rule.fixNodes (ofNodes nodes).nodes).1, imagesOf (ofNodes nodes).nodes,
        (ofNodes nodes).count⟩ := by
  have hwhole : IsPlace 0 (0 + (Node.elementsOf (ofNodes nodes).nodes).length) id :=
    ⟨fun _ _ _ _ => rfl, fun _ _ _ _ _ _ => rfl⟩
  exact walks_of_imagesEmpty (ofNodes_imagesEmpty he) 0 (ofNodes nodes).count id []
    (ofNodes_counted nodes) hwhole fun _ _ _ => rfl

theorem callAll_range {nodes : List Node} (he : Rule.ImagesEmpty nodes) :
    (ofNodes nodes).callAll (List.range (ofNodes nodes).count) =
      (((Node.elementsOf nodes).map RuleKind.of?).map .ok,
        ⟨(Rule.fixNodes (ofNodes nodes).nodes).1, imagesOf (ofNodes nodes).nodes,
          (ofNodes nodes).count⟩) := by
  have hcalls := (walk_ofNodes he).callAll
  have hanswers (kinds : List (Option RuleKind)) : kinds.zipIdx.map (fun v => Except.ok v.1) =
      (kinds.map .ok : List (Except SingleRuleError (Option RuleKind))) := by
    rw [← List.zipIdx_map_fst 0 kinds, List.map_map, List.zipIdx_map_fst]
    rfl
  have hcount : (ofNodes nodes).count = ((Node.elementsOf nodes).map RuleKind.of?).length := by
    rw [ofNodes_count, ← List.length_map, ofNodes_kinds]
  rwa [visitsFrom, ofNodes_kinds, List.zipIdx_map_snd, ← List.range_eq_range', ← hcount,
    hanswers] at hcalls

end Collected

/-- The rules on a page whose elements are told apart by numbers. The walk over the changing tree
has one end: it calls the rule of every element once, in document order, without a fault. So
has the plain list of these calls, and both leave the page as `fixup` does, whose counts are those
of the elements that fall under each rule. -/
theorem fixup_walk {text : String} {nodes : List Node} (h : parse? text = some nodes) :
    let page := Collected.ofNodes nodes
    let kinds := (Node.elementsOf nodes).map RuleKind.of?
    let fixed : Collected := ⟨(fixup page.nodes).1, Collected.imagesOf page.nodes, page.count⟩
    Node.unnumberedOf page.nodes = nodes ∧ Node.unnumberedOf fixed.nodes = (fixup nodes).1 ∧
      (∀ visits d, Collected.Walk page.nodes page visits d ↔ visits = kinds.zipIdx ∧ d = fixed) ∧
      page.callAll (List.range page.count) = (kinds.map .ok, fixed) ∧
      (∀ kind, (Rule.fixNodes nodes).2.count kind = kinds.count (some kind)) ∧
      (fixup nodes).2 = Rule.record (kinds.filterMap id) := by
  intro page kinds fixed
  have hwalk : Collected.Walk page.nodes page kinds.zipIdx fixed := by
    have hw := Collected.walk_ofNodes (parse?_regular h).imagesEmpty
    rwa [Collected.visitsFrom, Collected.ofNodes_kinds] at hw
  have hkinds : (Rule.fixNodes nodes).2 = kinds.filterMap id := by
    rw [Rule.fixNodes_kinds, List.filterMap_map, Function.id_comp]
  refine ⟨Collected.unnumberedOf_ofNodes h, Collected.unnumberedOf_fixup h,
    fun visits d => ⟨hwalk.unique, ?_⟩, ?_, fun kind => ?_, ?_⟩
  · rintro ⟨rfl, rfl⟩
    exact hwalk
  · exact Collected.callAll_range (parse?_regular h).imagesEmpty
  · rw [hkinds, List.count_filterMap]
    rfl
  · rw [← hkinds]
    rfl

theorem fixup_walk_of_image_in_table :
    parse? "<table><td><img alt=a></td></table><code> x</code>" =
        some [.element none "table" [] [.element none "td" []
            [.element none "img" [⟨"alt", "a"⟩] []]],
          .element none "code" [] [.text .plain " x"]] ∧
      ((Collected.ofNodes [.element none "table" [] [.element none "td" []
            [.element none "img" [⟨"alt", "a"⟩] []]],
          .element none "code" [] [.text .plain " x"]]).callAll [0, 1, 2, 3]).1 =
        [.ok (some .table), .ok none, .ok (some .image), .ok (some .code)] := by
  have h : parse? "<table><td><img alt=a></td></table><code> x</code>" =
      some [.element none "table" [] [.element none "td" []
          [.element none "img" [⟨"alt", "a"⟩] []]],
        .element none "code" [] [.text .plain " x"]] := rfl
  exact ⟨h, congrArg Prod.fst (fixup_walk h).2.2.2.1⟩

end CmsMarkup
