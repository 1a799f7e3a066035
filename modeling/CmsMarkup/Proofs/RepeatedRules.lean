import CmsMarkup.Proofs.RuleEvolution

/-! Rules of collected elements in any order, and again. A call fails only for an image that an
earlier call has replaced; every other element stays, in its order, and a table stands in as many
layers as there were calls for it. -/

namespace CmsMarkup

open Html

namespace Rule

section

variable {layers : Nat → Nat} {replaced : Nat → Prop}

/-- Nothing around, or an element of the page first. -/
def numberedFirst (around : List Node) : Prop := ∀ n ∈ around.head?, n.number?.isSome = true

/-- An element of a page, and where it stands after some calls. -/
structure Remains (layers : Nat → Nat) (e : Node) (o : Placed) : Prop where
  number : o.node.number? = e.number?
  name : ∀ name, o.node.hasName name = e.hasName name
  kind : RuleKind.of? o.node = RuleKind.of? e
  image : e.hasName "img" = true → o.node = e
  layered : ∀ j, e.number? = some j → ∃ around, numberedFirst around ∧
    o.ancestors = layersOf (if e.hasName "table" then layers j else 0) o.node ++ around

/-- An image that has been replaced. -/
def isReplaced (replaced : Nat → Prop) [DecidablePred replaced] (e : Node) : Bool :=
  e.hasName "img" && e.number?.any fun j => decide (replaced j)

/-- The elements of the page in a tree; what a rule has built has no number. -/
def numberedIn (outer nodes : List Node) : List Placed :=
  (Node.placedElements outer nodes).filter (·.node.number?.isSome)

theorem numberedIn_layered (t : Nat) (n : Node) (outer : List Node) :
    numberedIn outer [layered t n] = numberedIn (layersOf t n ++ outer) [n] := by
  induction t generalizing outer with
  | zero => rfl
  | succ t ih =>
    have hlayer : numberedIn outer [layered (t + 1) n] =
        numberedIn (layered (t + 1) n :: outer) [layered t n] := by
      rw [layered, wrapTable, numberedIn, Node.placedElements_element]
      rfl
    rw [hlayer, ih, layersOf_succ, List.append_assoc, List.singleton_append]

theorem numberedIn_eq_flatMap (outer nodes : List Node) :
    numberedIn outer nodes = nodes.flatMap fun n => numberedIn outer [n] := by
  rw [numberedIn, Node.placedElements_eq_flatMap, List.filter_flatMap]
  rfl

theorem numberedIn_text (outer : List Node) (kind : TextKind) (s : String) (rest : List Node) :
    numberedIn outer (.text kind s :: rest) = numberedIn outer rest := by
  rw [numberedIn, Node.placedElements_cons, Node.placedElements_text, List.nil_append]
  rfl

theorem numberedIn_element (outer : List Node) (j : Nat) (name : String)
    (attributes : List Attribute) (children : List Node) :
    numberedIn outer [.element (some j) name attributes children] =
      ⟨.element (some j) name attributes children, outer⟩ ::
        numberedIn (.element (some j) name attributes children :: outer) children := by
  rw [numberedIn, Node.placedElements_element]
  rfl

theorem numberedIn_grid (outer : List Node) (alt : String) : numberedIn outer [grid alt] = [] := rfl

theorem ofElement?_of_length_eq (name : String) {children inner : List Node}
    (h : children.length = inner.length) :
    RuleKind.ofElement? name inner = RuleKind.ofElement? name children := by
  have hempty : inner.isEmpty = children.isEmpty := by
    rw [Bool.eq_iff_iff, List.isEmpty_iff_length_eq_zero, List.isEmpty_iff_length_eq_zero, h]
  rw [RuleKind.ofElement?, RuleKind.ofElement?, hempty]

theorem remains_self {j : Nat} {name : String} {attributes changed : List Attribute}
    {children inner outer : List Node} (hlength : children.length = inner.length)
    (himage : name = "img" → changed = attributes ∧ children = [])
    (houter : numberedFirst outer) :
    Remains layers (.element (some j) name attributes children)
      ⟨.element (some j) name changed inner,
        layersOf (if name = "table" then layers j else 0) (.element (some j) name changed inner) ++
          outer⟩ where
  number := rfl
  name _ := rfl
  kind := ofElement?_of_length_eq name hlength
  image h := by
    obtain ⟨rfl, rfl⟩ := himage (by simpa using h)
    obtain rfl := List.length_eq_zero_iff.mp hlength.symm
    rfl
  layered i hi := by
    obtain rfl : j = i := Option.some.inj hi
    refine ⟨outer, houter, ?_⟩
    simp only [Node.hasName_element, beq_iff_eq]

theorem Evolved.remains [DecidablePred replaced] {k : Nat} {n m : Node} (hc : Node.Counted k [n])
    (he : ImagesEmpty [n]) (h : Evolved layers replaced n m) {outer : List Node}
    (houter : numberedFirst outer) :
    List.Forall₂ (Remains layers) ((Node.elements n).filter fun e => !isReplaced replaced e)
      (numberedIn outer [m]) := by
  induction n generalizing k m outer with
  | text kind s =>
    cases h
    exact .nil
  | element number name attributes children ih =>
    obtain ⟨rfl, hcc⟩ := Node.counted_element.mp hc
    obtain ⟨hempty, hec⟩ := he.children
    have hbelow {nodes inner : List Node} (hsub : nodes ⊆ children)
        (hf : List.Forall₂ (Evolved layers replaced) nodes inner) (changed : List Attribute)
        (around : List Node) (shown : List Node) :
        List.Forall₂ (Remains layers) ((Node.elementsOf nodes).filter fun e => !isReplaced replaced e)
          (numberedIn (.element (some k) name changed shown :: around) inner) := by
      rw [Node.elementsOf_eq_flatMap, List.filter_flatMap, numberedIn_eq_flatMap]
      refine forall₂_flatMap hf fun n hn y hy => ?_
      obtain ⟨i, hi⟩ := hcc.of_mem (hsub hn)
      exact ih n (hsub hn) hi (hec.of_mem (hsub hn)) hy (by simp [numberedFirst, Node.number?])
    rw [Node.elements]
    cases h with
    | image out =>
      have hout : isReplaced replaced (.element (some k) "img" attributes []) = true := by
        simpa [isReplaced, Node.number?] using out
      rw [List.filter_cons_of_neg (by simp [hout]), numberedIn_grid]
      exact .nil
    | @element k name attributes changed children inner stays kept below =>
      have hkept : isReplaced replaced (.element (some k) name attributes children) = false := by
        simpa [isReplaced, Node.number?] using stays
      have himage : name = "img" → changed = attributes ∧ children = [] := by
        rintro rfl
        rw [ownKey?_of_kind ((ofElement?_eq_some_iff .image rfl "img" children).mpr rfl)] at kept
        exact ⟨kept, hempty rfl⟩
      rw [List.filter_cons_of_pos (by simp [hkept]), numberedIn_layered, numberedIn_element]
      exact .cons (remains_self below.length_eq himage houter)
        (hbelow (List.Subset.refl _) below _ _ _)
    | @code k attributes changed kind kind' s s' rest inner kept below =>
      have hkept : isReplaced replaced (.element (some k) "code" attributes (.text kind s :: rest)) =
          false := rfl
      have hlength : (Node.text kind s :: rest).length = (Node.text kind' s' :: inner).length :=
        congrArg (· + 1) below.length_eq
      rw [List.filter_cons_of_pos (by simp [hkept]), numberedIn_element]
      refine .cons (remains_self hlength (fun h => absurd h (by decide)) houter) ?_
      rw [numberedIn_text]
      exact hbelow (List.subset_cons_self _ _) below _ _ _

theorem evolved_remain [DecidablePred replaced] {k : Nat} {base nodes : List Node}
    (hc : Node.Counted k base) (he : ImagesEmpty base)
    (h : List.Forall₂ (Evolved layers replaced) base nodes) :
    List.Forall₂ (Remains layers) ((Node.elementsOf base).filter fun e => !isReplaced replaced e)
      (numberedIn [] nodes) := by
  rw [Node.elementsOf_eq_flatMap, List.filter_flatMap, numberedIn_eq_flatMap]
  refine forall₂_flatMap h fun n hn m hm => ?_
  obtain ⟨i, hi⟩ := hc.of_mem hn
  exact hm.remains hi (he.of_mem hn) (by simp [numberedFirst])

end

end Rule

namespace Collected

/-- What holds of a tree and of what was taken out of it after some calls. -/
structure Reached (base : List Node) (calls : List Nat) (c : Collected) : Prop where
  evolved : List.Forall₂ (Rule.Evolved (calls.count ·) (· ∈ calls)) base c.nodes
  removed : ∀ e, e ∈ c.removed ↔ e ∈ Node.elementsOf base ∧ Rule.isReplaced (· ∈ calls) e = true

section

variable {base : List Node} {calls : List Nat} {c : Collected} {j : Nat} {e : Node}

theorem exists_find? {nodes : List Node} (hm : e ∈ Node.elementsOf nodes)
    (hj : e.number? = some j) :
    ∃ e' ∈ Node.elementsOf nodes, e'.number? = some j ∧ find? j nodes = some e' := by
  cases hf : find? j nodes with
  | none => exact absurd hj (find?_eq_none_iff.mp hf e hm)
  | some e' => exact ⟨e', List.mem_of_find?_eq_some hf, number?_of_find? hf, rfl⟩

theorem elementsOf_removed (he : Rule.ImagesEmpty base) (h : Reached base calls c) :
    Node.elementsOf c.removed = c.removed := by
  have hown (e : Node) (hm : e ∈ c.removed) : Node.elements e = [e] := by
    obtain ⟨hbase, hr⟩ := (h.removed e).mp hm
    have hname : e.hasName "img" = true := (Bool.and_eq_true_iff.mp hr).1
    have hempty := he e hbase hname
    cases e with
    | text => simp at hname
    | element number name attributes children =>
      obtain rfl : children = [] := hempty
      rfl
  rw [Node.elementsOf_eq_flatMap, List.flatMap_congr hown, List.flatMap_singleton']

theorem find?_removed (hc : Node.Counted 0 base) (he : Rule.ImagesEmpty base)
    (h : Reached base calls c) (hm : e ∈ Node.elementsOf base) (hj : e.number? = some j) :
    find? j c.removed = if Rule.isReplaced (· ∈ calls) e then some e else none := by
  have hremoved := elementsOf_removed he h
  have honly (e' : Node) (hm' : e' ∈ c.removed) (hj' : e'.number? = some j) : e' = e :=
    hc.unique ((h.removed e').mp hm').1 hm (hj'.trans hj.symm)
  split_ifs with hr
  · have hin : e ∈ Node.elementsOf c.removed := by
      rw [hremoved]
      exact (h.removed e).mpr ⟨hm, hr⟩
    obtain ⟨e', hm', hj', hf⟩ := exists_find? hin hj
    rw [hremoved] at hm'
    rw [hf, honly e' hm' hj']
  · rw [find?_eq_none_iff, hremoved]
    intro e' hm' hj'
    obtain rfl := honly e' hm' hj'
    exact hr ((h.removed e').mp hm').2

/-- What has a number in the tree comes from the element that has it on the page. -/
theorem origin (hc : Node.Counted 0 base) (he : Rule.ImagesEmpty base) (h : Reached base calls c)
    (hm : e ∈ Node.elementsOf c.nodes) (hj : e.number? = some j) :
    ∃ e₀ ∈ Node.elementsOf base, e₀.number? = some j ∧
      Rule.isReplaced (· ∈ calls) e₀ = false ∧ RuleKind.of? e = RuleKind.of? e₀ ∧
        (e₀.hasName "img" = true → e = e₀) := by
  rw [← Node.placedElements_map_node []] at hm
  obtain ⟨o, ho, rfl⟩ := List.mem_map.mp hm
  have hin : o ∈ Rule.numberedIn [] c.nodes := List.mem_filter.mpr ⟨ho, by simp [hj]⟩
  obtain ⟨e₀, he₀, hr⟩ := forall₂_exists_left (Rule.evolved_remain hc he h.evolved) hin
  obtain ⟨he₀, hkept⟩ := List.mem_filter.mp he₀
  exact ⟨e₀, he₀, hr.number.symm.trans hj, by simpa using hkept, hr.kind, hr.image⟩

theorem find?_nodes_of_replaced (hc : Node.Counted 0 base) (he : Rule.ImagesEmpty base)
    (h : Reached base calls c) (hm : e ∈ Node.elementsOf base) (hj : e.number? = some j)
    (hr : Rule.isReplaced (· ∈ calls) e = true) : find? j c.nodes = none := by
  rw [find?_eq_none_iff]
  intro e' hm' hj'
  obtain ⟨e₀, hm₀, hj₀, hkept, -⟩ := origin hc he h hm' hj'
  obtain rfl := hc.unique hm₀ hm (hj₀.trans hj.symm)
  rw [hkept] at hr
  cases hr

theorem find?_nodes (hc : Node.Counted 0 base) (he : Rule.ImagesEmpty base)
    (h : Reached base calls c) (hm : e ∈ Node.elementsOf base) (hj : e.number? = some j)
    (hr : Rule.isReplaced (· ∈ calls) e = false) :
    ∃ e', find? j c.nodes = some e' ∧ RuleKind.of? e' = RuleKind.of? e ∧
      (e.hasName "img" = true → e' = e) := by
  have hin : e ∈ (Node.elementsOf base).filter fun e => !Rule.isReplaced (· ∈ calls) e :=
    List.mem_filter.mpr ⟨hm, by simp [hr]⟩
  obtain ⟨o, ho, hremains⟩ :=
    forall₂_exists_left (Rule.evolved_remain hc he h.evolved).flip hin
  have hnode : o.node ∈ Node.elementsOf c.nodes := by
    rw [← Node.placedElements_map_node []]
    exact List.mem_map_of_mem (List.mem_filter.mp ho).1
  obtain ⟨e', hm', hj', hf⟩ := exists_find? hnode (hremains.number.trans hj)
  obtain ⟨e₀, hm₀, hj₀, -, hkind, himage⟩ := origin hc he h hm' hj'
  obtain rfl := hc.unique hm₀ hm (hj₀.trans hj.symm)
  exact ⟨e', hf, hkind, himage⟩

/-! ### One more call -/

theorem Reached.call_missing (hc : Node.Counted 0 base) (he : Rule.ImagesEmpty base)
    (h : Reached base calls c) (hj : ∀ e ∈ Node.elementsOf base, e.number? ≠ some j) :
    c.call j = (.error .noSuchElement, c) := by
  refine call_of_missing ?_ ?_
  · rw [find?_eq_none_iff]
    intro e hm he'
    obtain ⟨e₀, hm₀, hj₀, -⟩ := origin hc he h hm he'
    exact hj e₀ hm₀ hj₀
  · rw [find?_eq_none_iff, elementsOf_removed he h]
    exact fun e hm => hj e ((h.removed e).mp hm).1

theorem Reached.call_replaced (hc : Node.Counted 0 base) (he : Rule.ImagesEmpty base)
    (h : Reached base calls c) (hm : e ∈ Node.elementsOf base) (hj : e.number? = some j)
    (hr : Rule.isReplaced (· ∈ calls) e = true) : c.call j = (.error .notInTree, c) := by
  have hremoved := find?_removed hc he h hm hj
  rw [if_pos hr] at hremoved
  have hname : e.hasName "img" = true := (Bool.and_eq_true_iff.mp hr).1
  exact call_of_removed (find?_nodes_of_replaced hc he h hm hj hr) hremoved
    ((Rule.of?_eq_some_iff .image rfl e).mpr hname) ((h.removed e).mpr ⟨hm, hr⟩)

theorem Reached.call_present (hc : Node.Counted 0 base) (he : Rule.ImagesEmpty base)
    (h : Reached base calls c) (hm : e ∈ Node.elementsOf base) (hj : e.number? = some j)
    (hr : Rule.isReplaced (· ∈ calls) e = false) :
    ∃ e', RuleKind.of? e' = RuleKind.of? e ∧ (e.hasName "img" = true → e' = e) ∧
      c.call j = (.ok (RuleKind.of? e), c.ruled j e') := by
  have hremoved := find?_removed hc he h hm hj
  rw [if_neg (by simp [hr])] at hremoved
  obtain ⟨e', hf, hkind, himage⟩ := find?_nodes hc he h hm hj hr
  exact ⟨e', hkind, himage, hkind ▸ call_of_found hf hremoved⟩

theorem isReplaced_concat {i : Nat} (hi : e.number? = some i)
    (h : i = j → e.hasName "img" = true → j ∈ calls) :
    Rule.isReplaced (· ∈ calls ++ [j]) e = Rule.isReplaced (· ∈ calls) e := by
  have hmem (himage : e.hasName "img" = true) : i ∈ calls ++ [j] ↔ i ∈ calls := by
    rw [List.mem_append, List.mem_singleton, or_iff_left_iff_imp]
    rintro rfl
    exact h rfl himage
  cases himage : e.hasName "img" with
  | false => simp [Rule.isReplaced, himage]
  | true => simp only [Rule.isReplaced, hi, Option.any_some, hmem himage]

/-- A call that does nothing, to a table as little as to an image that is still there. -/
theorem Reached.same (hc : Node.Counted 0 base) (h : Reached base calls c)
    (hj : ∀ e ∈ Node.elementsOf base, e.number? = some j →
      e.hasName "table" = false ∧ (e.hasName "img" = true → j ∈ calls)) :
    Reached base (calls ++ [j]) c where
  evolved := by
    refine forall₂_of_mem h.evolved fun n hn m hm => hm.congr fun e he i hi => ?_
    have hbase := Node.mem_elementsOf_of_mem hn he
    by_cases hij : i = j
    · subst hij
      obtain ⟨htable, himage⟩ := hj e hbase hi
      refine ⟨fun ht => by simp [htable] at ht, fun hn => ?_⟩
      simp [himage hn]
    · simp [List.count_append, hij, Ne.symm hij]
  removed e := by
    rw [h.removed]
    refine and_congr_right fun hbase => ?_
    obtain ⟨i, hi, -⟩ := hc.bounds hbase
    rw [isReplaced_concat hi fun hij => hij ▸ (hj e hbase (hij ▸ hi)).2]

theorem mem_removed_of_ruled (hc : Node.Counted 0 base) (h : Reached base calls c)
    (hm : e ∈ Node.elementsOf base) (hj : e.number? = some j) {kind : RuleKind}
    (hkind : RuleKind.of? e = some kind) (e' : Node) :
    (e' ∈ c.removed ++ if kind = .image then [e] else []) ↔
      e' ∈ Node.elementsOf base ∧ Rule.isReplaced (· ∈ calls ++ [j]) e' = true := by
  have himage : kind = .image ↔ e.hasName "img" = true := by
    rw [← Rule.of?_eq_some_iff .image rfl, hkind, Option.some.injEq]
  rw [List.mem_append, h.removed]
  by_cases hown : e' = e
  · subst hown
    have hmem : Rule.isReplaced (· ∈ calls ++ [j]) e' = e'.hasName "img" := by
      simp [Rule.isReplaced, hj]
    rw [hmem, ← himage]
    split_ifs with hk
    · simp [hk, hm]
    · simp [hk, Rule.isReplaced, ← himage]
  · have hne : e' ∉ if kind = .image then [e] else [] := by
      split_ifs <;> simp [hown]
    rw [or_iff_left hne]
    refine and_congr_right fun hbase => ?_
    obtain ⟨i, hi, -⟩ := hc.bounds hbase
    have hij : i ≠ j := by
      rintro rfl
      exact hown (hc.unique hbase hm (hi.trans hj.symm))
    rw [isReplaced_concat hi fun h => absurd h hij]

theorem Reached.ruled (hc : Node.Counted 0 base) (he : Rule.ImagesEmpty base)
    (h : Reached base calls c) (hm : e ∈ Node.elementsOf base) (hj : e.number? = some j)
    {e' : Node} (hkind : RuleKind.of? e' = RuleKind.of? e)
    (himage : e.hasName "img" = true → e' = e) : Reached base (calls ++ [j]) (c.ruled j e') := by
  have honly (e₁ : Node) (hm₁ : e₁ ∈ Node.elementsOf base) (hj₁ : e₁.number? = some j) :
      e₁ = e := hc.unique hm₁ hm (hj₁.trans hj.symm)
  rw [Collected.ruled, hkind]
  cases hk : RuleKind.of? e with
  | none =>
    have hname (kind : RuleKind) {own : String} (ho : Rule.elementName? kind = some own) :
        e.hasName own = false := by
      rw [Bool.eq_false_iff, ne_eq, ← Rule.of?_eq_some_iff kind ho e, hk]
      exact (Option.some_ne_none kind).symm
    refine h.same hc fun e₁ hm₁ hj₁ => ?_
    obtain rfl := honly e₁ hm₁ hj₁
    exact ⟨hname .table rfl, fun hn => by simp [hname .image rfl] at hn⟩
  | some kind =>
    dsimp only
    refine ⟨?_, fun e₁ => ?_⟩
    · rw [replaceNodes_eq_map]
      refine forall₂_map_of_mem h.evolved fun n hn m hm => ?_
      obtain ⟨i, hi⟩ := hc.of_mem hn
      refine hm.apply hi (he.of_mem hn) (fun e₁ he₁ hj₁ => ?_) (fun i hi => ?_) (fun _ => ?_)
        fun _ => ?_
      · rwa [honly e₁ (Node.mem_elementsOf_of_mem hn he₁) hj₁]
      · simp [List.count_append, hi, Ne.symm hi]
      · simp [List.count_append]
      · simp
    · dsimp only
      have hlast : (if kind = .image then [e'] else []) = if kind = .image then [e] else [] := by
        split_ifs with hi
        · subst hi
          rw [himage ((Rule.of?_eq_some_iff .image rfl e).mp hk)]
        · rfl
      rw [hlast]
      exact mem_removed_of_ruled hc h hm hj hk e₁

theorem Reached.call (hc : Node.Counted 0 base) (he : Rule.ImagesEmpty base)
    (h : Reached base calls c) (j : Nat) : Reached base (calls ++ [j]) (c.call j).2 := by
  by_cases hm : ∃ e ∈ Node.elementsOf base, e.number? = some j
  · obtain ⟨e, hm, hj⟩ := hm
    cases hr : Rule.isReplaced (· ∈ calls) e with
    | true =>
      rw [h.call_replaced hc he hm hj hr]
      refine h.same hc fun e' hm' hj' => ?_
      obtain rfl := hc.unique hm' hm (hj'.trans hj.symm)
      obtain ⟨hname, hmem⟩ := Bool.and_eq_true_iff.mp hr
      refine ⟨Node.hasName_eq_false hname (by decide), fun _ => ?_⟩
      simpa [hj] using hmem
    | false =>
      obtain ⟨e', hkind, himage, hcall⟩ := h.call_present hc he hm hj hr
      rw [hcall]
      exact h.ruled hc he hm hj hkind himage
  · rw [h.call_missing hc he fun e hm' hj => hm ⟨e, hm', hj⟩]
    exact h.same hc fun e hm' hj => absurd ⟨e, hm', hj⟩ hm

theorem Reached.callAll (hc : Node.Counted 0 base) (he : Rule.ImagesEmpty base)
    (h : Reached base calls c) (more : List Nat) :
    Reached base (calls ++ more) (c.callAll more).2 := by
  induction more generalizing calls c with
  | nil => rwa [List.append_nil]
  | cons j more ih =>
    have hstep := ih (h.call hc he j)
    rwa [List.append_assoc, List.singleton_append] at hstep

theorem reached_ofNodes (nodes : List Node) :
    Reached (ofNodes nodes).nodes [] (ofNodes nodes) where
  evolved := by
    rw [List.forall₂_same]
    intro n hn
    obtain ⟨i, hi⟩ := (ofNodes_counted nodes).of_mem hn
    exact Rule.evolved_refl hi (fun _ => List.count_nil) fun _ => List.not_mem_nil
  removed e := by simp [Rule.isReplaced, ofNodes]

end

/-- A page after some calls. An element is still there, once and in its order, unless it is an
image that was called; any later call answers by its kind, or fails and changes nothing. -/
structure Kept (page : Collected) (calls : List Nat) (c : Collected) : Prop where
  answer : ∀ e ∈ Node.elementsOf page.nodes, ∀ j, e.number? = some j →
    (c.call j).1 = if Rule.isReplaced (· ∈ calls) e then .error .notInTree else .ok (RuleKind.of? e)
  unchanged : ∀ j error, (c.call j).1 = .error error → (c.call j).2 = c
  remains : List.Forall₂ (Rule.Remains (calls.count ·))
    ((Node.elementsOf page.nodes).filter fun e => !Rule.isReplaced (· ∈ calls) e)
    (Rule.numberedIn [] c.nodes)

theorem Reached.kept {page c : Collected} {calls : List Nat} (hc : Node.Counted 0 page.nodes)
    (he : Rule.ImagesEmpty page.nodes) (h : Reached page.nodes calls c) : Kept page calls c where
  answer e hm j hj := by
    cases hr : Rule.isReplaced (· ∈ calls) e with
    | true => rw [h.call_replaced hc he hm hj hr, if_pos rfl]
    | false =>
      obtain ⟨e', -, -, hcall⟩ := h.call_present hc he hm hj hr
      rw [hcall, if_neg nofun]
  unchanged j error herror := by
    by_cases hm : ∃ e ∈ Node.elementsOf page.nodes, e.number? = some j
    · obtain ⟨e, hm, hj⟩ := hm
      cases hr : Rule.isReplaced (· ∈ calls) e with
      | true => rw [h.call_replaced hc he hm hj hr]
      | false =>
        obtain ⟨e', -, -, hcall⟩ := h.call_present hc he hm hj hr
        rw [hcall] at herror
        cases herror
    · rw [h.call_missing hc he fun e hm' hj => hm ⟨e, hm', hj⟩]
  remains := Rule.evolved_remain hc he h.evolved

end Collected

/-- Any calls on the elements of a page, again and in any order. The next call fails only for an
image that one of them has replaced, and then leaves the tree as it was. -/
theorem callAll_keeps {text : String} {nodes : List Node} (h : parse? text = some nodes)
    (calls : List Nat) :
    let page := Collected.ofNodes nodes
    Node.unnumberedOf page.nodes = nodes ∧
      (Node.elementsOf page.nodes).map Node.number? = (List.range page.count).map some ∧
      Collected.Kept page calls (page.callAll calls).2 := by
  intro page
  have hc : Node.Counted 0 page.nodes := Collected.ofNodes_counted nodes
  have he : Rule.ImagesEmpty page.nodes :=
    Collected.ofNodes_imagesEmpty (parse?_regular h).imagesEmpty
  have hreached := (Collected.reached_ofNodes nodes).callAll hc he calls
  exact ⟨Collected.unnumberedOf_ofNodes h, Collected.ofNodes_numbers nodes, hreached.kept hc he⟩

theorem callAll_keeps_image_called_again :
    parse? "<table><td><img alt=a></td></table>" =
        some [.element none "table" [] [.element none "td" []
          [.element none "img" [⟨"alt", "a"⟩] []]]] ∧
      ((Collected.ofNodes [.element none "table" [] [.element none "td" []
          [.element none "img" [⟨"alt", "a"⟩] []]]]).callAll [2, 0, 0]).2.call 2 =
        (.error .notInTree, ((Collected.ofNodes [.element none "table" [] [.element none "td" []
          [.element none "img" [⟨"alt", "a"⟩] []]]]).callAll [2, 0, 0]).2) := by
  have h : parse? "<table><td><img alt=a></td></table>" =
      some [.element none "table" [] [.element none "td" []
        [.element none "img" [⟨"alt", "a"⟩] []]]] := rfl
  have hkept := (callAll_keeps h [2, 0, 0]).2.2
  have hfails := hkept.answer (.element (some 2) "img" [⟨"alt", "a"⟩] [])
    (List.mem_of_getElem? (i := 2) rfl) 2 rfl
  exact ⟨h, Prod.ext hfails (hkept.unchanged 2 _ hfails)⟩

end CmsMarkup
