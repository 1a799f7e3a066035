import CmsMarkup.Proofs.RuleWalk
import CmsMarkup.Proofs.TableLayers

/-! What rules leave of a tree, whatever their order and number. An element keeps its place until
its rule replaces it, a table gets one more layer each time, and nothing changes but what belongs
to the rules. -/

namespace CmsMarkup

open Html

namespace Rule

/-- A table in so many layers. -/
def layered : Nat → Node → Node
  | 0, n => n
  | t + 1, n => wrapTable (layered t n)

/-- The layers around it, the innermost first. -/
def layersOf (t : Nat) (n : Node) : List Node := (List.range t).map fun i => layered (i + 1) n

theorem layered_wrapTable (t : Nat) (n : Node) : layered t (wrapTable n) = layered (t + 1) n := by
  induction t with
  | zero => rfl
  | succ t ih => rw [layered, ih]; rfl

theorem layersOf_succ (t : Nat) (n : Node) :
    layersOf (t + 1) n = layersOf t n ++ [layered (t + 1) n] := by
  simp [layersOf, List.range_succ]

/-- The attribute that a rule sets in an element that stays. -/
def setKey? : RuleKind → Option String
  | .heading => some "id"
  | .table => some "class"
  | .image => none
  | .code => some "class"

def ownKey? (name : String) (children : List Node) : Option String :=
  (RuleKind.ofElement? name children).bind setKey?

theorem ownKey?_of_kind {name : String} {children : List Node} {kind : RuleKind}
    (h : RuleKind.ofElement? name children = some kind) : ownKey? name children = setKey? kind := by
  rw [ownKey?, h, Option.bind_some]

theorem name_ne_of_kind {name own : String} {children : List Node} {kind : RuleKind}
    (other : RuleKind) (hown : elementName? other = some own)
    (h : RuleKind.ofElement? name children = some kind) (hne : kind ≠ other) : name ≠ own := by
  rintro rfl
  have hother := (ofElement?_eq_some_iff other hown name children).mpr rfl
  exact hne (Option.some.inj (h.symm.trans hother))

/-- The same attributes in the same order, apart from one. -/
def SameBut (key? : Option String) (attributes changed : List Attribute) : Prop :=
  match key? with
  | none => changed = attributes
  | some key => Attribute.remove key changed = Attribute.remove key attributes

theorem SameBut.refl (key? : Option String) (attributes : List Attribute) :
    SameBut key? attributes attributes := by
  cases key? <;> rfl

theorem SameBut.set {key : String} {attributes changed : List Attribute}
    (h : SameBut (some key) attributes changed) (value : String) :
    SameBut (some key) attributes (Attribute.set key value changed) :=
  (Attribute.remove_set key value changed).trans h

theorem SameBut.codeAttributes {attributes changed : List Attribute}
    (h : SameBut (some "class") attributes changed) :
    SameBut (some "class") attributes (codeAttributes changed) := by
  unfold Rule.codeAttributes
  split
  · exact h.set _
  · exact h

/-- A numbered tree and what is left of it after some rules. Tables stand in `layers` of their
own; images are as they were, or a grid stands in their place. Otherwise an element keeps its
number, its name and its children, and its attributes but for the one that its rule sets. -/
inductive Evolved (layers : Nat → Nat) (replaced : Nat → Prop) : Node → Node → Prop
  | text (kind : TextKind) (s : String) : Evolved layers replaced (.text kind s) (.text kind s)
  | image {j : Nat} {attributes : List Attribute} (out : replaced j) :
      Evolved layers replaced (.element (some j) "img" attributes [])
        (grid ((Attribute.find? "alt" attributes).getD ""))
  | element {j : Nat} {name : String} {attributes changed : List Attribute}
      {children inner : List Node} (stays : name = "img" → ¬ replaced j)
      (kept : SameBut (ownKey? name children) attributes changed)
      (below : List.Forall₂ (Evolved layers replaced) children inner) :
      Evolved layers replaced (.element (some j) name attributes children)
        (layered (if name = "table" then layers j else 0) (.element (some j) name changed inner))
  | code {j : Nat} {attributes changed : List Attribute} {kind kind' : TextKind} {s s' : String}
      {rest inner : List Node} (kept : SameBut (some "class") attributes changed)
      (below : List.Forall₂ (Evolved layers replaced) rest inner) :
      Evolved layers replaced (.element (some j) "code" attributes (.text kind s :: rest))
        (.element (some j) "code" changed (.text kind' s' :: inner))

section

variable {layers layers' : Nat → Nat} {replaced replaced' : Nat → Prop}

theorem evolved_of_name_ne {j : Nat} {name : String} {attributes changed : List Attribute}
    {children inner : List Node} (hname : name ≠ "table") (stays : name = "img" → ¬ replaced j)
    (kept : SameBut (ownKey? name children) attributes changed)
    (below : List.Forall₂ (Evolved layers replaced) children inner) :
    Evolved layers replaced (.element (some j) name attributes children)
      (.element (some j) name changed inner) := by
  have he := Evolved.element (j := j) stays kept below
  rwa [if_neg hname] at he

theorem evolved_table {j t : Nat} {attributes changed : List Attribute} {children inner : List Node}
    (ht : layers j = t) (kept : SameBut (some "class") attributes changed)
    (below : List.Forall₂ (Evolved layers replaced) children inner) :
    Evolved layers replaced (.element (some j) "table" attributes children)
      (layered t (.element (some j) "table" changed inner)) := by
  have he : Evolved layers replaced (.element (some j) "table" attributes children)
      (layered (if "table" = "table" then layers j else 0)
        (.element (some j) "table" changed inner)) :=
    .element (fun h => absurd h (by decide)) kept below
  rwa [if_pos rfl, ht] at he

/-- A tree to which nothing has been done. -/
theorem evolved_refl {k : Nat} {n : Node} (h : Node.Counted k [n]) (hl : ∀ j, layers j = 0)
    (hr : ∀ j, ¬ replaced j) : Evolved layers replaced n n := by
  induction n generalizing k with
  | text kind s => exact .text kind s
  | element number name attributes children ih =>
    obtain ⟨rfl, hc⟩ := Node.counted_element.mp h
    have hbelow : List.Forall₂ (Evolved layers replaced) children children := by
      rw [List.forall₂_same]
      intro n hn
      obtain ⟨i, hi⟩ := hc.of_mem hn
      exact ih n hn hi
    by_cases hname : name = "table"
    · subst hname
      exact evolved_table (hl k) (.refl _ _) hbelow
    · exact evolved_of_name_ne hname (fun _ => hr k) (.refl _ _) hbelow

/-- Only the numbers of tables and images count. -/
theorem Evolved.congr {n m : Node} (h : Evolved layers replaced n m)
    (hn : ∀ e ∈ Node.elements n, ∀ j, e.number? = some j →
      (e.hasName "table" = true → layers' j = layers j) ∧
        (e.hasName "img" = true → (replaced' j ↔ replaced j))) :
    Evolved layers' replaced' n m := by
  induction n generalizing m with
  | text kind s =>
    cases h
    exact .text kind s
  | element number name attributes children ih =>
    have hbelow {nodes inner : List Node} (hsub : nodes ⊆ children)
        (hf : List.Forall₂ (Evolved layers replaced) nodes inner) :
        List.Forall₂ (Evolved layers' replaced') nodes inner :=
      forall₂_of_mem hf fun n hm y hy => ih n (hsub hm) hy fun e he =>
        hn e (Node.mem_elements_of_child (hsub hm) he)
    cases h with
    | @image j attributes out =>
      exact .image (((hn _ List.mem_cons_self j rfl).2 rfl).mpr out)
    | @element j name attributes changed children inner stays kept below =>
      have hown := hn _ List.mem_cons_self j rfl
      simp only [Node.hasName_element, beq_iff_eq] at hown
      have hinner := hbelow (List.Subset.refl _) below
      split_ifs with hname
      · subst hname
        exact evolved_table (hown.1 rfl) kept hinner
      · exact evolved_of_name_ne hname (fun h => (hown.2 h).not.mpr (stays h)) kept hinner
    | code kept below => exact .code kept (hbelow (List.subset_cons_self _ _) below)

theorem replaceNode_layered (j : Nat) (f : Node → Node) (t : Nat) (n : Node) :
    Collected.replaceNode j f (layered t n) = layered t (Collected.replaceNode j f n) := by
  induction t with
  | zero => rfl
  | succ t ih =>
    rw [layered, layered, wrapTable, wrapTable, Collected.replaceNode_element,
      if_neg (Option.some_ne_none j).symm, Collected.replaceNodes, Collected.replaceNodes, ih]

theorem Evolved.isElement_eq {n m : Node} (h : Evolved layers replaced n m) :
    m.isElement = n.isElement := by
  have hlayered (t : Nat) {e : Node} (he : e.isElement = true) : (layered t e).isElement = true := by
    cases t with
    | zero => exact he
    | succ t => rfl
  cases h with
  | text => rfl
  | image => rfl
  | element => exact hlayered _ rfl
  | code => rfl

/-- The children of code after its rule: at most a string that comes first has changed. -/
theorem evolved_stripLeading {j : Nat} {attributes changed : List Attribute}
    {children inner : List Node} (kept : SameBut (some "class") attributes changed)
    (below : List.Forall₂ (Evolved layers replaced) children inner) :
    Evolved layers replaced (.element (some j) "code" attributes children)
      (.element (some j) "code" changed (stripLeading inner)) := by
  have hsame : Evolved layers replaced (.element (some j) "code" attributes children)
      (.element (some j) "code" changed inner) :=
    evolved_of_name_ne (by decide) (fun h => absurd h (by decide)) kept below
  cases below with
  | nil => exact hsame
  | @cons n m rest inner hn hrest =>
    have hm := hn.isElement_eq
    cases n with
    | text kind s =>
      cases hn
      simp only [stripLeading]
      split_ifs
      · exact hsame
      · exact .code kept hrest
    | element =>
      cases m with
      | text kind s => simp at hm
      | element => exact hsame

theorem replaceNode_grid (j : Nat) (f : Node → Node) (alt : String) :
    Collected.replaceNode j f (grid alt) = grid alt := by
  simp [grid, Collected.replaceNode_element, Collected.replaceNodes]

/-- The rule of an element that is itself in question. The nodes inside it go through with what
holds of other numbers. -/
theorem Evolved.apply_own {j : Nat} {name : String} {attributes : List Attribute}
    {children : List Node} {m : Node} {kind : RuleKind}
    (h : Evolved layers replaced (.element (some j) name attributes children) m)
    (hkind : RuleKind.ofElement? name children = some kind)
    (hempty : name = "img" → children = [])
    (hbelow : ∀ nodes inner, nodes ⊆ children → List.Forall₂ (Evolved layers replaced) nodes inner →
      List.Forall₂ (Evolved layers' replaced') nodes inner)
    (htable : kind = .table → layers' j = layers j + 1) (himage : kind = .image → replaced' j) :
    Evolved layers' replaced' (.element (some j) name attributes children)
      (Collected.replaceNode j (applied kind) m) := by
  cases h with
  | image out =>
    obtain rfl : RuleKind.image = kind := Option.some.inj hkind
    rw [replaceNode_grid]
    exact .image (himage rfl)
  | @element j name attributes changed children inner stays kept below =>
    have hinner := hbelow children inner (List.Subset.refl _) below
    rw [replaceNode_layered, Collected.replaceNode_element, if_pos rfl, applied_element]
    have hkey := ownKey?_of_kind hkind
    rw [hkey] at kept
    cases kind with
    | heading =>
      have htable : name ≠ "table" := name_ne_of_kind .table rfl hkind nofun
      have himage : name ≠ "img" := name_ne_of_kind .image rfl hkind nofun
      rw [if_neg htable]
      refine evolved_of_name_ne htable (fun h => absurd h himage) ?_ hinner
      rw [hkey]
      exact kept.set _
    | table =>
      obtain rfl := (ofElement?_eq_some_iff .table rfl name children).mp hkind
      rw [if_pos rfl, result, layered_wrapTable]
      exact evolved_table (htable rfl) (kept.set _) hinner
    | image =>
      obtain rfl := (ofElement?_eq_some_iff .image rfl name children).mp hkind
      obtain rfl := hempty rfl
      obtain rfl : changed = attributes := kept
      exact .image (himage rfl)
    | code =>
      obtain rfl := (ofElement?_eq_some_iff .code rfl name children).mp hkind
      exact evolved_stripLeading kept.codeAttributes hinner
  | @code j attributes changed k k' s s' rest inner kept below =>
    obtain rfl : RuleKind.code = kind := Option.some.inj hkind
    have hinner := hbelow rest inner (List.subset_cons_self _ _) below
    rw [Collected.replaceNode_element, if_pos rfl, applied_element, result, stripLeading]
    split_ifs
    · exact .code kept.codeAttributes hinner
    · exact .code kept.codeAttributes hinner

/-- The rule of one element, wherever it stands. -/
theorem Evolved.apply {k j : Nat} {n m : Node} {kind : RuleKind} (hc : Node.Counted k [n])
    (he : ImagesEmpty [n]) (h : Evolved layers replaced n m)
    (hkind : ∀ e ∈ Node.elements n, e.number? = some j → RuleKind.of? e = some kind)
    (hother : ∀ i, i ≠ j → layers' i = layers i ∧ (replaced' i ↔ replaced i))
    (htable : kind = .table → layers' j = layers j + 1) (himage : kind = .image → replaced' j) :
    Evolved layers' replaced' n (Collected.replaceNode j (applied kind) m) := by
  induction n generalizing k m with
  | text kind s =>
    cases h
    exact .text kind s
  | element number name attributes children ih =>
    obtain ⟨rfl, hcc⟩ := Node.counted_element.mp hc
    obtain ⟨hempty, hec⟩ := he.children
    by_cases hk : k = j
    · subst hk
      refine h.apply_own (hkind _ List.mem_cons_self rfl) hempty (fun nodes inner hsub hf => ?_)
        htable himage
      -- The numbers inside are greater than its own.
      refine forall₂_of_mem hf fun n hm y hy => hy.congr fun e he i hi => ?_
      obtain ⟨i', hi', hlow, -⟩ := hcc.bounds (Node.mem_elementsOf_of_mem (hsub hm) he)
      rw [hi, Option.some.injEq] at hi'
      have ho := hother i (by omega)
      exact ⟨fun _ => ho.1, fun _ => ho.2⟩
    · obtain ⟨hlayers, hreplaced⟩ := hother k hk
      have hne : some k ≠ some j := fun h => hk (Option.some.inj h)
      have hbelow {nodes inner : List Node} (hsub : nodes ⊆ children)
          (hf : List.Forall₂ (Evolved layers replaced) nodes inner) :
          List.Forall₂ (Evolved layers' replaced') nodes
            (Collected.replaceNodes j (applied kind) inner) := by
        rw [Collected.replaceNodes_eq_map]
        refine forall₂_map_of_mem hf fun n hn y hy => ?_
        obtain ⟨i, hi⟩ := hcc.of_mem (hsub hn)
        exact ih n (hsub hn) hi (hec.of_mem (hsub hn)) hy fun e he =>
          hkind e (Node.mem_elements_of_child (hsub hn) he)
      cases h with
      | image out =>
        rw [replaceNode_grid]
        exact .image (hreplaced.mpr out)
      | @element k name attributes changed children inner stays kept below =>
        have hinner := hbelow (List.Subset.refl _) below
        rw [replaceNode_layered, Collected.replaceNode_element, if_neg hne]
        split_ifs with hname
        · subst hname
          exact evolved_table hlayers kept hinner
        · exact evolved_of_name_ne hname (fun h => hreplaced.not.mpr (stays h)) kept hinner
      | code kept below =>
        rw [Collected.replaceNode_element, if_neg hne, Collected.replaceNodes]
        exact .code kept (hbelow (List.subset_cons_self _ _) below)

end

end Rule

end CmsMarkup
