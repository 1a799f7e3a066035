import CmsMarkup.Proofs.RepeatedRules

/-! What the rules leave alone. Without the layers that they have put around tables, the tree has
the shape of the page, and differs from it only in what belongs to a rule. -/

namespace CmsMarkup

open Html

namespace Rule

mutual

/-- The content of a new layer in the place of the layer. What a page has of its own is numbered. -/
def unlayer : Node → List Node
  | .text kind s => [.text kind s]
  | .element number name attributes children =>
    if number.isNone && isTableLayer (.element number name attributes children) then
      unlayerOf children
    else [.element number name attributes (unlayerOf children)]

def unlayerOf : List Node → List Node
  | [] => []
  | n :: rest => unlayer n ++ unlayerOf rest

end

theorem unlayerOf_singleton (n : Node) : unlayerOf [n] = unlayer n := List.append_nil _

theorem unlayer_layered (t : Nat) (n : Node) : unlayer (layered t n) = unlayer n := by
  induction t with
  | zero => rfl
  | succ t ih =>
    have hlayer : unlayer (layered (t + 1) n) = unlayerOf [layered t n] := rfl
    rw [hlayer, unlayerOf_singleton, ih]

theorem unlayer_element (j : Nat) (name : String) (attributes : List Attribute)
    (children : List Node) : unlayer (.element (some j) name attributes children) =
      [.element (some j) name attributes (unlayerOf children)] := rfl

theorem unlayer_grid (alt : String) : unlayer (grid alt) = [grid alt] := rfl

section

variable {layers : Nat → Nat} {replaced : Nat → Prop}

theorem forall₂_unlayerOf_of_mem {nodes inner : List Node}
    (h : List.Forall₂ (Evolved layers replaced) nodes inner)
    (hn : ∀ n ∈ nodes, ∀ m, Evolved layers replaced n m →
      ∃ m', unlayer m = [m'] ∧ Evolved (fun _ => 0) replaced n m') :
    List.Forall₂ (Evolved (fun _ => 0) replaced) nodes (unlayerOf inner) := by
  induction h with
  | nil => exact .nil
  | cons hnm _ ih =>
    rw [List.forall_mem_cons] at hn
    obtain ⟨m', hm', he⟩ := hn.1 _ hnm
    rw [unlayerOf, hm']
    exact .cons he (ih hn.2)

theorem Evolved.unlayer {n m : Node} (h : Evolved layers replaced n m) :
    ∃ m', Rule.unlayer m = [m'] ∧ Evolved (fun _ => 0) replaced n m' := by
  induction n generalizing m with
  | text kind s =>
    cases h
    exact ⟨_, rfl, .text kind s⟩
  | element number name attributes children ih =>
    have hbelow {nodes inner : List Node} (hsub : nodes ⊆ children)
        (hf : List.Forall₂ (Evolved layers replaced) nodes inner) :
        List.Forall₂ (Evolved (fun _ => 0) replaced) nodes (unlayerOf inner) :=
      forall₂_unlayerOf_of_mem hf fun n hn m hm => ih n (hsub hn) hm
    cases h with
    | image out => exact ⟨_, unlayer_grid _, .image out⟩
    | @element j name attributes changed children inner stays kept below =>
      have hinner := hbelow (List.Subset.refl _) below
      refine ⟨_, (unlayer_layered _ _).trans (unlayer_element ..), ?_⟩
      by_cases hname : name = "table"
      · subst hname
        exact evolved_table rfl kept hinner
      · exact evolved_of_name_ne hname stays kept hinner
    | code kept below =>
      exact ⟨_, unlayer_element .., .code kept (hbelow (List.subset_cons_self _ _) below)⟩

end

end Rule

theorem fixup_evolved {nodes : List Node} (he : Rule.ImagesEmpty nodes) :
    List.Forall₂ (Rule.Evolved (fun _ => 1) fun _ => True) (Collected.ofNodes nodes).nodes
      (fixup (Collected.ofNodes nodes).nodes).1 := by
  have hc := Collected.ofNodes_counted nodes
  have hreached := (Collected.reached_ofNodes nodes).callAll hc (Collected.ofNodes_imagesEmpty he)
    (List.range (Collected.ofNodes nodes).count)
  rw [Collected.callAll_range he, List.nil_append] at hreached
  refine forall₂_of_mem hreached.evolved fun n hn m hm => hm.congr fun e hm' j hj => ?_
  obtain ⟨i, hi, -, hlt⟩ := hc.bounds (Node.mem_elementsOf_of_mem hn hm')
  obtain rfl : j = i := Option.some.inj (hj.symm.trans hi)
  have hmem : j ∈ List.range (Collected.ofNodes nodes).count := by
    rw [List.mem_range, Collected.ofNodes_count]
    omega
  exact ⟨fun _ => (List.count_eq_one_of_mem List.nodup_range hmem).symm, fun _ => by simp [hmem]⟩

/-- The rules on a page whose elements are told apart by numbers, each element once. Out of its
layer, what they leave is the page, with its elements in their places and their own attributes and
strings. There is a grid in the place of every image; otherwise an id of a heading, a class
of a table or of code, and a string that comes first in code may have changed. -/
theorem fixup_frame {text : String} {nodes : List Node} (h : parse? text = some nodes) :
    let page := Collected.ofNodes nodes
    Node.unnumberedOf page.nodes = nodes ∧
      (Node.elementsOf page.nodes).map Node.number? = (List.range page.count).map some ∧
      Node.unnumberedOf (fixup page.nodes).1 = (fixup nodes).1 ∧
      List.Forall₂ (Rule.Evolved (fun _ => 0) fun _ => True) page.nodes
        (Rule.unlayerOf (fixup page.nodes).1) := by
  intro page
  have hevolved := fixup_evolved (parse?_regular h).imagesEmpty
  exact ⟨Collected.unnumberedOf_ofNodes h, Collected.ofNodes_numbers nodes,
    Collected.unnumberedOf_fixup h,
    Rule.forall₂_unlayerOf_of_mem hevolved fun n _ m hm => hm.unlayer⟩

theorem fixup_frame_nested_tables :
    parse? "<table id=t><td><table></table><img alt=a>x</td></table>" =
        some [.element none "table" [⟨"id", "t"⟩] [.element none "td" []
          [.element none "table" [] [], .element none "img" [⟨"alt", "a"⟩] [], .text .plain "x"]]] ∧
      List.Forall₂ (Rule.Evolved (fun _ => 0) fun _ => True)
        [.element (some 0) "table" [⟨"id", "t"⟩] [.element (some 1) "td" []
          [.element (some 2) "table" [] [], .element (some 3) "img" [⟨"alt", "a"⟩] [],
            .text .plain "x"]]]
        [.element (some 0) "table" [⟨"id", "t"⟩, ⟨"class", Convention.tableClass⟩]
          [.element (some 1) "td" [] [.element (some 2) "table" [⟨"class", Convention.tableClass⟩] [],
            Rule.grid "a", .text .plain "x"]]] := by
  have h : parse? "<table id=t><td><table></table><img alt=a>x</td></table>" =
      some [.element none "table" [⟨"id", "t"⟩] [.element none "td" []
        [.element none "table" [] [], .element none "img" [⟨"alt", "a"⟩] [],
          .text .plain "x"]]] := rfl
  exact ⟨h, (fixup_frame h).2.2.2⟩

end CmsMarkup
