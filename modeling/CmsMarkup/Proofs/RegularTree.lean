import CmsMarkup.Html.Tree
import CmsMarkup.Proofs.DocumentOrder

/-! Trees that come from a text are regular: no element has two attributes of one name,
and elements that never have content have none. -/

namespace CmsMarkup.Html

namespace Attribute

def Distinct (attributes : List Attribute) : Prop := (attributes.map (·.name)).Nodup

theorem set_names (name value : String) (attributes : List Attribute) :
    (set name value attributes).map (·.name) =
      if name ∈ attributes.map (·.name) then attributes.map (·.name)
      else attributes.map (·.name) ++ [name] := by
  induction attributes with
  | nil => simp [set]
  | cons a rest ih =>
    by_cases ha : a.name = name
    · simp [set, ha]
    · have hne : name ≠ a.name := fun h => ha h.symm
      by_cases hm : name ∈ rest.map (·.name) <;> simp_all [set]

theorem Distinct.set {attributes : List Attribute} (h : Distinct attributes) (name value : String) :
    Distinct (Attribute.set name value attributes) := by
  rw [Distinct, set_names]
  split_ifs with hm
  · exact h
  · refine List.nodup_append.mpr ⟨h, by simp, ?_⟩
    intro n hn m hm' he
    rw [List.mem_singleton] at hm'
    exact hm (hm' ▸ he ▸ hn)

theorem distinct_map_normalized {attributes : List Attribute} (h : Distinct attributes)
    (element : String) : Distinct (attributes.map (.normalized element)) := by
  have hn : (fun a : Attribute => (a.normalized element).name) = (·.name) := by
    funext a
    unfold normalized
    split_ifs <;> rfl
  simpa [Distinct, Function.comp_def, hn] using h

end Attribute

namespace Token

def IsRegular : Token → Prop
  | .startTag _ attributes _ => Attribute.Distinct attributes
  | _ => True

theorem collect_distinct (pairs : List (List Char × List Char)) :
    Attribute.Distinct (collect pairs) := by
  have step (attributes : List Attribute) (h : Attribute.Distinct attributes) :
      Attribute.Distinct (pairs.foldl (fun attributes p =>
        Attribute.set (String.ofList p.1) (String.ofList (decodeValue p.2)) attributes)
        attributes) := by
    induction pairs generalizing attributes with
    | nil => exact h
    | cons p rest ih => exact ih _ (h.set _ _)
  exact step [] List.nodup_nil

@[simp] theorem isRegular_character (c : Char) : IsRegular (.character c) := trivial

@[simp] theorem isRegular_endTag (name : String) : IsRegular (.endTag name) := trivial

@[simp] theorem isRegular_special (kind : TextKind) (cs : List Char) :
    IsRegular (.special kind cs) := trivial

@[simp] theorem isRegular_collect (name : String) (pairs : List (List Char × List Char))
    (closed : Bool) : IsRegular (.startTag name (collect pairs) closed) := collect_distinct pairs

def Front.IsRegular : Front → Prop
  | .found tokens _ => ∀ t ∈ tokens, t.IsRegular
  | _ => True

@[simp] theorem Front.isRegular_found (tokens : List Token) (rest : List Char) :
    Front.IsRegular (.found tokens rest) ↔ ∀ t ∈ tokens, t.IsRegular := Iff.rfl

@[simp] theorem Front.isRegular_incomplete : Front.IsRegular .incomplete := trivial

@[simp] theorem Front.isRegular_refused (r : Refusal) : Front.IsRegular (.refused r) := trivial

theorem Front.IsRegular.decoding {front : Front} (h : front.IsRegular)
    (pairs : List (List Char × List Char)) : (front.decoding pairs).IsRegular := by
  cases front <;> simp only [Front.decoding]
  case incomplete => exact isRegular_incomplete
  all_goals
    split
    · exact isRegular_refused _
    · exact h

theorem readStartTag_regular (cs : List Char) : (readStartTag cs).IsRegular := by
  simp only [readStartTag]
  refine Front.IsRegular.decoding ?_ _
  repeat' split
  all_goals simp [characters, or_imp, forall_and, -List.map_take]

theorem readEndTag_regular (cs : List Char) : (readEndTag cs).IsRegular := by
  unfold readEndTag
  repeat' split
  all_goals simp

theorem readSection_regular (cs : List Char) : (readSection cs).IsRegular := by
  simp only [readSection]
  repeat' split
  all_goals simp

theorem readDeclaration_regular (cs : List Char) : (readDeclaration cs).IsRegular := by
  simp only [readDeclaration]
  repeat' split
  all_goals simp

theorem readMarkup_regular (cs : List Char) : (readMarkup cs).IsRegular := by
  unfold readMarkup
  split
  · exact readEndTag_regular _
  · split <;> simp
  · exact readSection_regular _
  · exact readDeclaration_regular _
  · split <;> simp
  · split
    · exact readStartTag_regular _
    · simp
  · simp

theorem asCharacters_regular (cs : List Char) : ∀ t ∈ (asCharacters cs).1, t.IsRegular := by
  unfold asCharacters
  repeat' split
  all_goals simp [characters, or_imp, forall_and]

theorem readReference_regular (late : Bool) (cs : List Char) :
    ∀ t ∈ (readReference late cs).1, t.IsRegular := by
  unfold readReference
  repeat' split
  all_goals simp [characters]

theorem exists_of_map_eq_ok {α β : Type} {x : Except Refusal α} {f : α → β} {b : β}
    (h : x.map f = .ok b) : ∃ a, x = .ok a ∧ f a = b := by
  cases x with
  | error r => cases h
  | ok a => exact ⟨a, rfl, Except.ok.inj h⟩

theorem ofCharsFrom_regular {k : Nat} {late : Bool} {cs : List Char} {tokens : List Token}
    (h : ofCharsFrom k late cs = .ok tokens) : ∀ t ∈ tokens, t.IsRegular := by
  induction cs generalizing k late tokens with
  | nil =>
    simp only [ofCharsFrom, Except.ok.injEq] at h
    simp [← h]
  | cons c cs ih =>
    cases k with
    | succ k => exact ih h
    | zero =>
      simp only [ofCharsFrom] at h
      split_ifs at h with hlt hamp
      · split at h
        · rename_i front rest hr
          obtain ⟨more, hm, rfl⟩ := exists_of_map_eq_ok h
          have hf := readMarkup_regular cs
          rw [hr, Front.isRegular_found] at hf
          exact List.forall_mem_append.mpr ⟨hf, ih hm⟩
        · obtain ⟨more, hm, rfl⟩ := exists_of_map_eq_ok h
          exact List.forall_mem_append.mpr ⟨asCharacters_regular cs, ih hm⟩
        · cases h
      · split at h
        · cases h
        · obtain ⟨more, hm, rfl⟩ := exists_of_map_eq_ok h
          exact List.forall_mem_append.mpr ⟨readReference_regular late cs, ih hm⟩
      · obtain ⟨more, hm, rfl⟩ := exists_of_map_eq_ok h
        exact List.forall_mem_cons.mpr ⟨isRegular_character c, ih hm⟩

end Token

namespace Node

def IsRegular : Node → Prop
  | .text .. => True
  | .element _ name attributes children =>
    Attribute.Distinct attributes ∧ (isVoid name = true → children = [])

def Regular (nodes : List Node) : Prop := ∀ n ∈ elementsOf nodes, n.IsRegular

@[simp] theorem regular_nil : Regular [] := by simp [Regular, elementsOf]

theorem regular_append {nodes more : List Node} :
    Regular (nodes ++ more) ↔ Regular nodes ∧ Regular more := by
  simp only [Regular, elementsOf_eq_flatMap, List.flatMap_append, List.forall_mem_append]

theorem regular_cons {n : Node} {rest : List Node} :
    Regular (n :: rest) ↔ Regular [n] ∧ Regular rest := @regular_append [n] rest

theorem regular_reverse {nodes : List Node} : Regular nodes.reverse ↔ Regular nodes := by
  simp only [Regular, elementsOf_eq_flatMap, List.mem_flatMap, List.mem_reverse]

theorem regular_text (kind : TextKind) (s : String) : Regular [.text kind s] := by
  simp [Regular, elementsOf, elements]

theorem regular_element {number : Option Nat} {name : String} {attributes : List Attribute}
    {children : List Node} :
    Regular [.element number name attributes children] ↔
      (Attribute.Distinct attributes ∧ (isVoid name = true → children = [])) ∧ Regular children := by
  simp [Regular, elementsOf, elements, IsRegular]

end Node

structure OpenElement.IsRegular (e : OpenElement) : Prop where
  mayHaveContent : isVoid e.name = false
  distinct : Attribute.Distinct e.attributes
  children : Node.Regular e.children

namespace Construction

structure IsRegular (c : Construction) : Prop where
  opened : ∀ e ∈ c.opened, e.IsRegular
  finished : Node.Regular c.finished

theorem empty_regular : empty.IsRegular := ⟨by simp [empty], by simp [empty]⟩

theorem IsRegular.add {c : Construction} (h : c.IsRegular) {n : Node} (hn : Node.Regular [n]) :
    (c.add n).IsRegular := by
  unfold Construction.add
  split
  · exact ⟨h.opened, Node.regular_cons.mpr ⟨hn, h.finished⟩⟩
  · rename_i e outer he
    have ho := List.forall_mem_cons.mp (he ▸ h.opened)
    refine ⟨List.forall_mem_cons.mpr ⟨⟨ho.1.mayHaveContent, ho.1.distinct, ?_⟩, ho.2⟩, h.finished⟩
    exact Node.regular_cons.mpr ⟨hn, ho.1.children⟩

theorem IsRegular.flush {c : Construction} (h : c.IsRegular) : c.flush.IsRegular := by
  unfold Construction.flush
  split
  · exact h
  · have hp : ({ c with pending := [] } : Construction).IsRegular := ⟨h.opened, h.finished⟩
    exact hp.add (Node.regular_text _ _)

/-- Closing needs less than `OpenElement.IsRegular`: an element that never has content is
closed while it has none. -/
theorem IsRegular.closeHead {c : Construction} {e : OpenElement} {outer : List OpenElement}
    (he : c.opened = e :: outer) (ho : ∀ e ∈ outer, e.IsRegular) (hf : Node.Regular c.finished)
    (hd : Attribute.Distinct e.attributes) (hc : Node.Regular e.children)
    (hv : isVoid e.name = true → e.children = []) : c.closeOne.IsRegular := by
  have hp : ({ c with opened := outer } : Construction).IsRegular := ⟨ho, hf⟩
  simp only [Construction.closeOne, he]
  refine hp.add (Node.regular_element.mpr ⟨⟨hd, ?_⟩, Node.regular_reverse.mpr hc⟩)
  intro hvoid
  simp [hv hvoid]

theorem IsRegular.closeOne {c : Construction} (h : c.IsRegular) : c.closeOne.IsRegular := by
  cases he : c.opened with
  | nil => simpa [Construction.closeOne, he] using h
  | cons e outer =>
    have ho := List.forall_mem_cons.mp (he ▸ h.opened)
    exact closeHead he ho.2 h.finished ho.1.distinct ho.1.children
      (by simp [ho.1.mayHaveContent])

theorem IsRegular.closeMany {c : Construction} (h : c.IsRegular) (n : Nat) :
    (closeMany n c).IsRegular := by
  induction n generalizing c with
  | zero => exact h
  | succ n ih => exact ih h.closeOne

theorem IsRegular.close {c : Construction} (h : c.IsRegular) (name : String) :
    (c.close name).IsRegular := by
  unfold Construction.close
  split
  · exact h
  · exact h.closeMany _

theorem IsRegular.startTag {c : Construction} (h : c.IsRegular) {name : String}
    {attributes : List Attribute} (hd : Attribute.Distinct attributes) (closed : Bool) :
    (c.step (.startTag name attributes closed)).IsRegular := by
  have hn := Attribute.distinct_map_normalized hd name
  have hf := h.flush
  have hclose : ({ c.flush with opened := ⟨name, attributes.map (.normalized name), []⟩ ::
      c.flush.opened } : Construction).closeOne.IsRegular :=
    closeHead rfl hf.opened hf.finished hn Node.regular_nil (fun _ => rfl)
  simp only [step]
  split_ifs with hvoid
  · exact hclose
  · exact ⟨hclose.opened, hclose.finished⟩
  · exact hclose
  · exact ⟨List.forall_mem_cons.mpr ⟨⟨by simpa using hvoid, hn, Node.regular_nil⟩, hf.opened⟩,
      hf.finished⟩

theorem IsRegular.step {c : Construction} (h : c.IsRegular) {t : Token} (ht : t.IsRegular) :
    (c.step t).IsRegular := by
  cases t with
  | character ch => exact ⟨h.opened, h.finished⟩
  | special kind content => exact h.flush.add (Node.regular_text _ _)
  | startTag name attributes closed => exact h.startTag ht closed
  | endTag name =>
    simp only [Construction.step]
    split_ifs
    · exact ⟨h.opened, h.finished⟩
    · exact h.flush.close name

theorem IsRegular.foldl {c : Construction} (h : c.IsRegular) {tokens : List Token}
    (ht : ∀ t ∈ tokens, t.IsRegular) : (tokens.foldl Construction.step c).IsRegular := by
  induction tokens generalizing c with
  | nil => exact h
  | cons t rest ih =>
    have hh := List.forall_mem_cons.mp ht
    exact ih (h.step hh.1) hh.2

end Construction

theorem parse?_regular {text : String} {nodes : List Node} (h : parse? text = some nodes) :
    Node.Regular nodes := by
  obtain ⟨tokens, ht, rfl⟩ := parse?_eq_some_iff.mp h
  have hc := Construction.empty_regular.foldl (Token.ofCharsFrom_regular ht)
  exact Node.regular_reverse.mpr (hc.flush.closeMany _).finished

/-- Void elements are closed, slashed or not, behind an end tag that was still to come. -/
example : parse? "<br>x<br/>y<br />z</br>w" =
    some [.element none "br" [] [], .text .plain "x", .element none "br" [] [], .text .plain "y",
      .element none "br" [] [], .text .plain "zw"] := rfl

/-- Images do not take in what follows them, and references make no surrogates. -/
example : parse? "<img alt=\"a\"><img alt=\"b\"/><p>&#xD800;&#0;</p>" =
    some [.element none "img" [⟨"alt", "a"⟩] [], .element none "img" [⟨"alt", "b"⟩] [],
      .element none "p" [] [.text .plain "\uFFFD\uFFFD"]] := rfl

end CmsMarkup.Html
