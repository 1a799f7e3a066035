import CmsMarkup.FrontMatter
import Mathlib.Control.Monad.Basic
import Mathlib.Data.List.Basic

/-! When front matter can not be read. A block that is no YAML or no map is passed over, so
what is left are texts of a YAML document that their kind has no value for. -/

namespace CmsMarkup

namespace Yaml

namespace Node

@[elab_as_elim, induction_eliminator]
theorem induction {motive : Node → Prop}
    (scalar : ∀ kind content, motive (.scalar kind content))
    (sequence : ∀ kind items, (∀ n ∈ items, motive n) → motive (.sequence kind items))
    (mapping : ∀ kind entries, (∀ e ∈ entries, motive e.1 ∧ motive e.2) →
      motive (.mapping kind entries))
    (enclosing : ∀ isMap, motive (.enclosing isMap)) (n : Node) : motive n := by
  refine @Node.rec motive (fun items => ∀ n ∈ items, motive n)
    (fun entries => ∀ e ∈ entries, motive e.1 ∧ motive e.2) (fun e => motive e.1 ∧ motive e.2)
    scalar sequence mapping enclosing ?_ ?_ ?_ ?_ ?_ n
  · simp
  · intro n rest hn hrest
    exact List.forall_mem_cons.mpr ⟨hn, hrest⟩
  · simp
  · intro e rest he hrest
    exact List.forall_mem_cons.mpr ⟨he, hrest⟩
  · intro k v hk hv
    exact ⟨hk, hv⟩

mutual

/-- A node and all that it holds. -/
def nodes : Node → List Node
  | .scalar kind content => [.scalar kind content]
  | .sequence kind items => .sequence kind items :: nodesOf items
  | .mapping kind entries => .mapping kind entries :: nodesOfEntries entries
  | .enclosing isMap => [.enclosing isMap]

def nodesOf : List Node → List Node
  | [] => []
  | n :: rest => nodes n ++ nodesOf rest

def nodesOfEntries : List (Node × Node) → List Node
  | [] => []
  | (k, v) :: rest => nodes k ++ nodes v ++ nodesOfEntries rest

end

theorem self_mem_nodes (n : Node) : n ∈ n.nodes := by
  cases n <;> exact List.mem_cons_self

theorem nodes_subset_nodesOf {n : Node} {items : List Node} (h : n ∈ items) :
    n.nodes ⊆ nodesOf items := by
  induction items with
  | nil => cases h
  | cons first rest ih =>
    rw [nodesOf]
    rcases List.mem_cons.mp h with rfl | h
    · exact List.subset_append_left _ _
    · exact List.subset_append_of_subset_right _ (ih h)

theorem nodes_subset_nodesOfEntries {e : Node × Node} {entries : List (Node × Node)}
    (h : e ∈ entries) : e.1.nodes ⊆ nodesOfEntries entries ∧ e.2.nodes ⊆ nodesOfEntries entries := by
  induction entries with
  | nil => cases h
  | cons first rest ih =>
    obtain ⟨k, v⟩ := first
    rw [nodesOfEntries]
    rcases List.mem_cons.mp h with rfl | h
    · exact ⟨List.subset_append_of_subset_left _ (List.subset_append_left _ _),
        List.subset_append_of_subset_left _ (List.subset_append_right _ _)⟩
    · exact ⟨List.subset_append_of_subset_right _ (ih h).1,
        List.subset_append_of_subset_right _ (ih h).2⟩

/-- The value that a node has by a text: by its own, or by that of the entry that stands for
it. -/
def textValue? : Node → Option (Except Fault Value)
  | .scalar kind content => some (scalarValue kind content)
  | .mapping kind entries => (entryContent? entries).map (entryValue kind)
  | _ => none

/-- A text that has a value of its kind, with no number in it that is too long to be written,
or a collection that is not taken for a text. -/
def IsProper : Node → Prop
  | .scalar kind content =>
    match scalarValue kind content with
    | .ok v => v.isWritable = true
    | .error f => f = .malformed
  | .mapping kind _ => kind = .map ∨ kind = .set
  | _ => True

end Node

/-! ### What is built from a node -/

theorem areWritable_iff {items : List Value} :
    Value.areWritable items = true ↔ ∀ v ∈ items, v.isWritable = true := by
  induction items with
  | nil => simp [Value.areWritable]
  | cons v rest ih => simp [Value.areWritable, ih]

theorem entriesAreWritable_iff {entries : List (Value × Value)} :
    Value.entriesAreWritable entries = true ↔
      ∀ e ∈ entries, e.1.isWritable = true ∧ e.2.isWritable = true := by
  induction entries with
  | nil => simp [Value.entriesAreWritable]
  | cons e rest ih => simp [Value.entriesAreWritable, ih, and_assoc]

theorem entriesAreWritable_put {key value : Value} {entries : List (Value × Value)}
    (hk : key.isWritable = true) (hv : value.isWritable = true)
    (h : Value.entriesAreWritable entries = true) :
    Value.entriesAreWritable (Value.put key value entries) = true := by
  induction entries with
  | nil => simp [Value.put, Value.entriesAreWritable, hk, hv]
  | cons e rest ih =>
    obtain ⟨k, v⟩ := e
    simp only [Value.entriesAreWritable, Bool.and_eq_true] at h
    rw [Value.put]
    split_ifs
    · simp [Value.entriesAreWritable, h, hv]
    · simp [Value.entriesAreWritable, h, ih]

/-- What is built from some nodes has the faults of their texts, and what does not fit its
kind; if the nodes are proper, all its numbers can be written. -/
structure BuiltFrom (nodes : List Node) (b : Built) : Prop where
  faults : ∀ x ∈ b.faults, x.2 = .malformed ∨ ∃ m ∈ nodes, m.textValue? = some (.error x.2)
  writable : (∀ m ∈ nodes, m.IsProper) → b.value.isWritable = true

/-- The same of keys and values. -/
def EntriesFrom (nodes : List Node) (pairs : List (Built × Built)) : Prop :=
  ∀ p ∈ pairs, BuiltFrom nodes p.1 ∧ BuiltFrom nodes p.2

theorem EntriesFrom.append {nodes : List Node} {pairs more : List (Built × Built)}
    (h : EntriesFrom nodes pairs) (h' : EntriesFrom nodes more) :
    EntriesFrom nodes (pairs ++ more) :=
  List.forall_mem_append.mpr ⟨h, h'⟩

namespace BuiltFrom

variable {nodes : List Node} {b k v : Built} {built : List Built} {pairs : List (Built × Built)}

theorem malformed (nodes : List Node) (depth : Nat) :
    BuiltFrom nodes (.fault depth .malformed) := by
  refine ⟨fun x hx => ?_, fun _ => rfl⟩
  rw [List.mem_singleton.mp hx]
  exact .inl rfl

theorem ofExcept {m : Node} {r : Except Fault Value} (depth : Nat) (hm : m ∈ nodes)
    (hr : m.textValue? = some r) : BuiltFrom nodes (.ofExcept depth r) := by
  cases r with
  | error f =>
    refine ⟨fun x hx => ?_, fun _ => rfl⟩
    rw [List.mem_singleton.mp hx]
    exact .inr ⟨m, hm, hr⟩
  | ok v =>
    refine ⟨nofun, fun hp => ?_⟩
    have hproper := hp m hm
    cases m with
    | scalar kind content =>
      rw [Node.textValue?, Option.some.injEq] at hr
      rw [Node.IsProper, hr] at hproper
      exact hproper
    | mapping kind entries =>
      -- A map or a set has no value by a text.
      obtain ⟨cs, -, hv⟩ := Option.map_eq_some_iff.mp hr
      rcases hproper with rfl | rfl <;> cases hv
    | sequence kind items => cases hr
    | enclosing isMap => cases hr

theorem ofContent {kind : Kind} {entries : List (Node × Node)} (depth : Nat)
    (hm : .mapping kind entries ∈ nodes) :
    BuiltFrom nodes (Node.ofContent depth kind (Node.entryContent? entries)) := by
  cases hc : Node.entryContent? entries with
  | none => exact malformed nodes depth
  | some cs => exact ofExcept depth hm (by rw [Node.textValue?, hc, Option.map_some])

/-- A text is always a value of its own. -/
theorem ofText (nodes : List Node) (depth : Nat) (content : Option (List Char)) :
    BuiltFrom nodes (Node.ofContent depth .str content) := by
  cases content with
  | none => exact malformed nodes depth
  | some cs => exact ⟨nofun, fun _ => rfl⟩

theorem list (h : ∀ b ∈ built, BuiltFrom nodes b) :
    BuiltFrom nodes ⟨.list (built.map Built.value), built.flatMap Built.faults⟩ := by
  refine ⟨List.forall_mem_flatMap.mpr fun b hb => (h b hb).faults, fun hp => ?_⟩
  rw [Value.isWritable, areWritable_iff]
  exact List.forall_mem_map.mpr fun b hb => (h b hb).writable hp

theorem pair (hk : BuiltFrom nodes k) (hv : BuiltFrom nodes v) :
    BuiltFrom nodes ⟨.pair k.value v.value, k.faults ++ v.faults⟩ :=
  ⟨List.forall_mem_append.mpr ⟨hk.faults, hv.faults⟩, fun hp => by
    rw [Value.isWritable, hk.writable hp, hv.writable hp, Bool.and_self]⟩

theorem assemble (h : EntriesFrom nodes pairs) (depth : Nat) :
    BuiltFrom nodes (Node.assemble depth pairs) := by
  constructor
  · refine List.forall_mem_flatMap.mpr fun p hp => ?_
    refine List.forall_mem_append.mpr ⟨List.forall_mem_append.mpr ⟨(h p hp).1.faults, ?_⟩,
      (h p hp).2.faults⟩
    split_ifs
    · nofun
    · exact (malformed nodes depth).faults
  · intro hproper
    suffices hput : ∀ entries, Value.entriesAreWritable entries = true →
        Value.entriesAreWritable
          (pairs.foldl (fun entries p => Value.put p.1.value p.2.value entries) entries) = true from
      hput [] rfl
    induction pairs with
    | nil => exact fun _ he => he
    | cons p rest ih =>
      intro entries he
      obtain ⟨hk, hv⟩ := h p List.mem_cons_self
      exact ih (fun q hq => h q (List.mem_cons_of_mem _ hq)) _
        (entriesAreWritable_put (hk.writable hproper) (hv.writable hproper) he)

theorem keysOf (h : BuiltFrom nodes b) : BuiltFrom nodes ⟨Node.keysOf b.value, b.faults⟩ := by
  refine ⟨h.faults, fun hp => ?_⟩
  have hw := h.writable hp
  generalize b.value = v at hw
  cases v with
  | map entries =>
    rw [Value.isWritable, entriesAreWritable_iff] at hw
    rw [Node.keysOf, Value.isWritable, areWritable_iff]
    exact List.forall_mem_map.mpr fun e he => (hw e he).1
  | _ => exact hw

end BuiltFrom

namespace Node

/-- Everything that can be built from a node of a document. -/
structure Sound (all : List Node) (n : Node) : Prop where
  build : ∀ depth, BuiltFrom all (n.build depth)
  pair : ∀ depth, BuiltFrom all (buildPair depth n)
  entries : ∀ depth pairs, mergedEntries depth n = some pairs → EntriesFrom all pairs
  merged : ∀ depth pairs, mergedMapping depth n = some pairs → EntriesFrom all pairs

section

variable {all : List Node}

theorem mem_buildItems {items : List Node} (h : ∀ n ∈ items, Sound all n) (depth : Nat) :
    ∀ b ∈ buildItems depth items, BuiltFrom all b := by
  induction items with
  | nil => nofun
  | cons n rest ih =>
    rw [buildItems]
    exact List.forall_mem_cons.mpr ⟨(h n List.mem_cons_self).build depth,
      ih fun m hm => h m (List.mem_cons_of_mem _ hm)⟩

theorem mem_buildPairs {items : List Node} (h : ∀ n ∈ items, Sound all n) (depth : Nat) :
    ∀ b ∈ buildPairs depth items, BuiltFrom all b := by
  induction items with
  | nil => nofun
  | cons n rest ih =>
    rw [buildPairs]
    exact List.forall_mem_cons.mpr ⟨(h n List.mem_cons_self).pair depth,
      ih fun m hm => h m (List.mem_cons_of_mem _ hm)⟩

theorem mergedItems_from {items : List Node} (h : ∀ n ∈ items, Sound all n) {depth : Nat}
    {pairs : List (Built × Built)} (hp : mergedItems depth items = some pairs) :
    EntriesFrom all pairs := by
  induction items generalizing pairs with
  | nil =>
    cases hp
    nofun
  | cons n rest ih =>
    rw [mergedItems] at hp
    split at hp
    · rename_i first later hfirst hlater
      cases hp
      exact (ih (fun m hm => h m (List.mem_cons_of_mem _ hm)) hlater).append
        ((h n List.mem_cons_self).merged depth first hfirst)
    · cases hp

theorem buildEntries_from {entries : List (Node × Node)}
    (h : ∀ e ∈ entries, Sound all e.1 ∧ Sound all e.2) {depth : Nat}
    {merged own : List (Built × Built)} (hb : buildEntries depth entries = some (merged, own)) :
    EntriesFrom all merged ∧ EntriesFrom all own := by
  induction entries generalizing merged own with
  | nil =>
    cases hb
    constructor <;> nofun
  | cons e rest ih =>
    obtain ⟨k, v⟩ := e
    obtain ⟨hk, hv⟩ := h (k, v) List.mem_cons_self
    have ih := @ih fun e he => h e (List.mem_cons_of_mem _ he)
    rw [buildEntries] at hb
    by_cases hmerge : k.kind = .merge
    · rw [if_pos hmerge] at hb
      cases hfound : mergedEntries depth v with
      | none => simp [hfound] at hb
      | some found =>
        cases hothers : buildEntries depth rest with
        | none => simp [hfound, hothers] at hb
        | some others =>
          obtain ⟨hm, ho⟩ := ih hothers
          simp only [hfound, hothers, Option.some.injEq, Prod.mk.injEq] at hb
          obtain ⟨rfl, rfl⟩ := hb
          exact ⟨(hv.entries depth found hfound).append hm, ho⟩
    · rw [if_neg hmerge] at hb
      obtain ⟨⟨mergedRest, ownRest⟩, hothers, he⟩ := Option.map_eq_some_iff.mp hb
      cases he
      obtain ⟨hm, ho⟩ := ih hothers
      refine ⟨hm, List.forall_mem_cons.mpr ⟨⟨?_, hv.build depth⟩, ho⟩⟩
      split_ifs
      · exact .ofText all depth (content? k)
      · exact hk.build depth

theorem sound (n : Node) (hall : n.nodes ⊆ all) : Sound all n := by
  induction n with
  | scalar kind content =>
    refine ⟨fun depth => ?_, fun depth => .malformed _ depth, ?_, ?_⟩
    · rw [build]
      split_ifs
      · exact .malformed _ _
      · exact .ofExcept depth (hall (self_mem_nodes _)) rfl
    · intro depth pairs hp
      simp [mergedEntries] at hp
    · intro depth pairs hp
      simp [mergedMapping] at hp
  | sequence kind items ih =>
    have ih : ∀ n ∈ items, Sound all n := fun n hn =>
      ih n hn (List.Subset.trans (nodes_subset_nodesOf hn)
        (List.Subset.trans (List.subset_cons_self _ _) hall))
    refine ⟨fun depth => ?_, fun depth => .malformed _ depth,
      fun depth pairs hp => mergedItems_from ih (by simpa [mergedEntries] using hp), ?_⟩
    · rw [build]
      split_ifs
      · exact .list (mem_buildItems ih (depth + 1))
      · exact .list (mem_buildPairs ih (depth + 1))
      · exact .malformed _ _
      · exact .malformed _ _
    · intro depth pairs hp
      simp [mergedMapping] at hp
  | mapping kind entries ih =>
    have ih : ∀ e ∈ entries, Sound all e.1 ∧ Sound all e.2 := fun e he =>
      have hs := nodes_subset_nodesOfEntries he
      have hrest : nodesOfEntries entries ⊆ all :=
        List.Subset.trans (List.subset_cons_self _ _) hall
      ⟨(ih e he).1 (List.Subset.trans hs.1 hrest), (ih e he).2 (List.Subset.trans hs.2 hrest)⟩
    have hmerged {depth : Nat} {pairs : List (Built × Built)}
        (hp : ∃ merged own, buildEntries depth entries = some (merged, own) ∧
          merged ++ own = pairs) : EntriesFrom all pairs := by
      obtain ⟨merged, own, hb, rfl⟩ := hp
      obtain ⟨hm, ho⟩ := buildEntries_from ih hb
      exact hm.append ho
    refine ⟨fun depth => ?_, fun depth => ?_,
      fun depth pairs hp => hmerged (by simpa [mergedEntries] using hp),
      fun depth pairs hp => hmerged (by simpa [mergedMapping] using hp)⟩
    · rw [build]
      by_cases hkind : (kind = .map || kind = .set) = true
      · rw [if_pos hkind]
        cases hb : buildEntries (depth + 1) entries with
        | none => exact .malformed _ _
        | some found =>
          obtain ⟨hm, ho⟩ := buildEntries_from ih hb
          have ha := BuiltFrom.assemble (hm.append ho) (depth + 1)
          dsimp only
          split_ifs
          · exact ha
          · exact ha.keysOf
      · rw [if_neg hkind]
        split_ifs
        · exact .malformed _ _
        · exact .ofContent depth (hall (self_mem_nodes _))
    · cases entries with
      | nil => exact .malformed _ depth
      | cons e rest =>
        cases rest with
        | cons => exact .malformed _ depth
        | nil =>
          obtain ⟨k, v⟩ := e
          obtain ⟨hk, hv⟩ := ih (k, v) List.mem_cons_self
          exact (hk.build depth).pair (hv.build depth)
  | enclosing isMap =>
    refine ⟨fun depth => ⟨nofun, fun _ => rfl⟩, fun depth => .malformed _ depth, ?_, ?_⟩
    · intro depth pairs hp
      simp only [mergedEntries, Option.some.injEq] at hp
      subst hp
      nofun
    · intro depth pairs hp
      simp only [mergedMapping, Option.some.injEq] at hp
      subst hp
      nofun

end

/-- A fault that no other one comes before: outer faults go first, then those to the left. -/
def FirstFault (n : Node) (f : Fault) : Prop :=
  ∃ depth before after, (n.build 0).faults = before ++ (depth, f) :: after ∧
    (∀ x ∈ before, depth < x.1) ∧ ∀ x ∈ after, depth ≤ x.1

end Node

namespace Built

/-- The choice between the best fault so far and the next one. -/
def better (best : Option (Nat × Fault)) (f : Nat × Fault) : Option (Nat × Fault) :=
  match best with
  | none => some f
  | some b => if f.1 < b.1 then some f else some b

theorem foldl_better_of_le {x : Nat × Fault} {faults : List (Nat × Fault)}
    (h : ∀ y ∈ faults, x.1 ≤ y.1) : faults.foldl better (some x) = some x := by
  induction faults with
  | nil => rfl
  | cons y rest ih =>
    have hy : ¬ y.1 < x.1 := Nat.not_lt.mpr (h y List.mem_cons_self)
    have hb : better (some x) y = some x := if_neg hy
    rw [List.foldl_cons, hb, ih fun z hz => h z (List.mem_cons_of_mem _ hz)]

/-- A best fault so far stays, or gives way to the first of the shallowest ones. -/
theorem foldl_better (b : Nat × Fault) (faults : List (Nat × Fault)) :
    ∃ x, faults.foldl better (some b) = some x ∧ (∀ y ∈ faults, x.1 ≤ y.1) ∧
      (x = b ∨ x.1 < b.1 ∧ ∃ before after, faults = before ++ x :: after ∧
        ∀ y ∈ before, x.1 < y.1) := by
  induction faults generalizing b with
  | nil => exact ⟨b, rfl, by simp, .inl rfl⟩
  | cons y rest ih =>
    rw [List.foldl_cons]
    by_cases hlt : y.1 < b.1
    · have hb : better (some b) y = some y := if_pos hlt
      obtain ⟨x, hx, hrest, hplace⟩ := ih y
      rw [hb]
      rcases hplace with rfl | ⟨hxy, before, after, rfl, hbefore⟩
      · exact ⟨x, hx, List.forall_mem_cons.mpr ⟨Nat.le_refl _, hrest⟩,
          .inr ⟨hlt, [], rest, rfl, by simp⟩⟩
      · exact ⟨x, hx, List.forall_mem_cons.mpr ⟨by omega, hrest⟩,
          .inr ⟨by omega, y :: before, after, rfl, List.forall_mem_cons.mpr ⟨hxy, hbefore⟩⟩⟩
    · have hb : better (some b) y = some b := if_neg hlt
      obtain ⟨x, hx, hrest, hplace⟩ := ih b
      rw [hb]
      rcases hplace with rfl | ⟨hxb, before, after, rfl, hbefore⟩
      · exact ⟨x, hx, List.forall_mem_cons.mpr ⟨by omega, hrest⟩, .inl rfl⟩
      · exact ⟨x, hx, List.forall_mem_cons.mpr ⟨by omega, hrest⟩,
          .inr ⟨hxb, y :: before, after, rfl, List.forall_mem_cons.mpr ⟨by omega, hbefore⟩⟩⟩

theorem first?_eq_some_iff {faults : List (Nat × Fault)} {x : Nat × Fault} :
    first? faults = some x ↔ ∃ before after, faults = before ++ x :: after ∧
      (∀ y ∈ before, x.1 < y.1) ∧ ∀ y ∈ after, x.1 ≤ y.1 := by
  have hfold : first? faults = faults.foldl better none := rfl
  rw [hfold]
  constructor
  · intro h
    cases faults with
    | nil => cases h
    | cons b rest =>
      obtain ⟨x', hx', hrest, hplace⟩ := foldl_better b rest
      obtain rfl : x' = x := Option.some.inj (hx'.symm.trans h)
      rcases hplace with rfl | ⟨hlt, before, after, rfl, hbefore⟩
      · exact ⟨[], rest, rfl, by simp, hrest⟩
      · exact ⟨b :: before, after, rfl, List.forall_mem_cons.mpr ⟨hlt, hbefore⟩,
          fun y hy => hrest y (List.mem_append_right _ (List.mem_cons_of_mem _ hy))⟩
  · rintro ⟨before, after, rfl, hbefore, hafter⟩
    have hx : better (before.foldl better none) x = some x := by
      cases before with
      | nil => rfl
      | cons b rest =>
        obtain ⟨x', hx', _, hplace⟩ := foldl_better b rest
        have hlt : x.1 < x'.1 := by
          rcases hplace with rfl | ⟨_, first, last, rfl, _⟩
          · exact hbefore x' List.mem_cons_self
          · exact hbefore x' (by simp)
        have he : (b :: rest).foldl better none = some x' := hx'
        rw [he]
        exact if_pos hlt
    rw [List.foldl_append, List.foldl_cons, hx, foldl_better_of_le hafter]

theorem first?_eq_none_iff {faults : List (Nat × Fault)} : first? faults = none ↔ faults = [] := by
  constructor
  · intro h
    cases faults with
    | nil => rfl
    | cons b rest =>
      obtain ⟨x, hx, _⟩ := foldl_better b rest
      exact absurd (hx.symm.trans h) (by simp)
  · rintro rfl
    rfl

end Built

theorem Node.value_eq_error_iff {n : Node} {f : Fault} : n.value = .error f ↔ n.FirstFault f := by
  unfold Node.value Node.FirstFault
  cases hf : Built.first? (n.build 0).faults with
  | none =>
    have hnil := Built.first?_eq_none_iff.mp hf
    simp only [hf]
    simp [hnil]
  | some x =>
    obtain ⟨depth, g⟩ := x
    have hsome := Built.first?_eq_some_iff.mp hf
    simp only [hf, Except.error.injEq]
    constructor
    · rintro rfl
      exact ⟨depth, hsome⟩
    · rintro ⟨depth', hfirst⟩
      have he := hf.symm.trans (Built.first?_eq_some_iff.mpr hfirst)
      simpa using congrArg (Option.map Prod.snd) he

/-- The kinds whose values are read off a text that can be wrong. -/
theorem textValue_fault {m : Node} {f : Fault} (h : m.textValue? = some (.error f))
    (hf : f ≠ .malformed) : m.kind ∈ [Kind.bool, .int, .float, .timestamp] := by
  have hscalar : ∀ {kind : Kind} {content : List Char}, scalarValue kind content = .error f →
      kind ∈ [Kind.bool, .int, .float, .timestamp] := by
    intro kind content h
    cases kind with
    | bool => decide
    | int => decide
    | float => decide
    | timestamp => decide
    | binary =>
      simp only [scalarValue, binaryValue] at h
      split_ifs at h
      · split at h <;> cases h
        exact absurd rfl hf
      · cases h
        exact absurd rfl hf
    | null => cases h
    | str => cases h
    | _ => cases h; exact absurd rfl hf
  cases m with
  | scalar kind content => exact hscalar (Option.some.inj h)
  | mapping kind entries =>
    obtain ⟨cs, -, hv⟩ := Option.map_eq_some_iff.mp h
    rw [Node.entryValue] at hv
    split_ifs at hv with hk
    · rw [Node.kind, hk]
      decide
    · exact hscalar hv
  | sequence kind items => cases h
  | enclosing isMap => cases h

end Yaml

namespace FrontMatter

/-- The ways in which the front matter of a document has no value: a text that is called a
truth value, a number or a time and is none, before anything else is found wrong, or a field
with a whole number that is too long to be written. -/
inductive Unbuildable (n : Yaml.Node) : Yaml.Fault → Prop
  | text {m : Yaml.Node} {f : Yaml.Fault} (hf : f ≠ .malformed) (mem : m ∈ n.nodes)
      (kind_mem : m.kind ∈ [Yaml.Kind.bool, .int, .float, .timestamp])
      (fault : m.textValue? = some (.error f)) (first : n.FirstFault f) : Unbuildable n f
  | field {entries : List (Value × Value)} (value : n.value = .ok (.map entries))
      (long : isWritable entries = false) : Unbuildable n (.number .tooLongToWrite)

theorem ofBlock_eq_error_iff {content : List Char} {f : Yaml.Fault} :
    ofBlock content = .error f ↔ ∃ n, Yaml.Node.ofText? content = some n ∧ Unbuildable n f := by
  unfold ofBlock Yaml.read
  cases hn : Yaml.Node.ofText? content with
  | none => simp
  | some n =>
    simp only [Option.some.injEq, exists_eq_left']
    constructor
    · intro h
      split at h
      · cases h
      · rename_i g hg hvalue
        cases h
        obtain ⟨depth, before, after, hfaults, hbefore, hafter⟩ := Yaml.Node.value_eq_error_iff.mp hvalue
        have hmem : (depth, f) ∈ (n.build 0).faults := by simp [hfaults]
        rcases ((n.sound (List.Subset.refl _)).build 0).faults _ hmem with hm | ⟨m, hm, hfault⟩
        · exact absurd hm hg
        · exact .text hg hm (Yaml.textValue_fault hfault hg) hfault
            ⟨depth, before, after, hfaults, hbefore, hafter⟩
      · cases h
      · rename_i entries hvalue
        split_ifs at h with hw
        cases h
        exact .field hvalue (Bool.eq_false_iff.mpr hw)
      · cases h
    · intro h
      cases h with
      | text hf mem kind_mem fault first =>
        rw [Yaml.Node.value_eq_error_iff.mpr first]
        cases f with
        | malformed => exact absurd rfl hf
        | _ => rfl
      | field value long =>
        rw [value]
        simp [long]

theorem isWritable_of_entries {entries : List (Value × Value)}
    (h : Value.entriesAreWritable entries = true) : isWritable entries = true := by
  refine List.all_eq_true.mpr fun key _ => ?_
  rw [fieldOf, Value.field?]
  cases hf : entries.find? fun e => Value.sameKey e.1 (.text key) with
  | none => rfl
  | some e => exact (Yaml.entriesAreWritable_iff.mp h e (List.mem_of_find?_eq_some hf)).2

/-- A document whose texts all have their values is no cause of a fault. -/
theorem not_unbuildable {n : Yaml.Node} (h : ∀ m ∈ n.nodes, m.IsProper) (f : Yaml.Fault) :
    ¬ Unbuildable n f := by
  rintro (⟨hf, hm, hkind, hfault, -⟩ | ⟨hvalue, hlong⟩)
  · rename_i m
    have hp := h m hm
    cases m with
    | scalar kind content =>
      rw [Yaml.Node.textValue?, Option.some.injEq] at hfault
      rw [Yaml.Node.IsProper, hfault] at hp
      exact hf hp
    | mapping kind entries =>
      rw [Yaml.Node.kind] at hkind
      rcases hp with rfl | rfl <;> simp at hkind
    | sequence kind items => cases hfault
    | enclosing isMap => cases hfault
  · have hw := ((n.sound (List.Subset.refl _)).build 0).writable h
    simp only [Yaml.Node.value] at hvalue
    split at hvalue
    · cases hvalue
    · rw [Except.ok.inj hvalue, Value.isWritable] at hw
      rw [isWritable_of_entries hw] at hlong
      cases hlong

theorem extract_eq_error_iff {cs : List Char} {f : Yaml.Fault} :
    extract cs = .error f ↔ ∃ content body n, split cs = .block content body ∧
      Yaml.Node.ofText? content = some n ∧ Unbuildable n f := by
  unfold extract
  cases hs : split cs with
  | absent => simp
  | unterminated => simp
  | block content body =>
    have hb (g : FrontMatter × List LogRecord → Extracted) :
        (ofBlock content).map g = .error f ↔ ofBlock content = .error f := by
      cases ofBlock content <;> simp [Except.map]
    simp only [hb, ofBlock_eq_error_iff, Split.block.injEq]
    constructor
    · rintro ⟨n, hn, hu⟩
      exact ⟨content, body, n, ⟨rfl, rfl⟩, hn, hu⟩
    · rintro ⟨_, _, n, ⟨rfl, rfl⟩, hn, hu⟩
      exact ⟨n, hn, hu⟩

/-- No node of the block stands for another one. -/
def IsAliasFree (cs : List Char) : Prop :=
  ∀ content body tokens, split cs = .block content body → Yaml.tokens? content = some tokens →
    ∀ name, Yaml.Token.alias name ∉ tokens

end FrontMatter

end CmsMarkup
