import CmsMarkup.Proofs.TocLinks
import CmsMarkup.Toc.Stack
import Mathlib.Data.List.GetD
import Mathlib.Data.List.Induction
import Mathlib.Order.Bounds.Basic

/-! The outline of a page. A table of contents has its headings in their order, and an entry is
below the nearest one before it that has a smaller level. The stack of open entries and the
insertion into the last tree build the same table. -/

namespace CmsMarkup

open Html

/-! ### The stack of open entries -/

namespace TocStack

open TocEntry (insertLast ofHeading)

mutual

/-- The levels of an entry, its last child, and so on. -/
def spineBelow : TocEntry → List Nat
  | .entry level _ _ _ children => level :: spine children

def spine : List TocEntry → List Nat
  | [] => []
  | [e] => spineBelow e
  | _ :: f :: rest => spine (f :: rest)

end

theorem attach_cons (e d f : TocEntry) (rest : List TocEntry) (depth : Nat) :
    attach e depth (d :: f :: rest) = d :: attach e depth (f :: rest) := by
  cases depth with
  | zero => rfl
  | succ depth => simp [attach, List.getLast?_cons_cons]

theorem insertLast_cons (h : Heading) (e f : TocEntry) (rest : List TocEntry) :
    insertLast h (e :: f :: rest) = e :: insertLast h (f :: rest) := by
  rw [insertLast]

theorem insertLast_ne_nil (h : Heading) (forest : List TocEntry) : insertLast h forest ≠ [] := by
  cases forest with
  | nil => exact List.cons_ne_nil _ _
  | cons e rest =>
    cases rest with
    | nil =>
      rw [insertLast]
      split_ifs <;> exact List.cons_ne_nil _ _
    | cons f rest => exact List.cons_ne_nil _ _

theorem spine_cons {forest : List TocEntry} (h : forest ≠ []) (e : TocEntry) :
    spine (e :: forest) = spine forest := by
  cases forest with
  | nil => exact absurd rfl h
  | cons f rest => rw [spine]

theorem insertLast_eq_attach (h : Heading) : ∀ forest,
    insertLast h forest =
        attach (ofHeading h) ((spine forest).takeWhile (· < h.level)).length forest ∧
      spine (insertLast h forest) = (spine forest).takeWhile (· < h.level) ++ [h.level]
  | [] => ⟨rfl, rfl⟩
  | [.entry level id title href children] => by
    obtain ⟨hattach, hspine⟩ := insertLast_eq_attach h children
    rw [insertLast, TocEntry.level, spine, spineBelow, List.takeWhile_cons]
    by_cases hlevel : level < h.level
    · rw [if_pos hlevel, if_pos (decide_eq_true hlevel), TocEntry.insert, spine, spineBelow, hspine]
      refine ⟨?_, rfl⟩
      rw [hattach]
      rfl
    · rw [if_neg hlevel, if_neg (by simpa using hlevel)]
      exact ⟨rfl, rfl⟩
  | e :: f :: rest => by
    obtain ⟨hattach, hspine⟩ := insertLast_eq_attach h (f :: rest)
    rw [insertLast_cons, spine, attach_cons, ← hattach, spine_cons (insertLast_ne_nil h _), hspine]
    exact ⟨rfl, rfl⟩

/-- The stack has the open entries of the table, each of a smaller level than those inside it. -/
structure IsOpen (s : TocStack) : Prop where
  spine : s.levels = (spine s.toc).reverse
  increasing : (TocStack.spine s.toc).Pairwise (· < ·)

theorem dropWhile_reverse_of_increasing {levels : List Nat} (h : levels.Pairwise (· < ·))
    (level : Nat) :
    levels.reverse.dropWhile (level ≤ ·) = (levels.takeWhile (· < level)).reverse := by
  induction levels with
  | nil => rfl
  | cons l rest ih =>
    obtain ⟨hl, hrest⟩ := List.pairwise_cons.mp h
    rw [List.takeWhile_cons]
    by_cases hlevel : l < level
    · have hopen : [l].dropWhile (level ≤ ·) = [l] := by simp [hlevel]
      rw [if_pos (decide_eq_true hlevel), List.reverse_cons, List.dropWhile_append, hopen, ih hrest,
        List.reverse_cons]
      split_ifs with hempty
      · rw [List.isEmpty_iff.mp hempty, List.nil_append]
      · rfl
    · have hclosed : ∀ m ∈ (l :: rest).reverse, decide (level ≤ m) = true := by
        intro m hm
        rw [List.mem_reverse, List.mem_cons] at hm
        rcases hm with rfl | hm
        · simpa using hlevel
        · have hlm := hl m hm
          exact decide_eq_true (by omega)
      rw [if_neg (by simpa using hlevel), List.dropWhile_eq_nil_iff.mpr hclosed]
      rfl

theorem IsOpen.push {s : TocStack} (hs : s.IsOpen) (h : Heading) :
    (s.push h).IsOpen ∧ (s.push h).toc = insertLast h s.toc := by
  obtain ⟨hattach, hspine⟩ := insertLast_eq_attach h s.toc
  have hopened := dropWhile_reverse_of_increasing hs.increasing h.level
  rw [← hs.spine] at hopened
  have htoc : (s.push h).toc = insertLast h s.toc := by
    rw [hattach, TocStack.push, hopened, List.length_reverse]
  refine ⟨⟨?_, ?_⟩, htoc⟩
  · rw [htoc, hspine, List.reverse_append, TocStack.push, hopened]
    rfl
  · rw [htoc, hspine, List.pairwise_append]
    refine ⟨hs.increasing.sublist (List.takeWhile_sublist _), List.pairwise_singleton _ _, ?_⟩
    intro a ha b hb
    rw [List.mem_singleton.mp hb]
    simpa using List.mem_takeWhile_imp ha

theorem ofHeadings_toc (headings : List Heading) :
    (ofHeadings headings).toc = headings.foldl (fun forest h => insertLast h forest) [] := by
  have run (s : TocStack) (hs : s.IsOpen) :
      (headings.foldl push s).toc = headings.foldl (fun forest h => insertLast h forest) s.toc := by
    induction headings generalizing s with
    | nil => rfl
    | cons h rest ih =>
      obtain ⟨hopen, htoc⟩ := hs.push h
      rw [List.foldl_cons, List.foldl_cons, ih _ hopen, htoc]
  exact run ⟨[], []⟩ ⟨rfl, .nil⟩

end TocStack

/-! ### Parents in order -/

/-- Where the last of some levels stands that is smaller than this one. -/
def lastBelow (level : Nat) : List Nat → Option Nat
  | [] => none
  | l :: rest => ((lastBelow level rest).map (1 + ·)).or (if l < level then some 0 else none)

theorem lastBelow_append (level : Nat) (before after : List Nat) :
    lastBelow level (before ++ after) =
      ((lastBelow level after).map (before.length + ·)).or (lastBelow level before) := by
  induction before with
  | nil =>
    rw [List.nil_append, List.length_nil, lastBelow, Option.or_none]
    simp
  | cons l before ih =>
    rw [List.cons_append, lastBelow, lastBelow, ih]
    cases lastBelow level after with
    | none => simp
    | some j =>
      simp only [Option.map_some, Option.some_or, List.length_cons]
      congr 1
      omega

theorem lastBelow_eq_none_iff {level : Nat} {levels : List Nat} :
    lastBelow level levels = none ↔ ∀ l ∈ levels, level ≤ l := by
  induction levels with
  | nil => simp [lastBelow]
  | cons l rest ih => simp [lastBelow, ih, and_comm]

theorem isGreatest_lastBelow {level j : Nat} {levels : List Nat}
    (h : lastBelow level levels = some j) :
    IsGreatest {m | m < levels.length ∧ levels.getD m 0 < level} j := by
  induction levels generalizing j with
  | nil => cases h
  | cons l rest ih =>
    rw [lastBelow] at h
    cases hlast : lastBelow level rest with
    | some i =>
      obtain ⟨⟨hi, hlevel⟩, hgreatest⟩ := ih hlast
      rw [hlast, Option.map_some, Option.some_or, Option.some.injEq] at h
      subst h
      refine ⟨⟨by rw [List.length_cons]; omega, ?_⟩, ?_⟩
      · rwa [Nat.add_comm, List.getD_cons_succ]
      · rintro (_ | m) ⟨hm, hsmall⟩
        · omega
        · have hle := hgreatest ⟨Nat.lt_of_succ_lt_succ hm, hsmall⟩
          omega
    | none =>
      rw [hlast, Option.map_none, Option.none_or] at h
      split_ifs at h with hl
      obtain rfl := Option.some.inj h
      refine ⟨⟨Nat.succ_pos _, hl⟩, ?_⟩
      rintro (_ | m) ⟨hm, hsmall⟩
      · exact Nat.le_refl 0
      · have hm := Nat.lt_of_succ_lt_succ hm
        rw [List.getD_cons_succ, List.getD_eq_getElem _ _ hm] at hsmall
        have hlarge := lastBelow_eq_none_iff.mp hlast _ (List.getElem_mem hm)
        omega

/-- The places before `i` of levels that are smaller than the one at `i`. -/
def earlierBelow (levels : List Nat) (i : Nat) : Set Nat :=
  {j | j < i ∧ levels.getD j 0 < levels.getD i 0}

theorem lastBelow_take {levels : List Nat} {i : Nat} (hi : i < levels.length) :
    (∀ j, lastBelow (levels.getD i 0) (levels.take i) = some j ↔ IsGreatest (earlierBelow levels i) j) ∧
      (lastBelow (levels.getD i 0) (levels.take i) = none ↔ earlierBelow levels i = ∅) := by
  have hset : {m | m < (levels.take i).length ∧ (levels.take i).getD m 0 < levels.getD i 0} =
      earlierBelow levels i := by
    ext m
    have hlength : (levels.take i).length = i := List.length_take_of_le (Nat.le_of_lt hi)
    simp only [Set.mem_ofPred_eq, earlierBelow, hlength, and_congr_right_iff]
    intro hm
    rw [List.getD_eq_getElem?_getD, List.getElem?_take_of_lt hm, ← List.getD_eq_getElem?_getD]
  cases hlast : lastBelow (levels.getD i 0) (levels.take i) with
  | some k =>
    have hgreatest := isGreatest_lastBelow hlast
    rw [hset] at hgreatest
    refine ⟨fun j => ⟨fun h => Option.some.inj h ▸ hgreatest, fun h => ?_⟩, nofun, fun h => ?_⟩
    · rw [hgreatest.unique h]
    · rw [h] at hgreatest
      exact absurd hgreatest.1 (Set.notMem_empty k)
  | none =>
    have hempty : earlierBelow levels i = ∅ := by
      rw [← hset, Set.eq_empty_iff_forall_notMem]
      rintro m ⟨hm, hsmall⟩
      rw [List.getD_eq_getElem _ _ hm] at hsmall
      have hlarge := lastBelow_eq_none_iff.mp hlast _ (List.getElem_mem hm)
      omega
    refine ⟨fun j => ⟨nofun, fun h => ?_⟩, fun _ => hempty, fun _ => rfl⟩
    rw [hempty] at h
    exact absurd h.1 (Set.notMem_empty j)

namespace TocEntry

mutual

/-- The parents of the entries of a tree in order, each by its place in the whole forest. The
first of them is at `k`. -/
def parents (parent : Option Nat) (k : Nat) : TocEntry → List (Option Nat)
  | .entry _ _ _ _ children => parent :: parentsOf (some k) (k + 1) children

def parentsOf (parent : Option Nat) (k : Nat) : List TocEntry → List (Option Nat)
  | [] => []
  | e :: rest => parents parent k e ++ parentsOf parent (k + (preorder e).length) rest

end

def levels (forest : List TocEntry) : List Nat := (preorderOf forest).map level

/-- Levels rise from an entry to those below it, and never from one entry to the next. -/
inductive Outlined : List TocEntry → Prop
  | nil : Outlined []
  | cons {level : Nat} {id title href : String} {children rest : List TocEntry}
      (below : ∀ l ∈ levels children, level < l) (inside : Outlined children)
      (later : ∀ f ∈ rest, f.level ≤ level) (onward : Outlined rest) :
      Outlined (.entry level id title href children :: rest)

theorem levels_cons (level : Nat) (id title href : String) (children rest : List TocEntry) :
    levels (.entry level id title href children :: rest) =
      level :: levels children ++ levels rest := by
  simp [levels, preorderOf, preorder, TocEntry.level]

theorem levels_insertLast (h : Heading) (forest : List TocEntry) :
    levels (insertLast h forest) = levels forest ++ [h.level] := by
  rw [levels, preorderOf_insertLast, List.map_append]
  rfl

theorem length_preorder (level : Nat) (id title href : String) (children : List TocEntry) :
    (preorder (.entry level id title href children)).length = (level :: levels children).length := by
  rw [preorder, List.length_cons, List.length_cons, levels, List.length_map]

theorem level_mem_levels (e : TocEntry) (rest : List TocEntry) : e.level ∈ levels (e :: rest) := by
  obtain ⟨level, id, title, href, children⟩ := e
  rw [levels_cons]
  exact List.mem_cons_self

theorem roots_insertLast {forest : List TocEntry} {bound : Nat} (h : Heading)
    (hroots : ∀ e ∈ forest, e.level ≤ bound) (hsome : forest ≠ []) :
    ∀ e ∈ insertLast h forest, e.level ≤ bound := by
  induction forest with
  | nil => exact absurd rfl hsome
  | cons e rest ih =>
    rw [List.forall_mem_cons] at hroots
    cases rest with
    | nil =>
      have hinsert : (insert h e).level = e.level := by
        cases e
        rfl
      rw [insertLast]
      split_ifs with hlevel
      · exact List.forall_mem_singleton.mpr (hinsert ▸ hroots.1)
      · refine List.forall_mem_cons.mpr ⟨hroots.1, List.forall_mem_singleton.mpr ?_⟩
        have hheading : (ofHeading h).level = h.level := rfl
        omega
    | cons f rest =>
      rw [insertLast]
      exact List.forall_mem_cons.mpr ⟨hroots.1, ih hroots.2 (List.cons_ne_nil f rest)⟩

theorem outlined_ofHeading (h : Heading) : Outlined [ofHeading h] :=
  .cons (List.forall_mem_nil _) .nil (List.forall_mem_nil _) .nil

theorem Outlined.insertLast {forest : List TocEntry} (hf : Outlined forest) (h : Heading) :
    Outlined (insertLast h forest) := by
  induction hf with
  | nil => exact outlined_ofHeading h
  | @cons level id title href children rest below inside later onward ihinside ihonward =>
    cases rest with
    | nil =>
      rw [TocEntry.insertLast]
      split_ifs with hlevel
      · refine .cons ?_ ihinside (List.forall_mem_nil _) .nil
        rw [levels_insertLast]
        exact List.forall_mem_append.mpr ⟨below, List.forall_mem_singleton.mpr hlevel⟩
      · exact .cons below inside (List.forall_mem_singleton.mpr (Nat.le_of_not_lt hlevel))
          (outlined_ofHeading h)
    | cons f rest =>
      rw [TocEntry.insertLast]
      exact .cons below inside (roots_insertLast h later (List.cons_ne_nil f rest)) ihonward

/-- The parent of a heading that comes last is the last entry of a smaller level. -/
theorem parentsOf_insertLast {forest : List TocEntry} (hf : Outlined forest) (h : Heading)
    (parent : Option Nat) (k : Nat) :
    parentsOf parent k (TocEntry.insertLast h forest) =
      parentsOf parent k forest ++
        [((lastBelow h.level (levels forest)).map (k + ·)).or parent] := by
  induction hf generalizing parent k with
  | nil => rfl
  | @cons level id title href children rest below inside later onward ihinside ihonward =>
    have hclosed (hlevel : h.level ≤ level) : lastBelow h.level (level :: levels children) = none :=
      lastBelow_eq_none_iff.mpr
        (List.forall_mem_cons.mpr ⟨hlevel, fun l hl => by have := below l hl; omega⟩)
    have hlevels := levels_cons level id title href children rest
    cases rest with
    | nil =>
      have hempty : levels [] = [] := rfl
      rw [hempty, List.append_nil] at hlevels
      rw [TocEntry.insertLast, hlevels]
      by_cases hlevel : level < h.level
      · have hparent : ((lastBelow h.level (level :: levels children)).map (k + ·)).or parent =
            ((lastBelow h.level (levels children)).map (k + 1 + ·)).or (some k) := by
          rw [lastBelow, if_pos hlevel]
          cases lastBelow h.level (levels children) with
          | none => rfl
          | some j => simp [Nat.add_assoc]
        rw [hparent]
        simp only [TocEntry.level, hlevel, if_true, insert, parentsOf, parents, List.append_nil,
          ihinside, List.cons_append]
      · rw [hclosed (Nat.le_of_not_lt hlevel)]
        simp only [TocEntry.level, hlevel, if_false, parentsOf, ofHeading, parents, List.append_nil,
          Option.map_none, Option.none_or]
    | cons f rest =>
      have hrest : ((lastBelow h.level (levels (.entry level id title href children :: f :: rest))).map
          (k + ·)).or parent =
            ((lastBelow h.level (levels (f :: rest))).map
              (k + (preorder (.entry level id title href children)).length + ·)).or parent := by
        rw [hlevels, lastBelow_append, length_preorder]
        cases hlast : lastBelow h.level (levels (f :: rest)) with
        | none =>
          have hlevel := lastBelow_eq_none_iff.mp hlast f.level (level_mem_levels f rest)
          rw [hclosed (Nat.le_trans hlevel (later f List.mem_cons_self))]
          rfl
        | some j => simp [Nat.add_assoc]
      rw [TocEntry.insertLast, hrest, parentsOf, ihonward, ← List.append_assoc]
      rfl

theorem outlined_foldl {forest : List TocEntry} (hf : Outlined forest) (headings : List Heading) :
    Outlined (headings.foldl (fun forest h => TocEntry.insertLast h forest) forest) := by
  induction headings generalizing forest with
  | nil => exact hf
  | cons h rest ih => exact ih (hf.insertLast h)

theorem parentsOf_tocOfNodes (nodes : List Node) :
    parentsOf none 0 (tocOfNodes nodes) =
      (List.range (levels (tocOfNodes nodes)).length).map fun i =>
        lastBelow ((levels (tocOfNodes nodes)).getD i 0) ((levels (tocOfNodes nodes)).take i) := by
  unfold tocOfNodes
  induction Heading.listOf nodes using List.reverseRecOn with
  | nil => rfl
  | append_singleton headings h ih =>
    have hforest := outlined_foldl .nil headings
    rw [List.foldl_append, List.foldl_cons, List.foldl_nil]
    generalize headings.foldl (fun forest h => TocEntry.insertLast h forest) [] = forest at ih hforest
    have hearlier : (List.range (levels forest).length).map (fun i =>
        lastBelow ((levels forest ++ [h.level]).getD i 0) ((levels forest ++ [h.level]).take i)) =
          parentsOf none 0 forest := by
      rw [ih]
      refine List.map_congr_left fun i hi => ?_
      rw [List.mem_range] at hi
      rw [List.getD_append _ _ _ _ hi, List.take_append_of_le_length (Nat.le_of_lt hi)]
    rw [parentsOf_insertLast hforest, levels_insertLast, List.length_append, List.length_singleton,
      List.range_succ, List.map_append, hearlier]
    simp

/-! ### A forest from its entries and their parents -/

mutual

theorem length_parents (parent : Option Nat) (k : Nat) :
    ∀ e, (parents parent k e).length = (preorder e).length
  | .entry level id title href children => by
    rw [parents, preorder, List.length_cons, List.length_cons, length_parentsOf (some k) (k + 1) children]

theorem length_parentsOf (parent : Option Nat) (k : Nat) :
    ∀ forest, (parentsOf parent k forest).length = (preorderOf forest).length
  | [] => rfl
  | e :: rest => by
    rw [parentsOf, preorderOf, List.length_append, List.length_append, length_parents parent k e,
      length_parentsOf parent _ rest]

end

mutual

theorem mem_parents {parent q : Option Nat} {k : Nat} : ∀ e, q ∈ parents parent k e →
    q = parent ∨ ∃ j, q = some j ∧ k ≤ j
  | .entry level id title href children => by
    rw [parents, List.mem_cons]
    rintro (hq | hq)
    · exact .inl hq
    · rcases mem_parentsOf children hq with hq | ⟨j, hj, hle⟩
      · exact .inr ⟨k, hq, Nat.le_refl k⟩
      · exact .inr ⟨j, hj, by omega⟩

theorem mem_parentsOf {parent q : Option Nat} {k : Nat} : ∀ forest, q ∈ parentsOf parent k forest →
    q = parent ∨ ∃ j, q = some j ∧ k ≤ j
  | [] => nofun
  | e :: rest => by
    rw [parentsOf, List.mem_append]
    rintro (hq | hq)
    · exact mem_parents e hq
    · rcases mem_parentsOf rest hq with hq | ⟨j, hj, hle⟩
      · exact .inl hq
      · exact .inr ⟨j, hj, by omega⟩

end

theorem append_inj_of_head {α : Type} {p : α → Bool} {xs xs' ys ys' : List α}
    (h : xs ++ ys = xs' ++ ys') (hxs : ∀ x ∈ xs, p x = true) (hxs' : ∀ x ∈ xs', p x = true)
    (hys : ∀ y ∈ ys.head?, p y = false) (hys' : ∀ y ∈ ys'.head?, p y = false) :
    xs = xs' ∧ ys = ys' := by
  have hstop : ∀ zs : List α, (∀ z ∈ zs.head?, p z = false) → zs.takeWhile p = [] := by
    intro zs hzs
    cases zs with
    | nil => rfl
    | cons z zs => rw [List.takeWhile_cons, hzs z rfl, if_neg Bool.false_ne_true]
  have hfirst := congrArg (List.takeWhile p) h
  rw [List.takeWhile_append_of_pos hxs, List.takeWhile_append_of_pos hxs', hstop ys hys,
    hstop ys' hys', List.append_nil, List.append_nil] at hfirst
  subst hfirst
  exact ⟨rfl, List.append_cancel_left h⟩

theorem head?_parentsOf (parent : Option Nat) (k : Nat) (forest : List TocEntry) :
    ∀ q ∈ (parentsOf parent k forest).head?, q = parent := by
  cases forest with
  | nil => nofun
  | cons e rest =>
    cases e
    rintro q ⟨⟩
    rfl

/-- The entries in order and their parents make up the whole forest. -/
theorem eq_of_parentsOf_eq : ∀ (forest other : List TocEntry) (parent : Option Nat) (k : Nat),
    (∀ j, parent = some j → j < k) → preorderOf forest = preorderOf other →
      parentsOf parent k forest = parentsOf parent k other → forest = other
  | [], other, parent, k => by
    intro _ hentries _
    cases other with
    | nil => rfl
    | cons e rest => cases e; cases hentries
  | .entry level id title href children :: rest, [], parent, k => by
    intro _ hentries _
    cases hentries
  | .entry level id title href children :: rest,
      .entry level' id' title' href' children' :: rest', parent, k => by
    intro hparent hentries hparents
    simp only [preorderOf, preorder, List.cons_append, List.cons.injEq, TocEntry.entry.injEq,
      and_true] at hentries
    obtain ⟨⟨rfl, rfl, rfl, rfl⟩, hentries⟩ := hentries
    simp only [parentsOf, parents, List.cons_append, List.cons.injEq, true_and] at hparents
    have hinside (children : List TocEntry) :
        ∀ q ∈ parentsOf (some k) (k + 1) children, q.any (k ≤ ·) = true := by
      intro q hq
      rcases mem_parentsOf children hq with rfl | ⟨j, rfl, hle⟩
      · simp
      · simpa using Nat.le_of_succ_le hle
    have houtside (i : Nat) (rest : List TocEntry) :
        ∀ q ∈ (parentsOf parent i rest).head?, q.any (k ≤ ·) = false := by
      intro q hq
      rw [head?_parentsOf parent i rest q hq]
      cases parent with
      | none => rfl
      | some j => simpa using hparent j rfl
    obtain ⟨hchildren, hrest⟩ := append_inj_of_head hparents (hinside children) (hinside children')
      (houtside _ rest) (houtside _ rest')
    have hlength : (preorderOf children).length = (preorderOf children').length := by
      rw [← length_parentsOf (some k) (k + 1) children, hchildren, length_parentsOf]
    obtain ⟨hbelow, hbehind⟩ := List.append_inj hentries hlength
    rw [preorder, preorder, hbelow] at hrest
    rw [eq_of_parentsOf_eq children children' (some k) (k + 1)
        (fun j hj => Option.some.inj hj ▸ Nat.lt_succ_self k) hbelow hchildren,
      eq_of_parentsOf_eq rest rest' parent _
        (fun j hj => Nat.lt_add_right _ (hparent j hj)) hbehind hrest]

end TocEntry

theorem Heading.ofNode?_level {n : Node} {h : Heading} (hn : ofNode? n = some h) :
    1 ≤ h.level ∧ h.level ≤ 4 ∧ n.hasName ("h" ++ toString h.level) = true := by
  have hlevels : ∀ name ∈ Convention.headingNames,
      let level := (name.toList.getLast?.map fun c => c.toNat - 48).getD 0
      1 ≤ level ∧ level ≤ 4 ∧ (name == "h" ++ toString level) = true := by decide
  cases n with
  | text kind s => cases hn
  | element number name attributes children =>
    simp only [ofNode?] at hn
    split_ifs at hn with hname
    all_goals
      obtain rfl := Option.some.inj hn
      exact hlevels name (List.elem_iff.mp hname)

open TocEntry (preorderOf parentsOf levels)

/-- A table of contents has the headings with a text, in their order, with their levels and
titles. The parent of an entry is the last one before it of a smaller level, and entries without
one are the roots. No other forest has the same entries and parents. -/
theorem toc_outline {text : String} {nodes : List Node} (h : parse? text = some nodes) :
    ∃ forest, tocOf? text = some forest ∧
      (TocStack.ofHeadings (Heading.listOf nodes)).toc = forest ∧
      List.Forall₂
        (fun n e => 1 ≤ e.level ∧ e.level ≤ 4 ∧ n.hasName ("h" ++ toString e.level) = true ∧
          e.title = " ".intercalate (words n.visibleText))
        ((Node.elementsOf nodes).filter Heading.isTitled) (preorderOf forest) ∧
      (∀ i j, (parentsOf none 0 forest)[i]? = some (some j) ↔
        i < (preorderOf forest).length ∧ IsGreatest (earlierBelow (levels forest) i) j) ∧
      (∀ i, (parentsOf none 0 forest)[i]? = some none ↔
        i < (preorderOf forest).length ∧ earlierBelow (levels forest) i = ∅) ∧
      ∀ other, preorderOf other = preorderOf forest →
        parentsOf none 0 other = parentsOf none 0 forest → other = forest := by
  have hlength : (levels (tocOfNodes nodes)).length = (preorderOf (tocOfNodes nodes)).length :=
    List.length_map _
  have hparent (i : Nat) (parent : Option Nat) :
      (parentsOf none 0 (tocOfNodes nodes))[i]? = some parent ↔
        i < (levels (tocOfNodes nodes)).length ∧
          lastBelow ((levels (tocOfNodes nodes)).getD i 0) ((levels (tocOfNodes nodes)).take i) =
            parent := by
    rw [TocEntry.parentsOf_tocOfNodes, List.getElem?_map]
    by_cases hi : i < (levels (tocOfNodes nodes)).length
    · simp [hi]
    · simp [hi]
  refine ⟨tocOfNodes nodes, by rw [tocOf?, h, Option.map_some], TocStack.ofHeadings_toc _, ?_,
    fun i j => ?_, fun i => ?_, fun other hentries hparents => ?_⟩
  · have hread := Heading.forall₂_filterMap Heading.ofNode? (Node.elementsOf nodes)
    simp only [Heading.ofNode?_isSome] at hread
    rw [TocEntry.preorderOf_tocOfNodes, List.forall₂_map_right_iff]
    refine hread.imp fun n heading hn => ?_
    obtain ⟨hlow, hhigh, hname⟩ := Heading.ofNode?_level hn
    exact ⟨hlow, hhigh, hname, (Heading.ofNode?_eq_some hn).2⟩
  · rw [hparent, ← hlength]
    exact and_congr_right fun hi => (lastBelow_take hi).1 j
  · rw [hparent, ← hlength]
    exact and_congr_right fun hi => (lastBelow_take hi).2
  · have hroots : ∀ j, (none : Option Nat) = some j → j < 0 := by
      intro j hj
      cases hj
    exact TocEntry.eq_of_parentsOf_eq other (tocOfNodes nodes) none 0 hroots hentries hparents

theorem toc_outline_of_skipped_level :
    ∃ forest, tocOf? "<h2>a</h2><h4>b</h4><h3> c  d</h3><h1>e</h1>" = some forest ∧
      parentsOf none 0 forest = [none, some 0, some 0, none] ∧
      IsGreatest (earlierBelow (levels forest) 2) 0 ∧ earlierBelow (levels forest) 3 = ∅ := by
  have hpage : parse? "<h2>a</h2><h4>b</h4><h3> c  d</h3><h1>e</h1>" =
      some [.element none "h2" [] [.text .plain "a"], .element none "h4" [] [.text .plain "b"],
        .element none "h3" [] [.text .plain " c  d"], .element none "h1" [] [.text .plain "e"]] := rfl
  obtain ⟨forest, hforest, -, -, hparents, hroots, -⟩ := toc_outline hpage
  have hlist : parentsOf none 0 forest = [none, some 0, some 0, none] := by
    rw [tocOf?, hpage] at hforest
    rw [← Option.some.inj hforest]
    rfl
  exact ⟨forest, hforest, hlist, ((hparents 2 0).mp (by rw [hlist]; rfl)).2,
    ((hroots 3).mp (by rw [hlist]; rfl)).2⟩

end CmsMarkup
