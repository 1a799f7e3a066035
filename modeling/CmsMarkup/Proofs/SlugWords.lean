import CmsMarkup.Proofs.PercentEncoding
import Mathlib.Data.List.Basic
import Mathlib.Data.String.Basic
import Mathlib.Tactic.IntervalCases

/-! The words of a slug. Lowering changes every character on its own as far as a slug sees
it, a slug gives its words back, and white space that is lost only joins words. -/

namespace CmsMarkup

/-! ### Runs between separators -/

section runs

variable {sep : Char → Bool} {c d : Char} {cs : List Char}

theorem runs_cons_of_sep (hc : sep c = true) : runs sep (c :: cs) = runs sep cs := by
  simp [runs, hc]

theorem runs_singleton (hc : sep c = false) : runs sep [c] = [[c]] := by
  simp [runs, hc]

theorem runs_ne_nil (cs : List Char) (hc : sep c = false) : runs sep (c :: cs) ≠ [] := by
  cases cs with
  | nil => simp [runs_singleton hc]
  | cons d cs =>
    unfold runs
    rw [hc, if_neg Bool.false_ne_true]
    split
    · split_ifs <;> simp
    · simp

theorem runs_cons_cons_of_sep (hc : sep c = false) (hd : sep d = true) :
    runs sep (c :: d :: cs) = [c] :: runs sep (d :: cs) := by
  conv_lhs => unfold runs
  rw [hc, if_neg Bool.false_ne_true]
  cases runs sep (d :: cs) with
  | nil => rfl
  | cons w ws => simp [hd]

theorem runs_cons_cons (cs : List Char) (hc : sep c = false) (hd : sep d = false) :
    ∃ w ws, runs sep (d :: cs) = w :: ws ∧ runs sep (c :: d :: cs) = (c :: w) :: ws := by
  obtain ⟨w, ws, hw⟩ := List.exists_cons_of_ne_nil (runs_ne_nil cs hd)
  refine ⟨w, ws, hw, ?_⟩
  conv_lhs => unfold runs
  rw [hc, if_neg Bool.false_ne_true, hw]
  simp [hd]

theorem runs_word {w : List Char} (hne : w ≠ []) (hw : ∀ c ∈ w, sep c = false) :
    runs sep w = [w] := by
  induction w with
  | nil => exact absurd rfl hne
  | cons c w ih =>
    cases w with
    | nil => exact runs_singleton (hw c List.mem_cons_self)
    | cons d w =>
      have ih := ih (by simp) fun x hx => hw x (List.mem_cons_of_mem _ hx)
      obtain ⟨v, vs, hv, he⟩ := runs_cons_cons w (hw c List.mem_cons_self)
        (hw d (List.mem_cons_of_mem _ List.mem_cons_self))
      rw [hv] at ih
      obtain ⟨rfl, rfl⟩ := List.cons.inj ih
      exact he

theorem runs_append_cons (xs ys : List Char) (hd : sep d = true) :
    runs sep (xs ++ d :: ys) = runs sep xs ++ runs sep ys := by
  induction xs with
  | nil => rw [List.nil_append, runs_cons_of_sep hd]; rfl
  | cons c xs ih =>
    rw [List.cons_append]
    by_cases hc : sep c = true
    · rw [runs_cons_of_sep hc, runs_cons_of_sep hc, ih]
    · have hc : sep c = false := by simpa using hc
      cases xs with
      | nil => rw [List.nil_append, runs_cons_cons_of_sep hc hd, runs_cons_of_sep hd,
          runs_singleton hc, List.singleton_append]
      | cons e xs =>
        by_cases he : sep e = true
        · rw [List.cons_append, runs_cons_cons_of_sep hc he, runs_cons_cons_of_sep hc he,
            ← List.cons_append, ih, List.cons_append]
        · have he : sep e = false := by simpa using he
          obtain ⟨w, ws, hw, hcw⟩ := runs_cons_cons xs hc he
          obtain ⟨v, vs, hv, hcv⟩ := runs_cons_cons (xs ++ d :: ys) hc he
          rw [List.cons_append, hv, hw, List.cons_append] at ih
          obtain ⟨rfl, rfl⟩ := List.cons.inj ih
          rw [List.cons_append, hcv, hcw, List.cons_append]

theorem runs_word_append {w rest : List Char} (hne : w ≠ []) (hw : ∀ c ∈ w, sep c = false)
    (hd : sep d = true) : runs sep (w ++ d :: rest) = w :: runs sep rest := by
  rw [runs_append_cons w rest hd, runs_word hne hw, List.singleton_append]

theorem mem_runs {w : List Char} (h : w ∈ runs sep cs) : w ≠ [] ∧ ∀ c ∈ w, sep c = false := by
  induction cs generalizing w with
  | nil => cases h
  | cons c cs ih =>
    cases hc : sep c with
    | true => exact ih (by rwa [runs_cons_of_sep hc] at h)
    | false =>
      cases cs with
      | nil =>
        rw [runs_singleton hc, List.mem_singleton] at h
        simp [h, hc]
      | cons d cs =>
        cases hd : sep d with
        | true =>
          rw [runs_cons_cons_of_sep hc hd] at h
          rcases List.mem_cons.mp h with rfl | h
          · simp [hc]
          · exact ih h
        | false =>
          obtain ⟨v, vs, hv, he⟩ := runs_cons_cons cs hc hd
          rw [he] at h
          rcases List.mem_cons.mp h with rfl | h
          · refine ⟨by simp, List.forall_mem_cons.mpr ⟨hc, ?_⟩⟩
            exact (ih (hv ▸ List.mem_cons_self)).2
          · exact ih (hv ▸ List.mem_cons_of_mem _ h)

/-- Words with a separator between them are read back. -/
theorem runs_intercalate (hd : sep d = true) {ws : List (List Char)}
    (hw : ∀ w ∈ ws, w ≠ [] ∧ ∀ c ∈ w, sep c = false) :
    runs sep (List.intercalate [d] ws) = ws := by
  induction ws with
  | nil => rfl
  | cons w ws ih =>
    obtain ⟨hne, hsep⟩ := hw w List.mem_cons_self
    have ih := ih fun v hv => hw v (List.mem_cons_of_mem _ hv)
    cases ws with
    | nil => simpa [List.intercalate] using runs_word hne hsep
    | cons v vs =>
      have hi : List.intercalate [d] (w :: v :: vs) = w ++ d :: List.intercalate [d] (v :: vs) := by
        simp [List.intercalate, List.intersperse]
      rw [hi, runs_word_append hne hsep hd, ih]

end runs

theorem words_intercalate {ws : List String}
    (h : ∀ w ∈ ws, w ≠ "" ∧ ∀ c ∈ w.toList, isBlank c = false) : words (" ".intercalate ws) = ws := by
  have hruns : runs isBlank (List.intercalate [' '] (ws.map String.toList)) = ws.map String.toList := by
    refine runs_intercalate (by decide) fun w hw => ?_
    obtain ⟨s, hs, rfl⟩ := List.mem_map.mp hw
    exact ⟨by simpa using (h s hs).1, (h s hs).2⟩
  have hsep : " ".toList = [' '] := rfl
  rw [words, String.toList_intercalate, hsep, hruns, List.map_map]
  simp

/-! ### Words that are joined -/

/-- One list is another without some characters of a kind. -/
inductive Loses (p : Char → Bool) : List Char → List Char → Prop
  | nil : Loses p [] []
  | keep (c : Char) {xs ys : List Char} (h : Loses p xs ys) : Loses p (c :: xs) (c :: ys)
  | lose {c : Char} (hc : p c = true) {xs ys : List Char} (h : Loses p xs ys) : Loses p (c :: xs) ys

namespace Loses

variable {p q : Char → Bool} {xs ys zs : List Char}

theorem refl (p : Char → Bool) (xs : List Char) : Loses p xs xs := by
  induction xs with
  | nil => exact .nil
  | cons c xs ih => exact .keep c ih

theorem all (h : ∀ c ∈ xs, p c = true) : Loses p xs [] := by
  induction xs with
  | nil => exact .nil
  | cons c xs ih =>
    exact .lose (h c List.mem_cons_self) (ih fun d hd => h d (List.mem_cons_of_mem _ hd))

theorem append {xs' ys' : List Char} (h : Loses p xs ys) (h' : Loses p xs' ys') :
    Loses p (xs ++ xs') (ys ++ ys') := by
  induction h with
  | nil => exact h'
  | keep c _ ih => exact .keep c ih
  | lose hc _ ih => exact .lose hc ih

theorem trans (h : Loses p xs ys) (h' : Loses p ys zs) : Loses p xs zs := by
  induction h generalizing zs with
  | nil => exact h'
  | lose hc _ ih => exact .lose hc (ih h')
  | keep c _ ih =>
    cases h' with
    | keep _ h' => exact .keep c (ih h')
    | lose hc h' => exact .lose hc (ih h')

theorem reverse (h : Loses p xs ys) : Loses p xs.reverse ys.reverse := by
  induction h with
  | nil => exact .nil
  | keep c _ ih =>
    rw [List.reverse_cons, List.reverse_cons]
    exact ih.append (.refl p [c])
  | lose hc _ ih =>
    rw [List.reverse_cons]
    simpa using ih.append (.lose hc .nil)

theorem dropWhile (p : Char → Bool) (xs : List Char) : Loses p xs (xs.dropWhile p) := by
  induction xs with
  | nil => exact .nil
  | cons c xs ih =>
    cases hc : p c with
    | true => simpa [hc] using Loses.lose hc ih
    | false => simpa [hc] using Loses.refl p (c :: xs)

theorem dropEnds (p : Char → Bool) (xs : List Char) : Loses p xs (dropEnds p xs) := by
  have h := (Loses.dropWhile p (xs.dropWhile p).reverse).reverse
  rw [List.reverse_reverse] at h
  exact (Loses.dropWhile p xs).trans h

theorem flatMap {f : Char → List Char} (hf : ∀ c, p c = true → ∀ d ∈ f c, q d = true)
    (h : Loses p xs ys) : Loses q (xs.flatMap f) (ys.flatMap f) := by
  induction h with
  | nil => exact .nil
  | keep c _ ih => exact (Loses.refl q (f c)).append ih
  | @lose c hc xs ys _ ih =>
    rw [List.flatMap_cons]
    exact (Loses.all (hf c hc)).append ih

end Loses

/-- Words of which some are joined with the next one, or the next ones. -/
inductive Glued : List (List Char) → List (List Char) → Prop
  | nil : Glued [] []
  | cons (w : List Char) {ws vs : List (List Char)} (h : Glued ws vs) : Glued (w :: ws) (w :: vs)
  | join (w : List Char) {v : List Char} {ws vs : List (List Char)} (h : Glued ws (v :: vs)) :
      Glued (w :: ws) ((w ++ v) :: vs)

namespace Glued

theorem longer {c : Char} {w v : List Char} {ws vs : List (List Char)}
    (h : Glued (w :: ws) (v :: vs)) : Glued ((c :: w) :: ws) ((c :: v) :: vs) := by
  cases h with
  | cons _ h => exact .cons _ h
  | join _ h => exact .join (c :: w) h

end Glued

/-- Where separators are lost between two runs, these become one. -/
theorem runs_glued {sep : Char → Bool} {xs ys : List Char} (h : Loses sep xs ys) :
    Glued (runs sep xs) (runs sep ys) := by
  induction h with
  | nil => exact .nil
  -- A separator in front of a text is in none of its words, lost or not.
  | lose hc _ ih => rwa [runs_cons_of_sep hc]
  | @keep c xs ys h ih =>
    cases hc : sep c with
    | true => rwa [runs_cons_of_sep hc, runs_cons_of_sep hc]
    | false =>
      have hys : runs sep (c :: ys) = [c] :: runs sep ys ∨
          ∃ v vs, runs sep ys = v :: vs ∧ runs sep (c :: ys) = (c :: v) :: vs := by
        cases ys with
        | nil => exact .inl (runs_singleton hc)
        | cons e ys =>
          cases he : sep e with
          | true => exact .inl (runs_cons_cons_of_sep hc he)
          | false => exact .inr (runs_cons_cons _ hc he)
      cases xs with
      | nil =>
        cases h
        rw [runs_singleton hc]
        exact .cons [c] .nil
      | cons d xs =>
        cases hd : sep d with
        | true =>
          rw [runs_cons_cons_of_sep hc hd]
          rcases hys with hys | ⟨v, vs, hv, hys⟩
          · rw [hys]
            exact .cons [c] ih
          · rw [hys]
            exact .join [c] (hv ▸ ih)
        | false =>
          cases h with
          | lose hd' h => simp [hd] at hd'
          | @keep _ _ ys h =>
            obtain ⟨w, ws, hw, hx⟩ := runs_cons_cons xs hc hd
            obtain ⟨v, vs, hv, hy⟩ := runs_cons_cons ys hc hd
            rw [hx, hy]
            exact Glued.longer (hw ▸ hv ▸ ih)

/-! ### Slugs -/

namespace Slug

/-- What a slug keeps of one character. A capital sigma is dropped in either lower form. -/
def kept (c : Char) : List Char :=
  if c.toNat == 0x3A3 then [] else (Casing.lowerChar c).filter fun d => isLetter d || isBreak d

theorem filter_lowerFrom (afterCased : Bool) (cs : List Char) :
    (Casing.lowerFrom afterCased cs).filter (fun d => isLetter d || isBreak d) =
      cs.flatMap kept := by
  induction cs generalizing afterCased with
  | nil => rfl
  | cons c cs ih =>
    rw [Casing.lowerFrom, List.filter_append, ih, List.flatMap_cons, kept]
    by_cases hc : (c.toNat == 0x3A3) = true
    · rw [if_pos hc, if_pos hc]
      cases afterCased && !Casing.casedAhead cs <;> rfl
    · rw [if_neg hc, if_neg hc]

theorem slugWords_eq (cs : List Char) : slugWords cs = runs isBreak (cs.flatMap kept) := by
  rw [slugWords, lowercase, filter_lowerFrom]

def blankCodes : List Nat :=
  [9, 10, 11, 12, 13, 28, 29, 30, 31, 32, 0x85, 0xA0, 0x1680, 0x2000, 0x2001, 0x2002, 0x2003, 0x2004,
   0x2005, 0x2006, 0x2007, 0x2008, 0x2009, 0x200A, 0x2028, 0x2029, 0x202F, 0x205F, 0x3000]

theorem mem_blankCodes {c : Char} (h : isBlank c = true) : c.toNat ∈ blankCodes := by
  simp only [isBlank, Bool.or_eq_true, Bool.and_eq_true, decide_eq_true_eq, beq_iff_eq] at h
  simp only [blankCodes, List.mem_cons, List.not_mem_nil, or_false]
  omega

/-- White space is a break of a slug, or nothing. -/
theorem isBreak_of_mem_kept {c : Char} (h : isBlank c = true) : ∀ d ∈ kept c, isBreak d = true := by
  have hall : (blankCodes.all fun n => (kept (Char.ofNat n)).all isBreak) = true := by
    decide +kernel
  have hc := List.all_eq_true.mp (List.all_eq_true.mp hall c.toNat (mem_blankCodes h))
  rwa [Char.ofNat_toNat] at hc

theorem slugWords_glued {xs ys : List Char} (h : Loses isBlank xs ys) :
    Glued (slugWords xs) (slugWords ys) := by
  rw [slugWords_eq, slugWords_eq]
  exact runs_glued (h.flatMap fun _ => isBreak_of_mem_kept)

theorem slugify_eq_iff (xs ys : List Char) : slugify xs = slugify ys ↔ slugWords xs = slugWords ys := by
  -- A hyphen is a break, so the words can be read off the slug.
  have hread (cs : List Char) : runs isBreak (slugify cs) = slugWords cs :=
    runs_intercalate (by decide) fun w hw => mem_runs hw
  refine ⟨fun h => ?_, fun h => by rw [slugify, slugify, h]⟩
  rw [← hread xs, h, hread]

end Slug

/-- Ids are the same when the words of the texts are. -/
theorem headingId_eq_iff (s t : String) :
    headingId s = headingId t ↔ Slug.slugWords s.toList = Slug.slugWords t.toList := by
  rw [headingId, headingId, String.ofList_inj, Percent.encode_injective.eq_iff, Slug.slugify_eq_iff]

end CmsMarkup
