import Mathlib
import CmsMarkup.Proofs.SlugWords
import CmsMarkup.Slug.Passes

/-! The shape of a slug. Slugs are the texts of small letters with single hyphens between their
words, and each of them is its own slug. A slug goes by the words of a text alone, so texts that are
put together with a break between them have the words of both, and passes over the whole text that
leave it its words make the same slug. -/

namespace CmsMarkup

/-! ### Characters that lowering leaves alone -/

namespace Casing

/-- Where the characters are that can have another lower form. -/
def capitalRanges : List (Nat × Nat) :=
  (0x130, 0x130) :: lowerRuns.map fun (first, last, _) => (first, last)

theorem lowerCode_of_outside {n : Nat} (h : ∀ r ∈ capitalRanges, n < r.1 ∨ r.2 < n) :
    lowerCode n = n := by
  rw [lowerCode]
  split
  · rename_i first last step target hfound
    have hrun := List.find?_some hfound
    have hout := h (first, last)
      (List.mem_cons_of_mem _ (List.mem_map.mpr ⟨_, List.mem_of_find?_eq_some hfound, rfl⟩))
    simp only [Bool.and_eq_true, decide_eq_true_eq] at hrun
    omega
  · rfl

theorem lowerChar_of_outside {c : Char} (h : inRanges capitalRanges c = false) :
    lowerChar c = [c] := by
  have hout : ∀ r ∈ capitalRanges, c.toNat < r.1 ∨ r.2 < c.toNat := by
    intro r hr
    have hc := List.any_eq_false.mp h r hr
    simp only [Bool.and_eq_true, decide_eq_true_eq] at hc
    omega
  by_cases hascii : c.toNat < 0x80
  · have hupper : ¬ c.isUpper = true := by
      have hc := hout (0x41, 0x5A) (by decide)
      rw [isUpper_iff]
      omega
    rw [lowerChar, if_pos hascii, Char.toLower_eq_of_not_isUpper hupper]
  · have hdotted : ¬ (c.toNat == 0x130) = true := by
      have hc := hout (0x130, 0x130) (by decide)
      rw [beq_iff_eq]
      omega
    rw [lowerChar, if_neg hascii, if_neg hdotted, lowerCode_of_outside hout, Char.ofNat_toNat]

theorem lt_lowerCode {n : Nat} (h : 90 < n) : 90 < lowerCode n := by
  have htargets : ∀ r ∈ lowerRuns, 90 < r.2.2.2 := by decide +kernel
  rw [lowerCode]
  split
  · rename_i first last step target hfound
    have htarget : 90 < target := htargets _ (List.mem_of_find?_eq_some hfound)
    omega
  · exact h

/-- No lower form is an ASCII capital. -/
theorem isUpper_of_mem_lowerChar {c d : Char} (h : d ∈ lowerChar c) : d.isUpper = false := by
  rw [lowerChar] at h
  split_ifs at h with hascii hdotted
  · rw [List.mem_singleton.mp h, Char.isUpper_toLower_eq_false]
  · rcases List.mem_pair.mp h with rfl | rfl <;> rfl
  · have hcode := lt_lowerCode (n := c.toNat) (by omega)
    rw [List.mem_singleton.mp h, ← Bool.not_eq_true, isUpper_iff, Char.toNat_ofNat]
    split_ifs <;> omega

end Casing

/-! ### Runs of texts that are put together -/

section runs

variable {sep : Char → Bool} {d : Char} {cs : List Char}

theorem runs_append (xs ys : List Char) {ws : List Char} (hne : ws ≠ [])
    (hws : ∀ c ∈ ws, sep c = true) : runs sep (xs ++ ws ++ ys) = runs sep xs ++ runs sep ys := by
  obtain ⟨c, more, rfl⟩ := List.exists_cons_of_ne_nil hne
  rw [List.forall_mem_cons] at hws
  have hmore : runs sep (more ++ ys) = runs sep ys := by
    obtain ⟨-, hws⟩ := hws
    induction more with
    | nil => rfl
    | cons e more ih =>
      rw [List.forall_mem_cons] at hws
      rw [List.cons_append, runs_cons_of_sep hws.1, ih (List.cons_ne_nil _ _) hws.2]
  rw [List.append_assoc, List.cons_append, runs_append_cons _ _ hws.1, hmore]

theorem flatten_runs (sep : Char → Bool) (cs : List Char) :
    (runs sep cs).flatten = cs.filter fun c => !sep c := by
  induction cs with
  | nil => rfl
  | cons c cs ih =>
    by_cases hc : sep c = true
    · rw [runs_cons_of_sep hc, ih]
      simp [hc]
    · have hc : sep c = false := by simpa using hc
      cases cs with
      | nil => simp [runs_singleton hc, hc]
      | cons e cs =>
        by_cases he : sep e = true
        · rw [runs_cons_cons_of_sep hc he, List.flatten_cons, ih]
          simp [hc]
        · obtain ⟨w, ws, hw, hcw⟩ := runs_cons_cons cs hc (by simpa using he)
          rw [hw] at ih
          simp [hcw, hc, ← ih]

/-- A text is its words with single separators between them, if it has a separator nowhere else;
those at its front are not given back. -/
theorem intercalate_runs (hsep : ∀ c ∈ cs, sep c = true → c = d)
    (hlast : cs.getLast? ≠ some d) (hsingle : cs.IsChain fun a b => a = d → b ≠ d) :
    List.intercalate [d] (runs sep cs) = cs.dropWhile sep := by
  induction cs with
  | nil => rfl
  | cons c cs ih =>
    have hmore := hsingle.of_cons
    rw [List.forall_mem_cons] at hsep
    by_cases hc : sep c = true
    · have hend : cs.getLast? ≠ some d := by
        cases cs with
        | nil => simp
        | cons e cs => simpa using hlast
      rw [runs_cons_of_sep hc, List.dropWhile_cons_of_pos hc, ih hsep.2 hend hmore]
    rw [List.dropWhile_cons_of_neg hc]
    have hc : sep c = false := by simpa using hc
    cases cs with
    | nil => rw [runs_singleton hc, List.intercalate_singleton]
    | cons e cs =>
      have ih := ih hsep.2 (by simpa using hlast) hmore
      by_cases he : sep e = true
      · -- The separator is not the last character, and no other one follows it.
        have hed := hsep.2 e List.mem_cons_self he
        obtain ⟨g, more, rfl⟩ : ∃ g more, cs = g :: more := by
          refine List.exists_cons_of_ne_nil ?_
          rintro rfl
          simp [hed] at hlast
        have hg : ¬ sep g = true := by
          intro hg
          exact (List.isChain_cons_cons.mp hmore).1 hed (hsep.2 g (by simp) hg)
        rw [List.dropWhile_cons_of_pos he, List.dropWhile_cons_of_neg hg] at ih
        have hruns : runs sep (e :: g :: more) ≠ [] := by
          intro hnil
          rw [hnil] at ih
          cases ih
        rw [runs_cons_cons_of_sep hc he, List.intercalate_cons_of_ne_nil hruns, ih, hed]
        rfl
      · rw [List.dropWhile_cons_of_neg he] at ih
        obtain ⟨w, ws, hw, hcw⟩ := runs_cons_cons cs hc (by simpa using he)
        rw [hw] at ih
        rw [hcw, List.intercalate_cons_cons_left, ih]

theorem runs_dropEnds {p : Char → Bool} (hp : ∀ c, p c = true → sep c = true) (cs : List Char) :
    runs sep (dropEnds p cs) = runs sep cs := by
  have hfront (cs : List Char) : runs sep (cs.dropWhile p) = runs sep cs := by
    induction cs with
    | nil => rfl
    | cons c cs ih =>
      by_cases hc : p c = true
      · rw [List.dropWhile_cons_of_pos hc, ih, runs_cons_of_sep (hp c hc)]
      · rw [List.dropWhile_cons_of_neg hc]
  have hend (cs : List Char) : runs sep (cs.rdropWhile p) = runs sep cs := by
    induction cs using List.reverseRecOn with
    | nil => rfl
    | append_singleton cs c ih =>
      by_cases hc : p c = true
      · rw [List.rdropWhile_concat_pos _ _ _ hc, ih, runs_append_cons _ _ (hp c hc)]
        exact (List.append_nil _).symm
      · rw [List.rdropWhile_concat_neg _ _ _ hc]
  exact (hend _).trans (hfront cs)

end runs

/-! ### Slugs -/

namespace Slug

/-- The letters of slugs: digits, the underscore, small letters, Hiragana, Katakana, the unified
ideographs and the Hangul block. -/
def letterRanges : List (Nat × Nat) :=
  [(0x30, 0x39), (0x5F, 0x5F), (0x61, 0x7A), (0x3040, 0x309F), (0x30A0, 0x30FF), (0x4E00, 0x9FFF),
   (0xAC00, 0xD7AF)]

/-- A text of such letters, with single hyphens inside it. -/
structure IsSlug (cs : List Char) : Prop where
  letters : ∀ c ∈ cs, inRanges letterRanges c = true ∨ c = '-'
  first : cs.head? ≠ some '-'
  last : cs.getLast? ≠ some '-'
  single : cs.IsChain fun c d => c = '-' → d ≠ '-'

def breakRanges : List (Nat × Nat) :=
  [(9, 13), (0x20, 0x20), (0x2D, 0x2D), (0xA0, 0xA0), (0x1680, 0x1680), (0x2000, 0x200A),
   (0x2028, 0x2029), (0x202F, 0x202F), (0x205F, 0x205F), (0x3000, 0x3000), (0xFEFF, 0xFEFF)]

theorem inRanges_breakRanges {c : Char} (h : isBreak c = true) : inRanges breakRanges c = true := by
  rw [isBreak, isScriptBlank, Bool.or_eq_true, beq_iff_eq] at h
  rcases h with h | rfl
  · simp only [Bool.or_eq_true, Bool.and_eq_true, decide_eq_true_eq, beq_iff_eq] at h
    simp only [inRanges, breakRanges, List.any_cons, List.any_nil, Bool.or_eq_true, Bool.and_eq_true,
      decide_eq_true_eq, Bool.or_false]
    omega
  · decide

theorem letter_iff {c : Char} :
    inRanges letterRanges c = true ↔ isLetter c = true ∧ c.isUpper = false := by
  have hline : c = '_' ↔ c.toNat = 95 := Char.toNat_inj.symm
  rw [← Bool.not_eq_true, isUpper_iff]
  simp only [inRanges, letterRanges, List.any_cons, List.any_nil, isLetter, Char.isAlphanum, Char.isAlpha,
    Bool.or_eq_true, Bool.and_eq_true, decide_eq_true_eq, beq_iff_eq, isUpper_iff, isLower_iff,
    isDigit_iff, hline, Bool.false_eq_true, or_false]
  clear hline
  constructor
  · intro h
    omega
  · rintro ⟨h, hupper⟩
    omega

theorem kept_of_outside {c : Char} (hc : (isLetter c || isBreak c) = true)
    (h : inRanges Casing.capitalRanges c = false) : kept c = [c] := by
  have hsigma : (c.toNat == 0x3A3) = false := by
    have hrun := List.any_eq_false.mp h (0x3A3, 0x3AB) (by decide +kernel)
    simp only [Bool.and_eq_true, decide_eq_true_eq] at hrun
    rw [beq_eq_false_iff_ne]
    omega
  rw [kept, hsigma, if_neg Bool.false_ne_true, Casing.lowerChar_of_outside h,
    List.filter_singleton, hc, cond_true]

theorem kept_break {c : Char} (h : isBreak c = true) : kept c = [c] :=
  kept_of_outside (by rw [h, Bool.or_true])
    (inRanges_of_apart (by decide +kernel) (inRanges_breakRanges h))

theorem kept_letter {c : Char} (h : inRanges letterRanges c = true) : kept c = [c] :=
  kept_of_outside (by rw [(letter_iff.mp h).1, Bool.true_or])
    (inRanges_of_apart (by decide +kernel) h)

theorem letter_or_break_of_mem_kept {c d : Char} (h : d ∈ kept c) :
    inRanges letterRanges d = true ∨ isBreak d = true := by
  rw [kept] at h
  split_ifs at h
  · cases h
  · rw [List.mem_filter, Bool.or_eq_true] at h
    rcases h.2 with hletter | hbreak
    · exact .inl (letter_iff.mpr ⟨hletter, Casing.isUpper_of_mem_lowerChar h.1⟩)
    · exact .inr hbreak

theorem mem_slugWords {cs w : List Char} (h : w ∈ slugWords cs) :
    w ≠ [] ∧ ∀ c ∈ w, inRanges letterRanges c = true := by
  rw [slugWords_eq] at h
  obtain ⟨hne, hword⟩ := mem_runs h
  refine ⟨hne, fun c hc => ?_⟩
  have hmem : c ∈ cs.flatMap kept := by
    have hflat : c ∈ (runs isBreak (cs.flatMap kept)).flatten := List.mem_flatten.mpr ⟨w, h, hc⟩
    rw [flatten_runs] at hflat
    exact (List.mem_filter.mp hflat).1
  obtain ⟨d, -, hd⟩ := List.mem_flatMap.mp hmem
  exact (letter_or_break_of_mem_kept hd).resolve_right (by simp [hword c hc])

theorem ne_hyphen_of_letter {c : Char} (h : inRanges letterRanges c = true) : c ≠ '-' := by
  rintro rfl
  exact absurd h (by decide)

theorem IsSlug.of_word {w : List Char} (h : ∀ c ∈ w, inRanges letterRanges c = true) : IsSlug w := by
  have hno : ∀ c ∈ w, c ≠ '-' := fun c hc => ne_hyphen_of_letter (h c hc)
  refine ⟨fun c hc => .inl (h c hc), fun he => hno _ (List.mem_of_mem_head? he) rfl,
    fun he => hno _ (List.mem_of_mem_getLast? he) rfl, ?_⟩
  rw [List.isChain_iff_forall_rel_of_append_cons_cons]
  rintro a b front rest rfl ha
  exact absurd ha (hno a (by simp))

theorem IsSlug.join {w rest : List Char} (hne : w ≠ [])
    (hw : ∀ c ∈ w, inRanges letterRanges c = true) (hrest : rest ≠ []) (h : IsSlug rest) :
    IsSlug (w ++ '-' :: rest) := by
  have hword := IsSlug.of_word hw
  refine ⟨?_, ?_, ?_, ?_⟩
  · rw [List.forall_mem_append, List.forall_mem_cons]
    exact ⟨hword.letters, .inr rfl, h.letters⟩
  · rw [List.head?_append_of_ne_nil _ hne]
    exact hword.first
  · obtain ⟨c, more, rfl⟩ := List.exists_cons_of_ne_nil hrest
    rw [List.getLast?_append_of_ne_nil _ (List.cons_ne_nil _ _), List.getLast?_cons_cons]
    exact h.last
  · rw [List.isChain_append, List.isChain_cons]
    refine ⟨hword.single, ⟨fun c hc _ he => h.first (he ▸ hc), h.single⟩, fun c hc _ _ he => ?_⟩
    exact absurd he (ne_hyphen_of_letter (hw c (List.mem_of_mem_getLast? hc)))

theorem isSlug_intercalate {ws : List (List Char)}
    (h : ∀ w ∈ ws, w ≠ [] ∧ ∀ c ∈ w, inRanges letterRanges c = true) :
    IsSlug (List.intercalate ['-'] ws) := by
  induction ws with
  | nil => exact .of_word (List.forall_mem_nil _)
  | cons w ws ih =>
    obtain ⟨⟨hne, hw⟩, hws⟩ := List.forall_mem_cons.mp h
    cases ws with
    | nil => simpa using IsSlug.of_word hw
    | cons v vs =>
      have hsome : List.intercalate ['-'] (v :: vs) ≠ [] := by
        obtain ⟨c, v', rfl⟩ := List.exists_cons_of_ne_nil (List.forall_mem_cons.mp hws).1.1
        simp
      simpa using IsSlug.join hne hw hsome (ih hws)

theorem isSlug_slugify (cs : List Char) : IsSlug (slugify cs) :=
  isSlug_intercalate fun _ hw => mem_slugWords hw

/-- A text of the shape of a slug is its own slug. -/
theorem IsSlug.slugify_eq {cs : List Char} (h : IsSlug cs) : slugify cs = cs := by
  -- Lowering leaves the text alone, so the slug goes by the breaks, which are all hyphens here.
  have hkept : cs.flatMap kept = cs := by
    have hall : ∀ c ∈ cs, kept c = [c] := by
      intro c hc
      rcases h.letters c hc with hletter | rfl
      · exact kept_letter hletter
      · exact kept_break (by decide)
    rw [List.flatMap_congr hall, List.flatMap_singleton']
  have hbreak : ∀ c ∈ cs, isBreak c = true → c = '-' := by
    intro c hc hb
    refine (h.letters c hc).resolve_left fun hletter => ?_
    have hapart : inRanges letterRanges c = false :=
      inRanges_of_apart (by decide) (inRanges_breakRanges hb)
    rw [hletter] at hapart
    cases hapart
  rw [slugify, slugWords_eq, hkept, intercalate_runs hbreak h.last h.single]
  cases cs with
  | nil => rfl
  | cons c cs =>
    refine List.dropWhile_cons_of_neg fun hc => h.first ?_
    rw [hbreak c List.mem_cons_self hc]
    rfl

theorem slugify_slugify (cs : List Char) : slugify (slugify cs) = slugify cs :=
  (isSlug_slugify cs).slugify_eq

theorem intercalate_append {ws vs : List (List Char)} (hws : ws ≠ []) (hvs : vs ≠ []) (sep : List Char) :
    List.intercalate sep (ws ++ vs) = List.intercalate sep ws ++ sep ++ List.intercalate sep vs := by
  induction ws with
  | nil => exact absurd rfl hws
  | cons w ws ih =>
    cases ws with
    | nil => rw [List.singleton_append, List.intercalate_cons_of_ne_nil hvs, List.intercalate_singleton]
    | cons w' ws =>
      have ih := ih (List.cons_ne_nil _ _)
      rw [List.cons_append] at ih
      simp [ih]

theorem slugify_eq_nil_iff {cs : List Char} : slugify cs = [] ↔ slugWords cs = [] :=
  slugify_eq_iff cs []

theorem slugWords_append (xs ys : List Char) {ws : List Char} (hne : ws ≠ [])
    (hws : ∀ c ∈ ws, isBreak c = true) : slugWords (xs ++ ws ++ ys) = slugWords xs ++ slugWords ys := by
  have hkept : ws.flatMap kept = ws := by
    rw [List.flatMap_congr fun c hc => kept_break (hws c hc), List.flatMap_singleton']
  rw [slugWords_eq, slugWords_eq, slugWords_eq, List.flatMap_append, List.flatMap_append, hkept,
    runs_append _ _ hne hws]

theorem slugify_append (xs ys : List Char) {ws : List Char} (hne : ws ≠ [])
    (hws : ∀ c ∈ ws, isBreak c = true) :
    slugify (xs ++ ws ++ ys) = List.intercalate ['-'] ([slugify xs, slugify ys].filter (· ≠ [])) := by
  by_cases hx : slugWords xs = []
  · have hx' := slugify_eq_nil_iff.mpr hx
    rw [slugify, slugWords_append xs ys hne hws, hx, hx', List.nil_append, ← slugify]
    by_cases hy : slugify ys = [] <;> simp [hy]
  by_cases hy : slugWords ys = []
  · have hx' := mt slugify_eq_nil_iff.mp hx
    have hy' := slugify_eq_nil_iff.mpr hy
    rw [slugify, slugWords_append xs ys hne hws, hy, hy', List.append_nil, ← slugify]
    simp [hx']
  · have hx' := mt slugify_eq_nil_iff.mp hx
    have hy' := mt slugify_eq_nil_iff.mp hy
    rw [slugify, slugWords_append xs ys hne hws, intercalate_append hx hy, ← slugify, ← slugify]
    simp [hx', hy']

theorem kept_eq_nil {c : Char} (h : ∀ d ∈ lowercase [c], isLetter d = false ∧ isBreak d = false) :
    kept c = [] := by
  have hfilter := filter_lowerFrom false [c]
  rw [List.flatMap_singleton] at hfilter
  rw [← hfilter, List.filter_eq_nil_iff]
  intro d hd
  simp [h d hd]

theorem slugify_append_cons (xs ys : List Char) {c : Char} (h : kept c = []) :
    slugify (xs ++ c :: ys) = slugify (xs ++ ys) := by
  rw [slugify_eq_iff, slugWords_eq, slugWords_eq, List.flatMap_append, List.flatMap_cons, h,
    List.nil_append, List.flatMap_append]

/-! ### The passes over a text -/

section squeeze

variable {sep p : Char → Bool} {mark : Char}

theorem mem_squeeze {cs : List Char} {c : Char} (h : c ∈ squeeze p mark cs) :
    c = mark ∨ c ∈ cs ∧ p c = false := by
  induction cs with
  | nil => cases h
  | cons d cs ih =>
    rw [squeeze] at h
    split_ifs at h with hboth hd
    · exact (ih h).imp_right fun ⟨hc, hp⟩ => ⟨List.mem_cons_of_mem _ hc, hp⟩
    · rcases List.mem_cons.mp h with rfl | h
      · exact .inl rfl
      · exact (ih h).imp_right fun ⟨hc, hp⟩ => ⟨List.mem_cons_of_mem _ hc, hp⟩
    · rcases List.mem_cons.mp h with rfl | h
      · exact .inr ⟨List.mem_cons_self, by simpa using hd⟩
      · exact (ih h).imp_right fun ⟨hc, hp⟩ => ⟨List.mem_cons_of_mem _ hc, hp⟩

/-- Marks among the separators part the same words. -/
theorem runs_squeeze (hp : ∀ c, p c = true → sep c = true) (hmark : sep mark = true)
    (front cs : List Char) : runs sep (front ++ squeeze p mark cs) = runs sep (front ++ cs) := by
  induction cs generalizing front with
  | nil => rfl
  | cons c cs ih =>
    have hrest : runs sep (squeeze p mark cs) = runs sep cs := ih []
    rw [squeeze]
    split_ifs with hboth hc
    · -- The run goes on, and its next character is a separator too.
      rw [Bool.and_eq_true] at hboth
      cases cs with
      | nil => cases hboth.2
      | cons d cs =>
        rw [ih, runs_append_cons _ _ (hp c hboth.1), runs_append_cons _ _ (hp d hboth.2),
          runs_cons_of_sep (hp d hboth.2)]
    · rw [runs_append_cons _ _ hmark, hrest, runs_append_cons _ _ (hp c hc)]
    · rw [← List.singleton_append, ← List.append_assoc, ih, List.append_assoc, List.singleton_append]

theorem head?_squeeze {cs : List Char} (h : ∀ c ∈ cs.head?, p c = false) :
    (squeeze p mark cs).head? = cs.head? := by
  cases cs with
  | nil => rfl
  | cons c cs => simp [squeeze, h c rfl]

theorem squeeze_single (cs : List Char) :
    (squeeze isHyphen '-' cs).IsChain fun a b => a = '-' → b ≠ '-' := by
  induction cs with
  | nil => exact .nil
  | cons c cs ih =>
    rw [squeeze]
    split_ifs with hboth hc
    · exact ih
    · -- The last hyphen of its run
      have hnext : ∀ d ∈ cs.head?, isHyphen d = false := by
        intro d hd
        by_contra hne
        exact hboth (by simp_all)
      refine List.isChain_cons.mpr ⟨fun d hd _ he => ?_, ih⟩
      rw [head?_squeeze hnext] at hd
      have hhyphen := hnext d hd
      rw [he] at hhyphen
      cases hhyphen
    · refine List.isChain_cons.mpr ⟨fun d _ he => ?_, ih⟩
      rw [he] at hc
      exact absurd rfl hc

end squeeze

theorem isInfix_dropEnds (p : Char → Bool) (cs : List Char) : dropEnds p cs <:+: cs :=
  (List.rdropWhile_prefix p (cs.dropWhile p)).isInfix.trans (List.dropWhile_suffix p).isInfix

theorem dropEnds_ends (p : Char → Bool) (cs : List Char) :
    (∀ c ∈ (dropEnds p cs).head?, p c = false) ∧ ∀ c ∈ (dropEnds p cs).getLast?, p c = false := by
  constructor
  · intro c hc
    obtain ⟨rest, hrest⟩ : dropEnds p cs <+: cs.dropWhile p :=
      List.rdropWhile_prefix p (cs.dropWhile p)
    have hhead := List.head?_dropWhile_not p cs
    rw [← hrest, List.head?_append, hc] at hhead
    simpa using hhead
  · intro c hc
    have hhead := List.head?_dropWhile_not p (cs.dropWhile p).reverse
    rw [dropEnds, List.getLast?_reverse] at hc
    rw [hc] at hhead
    simpa using hhead

/-- The passes give the words of a text with single hyphens between them. -/
theorem passes_eq (cs : List Char) : passes cs = slugify cs := by
  have hhyphen : ∀ c, isHyphen c = true → isBreak c = true := fun c hc => by
    rw [isBreak, Bool.or_eq_true]
    exact .inr hc
  have hblank : ∀ c, isScriptBlank c = true → isBreak c = true := fun c hc => by
    rw [isBreak, hc, Bool.true_or]
  have hruns : runs isBreak (passes cs) = slugWords cs := by
    have husable : (fun c => isLetter c || isScriptBlank c || isHyphen c) =
        fun c => isLetter c || isBreak c := by
      funext c
      rw [isBreak, isHyphen, Bool.or_assoc]
    rw [passes, runs_dropEnds hhyphen, slugWords, husable]
    exact (runs_squeeze hhyphen rfl [] _).trans (runs_squeeze hblank rfl [] _)
  have hbreaks : ∀ c ∈ passes cs, isBreak c = true → c = '-' := by
    intro c hc hbreak
    rcases mem_squeeze ((isInfix_dropEnds _ _).subset hc) with rfl | ⟨hc, hno⟩
    · rfl
    rcases mem_squeeze hc with rfl | ⟨-, hnone⟩
    · rfl
    · rw [isBreak, hnone, Bool.false_or] at hbreak
      exact beq_iff_eq.mp hbreak
  have hends := dropEnds_ends isHyphen (squeeze isHyphen '-' (squeeze isScriptBlank '-'
    ((lowercase cs).filter fun c => isLetter c || isScriptBlank c || isHyphen c)))
  have hlast : (passes cs).getLast? ≠ some '-' := fun h => by cases hends.2 '-' h
  rw [slugify, ← hruns, intercalate_runs hbreaks hlast
    <| List.IsChain.infix (squeeze_single _) (isInfix_dropEnds _ _)]
  cases hpasses : passes cs with
  | nil => rfl
  | cons c rest =>
    refine (List.dropWhile_cons_of_neg fun hc => ?_).symm
    obtain rfl := hbreaks c (hpasses ▸ List.mem_cons_self) hc
    cases hends.1 '-' (congrArg List.head? hpasses)

end Slug

theorem toList_slugOf (s : String) : (slugOf s).toList = Slug.slugify s.toList := by
  rw [slugOf, String.toList_ofList]

theorem slugOf_eq_self_iff (s : String) : slugOf s = s ↔ Slug.slugify s.toList = s.toList := by
  rw [← String.toList_inj, toList_slugOf]

/-- The texts that are slugs of some text are those that are their own slug, and those that have the
shape of a slug; the slug of a slug is that slug. The slug is what the passes make of a text. -/
theorem slugOf_image (s : String) :
    [∃ text, s = slugOf text, slugOf s = s, Slug.IsSlug s.toList].TFAE ∧
      slugOf (slugOf s) = slugOf s ∧ (slugOf s).toList = Slug.passes s.toList := by
  have hidem (text : String) : slugOf (slugOf text) = slugOf text := by
    rw [slugOf_eq_self_iff, toList_slugOf, Slug.slugify_slugify]
  refine ⟨?_, hidem s, by rw [toList_slugOf, Slug.passes_eq]⟩
  tfae_have 1 → 2 := by
    rintro ⟨text, rfl⟩
    exact hidem text
  tfae_have 2 → 3 := by
    intro h
    rw [← h, toList_slugOf]
    exact Slug.isSlug_slugify s.toList
  tfae_have 3 → 1 := fun h => ⟨s, ((slugOf_eq_self_iff s).mpr h.slugify_eq).symm⟩
  tfae_finish

/-- Text that is put together with blanks or hyphens between it has the slugs of its parts, with a
hyphen between two that are not empty; a character that slugs do not show can be left out. -/
theorem slugOf_append (a b : String) :
    (∀ between : String, between ≠ "" →
      (∀ c ∈ between.toList, isScriptBlank c = true ∨ c = '-') →
      slugOf (a ++ between ++ b) = "-".intercalate ([slugOf a, slugOf b].filter (· ≠ ""))) ∧
    ∀ c : Char, (∀ d ∈ lowercase [c], Slug.isLetter d = false ∧ Slug.isBreak d = false) →
      slugOf (a ++ String.singleton c ++ b) = slugOf (a ++ b) := by
  refine ⟨fun between hne hbetween => ?_, fun c hc => ?_⟩
  · have hbreaks : ∀ c ∈ between.toList, Slug.isBreak c = true := by
      intro c hc
      simpa [Slug.isBreak] using hbetween c hc
    have hsome : between.toList ≠ [] := by simpa using hne
    have hjoin := Slug.slugify_append a.toList b.toList hsome hbreaks
    have hparts : ([slugOf a, slugOf b].filter (· ≠ "")).map String.toList =
        [Slug.slugify a.toList, Slug.slugify b.toList].filter (· ≠ []) := by
      rw [← toList_slugOf, ← toList_slugOf]
      by_cases ha : slugOf a = "" <;> by_cases hb : slugOf b = "" <;> simp [ha, hb]
    rw [← String.toList_inj, toList_slugOf, String.toList_append, String.toList_append, hjoin,
      String.toList_intercalate, hparts]
    rfl
  · have hdrop := Slug.slugify_append_cons a.toList b.toList (Slug.kept_eq_nil hc)
    rw [← String.toList_inj, toList_slugOf, toList_slugOf]
    simpa using hdrop

/-- A capital sigma before the break, and one that is left out, which is the final one in its word. -/
theorem slugOf_append_at_final_sigma :
    ("\u3000--\ufeff" ≠ "" ∧ ∀ c ∈ "\u3000--\ufeff".toList, isScriptBlank c = true ∨ c = '-') ∧
      (∀ d ∈ lowercase ['Σ'], Slug.isLetter d = false ∧ Slug.isBreak d = false) ∧
      slugOf ("A Σ" ++ "\u3000--\ufeff" ++ "-\u212AΣ!") =
        "-".intercalate ([slugOf "A Σ", slugOf "-\u212AΣ!"].filter (· ≠ "")) ∧
      slugOf ("A Σ" ++ String.singleton 'Σ' ++ "-\u212AΣ!") = slugOf ("A Σ" ++ "-\u212AΣ!") := by
  have hbetween : "\u3000--\ufeff" ≠ "" ∧
      ∀ c ∈ "\u3000--\ufeff".toList, isScriptBlank c = true ∨ c = '-' := by
    have hall : ("\u3000--\ufeff".toList.all fun c => isScriptBlank c || c == '-') = true := by
      decide +kernel
    exact ⟨by decide, by simpa [List.all_eq_true] using hall⟩
  have hsigma : ∀ d ∈ lowercase ['Σ'], Slug.isLetter d = false ∧ Slug.isBreak d = false := by
    have hall : ((lowercase ['Σ']).all fun d => !Slug.isLetter d && !Slug.isBreak d) = true := by
      decide +kernel
    simpa [List.all_eq_true] using hall
  exact ⟨hbetween, hsigma, (slugOf_append _ _).1 _ hbetween.1 hbetween.2, (slugOf_append _ _).2 _ hsigma⟩

end CmsMarkup
