import CmsMarkup.FrontMatter
import Mathlib.Data.List.TakeDrop
import Mathlib.Data.List.TakeWhile

/-! Front matter by lines. The block is what stands between the first line of a text and the next
line of hyphens; the body begins behind that line and is the same whatever the block says. -/

namespace CmsMarkup.FrontMatter

/-- A line of three hyphens or more, with nothing but blanks behind them. -/
def IsBoundary (line : List Char) : Prop :=
  ∃ n blanks, 3 ≤ n ∧ line = List.replicate n '-' ++ blanks ∧ ∀ c ∈ blanks, isBlank c = true

/-! ### One boundary -/

theorem hyphen_not_blank : isBlank '-' = false := by decide

theorem blank_ne_hyphen {c : Char} (h : isBlank c = true) : c ≠ '-' := by
  rintro rfl
  rw [hyphen_not_blank] at h
  cases h

theorem not_isBoundary_of_blank {line : List Char} (h : ∀ c ∈ line, isBlank c = true) :
    ¬ IsBoundary line := by
  rintro ⟨n, blanks, hn, rfl, -⟩
  have hmem : '-' ∈ List.replicate n '-' ++ blanks := by
    rw [List.mem_append, List.mem_replicate]
    exact .inl ⟨by omega, rfl⟩
  exact blank_ne_hyphen (h _ hmem) rfl

theorem hyphens_append {n : Nat} {cs : List Char} (h : ∀ c ∈ cs.head?, c ≠ '-') :
    (List.replicate n '-' ++ cs).takeWhile (· == '-') = List.replicate n '-' ∧
      (List.replicate n '-' ++ cs).dropWhile (· == '-') = cs := by
  have hall : ∀ c ∈ List.replicate n '-', (c == '-') = true := by
    intro c hc
    rw [List.eq_of_mem_replicate hc]
    rfl
  rw [List.takeWhile_append_of_pos hall, List.dropWhile_append_of_pos hall]
  cases cs with
  | nil => simp
  | cons c cs =>
    have hc : c ≠ '-' := by simpa using h
    simp [hc]

theorem eq_hyphens_append (cs : List Char) : cs =
    List.replicate (cs.takeWhile (· == '-')).length '-' ++ cs.dropWhile (· == '-') := by
  have hhyphens : cs.takeWhile (· == '-') = List.replicate (cs.takeWhile (· == '-')).length '-' := by
    refine List.eq_replicate_of_mem fun c hc => ?_
    simpa using List.all_eq_true.mp List.all_takeWhile c hc
  rw [← hhyphens, List.takeWhile_append_dropWhile]

theorem isBoundary_iff {line : List Char} :
    IsBoundary line ↔ 3 ≤ (line.takeWhile (· == '-')).length ∧
      (line.dropWhile (· == '-')).all isBlank = true := by
  rw [List.all_eq_true]
  constructor
  · rintro ⟨n, blanks, hn, rfl, hblank⟩
    have hhead : ∀ c ∈ blanks.head?, c ≠ '-' := fun c hc =>
      blank_ne_hyphen (hblank c (List.mem_of_mem_head? hc))
    obtain ⟨htake, hdrop⟩ := hyphens_append (n := n) hhead
    rw [htake, hdrop, List.length_replicate]
    exact ⟨hn, hblank⟩
  · rintro ⟨hlong, hblank⟩
    exact ⟨_, _, hlong, eq_hyphens_append line, hblank⟩

instance (line : List Char) : Decidable (IsBoundary line) :=
  decidable_of_iff _ isBoundary_iff.symm

/-- Only blanks are dropped, and what is left begins with a line end. -/
theorem boundaryEnd_some {cs behind : List Char} (h : boundaryEnd cs = some behind) :
    ∃ dropped, cs = dropped ++ behind ∧ (∀ c ∈ dropped, isBlank c = true) ∧
      (behind = [] ∨ ∃ more, behind = '\n' :: more) := by
  have hblank : ∀ c ∈ cs.takeWhile isBlank, isBlank c = true :=
    List.all_eq_true.mp List.all_takeWhile
  have hcs := List.takeWhile_append_dropWhile (p := isBlank) (l := cs)
  rw [boundaryEnd, List.span_eq_takeWhile_dropWhile] at h
  generalize cs.takeWhile isBlank = blanks at *
  generalize cs.dropWhile isBlank = rest at *
  cases rest with
  | nil =>
    cases h
    exact ⟨blanks, by simpa using hcs.symm, hblank, .inl rfl⟩
  | cons c rest =>
    have hparts := List.takeWhile_append_dropWhile (p := (· != '\n')) (l := blanks.reverse)
    have hend := List.head?_dropWhile_not (· != '\n') blanks.reverse
    dsimp only at h
    rw [List.span_eq_takeWhile_dropWhile] at h
    generalize blanks.reverse.takeWhile (· != '\n') = last at *
    generalize blanks.reverse.dropWhile (· != '\n') = front at *
    cases front with
    | nil => cases h
    | cons e front =>
      cases h
      have he : e = '\n' := by simpa using hend
      have hall : blanks = front.reverse ++ '\n' :: last.reverse := by
        rw [← List.reverse_reverse blanks, ← hparts, he]
        simp
      refine ⟨front.reverse, ?_, fun c hc => hblank c ?_, .inr ⟨_, rfl⟩⟩
      · rw [← hcs, hall]
        simp
      · rw [hall]
        exact List.mem_append_left _ hc

theorem exists_boundaryEnd {blanks more : List Char} (h : ∀ c ∈ blanks, isBlank c = true)
    (hmore : ∀ c ∈ more.head?, c = '\n') : ∃ behind, boundaryEnd (blanks ++ more) = some behind := by
  rw [boundaryEnd, List.span_eq_takeWhile_dropWhile, List.takeWhile_append_of_pos h,
    List.dropWhile_append_of_pos h]
  cases more with
  | nil => exact ⟨[], rfl⟩
  | cons c more =>
    obtain rfl : c = '\n' := by simpa using hmore
    have hline : isBlank '\n' = true := by decide
    rw [List.takeWhile_cons_of_pos hline, List.dropWhile_cons_of_pos hline]
    cases more.dropWhile isBlank with
    | nil => exact ⟨[], rfl⟩
    | cons e rest =>
      -- The blanks have a line end in them, so the search for the last one finds one.
      have hsome : (blanks ++ '\n' :: more.takeWhile isBlank).reverse.dropWhile (· != '\n') ≠ [] := by
        rw [Ne, List.dropWhile_eq_nil_iff]
        intro hall
        exact absurd (hall '\n' (by simp)) (by decide)
      obtain ⟨f, front, hfront⟩ := List.exists_cons_of_ne_nil hsome
      dsimp only
      rw [List.span_eq_takeWhile_dropWhile, hfront]
      exact ⟨_, rfl⟩

/-! ### Lines -/

theorem lines_lineEnd (cs : List Char) : ('\n' :: cs).splitOn '\n' = [] :: cs.splitOn '\n' :=
  List.splitOn_append_cons_self [] cs

theorem lines_cons {c : Char} (hc : c ≠ '\n') {cs line : List Char} {rest : List (List Char)}
    (h : cs.splitOn '\n' = line :: rest) : (c :: cs).splitOn '\n' = (c :: line) :: rest := by
  rw [List.splitOn_cons_eq_if_modifyHead, if_neg (by simpa using hc), h, List.modifyHead_cons]

theorem exists_lines (cs : List Char) : ∃ line rest, cs.splitOn '\n' = line :: rest :=
  List.exists_cons_of_ne_nil (List.splitOn_ne_nil '\n' cs)

theorem lines_hyphens_append (n : Nat) {cs line : List Char} {rest : List (List Char)}
    (h : cs.splitOn '\n' = line :: rest) :
    (List.replicate n '-' ++ cs).splitOn '\n' = (List.replicate n '-' ++ line) :: rest := by
  induction n with
  | zero => exact h
  | succ n ih => exact lines_cons (by decide) ih

theorem mem_lines {p : Char → Prop} {cs : List Char} (h : ∀ c ∈ cs, p c) :
    ∀ line ∈ cs.splitOn '\n', ∀ c ∈ line, p c := by
  induction cs with
  | nil => simp [List.splitOn_nil]
  | cons c cs ih =>
    rw [List.forall_mem_cons] at h
    have ih := ih h.2
    by_cases hc : c = '\n'
    · rw [hc, lines_lineEnd, List.forall_mem_cons]
      exact ⟨List.forall_mem_nil _, ih⟩
    · obtain ⟨line, rest, hlines⟩ := exists_lines cs
      rw [hlines, List.forall_mem_cons] at ih
      rw [lines_cons hc hlines, List.forall_mem_cons, List.forall_mem_cons]
      exact ⟨⟨h.1, ih.1⟩, ih.2⟩

/-- What a boundary leaves of the lines behind it: nothing, or all from the line end before one of
them on. No line is skipped that is a boundary itself. -/
inductive Behind (rest : List (List Char)) : List Char → Prop
  | nothing (skipped : ∀ line ∈ rest, ¬ IsBoundary line) : Behind rest []
  | lines {front : List (List Char)} {more : List Char} (skipped : ∀ line ∈ front, ¬ IsBoundary line)
      (kept : rest = front ++ more.splitOn '\n') : Behind rest ('\n' :: more)

theorem boundary?_some {cs behind first : List Char} {rest : List (List Char)}
    (h : boundary? cs = some behind) (hlines : cs.splitOn '\n' = first :: rest) :
    IsBoundary first ∧ Behind rest behind := by
  rw [boundary?] at h
  split_ifs at h with hshort
  obtain ⟨dropped, hdropped, hblank, hbehind⟩ := boundaryEnd_some h
  have hcs := eq_hyphens_append cs
  rw [hdropped] at hcs
  generalize (cs.takeWhile (· == '-')).length = n at *
  obtain ⟨blanks, more, hfront⟩ := exists_lines dropped
  have hblanks := mem_lines hblank
  rw [hfront, List.forall_mem_cons] at hblanks
  have hboundary : IsBoundary (List.replicate n '-' ++ blanks) :=
    ⟨n, blanks, by omega, rfl, hblanks.1⟩
  have hskipped : ∀ line ∈ more, ¬ IsBoundary line := fun line hline =>
    not_isBoundary_of_blank (hblanks.2 line hline)
  have hhead := lines_hyphens_append n hfront
  rcases hbehind with rfl | ⟨kept, rfl⟩
  · rw [hcs, List.append_nil, hhead] at hlines
    obtain ⟨rfl, rfl⟩ := List.cons.inj hlines
    exact ⟨hboundary, .nothing hskipped⟩
  · rw [hcs, ← List.append_assoc, List.splitOn_append_cons_self, hhead, List.cons_append] at hlines
    obtain ⟨rfl, rfl⟩ := List.cons.inj hlines
    exact ⟨hboundary, .lines hskipped rfl⟩

theorem exists_boundary? {cs first : List Char} {rest : List (List Char)}
    (hlines : cs.splitOn '\n' = first :: rest) (h : IsBoundary first) :
    ∃ behind, boundary? cs = some behind := by
  obtain ⟨n, blanks, hn, rfl, hblank⟩ := h
  obtain ⟨more, hcs, hmore⟩ : ∃ more, cs = List.replicate n '-' ++ (blanks ++ more) ∧
      ∀ c ∈ more.head?, c = '\n' := by
    have hback : List.intercalate ['\n'] (cs.splitOn '\n') = cs := List.intercalate_splitOn '\n'
    rw [hlines] at hback
    cases rest with
    | nil => exact ⟨[], by simpa using hback.symm, by simp⟩
    | cons line rest =>
      refine ⟨'\n' :: List.intercalate ['\n'] (line :: rest), ?_, by simp⟩
      simpa using hback.symm
  have hhead : ∀ c ∈ (blanks ++ more).head?, c ≠ '-' := by
    cases blanks with
    | nil =>
      intro c hc
      rw [hmore c hc]
      decide
    | cons b blanks => simpa using blank_ne_hyphen (hblank b List.mem_cons_self)
  obtain ⟨htake, hdrop⟩ := hyphens_append (n := n) hhead
  obtain ⟨behind, hbehind⟩ := exists_boundaryEnd hblank hmore
  refine ⟨behind, ?_⟩
  rw [boundary?, hcs, htake, hdrop, List.length_replicate, if_neg (by omega), hbehind]

theorem boundary?_eq_none {cs first : List Char} {rest : List (List Char)}
    (hlines : cs.splitOn '\n' = first :: rest) (h : ¬ IsBoundary first) : boundary? cs = none := by
  rw [Option.eq_none_iff_forall_ne_some]
  intro behind hbehind
  exact h (boundary?_some hbehind hlines).1

/-! ### The block and the body -/

theorem cut_of_no_boundary {cs line : List Char} {rest : List (List Char)}
    (hlines : cs.splitOn '\n' = line :: rest) (h : ∀ l ∈ rest, ¬ IsBoundary l) : cut cs = none := by
  induction cs generalizing line rest with
  | nil => rfl
  | cons c cs ih =>
    obtain ⟨next, more, hnext⟩ := exists_lines cs
    by_cases hc : c = '\n'
    · rw [hc, lines_lineEnd, hnext] at hlines
      obtain ⟨-, rfl⟩ := List.cons.inj hlines
      rw [List.forall_mem_cons] at h
      rw [cut, if_pos hc, boundary?_eq_none hnext h.1, ih hnext h.2]
      rfl
    · rw [lines_cons hc hnext] at hlines
      obtain ⟨-, rfl⟩ := List.cons.inj hlines
      rw [cut, if_neg hc, ih hnext h]
      rfl

theorem cut_of_boundary {cs line closing : List Char} {block after : List (List Char)}
    (hlines : cs.splitOn '\n' = line :: (block ++ closing :: after))
    (hblock : ∀ l ∈ block, ¬ IsBoundary l) (hclosing : IsBoundary closing) :
    ∃ content body, cut cs = some (content, body) ∧
      boundary? (List.intercalate ['\n'] (closing :: after)) = some body := by
  induction cs generalizing line block with
  | nil => simp [List.splitOn_nil] at hlines
  | cons c cs ih =>
    obtain ⟨next, more, hnext⟩ := exists_lines cs
    by_cases hc : c = '\n'
    · rw [hc, lines_lineEnd, hnext] at hlines
      obtain ⟨-, hmore⟩ := List.cons.inj hlines
      cases block with
      | nil =>
        obtain ⟨rfl, rfl⟩ := List.cons.inj hmore
        obtain ⟨body, hbody⟩ := exists_boundary? hnext hclosing
        refine ⟨[c], body, ?_, ?_⟩
        · rw [cut, if_pos hc, hbody]
        · rwa [← hnext, List.intercalate_splitOn]
      | cons first block =>
        obtain ⟨rfl, rfl⟩ := List.cons.inj hmore
        rw [List.forall_mem_cons] at hblock
        obtain ⟨content, body, hcut, hbody⟩ := ih hnext hblock.2
        refine ⟨c :: content, body, ?_, hbody⟩
        rw [cut, if_pos hc, boundary?_eq_none hnext hblock.1, hcut]
        rfl
    · rw [lines_cons hc hnext] at hlines
      obtain ⟨-, rfl⟩ := List.cons.inj hlines
      obtain ⟨content, body, hcut, hbody⟩ := ih hnext hblock
      refine ⟨c :: content, body, ?_, hbody⟩
      rw [cut, if_neg hc, hcut]
      rfl

theorem split_of_no_boundary {cs first : List Char} {rest : List (List Char)}
    (hlines : cs.splitOn '\n' = first :: rest)
    (h : ¬ IsBoundary first ∨ ∀ line ∈ rest, ¬ IsBoundary line) :
    split cs = .absent ∨ split cs = .unterminated := by
  rw [split]
  cases hb : boundary? cs with
  | none => exact .inl rfl
  | some behind =>
    obtain ⟨hfirst, hbehind⟩ := boundary?_some hb hlines
    have hnone : cut behind = none := by
      cases hbehind with
      | nothing => rfl
      | @lines front more _ kept =>
        refine cut_of_no_boundary (lines_lineEnd more) fun line hline => ?_
        exact h.resolve_left (not_not_intro hfirst) line (kept ▸ List.mem_append_right _ hline)
    dsimp only
    rw [hnone]
    exact .inr rfl

/-- The lines of a text that has front matter: a boundary, the block, in which there is no other
one, and the boundary that closes it, with the lines behind it. -/
structure HasBlock (cs : List Char) (block : List (List Char)) (closing : List Char)
    (after : List (List Char)) : Prop where
  lines : ∃ first, IsBoundary first ∧ cs.splitOn '\n' = first :: (block ++ closing :: after)
  inside : ∀ line ∈ block, ¬ IsBoundary line
  closed : IsBoundary closing

theorem exists_hasBlock {cs first : List Char} {rest : List (List Char)}
    (hlines : cs.splitOn '\n' = first :: rest) (hfirst : IsBoundary first)
    (hlater : ∃ line ∈ rest, IsBoundary line) :
    ∃ block closing after, HasBlock cs block closing after := by
  obtain ⟨line, hline, hboundary⟩ := hlater
  obtain ⟨closing, block, after, hinside, hclosed, hrest, -⟩ :=
    List.exists_of_eraseP hline (p := (IsBoundary ·)) (decide_eq_true hboundary)
  refine ⟨block, closing, after, ⟨first, hfirst, hrest ▸ hlines⟩, ?_, of_decide_eq_true hclosed⟩
  simpa using hinside

theorem HasBlock.split {cs closing : List Char} {block after : List (List Char)}
    (h : HasBlock cs block closing after) : ∃ content body, split cs = .block content body ∧
      boundary? (List.intercalate ['\n'] (closing :: after)) = some body := by
  obtain ⟨⟨first, hfirst, hlines⟩, hinside, hclosed⟩ := h
  obtain ⟨behind, hb⟩ := exists_boundary? hlines hfirst
  obtain ⟨-, hbehind⟩ := boundary?_some hb hlines
  cases hbehind with
  | nothing skipped => exact absurd hclosed (skipped closing (by simp))
  | @lines front more skipped kept =>
    -- The lines that are skipped belong to the block.
    obtain ⟨left, hleft, hmore⟩ : ∃ left, block = front ++ left ∧
        more.splitOn '\n' = left ++ closing :: after := by
      rcases List.append_eq_append_iff.mp kept with ⟨left, hfront, hclose⟩ | ⟨left, hblock, hmore⟩
      · cases left with
        | nil => exact ⟨[], by simpa using hfront.symm, hclose.symm⟩
        | cons line left =>
          obtain ⟨rfl, -⟩ := List.cons.inj hclose
          exact absurd hclosed (skipped closing (by simp [hfront]))
      · exact ⟨left, hblock, hmore⟩
    have hlines := lines_lineEnd more
    rw [hmore] at hlines
    obtain ⟨content, body, hcut, hbody⟩ := cut_of_boundary hlines
      (fun line hline => hinside line (hleft ▸ List.mem_append_right _ hline)) hclosed
    refine ⟨content, body, ?_, hbody⟩
    rw [FrontMatter.split, hb]
    dsimp only
    rw [hcut]

theorem body_of_split {cs content body : List Char} (hsplit : split cs = .block content body)
    {e : Extracted} (h : extract cs = .ok e) : e.body = body := by
  rw [extract, hsplit] at h
  cases hb : ofBlock content with
  | error f => simp [hb, Except.map] at h
  | ok found =>
    simp only [hb, Except.map, Except.ok.injEq] at h
    rw [← h]

theorem HasBlock.boundary?_body {cs closing : List Char} {block after : List (List Char)}
    (h : HasBlock cs block closing after) {e : Extracted} (he : extract cs = .ok e) :
    boundary? (List.intercalate ['\n'] (closing :: after)) = some e.body := by
  obtain ⟨content, body, hsplit, hbody⟩ := h.split
  rw [hbody, body_of_split hsplit he]

/-! ### The body and the text -/

theorem boundary?_dropWhile {cs behind : List Char} (h : boundary? cs = some behind) :
    ∃ dropped, cs.dropWhile (· == '-') = dropped ++ behind ∧ ∀ c ∈ dropped, isBlank c = true := by
  rw [boundary?] at h
  split_ifs at h
  obtain ⟨dropped, hdropped, hblank, -⟩ := boundaryEnd_some h
  exact ⟨dropped, hdropped, hblank⟩

theorem boundary?_suffix {cs behind : List Char} (h : boundary? cs = some behind) : behind <:+ cs := by
  obtain ⟨dropped, hdropped, -⟩ := boundary?_dropWhile h
  have hend : behind <:+ cs.dropWhile (· == '-') := ⟨dropped, hdropped.symm⟩
  exact hend.trans (List.dropWhile_suffix _)

theorem cut_suffix {cs content body : List Char} (h : cut cs = some (content, body)) :
    body <:+ cs := by
  induction cs generalizing content with
  | nil => cases h
  | cons c cs ih =>
    rw [cut] at h
    split at h
    · rename_i rest hrest
      cases h
      split_ifs at hrest
      exact (boundary?_suffix hrest).trans (List.suffix_cons c cs)
    · obtain ⟨⟨before, rest⟩, hcut, hfound⟩ := Option.map_eq_some_iff.mp h
      cases hfound
      exact (ih hcut).trans (List.suffix_cons c cs)

theorem extract_suffix {cs : List Char} {e : Extracted} (h : extract cs = .ok e) : e.body <:+ cs := by
  cases hsplit : split cs with
  | block content body =>
    rw [body_of_split hsplit h]
    rw [split] at hsplit
    split at hsplit
    · cases hsplit
    · rename_i behind hbehind
      split at hsplit
      · cases hsplit
      · rename_i hcut
        cases hsplit
        exact (cut_suffix hcut).trans (boundary?_suffix hbehind)
  | _ =>
    rw [extract, hsplit] at h
    cases h
    exact List.suffix_rfl

/-- The body is an end of the text. It is the whole text, with no fields, unless the first line is a
boundary and a later one too; then it is what stands behind the hyphens of the second, but for blanks
at its front, and any other text that goes on in the same way from there has the same body. -/
theorem extract_body {cs : List Char} {e : Extracted} (h : extract cs = .ok e) :
    e.body <:+ cs ∧
      (∀ first rest, cs.splitOn '\n' = first :: rest →
        (¬ IsBoundary first ∨ ∀ line ∈ rest, ¬ IsBoundary line) → e.frontMatter = empty ∧ e.body = cs) ∧
      (∀ first rest, cs.splitOn '\n' = first :: rest → IsBoundary first →
        (∃ line ∈ rest, IsBoundary line) → ∃ block closing after, HasBlock cs block closing after) ∧
      ∀ block closing after, HasBlock cs block closing after →
        (∃ blanks, (∀ c ∈ blanks, isBlank c = true) ∧
          (List.intercalate ['\n'] (closing :: after)).dropWhile (· == '-') = blanks ++ e.body) ∧
        ∀ other otherBlock (e' : Extracted), HasBlock other otherBlock closing after →
          extract other = .ok e' → e'.body = e.body := by
  refine ⟨extract_suffix h, fun first rest hlines hnone => ?_,
    fun first rest hlines => exists_hasBlock hlines, fun block closing after hblock => ?_⟩
  · rcases split_of_no_boundary hlines hnone with hsplit | hsplit
    all_goals
      rw [extract, hsplit] at h
      cases h
      exact ⟨rfl, rfl⟩
  · have hbody := hblock.boundary?_body h
    obtain ⟨blanks, hdrop, hblank⟩ := boundary?_dropWhile hbody
    refine ⟨⟨blanks, hblank, hdrop⟩, fun other otherBlock e' hother he' => ?_⟩
    have hsame := hother.boundary?_body he'
    rw [hbody] at hsame
    exact (Option.some.inj hsame).symm

/-- A block that is no YAML, with a line of blanks in front, and one that is a map. -/
theorem extract_body_behind_malformed_block :
    let text := "----\n \n- [\n--- \n\t\n\n Hi\n".toList
    let other := "---\nauthor: A\n--- \n\t\n\n Hi\n".toList
    let body := "\n Hi\n".toList
    let after := ["\t".toList, [], " Hi".toList, []]
    extract text = .ok ⟨empty, body, [malformedRecord]⟩ ∧ body <:+ text ∧
      HasBlock text [[' '], ['-', ' ', '[']] "--- ".toList after ∧
      HasBlock other ["author: A".toList] "--- ".toList after ∧
      (∃ blanks, (∀ c ∈ blanks, isBlank c = true) ∧
        (List.intercalate ['\n'] ("--- ".toList :: after)).dropWhile (· == '-') = blanks ++ body) ∧
      ∃ found logs, extract other = .ok ⟨found, body, logs⟩ := by
  intro text other body after
  have htext : extract text = .ok ⟨empty, body, [malformedRecord]⟩ := by decide +kernel
  have hblock : HasBlock text [[' '], ['-', ' ', '[']] "--- ".toList after :=
    ⟨⟨"----".toList, by decide, by decide⟩, by decide, by decide⟩
  have hother : HasBlock other ["author: A".toList] "--- ".toList after :=
    ⟨⟨"---".toList, by decide, by decide⟩, by decide, by decide⟩
  obtain ⟨⟨found, left, logs⟩, hfound⟩ : ∃ e, extract other = .ok e :=
    ⟨⟨{ empty with author := some "A" }, body, foundRecords { empty with author := some "A" }⟩,
      by decide +kernel⟩
  obtain ⟨hend, -, -, hparts⟩ := extract_body htext
  obtain ⟨hblanks, hsame⟩ := hparts _ _ _ hblock
  obtain rfl : left = body := hsame other _ _ hother hfound
  exact ⟨htext, hend, hblock, hother, hblanks, found, logs, hfound⟩

end CmsMarkup.FrontMatter
