import CmsMarkup.Convert
import Mathlib.Data.List.Basic

/-! What a file that is written leaves as it was: the directories, so that every path leads
where it did, and the files at other places. -/

namespace CmsMarkup

namespace FileTree

variable {t t' : FileTree} {loc l : Location} {item : FileItem} {names : List String} {p : FilePath}

theorem lookup_putEntry (loc l : Location) (item : FileItem) (entries : List (Location × FileItem)) :
    (putEntry loc item entries).lookup l = if l = loc then some item else entries.lookup l := by
  induction entries with
  | nil =>
    by_cases hl : l = loc
    · simp [putEntry, hl]
    · have hb : (l == loc) = false := beq_eq_false_iff_ne.mpr hl
      simp only [putEntry, List.lookup_cons, hb, if_neg hl]
  | cons e rest ih =>
    obtain ⟨k, i⟩ := e
    by_cases hl : l = k
    · subst hl
      by_cases hk : l = loc <;> simp [putEntry, hk]
    · have hb : (l == k) = false := beq_eq_false_iff_ne.mpr hl
      by_cases hk : k = loc
      · subst hk
        simp only [putEntry, if_true, List.lookup_cons, hb, if_neg hl]
      · simp only [putEntry, if_neg hk, List.lookup_cons, hb, ih]

/-- Nothing is put above the entries of a tree. -/
theorem get?_put (h : loc.isAbove = false) (l : Location) :
    (t.put loc item).get? l = if l = loc then some item else t.get? l := by
  by_cases hl : l = loc
  · subst hl
    simp [get?, put, h, lookup_putEntry]
  · simp [get?, put, hl, lookup_putEntry]

theorem isAbove_eq_false (h : t.get? loc ≠ some .directory) : loc.isAbove = false := by
  cases ha : loc.isAbove with
  | false => rfl
  | true => exact absurd (by rw [get?, if_pos ha]) h

/-- Two trees with the same directories. -/
def SameDirectories (t t' : FileTree) : Prop :=
  ∀ loc, t'.get? loc = some .directory ↔ t.get? loc = some .directory

theorem SameDirectories.trans {t'' : FileTree} (h : SameDirectories t t')
    (h' : SameDirectories t' t'') : SameDirectories t t'' := fun loc => (h' loc).trans (h loc)

theorem sameDirectories_put (h : t.get? loc ≠ some .directory) (content : List UInt8) :
    SameDirectories t (t.put loc (.file content)) := by
  intro l
  rw [get?_put (isAbove_eq_false h)]
  by_cases hl : l = loc
  · subst hl
    simp [h]
  · rw [if_neg hl]

theorem walk_cons_ok {name : String} (h : t.walk loc (name :: names) = .ok l) :
    t.get? loc = some .directory ∧
      (name = ".." ∧ t.walk loc.up names = .ok l ∨
        name ≠ ".." ∧ ¬ longestName < name.utf8ByteSize ∧ t.walk (loc ++ [name]) names = .ok l) := by
  rw [walk] at h
  split at h
  · cases h
  · cases h
  · rename_i hd
    refine ⟨hd, ?_⟩
    split_ifs at h with hu hn
    · exact .inl ⟨beq_iff_eq.mp hu, h⟩
    · exact .inr ⟨fun he => hu (beq_iff_eq.mpr he), hn, h⟩

/-- Names lead to the same place where no directory is missing. -/
theorem walk_mono (hd : ∀ loc, t.get? loc = some .directory → t'.get? loc = some .directory)
    (h : t.walk loc names = .ok l) : t'.walk loc names = .ok l := by
  induction names generalizing loc with
  | nil => exact h
  | cons name rest ih =>
    obtain ⟨hdir, ⟨hu, hr⟩ | ⟨hu, hn, hr⟩⟩ := walk_cons_ok h
    · rw [walk, hd loc hdir]
      simp only [hu, beq_self_eq_true, if_true]
      exact ih hr
    · rw [walk, hd loc hdir]
      simp only [beq_eq_false_iff_ne.mpr hu, Bool.false_eq_true, if_false, hn]
      exact ih hr

theorem locate_mono (hd : ∀ loc, t.get? loc = some .directory → t'.get? loc = some .directory)
    (h : t.locate p = .ok l) : t'.locate p = .ok l := by
  simp only [locate] at h ⊢
  split_ifs at h ⊢
  all_goals exact walk_mono hd h

theorem SameDirectories.locate (hs : SameDirectories t t') :
    t'.locate p = .ok l ↔ t.locate p = .ok l :=
  ⟨locate_mono fun loc => (hs loc).mp, locate_mono fun loc => (hs loc).mpr⟩

theorem read_eq (h : t.locate p = .ok l) : t.read p =
    match t.get? l with
    | none => .error .notFound
    | some .directory => .error .isDirectory
    | some (.file content) => .ok content := by
  cases hg : t.get? l with
  | none => simp [read, h, hg]
  | some item => cases item <;> simp [read, h, hg]

theorem write_eq (content : List UInt8) (h : t.locate p = .ok l)
    (hd : t.get? l ≠ some .directory) : t.write p content = .ok (t.put l (.file content)) := by
  cases hg : t.get? l with
  | none => simp [write, h, hg]
  | some item =>
    cases item with
    | directory => exact absurd hg hd
    | file old => simp [write, h, hg]

/-! ### The directory of a file -/

theorem walk_append (more : List String) (h : t.walk loc (names ++ more) = .ok l) :
    ∃ m, t.walk loc names = .ok m ∧ t.walk m more = .ok l := by
  induction names generalizing loc with
  | nil => exact ⟨loc, rfl, h⟩
  | cons name rest ih =>
    obtain ⟨hd, ⟨hu, hr⟩ | ⟨hu, hn, hr⟩⟩ := walk_cons_ok h
    · obtain ⟨m, hm, hl⟩ := ih hr
      exact ⟨m, by rw [walk, hd]; simpa [hu] using hm, hl⟩
    · obtain ⟨m, hm, hl⟩ := ih hr
      exact ⟨m, by rw [walk, hd]; simpa [hu, hn] using hm, hl⟩

end FileTree

theorem intercalate_dropLast_size (names : List String) :
    ("/".intercalate names.dropLast).utf8ByteSize ≤ ("/".intercalate names).utf8ByteSize := by
  induction names with
  | nil => simp
  | cons name rest ih =>
    cases rest with
    | nil => simp
    | cons next more =>
      cases more with
      | nil => simp [String.utf8ByteSize_append]; omega
      | cons last more =>
        simp only [List.dropLast_cons_cons, String.intercalate_cons_cons, String.utf8ByteSize_append] at ih ⊢
        omega

namespace FilePath

/-- The text of a path is its root and names, or one character if it has neither. -/
theorem text_size (p : FilePath) :
    (p.root ++ "/".intercalate p.names).utf8ByteSize ≤ p.text.utf8ByteSize ∧
      p.text.utf8ByteSize ≤ max 1 (p.root ++ "/".intercalate p.names).utf8ByteSize := by
  rw [text]
  split_ifs with h
  · rw [Bool.and_eq_true, String.isEmpty_iff, List.isEmpty_iff] at h
    rw [h.1, h.2]
    decide
  · omega

theorem parent_text_size (p : FilePath) :
    p.parent.text.utf8ByteSize ≤ max 1 p.text.utf8ByteSize := by
  have hi := intercalate_dropLast_size p.names
  have hp := p.text_size
  have hd := p.parent.text_size
  rw [String.utf8ByteSize_append] at hp hd
  simp only [parent] at hd ⊢
  omega

end FilePath

namespace FileTree

variable {t : FileTree} {l : Location} {p : FilePath}

def startOf (p : FilePath) : Location := if p.root.isEmpty then [] else ["/"]

theorem locate_ok_iff : t.locate p = .ok l ↔
    p.text.utf8ByteSize ≤ longestPath ∧ t.walk (startOf p) p.names = .ok l := by
  rw [locate, startOf]
  by_cases h : longestPath < p.text.utf8ByteSize
  · rw [if_pos h]
    exact ⟨nofun, fun hs => absurd hs.1 (Nat.not_le.mpr h)⟩
  · rw [if_neg h]
    exact (and_iff_right (Nat.not_lt.mp h)).symm

/-- A path with a name leads somewhere only through its directory. -/
theorem parent_isDirectory (hn : p.names ≠ []) (h : t.locate p = .ok l) :
    ∃ m, t.locate p.parent = .ok m ∧ t.get? m = some .directory := by
  obtain ⟨hsize, hw⟩ := locate_ok_iff.mp h
  rw [← List.dropLast_append_getLast hn] at hw
  obtain ⟨m, hm, hl⟩ := walk_append _ hw
  have hparent := p.parent_text_size
  have hlong : longestPath = 4095 := rfl
  exact ⟨m, locate_ok_iff.mpr ⟨by omega, hm⟩, (walk_cons_ok hl).1⟩

theorem addDirectory_of_directory {m : Location} (h : t.locate p = .ok m)
    (hd : t.get? m = some .directory) :
    t.addDirectory p = .error .alreadyThere ∧ t.isDirectory p = true := by
  simp [addDirectory, isDirectory, h, hd]

theorem ensureDirectory_of_directory {m : Location} (h : t.locate p = .ok m)
    (hd : t.get? m = some .directory) : t.ensureDirectory p = (.ok (), t) := by
  obtain ⟨ha, hi⟩ := addDirectory_of_directory h hd
  obtain ⟨root, names⟩ := p
  cases hr : names.reverse with
  | nil =>
    rw [List.reverse_eq_nil_iff] at hr
    subst hr
    simp [ensureDirectory, ensureNames, ensureOne, ha, hi]
  | cons name above =>
    have hp : (name :: above).reverse = names := by rw [← hr, List.reverse_reverse]
    simp only [ensureDirectory, hr, ensureNames, hp, ha, hi, if_true]

end FileTree

end CmsMarkup
