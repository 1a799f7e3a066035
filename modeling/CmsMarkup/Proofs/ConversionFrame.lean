import CmsMarkup.Proofs.BatchFaults
import CmsMarkup.Proofs.FileFrame

/-! What a conversion changes among the files. It adds directories above its document, and it
writes the document; all else stays. The document is written only when all went well, but its place
is emptied when it has no bytes. -/

namespace CmsMarkup

/-- A directory that has to be there for a path to be written. -/
def FilePath.IsAbove (q p : FilePath) : Prop := q.root = p.root ∧ q.names <+: p.names.dropLast

namespace FileTree

variable {t t' t'' : FileTree} {p q : FilePath} {loc : Location}

/-- Nothing that was there is gone, and what has come are directories at the places of some
paths. -/
structure Grows (places : FilePath → Prop) (t t' : FileTree) : Prop where
  kept : ∀ loc item, t.get? loc = some item → t'.get? loc = some item
  added : ∀ loc item, t'.get? loc = some item → t.get? loc = none →
    item = .directory ∧ ∃ q, places q ∧ t'.locate q = .ok loc

namespace Grows

variable {places : FilePath → Prop}

theorem refl (places : FilePath → Prop) (t : FileTree) : Grows places t t :=
  ⟨fun _ _ h => h, fun loc item h hn => by
    rw [hn] at h
    cases h⟩

theorem locate (hg : Grows places t t') (h : t.locate p = .ok loc) : t'.locate p = .ok loc :=
  locate_mono (fun loc => hg.kept loc .directory) h

theorem trans (h : Grows places t t') (h' : Grows places t' t'') : Grows places t t'' := by
  refine ⟨fun loc item hi => h'.kept loc item (h.kept loc item hi), fun loc item hi hn => ?_⟩
  cases hm : t'.get? loc with
  | none => exact h'.added loc item hi hm
  | some middle =>
    -- What came first is still there, and its path still leads to it.
    have hsame := h'.kept loc middle hm
    rw [hi, Option.some.injEq] at hsame
    subst hsame
    obtain ⟨hd, q, hq, hl⟩ := h.added loc item hm hn
    exact ⟨hd, q, hq, h'.locate hl⟩

theorem mono {wider : FilePath → Prop} (hw : ∀ q, places q → wider q) (h : Grows places t t') :
    Grows wider t t' :=
  ⟨h.kept, fun loc item hi hn => by
    obtain ⟨hd, q, hq, hl⟩ := h.added loc item hi hn
    exact ⟨hd, q, hw q hq, hl⟩⟩

end Grows

theorem addDirectory_grows (h : t.addDirectory p = .ok t') : Grows (· = p) t t' := by
  unfold addDirectory at h
  split at h
  · cases h
  · rename_i place hl
    split at h
    · cases h
    · rename_i hg
      rw [Except.ok.injEq] at h
      subst h
      have hfree : place.isAbove = false := isAbove_eq_false (by rw [hg]; nofun)
      have hkept : ∀ loc item, t.get? loc = some item →
          (t.put place .directory).get? loc = some item := by
        intro loc item hi
        have hne : loc ≠ place := by
          rintro rfl
          rw [hg] at hi
          cases hi
        rw [get?_put hfree, if_neg hne, hi]
      refine ⟨hkept, fun loc item hi hn => ?_⟩
      rw [get?_put hfree] at hi
      split_ifs at hi with heq
      · subst heq
        exact ⟨(Option.some.inj hi).symm, p, rfl,
          locate_mono (fun loc => hkept loc .directory) hl⟩
      · rw [hn] at hi
        cases hi

theorem ensureOne_grows (p : FilePath) (t : FileTree) : Grows (· = p) t (t.ensureOne p).2 := by
  unfold ensureOne
  split
  · rename_i ha
    exact addDirectory_grows ha
  · exact .refl _ t

/-- Directories are added at the first few names of a path only, also when not all can be. -/
theorem ensureNames_grows (root : String) (names : List String) (t : FileTree) :
    Grows (fun q => q.root = root ∧ q.names <+: names.reverse) t (ensureNames root names t).2 := by
  induction names with
  | nil => exact (ensureOne_grows _ t).mono fun q hq => by simp [hq]
  | cons name above ih =>
    have hwhole : ∀ q : FilePath, q = ⟨root, (name :: above).reverse⟩ →
        q.root = root ∧ q.names <+: (name :: above).reverse := by
      rintro q rfl
      exact ⟨rfl, List.prefix_rfl⟩
    have hfirst : Grows (fun q => q.root = root ∧ q.names <+: (name :: above).reverse) t
        (ensureNames root above t).2 :=
      ih.mono fun q hq => ⟨hq.1, hq.2.trans (by simp)⟩
    rw [ensureNames]
    split
    · cases hr : ensureNames root above t with
      | mk r t' =>
        rw [hr] at hfirst
        cases r with
        | ok => exact hfirst.trans ((ensureOne_grows _ t').mono hwhole)
        | error f => exact hfirst
    · rename_i ha
      exact (addDirectory_grows ha).mono hwhole
    · exact .refl _ t

theorem ensureDirectory_grows (p : FilePath) (t : FileTree) :
    Grows (·.IsAbove p) t (t.ensureDirectory p.parent).2 := by
  have h := ensureNames_grows p.root p.names.dropLast.reverse t
  rw [List.reverse_reverse] at h
  exact h

/-- What a conversion to a path spares: every file but the one that is `written`, and every
directory; directories that come were missing above the path. -/
structure Spares (p : FilePath) (written : Option Location) (t t' : FileTree) : Prop where
  files : ∀ loc, some loc ≠ written → ∀ content,
    t'.get? loc = some (.file content) ↔ t.get? loc = some (.file content)
  directories : ∀ loc, t.get? loc = some .directory → t'.get? loc = some .directory
  added : ∀ loc, t'.get? loc = some .directory → t.get? loc = some .directory ∨
    t.get? loc = none ∧ ∃ q : FilePath, q.IsAbove p ∧ t'.locate q = .ok loc

theorem Grows.spares (h : Grows (·.IsAbove p) t t') : Spares p none t t' := by
  have hold : ∀ loc item, t'.get? loc = some item → t.get? loc = some item ∨ t.get? loc = none := by
    intro loc item hi
    cases hg : t.get? loc with
    | none => exact .inr rfl
    | some old => exact .inl (by rw [← hi, h.kept loc old hg])
  refine ⟨fun loc _ content => ⟨fun hi => ?_, h.kept loc _⟩, fun loc => h.kept loc _,
    fun loc hi => ?_⟩
  · rcases hold loc _ hi with hg | hg
    · exact hg
    · cases (h.added loc _ hi hg).1
  · exact (hold loc _ hi).imp_right fun hg => ⟨hg, (h.added loc _ hi hg).2⟩

theorem Spares.put (h : Spares p none t t') (hl : t'.get? loc ≠ some .directory)
    (content : List UInt8) : Spares p (some loc) t (t'.put loc (.file content)) := by
  have hsame := sameDirectories_put hl content
  refine ⟨fun l hne other => ?_, fun l hd => (hsame l).mpr (h.directories l hd), fun l hd => ?_⟩
  · rw [get?_put (isAbove_eq_false hl), if_neg fun he => hne (congrArg some he)]
    exact h.files l nofun other
  · refine (h.added l ((hsame l).mp hd)).imp_right fun ⟨hn, q, hq, hp⟩ => ⟨hn, q, hq, ?_⟩
    exact hsame.locate.mpr hp

/-- A file with this content was put in the place of a path, and all else is spared. -/
def Puts (p : FilePath) (content : List UInt8) (t t' : FileTree) : Prop :=
  ∃ loc, t'.locate p = .ok loc ∧ Spares p (some loc) t t' ∧ t'.read p = .ok content

theorem Spares.write {content : List UInt8} (h : Spares p none t t')
    (hw : t'.write p content = .ok t'') : Puts p content t t'' := by
  cases hl : t'.locate p with
  | error f => simp [FileTree.write, hl] at hw
  | ok loc =>
    by_cases hg : t'.get? loc = some .directory
    · simp [FileTree.write, hl, hg] at hw
    · rw [write_eq _ hl hg, Except.ok.injEq] at hw
      subst hw
      have hl' := (sameDirectories_put hg content).locate.mpr hl
      refine ⟨loc, hl', h.put hg _, ?_⟩
      rw [read_eq hl', get?_put (isAbove_eq_false hg), if_pos rfl]

end FileTree

namespace Convert

variable {files files' : FileTree} {path : FilePath} {text : CodeText}

/-- The faults of a document that can not be written. -/
inductive StopsWriting (path : FilePath) : ConvertFault → Prop
  | reported (cause : String) : StopsWriting path (.unwritable path cause)
  /-- The system takes the directory of the path, and then not its name. -/
  | unnamed (above : path.parent.hasNull = false) (name : path.hasNull = true) :
    StopsWriting path .nullCharacter

theorem writeText_error {f : ConvertFault} (h : writeText path text files = (.error f, files')) :
    files' = files ∨ StopsWriting path f ∧ files.Spares path none files' ∨
      ∃ g, text.encode = .error g ∧ f = .unencodable g ∧ files.Puts path [] files' := by
  have hgrows := (FileTree.ensureDirectory_grows path files).spares
  unfold writeText at h
  split at h
  · cases h
    exact .inl rfl
  · rename_i hparent
    split at h
    · rename_i hd
      cases h
      rw [hd] at hgrows
      exact .inr (.inl ⟨.reported _, hgrows⟩)
    · rename_i hd
      rw [hd] at hgrows
      split at h
      · rename_i hnull
        cases h
        exact .inr (.inl ⟨.unnamed (by simpa using hparent) hnull, hgrows⟩)
      · split at h
        · cases h
          exact .inr (.inl ⟨.reported _, hgrows⟩)
        · rename_i hw
          split at h
          · cases h
          · rename_i g he
            cases h
            rw [he] at hw
            exact .inr (.inr ⟨g, he, rfl, hgrows.write hw⟩)

theorem writeText_done (h : writeText path text files = (.ok (), files')) :
    ∃ bytes, text.encode = .ok bytes ∧ files.Puts path bytes files' := by
  have hgrows := (FileTree.ensureDirectory_grows path files).spares
  unfold writeText at h
  split at h
  · cases h
  · split at h
    · cases h
    · rename_i hd
      rw [hd] at hgrows
      split at h
      · cases h
      · split at h
        · cases h
        · rename_i hw
          split at h
          · rename_i bytes he
            cases h
            rw [he] at hw
            exact ⟨bytes, he, hgrows.write hw⟩
          · cases h

end Convert

section

variable {pandoc : Pandoc} {options : ConversionOptions} {input : String} {output : Option String}
  {w w' : Workspace}

theorem convertFile_error {f : ConvertFault}
    (h : convertFile pandoc options input output w = (.error f, w')) :
    w'.files = w.files ∨ ∃ path, Convert.outputPath (.ofText input) output = .ok path ∧
      (Convert.StopsWriting path f ∧ w.files.Spares path none w'.files ∨
        ∃ title g, w'.session.title = some title ∧ (∀ t : String, title ≠ t) ∧
          f = .unencodable g ∧ w.files.Puts path [] w'.files) := by
  simp only [convertFile] at h
  split at h
  · cases h
    exact .inl rfl
  · rename_i target ht
    split at h
    · cases h
      exact .inl rfl
    · split at h
      · cases h
        exact .inl rfl
      · rename_i hc
        split at h
        · rename_i hw
          cases h
          rcases Convert.writeText_error hw with hf | hs | ⟨g, hg, rfl, hputs⟩
          · exact .inl hf
          · exact .inr ⟨target, ht, .inl hs⟩
          · obtain ⟨title, htitle, hlone⟩ := convertText_unencodable hc hg
            exact .inr ⟨target, ht, .inr ⟨title, g, htitle, hlone, rfl, hputs⟩⟩
        · cases h

theorem convertFile_done {path : FilePath}
    (h : convertFile pandoc options input output w = (.ok path, w')) :
    Convert.outputPath (.ofText input) output = .ok path ∧ ∃ text document bytes,
      Convert.readText w.files (.ofText input) = .ok text ∧
      (convertText pandoc options text
        (w.session.log (Convert.startRecord (.ofText input) text))).1 = .ok document ∧
      document.encode = .ok bytes ∧ w.files.Puts path bytes w'.files := by
  simp only [convertFile] at h
  split at h
  · cases h
  · rename_i ht
    split at h
    · cases h
    · rename_i text hr
      split at h
      · cases h
      · rename_i document session hc
        split at h
        · cases h
        · rename_i hw
          cases h
          obtain ⟨bytes, he, hputs⟩ := Convert.writeText_done hw
          exact ⟨ht, text, document, bytes, hr, by rw [hc], he, hputs⟩

end

/-- A conversion that fails leaves the files alone, or it stopped at its document: it has added
directories above it, or it has put an empty file in its place, since a surrogate stands alone in the
title. One that succeeds has written the document of the text its file had, and spares all else. -/
theorem convertFile_frame (pandoc : Pandoc) (options : ConversionOptions) (input : String)
    (output : Option String) (w : Workspace) :
    (∀ f w', convertFile pandoc options input output w = (.error f, w') →
      w'.files = w.files ∨ ∃ path, Convert.outputPath (.ofText input) output = .ok path ∧
        (Convert.StopsWriting path f ∧ w.files.Spares path none w'.files ∨
          ∃ title g, w'.session.title = some title ∧ (∀ t : String, title ≠ t) ∧
            f = .unencodable g ∧ w.files.Puts path [] w'.files)) ∧
    ∀ path w', convertFile pandoc options input output w = (.ok path, w') →
      Convert.outputPath (.ofText input) output = .ok path ∧ ∃ text document bytes,
        Convert.readText w.files (.ofText input) = .ok text ∧
        (convertText pandoc options text
          (w.session.log (Convert.startRecord (.ofText input) text))).1 = .ok document ∧
        document.encode = .ok bytes ∧ w.files.Puts path bytes w'.files :=
  ⟨fun _ _ h => convertFile_error h, fun _ _ h => convertFile_done h⟩

/-- Pandoc on a heading of half a character. -/
def halfCharacter : Pandoc
  | _, .read _ => .ok <| "\x7b\"blocks\":[\x7b\"t\":\"Header\",\"c\":[1,[\"\",[],[]]," ++
      "[\x7b\"t\":\"Str\",\"c\":\"\\ud83d\"\x7d]]\x7d]\x7d"
  | _, .write _ _ => .ok "<h1>x</h1>"
  | _, .version => .ok "3.9"

/-- The document that was there is lost, and none comes in its place. -/
example :
    let files : FileTree :=
      ⟨[(["a.md"], .file (Utf8.encode "Hi\n".toList)), (["a.html"], .file (Utf8.encode "old".toList))]⟩
    (convertFile halfCharacter ⟨false⟩ "a.md" none ⟨files, .empty⟩).1 =
        .error (.unencodable ⟨60, 0x3D, 1⟩) ∧
      (convertFile halfCharacter ⟨false⟩ "a.md" none ⟨files, .empty⟩).2.files.read
        (.ofText "a.html") = .ok [] :=
  ⟨by decide +kernel, by decide +kernel⟩

def lonelyFile : FileTree := ⟨[(["a.md"], .file (Utf8.encode "Hi\n".toList))]⟩

/-- Two directories come with the document, and the file it was made of stays. -/
theorem convertFile_frame_of_new_directories :
    ∃ (path : FilePath) (w' : Workspace) (document : CodeText) (bytes : List UInt8),
    convertFile greeting ⟨false⟩ "a.md" (some "x/y/a.html") ⟨lonelyFile, .empty⟩ = (.ok path, w') ∧
      document.encode = .ok bytes ∧ w'.files.read path = .ok bytes ∧
      w'.files.get? ["a.md"] = lonelyFile.get? ["a.md"] := by
  have hr : (convertFile greeting ⟨false⟩ "a.md" (some "x/y/a.html") ⟨lonelyFile, .empty⟩).1 =
      .ok (.ofText "x/y/a.html") := by
    decide +kernel
  have hplace : (convertFile greeting ⟨false⟩ "a.md" (some "x/y/a.html")
      ⟨lonelyFile, .empty⟩).2.files.locate (.ofText "x/y/a.html") ≠ .ok ["a.md"] := by
    decide +kernel
  have hfile : lonelyFile.get? ["a.md"] = some (.file (Utf8.encode "Hi\n".toList)) := by
    decide +kernel
  have hframe :=
    (convertFile_frame greeting ⟨false⟩ "a.md" (some "x/y/a.html") ⟨lonelyFile, .empty⟩).2
  generalize convertFile greeting ⟨false⟩ "a.md" (some "x/y/a.html") ⟨lonelyFile, .empty⟩ = r
    at hr hplace hframe ⊢
  obtain ⟨result, w'⟩ := r
  obtain ⟨-, text, document, bytes, -, -, he, loc, hl, hs, hread⟩ :=
    hframe _ w' (Prod.ext hr rfl)
  have hne : some ["a.md"] ≠ some loc := by
    rintro ⟨⟩
    exact hplace hl
  exact ⟨_, w', document, bytes, Prod.ext hr rfl, he, hread,
    by rw [hfile, hs.files _ hne, hfile]⟩

/-- The directory is there when the name is refused, and the fault is not one of writing. -/
theorem directory_added_at_null_character :
    (convertFile greeting ⟨false⟩ "a.md" (some "new/a\x00.html") ⟨lonelyFile, .empty⟩).1 =
        .error .nullCharacter ∧
      lonelyFile.get? ["new"] = none ∧
      (convertFile greeting ⟨false⟩ "a.md" (some "new/a\x00.html")
        ⟨lonelyFile, .empty⟩).2.files.get? ["new"] = some .directory :=
  ⟨by decide +kernel, by decide +kernel, by decide +kernel⟩

end CmsMarkup
