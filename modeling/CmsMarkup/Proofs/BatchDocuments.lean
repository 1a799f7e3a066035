import CmsMarkup.Proofs.BatchFaults
import CmsMarkup.Proofs.FileFrame

/-! What a batch leaves in its documents. A file of which no earlier document took the place has
its own text when its turn comes, and its document stays unless a later one takes its place. -/

namespace CmsMarkup

open Pandoc (Switch)

/-- Pandoc's answers depend on the request alone. -/
def Pandoc.IsSteady (pandoc : Pandoc) : Prop :=
  ∀ earlier earlier' request, pandoc earlier request = pandoc earlier' request

/-! ### Sessions do not matter -/

namespace Session

variable {pandoc : Pandoc} {s s' : Session}

/-- The switch that is remembered, if any, is the one for Pandoc's version. -/
def Agrees (pandoc : Pandoc) (s : Session) : Prop :=
  ∀ found, s.switch = some found → ∃ version, pandoc [] .version = .ok version ∧
    Pandoc.longNumber? version = none ∧ found = Switch.of version

/-- Sessions that a render can not tell apart. -/
structure Alike (pandoc : Pandoc) (s s' : Session) : Prop where
  frontMatter : s.frontMatter = s'.frontMatter
  title : s.title = s'.title
  left : s.Agrees pandoc
  right : s'.Agrees pandoc

theorem agrees_empty (pandoc : Pandoc) : empty.Agrees pandoc := nofun

structure SameOutcome {ε α : Type} (pandoc : Pandoc) (x y : Except ε α × Session) : Prop where
  result : x.1 = y.1
  session : Alike pandoc x.2 y.2

theorem SameOutcome.elim {ε α : Type} {x y : Except ε α × Session} (h : SameOutcome pandoc x y) :
    ∃ r u u', x = (r, u) ∧ y = (r, u') ∧ Alike pandoc u u' :=
  ⟨x.1, x.2, y.2, rfl, Prod.ext h.result.symm rfl, h.session⟩

theorem Alike.ask (hs : pandoc.IsSteady) (h : Alike pandoc s s') (request : Pandoc.Request) :
    SameOutcome pandoc (s.ask pandoc request) (s'.ask pandoc request) :=
  ⟨hs s.requests s'.requests request, h.frontMatter, h.title, h.left, h.right⟩

end Session

namespace Render

open Session (SameOutcome Alike)

variable {pandoc : Pandoc} {s s' : Session}

theorem switch_of_version (hs : pandoc.IsSteady) {version : String}
    (hv : pandoc [] .version = .ok version) (hread : Pandoc.longNumber? version = none)
    (h : s.Agrees pandoc) :
    (switch pandoc s).1 = .ok (Switch.of version) ∧
      (switch pandoc s).2.switch = some (Switch.of version) ∧
      (switch pandoc s).2.frontMatter = s.frontMatter ∧ (switch pandoc s).2.title = s.title := by
  cases hf : s.switch with
  | some found =>
    obtain ⟨v, hv', -, rfl⟩ := h found hf
    rw [hv, Except.ok.injEq] at hv'
    simp [switch, hf, hv']
  | none => simp [switch, hf, Session.ask, hs s.requests [], hv, hread, Session.log]

theorem switch_same (hs : pandoc.IsSteady) (h : Alike pandoc s s') :
    SameOutcome pandoc (switch pandoc s) (switch pandoc s') := by
  by_cases hfound : ∃ version, pandoc [] .version = .ok version ∧ Pandoc.longNumber? version = none
  · obtain ⟨version, hv, hread⟩ := hfound
    obtain ⟨hr, hw, hf, ht⟩ := switch_of_version hs hv hread h.left
    obtain ⟨hr', hw', hf', ht'⟩ := switch_of_version hs hv hread h.right
    refine ⟨hr.trans hr'.symm, hf.trans (h.frontMatter.trans hf'.symm),
      ht.trans (h.title.trans ht'.symm), fun found hfound => ?_, fun found hfound => ?_⟩
    · exact ⟨version, hv, hread, Option.some.inj (hfound.symm.trans hw)⟩
    · exact ⟨version, hv, hread, Option.some.inj (hfound.symm.trans hw')⟩
  · have hnone : ∀ {u : Session}, u.Agrees pandoc → u.switch = none := fun {u} hu => by
      cases hf : u.switch with
      | none => rfl
      | some found =>
        obtain ⟨version, hv, hread, -⟩ := hu found hf
        exact absurd ⟨version, hv, hread⟩ hfound
    obtain ⟨r, u, u', hu, hu', h'⟩ := (h.ask hs .version).elim
    have hr : pandoc [] .version = r := by
      rw [← hs s.requests [] .version]
      exact congrArg Prod.fst hu
    simp only [switch, hnone h.left, hnone h.right, hu, hu']
    cases r with
    | error f => exact ⟨rfl, h'⟩
    | ok version =>
      cases hl : Pandoc.longNumber? version with
      | none => exact absurd ⟨version, hr, hl⟩ hfound
      | some digits =>
        simp only [hl]
        exact ⟨rfl, h'⟩

theorem lower_same (hs : pandoc.IsSteady) (h : Alike pandoc s s') (tree : Json) :
    SameOutcome pandoc (lower pandoc tree s) (lower pandoc tree s') := by
  cases hm : Pandoc.markDocument tree with
  | error f =>
    simp only [lower, hm]
    exact ⟨rfl, h⟩
  | ok marked =>
    obtain ⟨r, u, u', hu, hu', h⟩ := (switch_same hs h).elim
    cases r with
    | error f =>
      simp only [lower, hm, hu, hu']
      exact ⟨rfl, h⟩
    | ok found =>
      obtain ⟨r, v, v', hv, hv', h⟩ := (h.ask hs (.write found.written marked)).elim
      simp only [lower, hm, hu, hu', hv, hv']
      cases r with
      | error f => exact ⟨rfl, h⟩
      | ok html =>
        dsimp only
        cases Html.parse html <;> exact ⟨rfl, h⟩

theorem readTree_same (hs : pandoc.IsSteady) (h : Alike pandoc s s') (markdown : String) :
    SameOutcome pandoc (readTree pandoc markdown s) (readTree pandoc markdown s') := by
  obtain ⟨r, u, u', hu, hu', h⟩ := (h.ask hs (.read markdown)).elim
  simp only [readTree, hu, hu']
  cases r with
  | error f => exact ⟨rfl, h⟩
  | ok text =>
    dsimp only
    cases Json.parse text <;> exact ⟨rfl, h⟩

theorem body_same (hs : pandoc.IsSteady) (h : Alike pandoc s s') (markdown : String) :
    SameOutcome pandoc (body pandoc markdown s) (body pandoc markdown s') := by
  obtain ⟨r, u, u', hu, hu', h⟩ := (readTree_same hs h markdown).elim
  cases r with
  | error f =>
    simp only [body, hu, hu']
    exact ⟨rfl, h⟩
  | ok tree =>
    cases ht : Pandoc.title tree with
    | error f =>
      simp only [body, hu, hu', ht]
      exact ⟨rfl, h⟩
    | ok title =>
      have ha : Alike pandoc ({ u with title := some title }.log (treeRecord tree))
          ({ u' with title := some title }.log (treeRecord tree)) :=
        ⟨h.frontMatter, rfl, h.left, h.right⟩
      obtain ⟨r, v, v', hv, hv', h⟩ := (lower_same hs ha tree).elim
      simp only [body, hu, hu', ht, hv, hv']
      cases r with
      | error f => exact ⟨rfl, h⟩
      | ok nodes => exact ⟨rfl, h.frontMatter, h.title, h.left, h.right⟩

end Render

section

open Session (SameOutcome Alike)

variable {pandoc : Pandoc} {s s' : Session}

/-- A text has one document, whatever was converted before it. -/
theorem convertText_same (hs : pandoc.IsSteady) (options : ConversionOptions) (text : String)
    (h : s.Agrees pandoc) (h' : s'.Agrees pandoc) :
    SameOutcome pandoc (convertText pandoc options text s) (convertText pandoc options text s') := by
  cases he : FrontMatter.extract text.toList with
  | error f =>
    simp only [convertText, render, he]
    exact ⟨rfl, rfl, rfl, h, h'⟩
  | ok extracted =>
    have ha : Alike pandoc
        ({ s with frontMatter := some extracted.frontMatter, title := none }.logAll extracted.logs)
        ({ s' with frontMatter := some extracted.frontMatter, title := none }.logAll extracted.logs) :=
      ⟨rfl, rfl, h, h'⟩
    obtain ⟨r, u, u', hu, hu', h⟩ := (Render.body_same hs ha (String.ofList extracted.body)).elim
    simp only [convertText, render, he, hu, hu']
    cases r with
    | error f => exact ⟨rfl, h⟩
    | ok body => exact ⟨by simp only [h.frontMatter, h.title], h⟩

end

/-! ### One turn -/

namespace Convert

variable {files files' : FileTree} {p q : FilePath} {text : String}

/-- A text comes from a file, and from nothing else. -/
theorem readText_ok (h : readText files p = .ok text) : ∃ loc content cs,
    files.locate p = .ok loc ∧ files.get? loc = some (.file content) ∧
      Utf8.decode content = .ok cs ∧ text = String.ofList (unifyLineEnds cs) := by
  unfold readText at h
  split_ifs at h
  cases hl : files.locate p with
  | error f => simp [FileTree.read, hl] at h
  | ok loc =>
    rw [FileTree.read_eq hl] at h
    cases hg : files.get? loc with
    | none => simp [hg] at h
    | some item =>
      cases item with
      | directory => simp [hg] at h
      | file content =>
        cases hd : Utf8.decode content with
        | error f => simp [hg, hd] at h
        | ok cs =>
          simp only [hg, hd, Except.ok.injEq] at h
          exact ⟨loc, content, cs, rfl, hg, hd, h.symm⟩

theorem readText_unique {text' : String} (h : readText files p = .ok text)
    (h' : readText files q = .ok text') (hl : files.locate p = files.locate q) : text = text' := by
  obtain ⟨loc, content, cs, hp, hg, hd, rfl⟩ := readText_ok h
  obtain ⟨loc', content', cs', hq, hg', hd', rfl⟩ := readText_ok h'
  rw [hp, hq] at hl
  cases hl
  rw [hg] at hg'
  cases hg'
  rw [hd] at hd'
  cases hd'
  rfl

theorem readText_congr {loc : Location} (hp : files.locate p = .ok loc)
    (hp' : files'.locate p = .ok loc) (hg : files'.get? loc = files.get? loc) :
    readText files' p = readText files p := by
  simp only [readText, FileTree.read_eq hp, FileTree.read_eq hp', hg]

/-- Beside a file that can be read no directory is missing: a path there is not opened, or the
document is written to it, or it has no bytes and an empty file is left. -/
theorem writeText_cases (document : CodeText) (hparent : ∃ m, files.locate p.parent = .ok m ∧
      files.get? m = some .directory) :
    (∃ f, writeText p document files = (.error f, files)) ∨
      ∃ loc, files.locate p = .ok loc ∧ files.get? loc ≠ some .directory ∧
        ((∃ bytes, document.encode = .ok bytes ∧
            writeText p document files = (.ok (), files.put loc (.file bytes))) ∨
          ∃ g, document.encode = .error g ∧
            writeText p document files = (.error (.unencodable g), files.put loc (.file []))) := by
  obtain ⟨m, hm, hd⟩ := hparent
  unfold writeText
  rw [FileTree.ensureDirectory_of_directory hm hd]
  split_ifs
  · exact .inl ⟨_, rfl⟩
  · exact .inl ⟨_, rfl⟩
  · cases hl : files.locate p with
    | error f => exact .inl ⟨.unwritable p (f.message p), by simp [FileTree.write, hl]⟩
    | ok loc =>
      by_cases hg : files.get? loc = some .directory
      · exact .inl ⟨.unwritable p (FileFault.isDirectory.message p), by simp [FileTree.write, hl, hg]⟩
      · refine .inr ⟨loc, rfl, hg, ?_⟩
        cases he : document.encode with
        | ok bytes => exact .inl ⟨bytes, rfl, by simp [FileTree.write_eq _ hl hg, Except.toOption]⟩
        | error g => exact .inr ⟨g, rfl, by simp [FileTree.write_eq _ hl hg, Except.toOption]⟩

end Convert

/-- A turn without an output path has written its document to a path, or has opened the path for a
document that has no bytes. -/
def Turn.Opens (t : Turn) (path : FilePath) : Prop :=
  t.result = .ok path ∨
    (∃ g, t.result = .error (.unencodable g)) ∧
      Convert.outputPath (.ofText t.input) none = .ok path

theorem Turn.opens_of_ok {t : Turn} {path target : FilePath} (h : t.result = .ok path) :
    t.Opens target ↔ target = path := by
  simp [Opens, h, eq_comm]

/-- What a turn without an output path does to the files: nothing, or it puts a file in the place of
its document. The file has the bytes of the document, or none if the document has none. -/
inductive Turn.Leaves (pandoc : Pandoc) (css : Bool) (t : Turn) : Prop
  | nothing (f : ConvertFault) (result : t.result = .error f)
    (files : t.after.files = t.before.files)
  | file (target : FilePath) (loc : Location) (text : String) (document : CodeText)
    (content : List UInt8) (opens : t.Opens target)
    (read : Convert.readText t.before.files (.ofText t.input) = .ok text)
    (converted : (convertText pandoc ⟨css⟩ text .empty).1 = .ok document)
    (encoded : document.encode = .ok content ∧ t.result = .ok target ∨
      ∃ g, document.encode = .error g ∧ t.result = .error (.unencodable g))
    (place : t.before.files.locate target = .ok loc)
    (free : t.before.files.get? loc ≠ some .directory)
    (files : t.after.files = t.before.files.put loc (.file content))

section

variable {pandoc : Pandoc} {arguments : Arguments} {w : Workspace}

theorem Turn.take_leaves (hs : pandoc.IsSteady) (ho : arguments.output = none) (input : String)
    (hw : w.session.Agrees pandoc) :
    (Turn.take pandoc arguments input w).Leaves pandoc arguments.css ∧
      (Turn.take pandoc arguments input w).after.session.Agrees pandoc := by
  obtain ⟨t, ht⟩ : ∃ t, t = Turn.take pandoc arguments input w := ⟨_, rfl⟩
  rw [← ht]
  simp only [Turn.take, convertFile, ho, outputPath_none] at ht
  cases hp : (FilePath.ofText input).withSuffix? ".html" with
  | none =>
    simp only [hp, Option.map_none, Option.getD_none] at ht
    subst ht
    exact ⟨.nothing _ rfl rfl, hw⟩
  | some target =>
    simp only [hp, Option.map_some, Option.getD_some] at ht
    cases hr : Convert.readText w.files (.ofText input) with
    | error f =>
      simp only [hr] at ht
      subst ht
      exact ⟨.nothing _ rfl rfl, hw⟩
    | ok text =>
      obtain ⟨r, u, v, hu, hv, ha⟩ :=
        (convertText_same hs ⟨arguments.css⟩ text
          (s := { w.session with logs := [] }.log (Convert.startRecord (.ofText input) text))
          hw (Session.agrees_empty pandoc)).elim
      cases r with
      | error f =>
        simp only [hr, hu] at ht
        subst ht
        exact ⟨.nothing _ rfl rfl, ha.left⟩
      | ok document =>
        have hparent : ∃ m, w.files.locate target.parent = .ok m ∧
            w.files.get? m = some .directory := by
          obtain ⟨loc, content, cs, hl, -⟩ := Convert.readText_ok hr
          obtain ⟨name, hn, -⟩ := FilePath.withSuffix_eq hp
          rw [FilePath.parent_withSuffix hp]
          exact FileTree.parent_isDirectory (List.ne_nil_of_mem hn) hl
        have hconverted := congrArg Prod.fst hv
        rcases Convert.writeText_cases document hparent with
          ⟨f, hf⟩ | ⟨loc, hl, hg, ⟨bytes, he, hf⟩ | ⟨g, he, hf⟩⟩
        · simp only [hr, hu, hf] at ht
          subst ht
          exact ⟨.nothing _ rfl rfl, ha.left⟩
        · simp only [hr, hu, hf] at ht
          subst ht
          exact ⟨.file target loc text document bytes (.inl rfl) hr hconverted (.inl ⟨he, rfl⟩) hl hg
            rfl, ha.left⟩
        · simp only [hr, hu, hf] at ht
          subst ht
          have htarget : Convert.outputPath (.ofText input) none = .ok target := by
            rw [outputPath_none, hp]
            rfl
          exact ⟨.file target loc text document [] (.inr ⟨⟨g, rfl⟩, htarget⟩) hr hconverted
            (.inr ⟨g, he, rfl⟩) hl hg rfl, ha.left⟩

end

/-! ### All turns -/

/-- No earlier turn has opened the place of this one's file. -/
def Turn.Untouched (files : FileTree) (earlier : List Turn) (t : Turn) : Prop :=
  ∀ u ∈ earlier, ∀ path, u.Opens path → files.locate path ≠ files.locate (.ofText t.input)

/-- What earlier turns have left of the files at the start. -/
structure Batch.Keeps (pandoc : Pandoc) (files : FileTree) (earlier : List Turn) (w : Workspace) :
    Prop where
  directories : FileTree.SameDirectories files w.files
  session : w.session.Agrees pandoc
  others : ∀ loc, (∀ u ∈ earlier, ∀ path, u.Opens path → files.locate path ≠ .ok loc) →
    w.files.get? loc = files.get? loc

section

variable {pandoc : Pandoc} {arguments : Arguments} {files : FileTree} {earlier : List Turn}
  {t : Turn}

theorem Batch.Keeps.step (h : Batch.Keeps pandoc files earlier t.before)
    (hl : t.Leaves pandoc arguments.css) (ha : t.after.session.Agrees pandoc) :
    Batch.Keeps pandoc files (earlier ++ [t]) t.after := by
  cases hl with
  | nothing f result hf =>
    refine ⟨hf ▸ h.directories, ha, fun loc hloc => ?_⟩
    rw [hf]
    exact h.others loc fun u hu => hloc u (List.mem_append_left _ hu)
  | file target place text document content opens read converted encoded hplace free hf =>
    refine ⟨?_, ha, fun loc hloc => ?_⟩
    · rw [hf]
      exact h.directories.trans (FileTree.sameDirectories_put free _)
    · have hne : loc ≠ place := by
        rintro rfl
        exact hloc t (List.mem_append_right _ List.mem_cons_self) target opens
          (h.directories.locate.mp hplace)
      rw [hf, FileTree.get?_put (FileTree.isAbove_eq_false free), if_neg hne]
      exact h.others loc fun u hu => hloc u (List.mem_append_left _ hu)

/-- A file whose place no turn has opened still has the text it had at the start. -/
theorem Batch.Keeps.readText (h : Batch.Keeps pandoc files earlier t.before)
    (hu : t.Untouched files earlier) {text : String}
    (hr : Convert.readText t.before.files (.ofText t.input) = .ok text) :
    Convert.readText files (.ofText t.input) = .ok text := by
  obtain ⟨loc, content, cs, hl, -⟩ := Convert.readText_ok hr
  have hl' := h.directories.locate.mp hl
  rw [← hr]
  refine (Convert.readText_congr hl' hl (h.others loc fun u hm path hp => ?_)).symm
  rw [← hl']
  exact hu u hm path hp

/-- The turns up to one of them keep the rest of the files, and those behind it go on from it. -/
theorem turns_split (hs : pandoc.IsSteady) (ho : arguments.output = none) {inputs : List String}
    {w : Workspace} {before after : List Turn} (hw : Batch.Keeps pandoc files earlier w)
    (h : turns pandoc arguments inputs w = before ++ t :: after) :
    Batch.Keeps pandoc files (earlier ++ before) t.before ∧ t.Leaves pandoc arguments.css ∧
      t.after.session.Agrees pandoc ∧
      (t.escaped? = none → ∃ rest, after = turns pandoc arguments rest t.after) := by
  induction before generalizing inputs w earlier with
  | nil =>
    cases inputs with
    | nil => cases h
    | cons input rest =>
      rw [turns, List.nil_append, List.cons.injEq] at h
      obtain ⟨rfl, rfl⟩ := h
      obtain ⟨hl, ha⟩ := Turn.take_leaves hs ho input hw.session
      exact ⟨by rwa [List.append_nil], hl, ha, fun he => ⟨rest, by rw [he]; rfl⟩⟩
  | cons u before ih =>
    cases inputs with
    | nil => cases h
    | cons input rest =>
      rw [turns, List.cons_append, List.cons.injEq] at h
      obtain ⟨rfl, h⟩ := h
      obtain ⟨hl, ha⟩ := Turn.take_leaves hs ho input hw.session
      split_ifs at h
      · have hstep := hw.step (t := Turn.take pandoc arguments input w) hl ha
        have hrest := ih hstep h
        rwa [List.append_assoc] at hrest
      · simp at h

/-- A document stays through later turns if those that open its place read what it was made from. -/
theorem turns_keep_document (hs : pandoc.IsSteady) (ho : arguments.output = none)
    (source : Except FileFault Location) {inputs : List String} {w : Workspace} {loc : Location}
    {document : CodeText} {bytes : List UInt8} (he : document.encode = .ok bytes)
    (hw : Batch.Keeps pandoc files earlier w) (hg : w.files.get? loc = some (.file bytes))
    (hsource : ∀ input text, files.locate (.ofText input) = source →
      Convert.readText files (.ofText input) = .ok text →
      (convertText pandoc ⟨arguments.css⟩ text .empty).1 = .ok document)
    (hlater : ∀ mid u rest path, turns pandoc arguments inputs w = mid ++ u :: rest →
      u.Opens path → files.locate path = .ok loc →
      files.locate (.ofText u.input) = source ∧ u.Untouched files (earlier ++ mid)) :
    let last := ((turns pandoc arguments inputs w).getLast?.map Turn.after).getD w
    FileTree.SameDirectories files last.files ∧ last.files.get? loc = some (.file bytes) := by
  induction inputs generalizing w earlier with
  | nil => exact ⟨hw.directories, hg⟩
  | cons input rest ih =>
    obtain ⟨hl, ha⟩ := Turn.take_leaves hs ho input hw.session
    rw [turns] at hlater ⊢
    have hbefore : (Turn.take pandoc arguments input w).before = w := rfl
    generalize Turn.take pandoc arguments input w = t at hl ha hlater hbefore ⊢
    subst hbefore
    have hstep := hw.step hl ha
    have hg' : t.after.files.get? loc = some (.file bytes) := by
      cases hl with
      | nothing f result hf => rw [hf, hg]
      | file target place text other content opens read converted encoded hplace free hf =>
        rw [hf, FileTree.get?_put (FileTree.isAbove_eq_false free)]
        split_ifs with heq
        · -- The turn opens the place, so its text is the one the document was made from.
          subst heq
          obtain ⟨hsrc, hu⟩ := hlater [] t _ target rfl opens (hw.directories.locate.mp hplace)
          rw [List.append_nil] at hu
          have hdoc := hsource t.input text hsrc (hw.readText hu read)
          rw [converted, Except.ok.injEq] at hdoc
          subst hdoc
          rcases encoded with ⟨hc, -⟩ | ⟨g, hc, -⟩
          · rw [he, Except.ok.injEq] at hc
            rw [hc]
          · rw [he] at hc
            cases hc
        · exact hg
    rw [lastAfter_cons]
    split_ifs with hescaped
    · exact ih hstep hg' fun mid u more path hm => by
        rw [List.append_assoc]
        exact hlater (t :: mid) u more path (by rw [if_pos hescaped, hm]; rfl)
    · exact ⟨hstep.directories, hg'⟩

end

/-- Later turns that open the place of this one's document convert the same file, and its place has
not been opened. -/
def Turn.Outlasts (files : FileTree) (earlier : List Turn) (t : Turn) (later : List Turn) : Prop :=
  ∀ mid u rest path target, later = mid ++ u :: rest → t.result = .ok path →
    u.Opens target → files.locate target = files.locate path →
    files.locate (.ofText u.input) = files.locate (.ofText t.input) ∧
      u.Untouched files (earlier ++ t :: mid)

theorem greeting_steady : greeting.IsSteady := fun _ _ request => by cases request <;> rfl

def greetingFiles : FileTree :=
  ⟨[(["a.md"], .file (Utf8.encode "Hi\n".toList)), (["b.md"], .file (Utf8.encode "Hi\n".toList))]⟩

def rivalFiles : FileTree :=
  ⟨[(["a.md"], .file (Utf8.encode "Hi\n".toList)),
    (["a.txt"], .file (Utf8.encode "---\nauthor: B\n---\nHi\n".toList))]⟩

end CmsMarkup
