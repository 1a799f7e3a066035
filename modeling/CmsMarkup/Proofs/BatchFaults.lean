import CmsMarkup.Proofs.Batch
import CmsMarkup.Proofs.DocumentTree
import Mathlib.Control.Monad.Basic

/-! What ends a batch early. Every fault of the system and of Pandoc is reported for its file;
front matter that can not be built, answers that are refused and a title without bytes are not. -/

namespace CmsMarkup

/-- Pandoc answers with well-formed trees, or fails as a program does that can not be run or
gives up. -/
structure Pandoc.IsOrderly (pandoc : Pandoc) : Prop where
  tree : ∀ earlier markdown text, pandoc earlier (.read markdown) = .ok text →
    ∃ tree, Json.parse text = .ok tree ∧ Pandoc.fits (.record .document) tree = true
  conversion : ∀ earlier request f, request ≠ .version → pandoc earlier request = .error f →
    ∃ message, f = .system message ∨ f = .runtime message
  version : ∀ earlier f, pandoc earlier .version = .error f → ∃ message, f = .system message

/-- Pandoc's last answer is refused: HTML that can not be parsed, or a version with a number that is
too long to be read. -/
inductive Session.EndsRefused (pandoc : Pandoc) (s : Session) : RenderFault → Prop
  | markup {r : Html.Refusal} {earlier : List Pandoc.Request} {arguments : List String} {tree : Json}
    {html : String} (asked : s.requests = earlier ++ [.write arguments tree])
    (answer : pandoc earlier (.write arguments tree) = .ok html)
    (refused : Html.parse html = .error r) : EndsRefused pandoc s (.markup r)
  | version {digits : Nat} {earlier : List Pandoc.Request} {version : String}
    (asked : s.requests = earlier ++ [.version]) (answer : pandoc earlier .version = .ok version)
    (long : Pandoc.longNumber? version = some digits) : EndsRefused pandoc s (.version digits)

theorem Session.EndsRefused.unreported {pandoc : Pandoc} {s : Session} {f : RenderFault}
    (h : s.EndsRefused pandoc f) : f.report? = none := by
  cases h <;> rfl

namespace Render

variable {pandoc : Pandoc} {s s' : Session} {f : RenderFault}

theorem conversionFault_reported (ho : pandoc.IsOrderly) {earlier : List Pandoc.Request}
    {request : Pandoc.Request} {pf : Pandoc.Fault}
    (h : pandoc earlier request = .error pf) (hr : request ≠ .version) (source target : String) :
    (conversionFault source target pf).report?.isSome := by
  obtain ⟨message, rfl | rfl⟩ := ho.conversion earlier request pf hr h
  · rfl
  · rfl

theorem switch_fault (ho : pandoc.IsOrderly) (h : switch pandoc s = (.error f, s')) :
    f.report?.isSome ∨ s'.EndsRefused pandoc f := by
  unfold switch at h
  split at h
  · cases h
  · simp only [Session.ask] at h
    split at h
    · rename_i pf _ ha
      obtain ⟨message, rfl⟩ := ho.version _ _ (congrArg Prod.fst ha)
      cases h
      exact .inl rfl
    · rename_i version _ ha
      split at h
      · rename_i digits hl
        cases h
        exact .inr (.version (congrArg (·.2.requests) ha).symm (congrArg Prod.fst ha) hl)
      · cases h

/-- A well-formed tree has elements, unless Pandoc fails or its answer is refused. -/
theorem lower_fault (ho : pandoc.IsOrderly) {tree : Json}
    (ht : Pandoc.fits (.record .document) tree = true)
    (h : lower pandoc tree s = (.error f, s')) :
    f.report?.isSome ∨ s'.EndsRefused pandoc f := by
  obtain ⟨marked, hm⟩ := Pandoc.markDocument_ok ht
  simp only [lower, hm, Session.ask] at h
  split at h
  · rename_i hs
    cases h
    exact switch_fault ho hs
  · rename_i found u hs
    split at h
    · rename_i pf _ ha
      cases h
      exact .inl (conversionFault_reported ho (congrArg Prod.fst ha) nofun _ _)
    · rename_i html _ ha
      cases hp : Html.parse html with
      | ok nodes => simp [hp] at h
      | error r =>
        simp only [hp] at h
        cases h
        exact .inr (.markup (congrArg (·.2.requests) ha).symm (congrArg Prod.fst ha) hp)

theorem body_fault (ho : pandoc.IsOrderly) {markdown : String}
    (h : body pandoc markdown s = (.error f, s')) :
    f.report?.isSome ∨ s'.EndsRefused pandoc f := by
  simp only [body, readTree, Session.ask] at h
  cases ha : pandoc s.requests (.read markdown) with
  | error pf =>
    simp only [ha] at h
    cases h
    exact .inl (conversionFault_reported ho ha nofun _ _)
  | ok text =>
    obtain ⟨tree, hp, ht⟩ := ho.tree _ _ _ ha
    obtain ⟨title, hl⟩ := Pandoc.title_ok ht
    simp only [ha, hp, hl] at h
    split at h
    · rename_i hw
      cases h
      exact lower_fault ho ht hw
    · cases h

end Render

section

variable {pandoc : Pandoc} {options : ConversionOptions}

theorem convertText_frontMatter (pandoc : Pandoc) (options : ConversionOptions) {text : String}
    {g : Yaml.Fault} (s : Session)
    (h : FrontMatter.extract text.toList = .error g) :
    (convertText pandoc options text s).1 = .error (.frontMatter g) := by
  simp [convertText, render, h]

theorem convertText_fault (ho : pandoc.IsOrderly) {text : String} {s s' : Session} {f : RenderFault}
    (h : convertText pandoc options text s = (.error f, s')) :
    f.report?.isSome ∨ s'.EndsRefused pandoc f ∨
      ∃ g, FrontMatter.extract text.toList = .error g ∧ f = .frontMatter g := by
  cases he : FrontMatter.extract text.toList with
  | error g =>
    have hf := convertText_frontMatter pandoc options s he
    rw [h] at hf
    cases hf
    exact .inr (.inr ⟨g, rfl, rfl⟩)
  | ok extracted =>
    simp only [convertText, render, he] at h
    split at h
    · rename_i hb
      cases h
      rcases Render.body_fault ho hb with hr | hr
      · exact .inl hr
      · exact .inr (.inl hr)
    · cases h

/-- A document is that of a body and of what the session keeps. -/
theorem convertText_ok {text : String} {s s' : Session} {document : CodeText}
    (h : convertText pandoc options text s = (.ok document, s')) :
    ∃ body, document =
      Document.around body (s'.title.getD "") (s'.frontMatter.getD .empty).metadata options := by
  unfold convertText at h
  split at h
  · cases h
  · rename_i body s'' _
    cases h
    exact ⟨body, rfl⟩

/-- Only a title with a surrogate keeps a document from having bytes. -/
theorem convertText_unencodable {text : String} {s s' : Session} {document : CodeText}
    {g : EncodeFault} (h : convertText pandoc options text s = (.ok document, s'))
    (hg : document.encode = .error g) : ∃ title, s'.title = some title ∧ ∀ t : String, title ≠ t := by
  obtain ⟨body, rfl⟩ := convertText_ok h
  have hlone : ∀ t : String, s'.title.getD "" ≠ t := fun t ht => by
    rw [ht, Document.around_text] at hg
    cases hg
  cases ht : s'.title with
  | none =>
    rw [ht] at hlone
    exact absurd rfl (hlone "")
  | some title =>
    rw [ht] at hlone
    exact ⟨title, rfl, hlone⟩

end

/-! ### Paths without the character U+0000 -/

namespace FilePath

theorem mem_of_mem_parts {cs part : List Char} (h : part ∈ parts cs) : part ⊆ cs := by
  induction cs generalizing part with
  | nil => simp_all [parts]
  | cons c cs ih =>
    rw [parts] at h
    split_ifs at h
    · rcases List.mem_cons.mp h with rfl | h
      · exact List.nil_subset _
      · exact List.subset_cons_of_subset c (ih h)
    · cases hp : parts cs with
      | nil =>
        rw [hp] at h
        rw [List.mem_singleton.mp h]
        exact List.cons_subset_cons c (List.nil_subset cs)
      | cons first rest =>
        rw [hp] at h ih
        rcases List.mem_cons.mp h with rfl | h
        · exact List.cons_subset_cons c (ih List.mem_cons_self)
        · exact List.subset_cons_of_subset c (ih (List.mem_cons_of_mem _ h))

theorem hasNull_eq_false_iff {p : FilePath} :
    p.hasNull = false ↔ ∀ name ∈ p.names, '\x00' ∉ name.toList := by
  have hc : ∀ c : Char, (c.toNat == 0) = true ↔ c = '\x00' := fun c => by
    rw [beq_iff_eq]
    exact ⟨fun h => Char.ext (UInt32.toNat_inj.mp h), fun h => by rw [h]; rfl⟩
  simp only [hasNull, List.any_eq_false, List.any_eq_true, hc, exists_eq_right]

theorem hasNull_ofText {input : String} (h : '\x00' ∉ input.toList) :
    (ofText input).hasNull = false := by
  rw [hasNull_eq_false_iff]
  intro name hn hc
  obtain ⟨part, hp, rfl⟩ := List.mem_map.mp hn
  rw [String.toList_ofList] at hc
  exact h (mem_of_mem_parts (List.mem_filter.mp hp).1 hc)

theorem stem_subset (name : List Char) : stem name ⊆ name := by
  simp only [stem]
  split_ifs
  · exact List.Subset.refl _
  · intro c hc
    have hd := List.mem_of_mem_drop (List.mem_reverse.mp hc)
    exact List.mem_reverse.mp ((List.dropWhile_sublist _).subset hd)

theorem hasNull_parent {p : FilePath} (h : p.hasNull = false) : p.parent.hasNull = false := by
  rw [hasNull_eq_false_iff] at h ⊢
  exact fun name hn => h name ((List.dropLast_sublist _).subset hn)

theorem hasNull_withSuffix {p target : FilePath} (h : p.hasNull = false)
    (ht : p.withSuffix? ".html" = some target) : target.hasNull = false := by
  obtain ⟨name, hn, rfl⟩ := withSuffix_eq ht
  rw [hasNull_eq_false_iff] at h ⊢
  intro other ho
  rcases List.mem_append.mp ho with ho | ho
  · exact h other ((List.dropLast_sublist _).subset ho)
  · rw [List.mem_singleton.mp ho, String.toList_append, String.toList_ofList]
    intro hc
    rcases List.mem_append.mp hc with hc | hc
    · exact h name hn (stem_subset _ hc)
    · exact absurd hc (by decide)

end FilePath

/-! ### Faults of a batch -/

theorem readText_fault {files : FileTree} {p : FilePath} {f : ConvertFault}
    (hp : p.hasNull = false) (h : Convert.readText files p = .error f) : f.report?.isSome := by
  simp only [Convert.readText, hp, Bool.false_eq_true, if_false] at h
  split at h
  · cases h
    rfl
  · split at h
    · cases h
      rfl
    · cases h

theorem writeText_fault {files files' : FileTree} {p : FilePath} {text : CodeText} {f : ConvertFault}
    (hp : p.hasNull = false) (h : Convert.writeText p text files = (.error f, files')) :
    f.report?.isSome ∨ ∃ g, text.encode = .error g ∧ f = .unencodable g := by
  simp only [Convert.writeText, hp, FilePath.hasNull_parent hp, Bool.false_eq_true, if_false] at h
  split at h
  · cases h
    exact .inl rfl
  · split at h
    · cases h
      exact .inl rfl
    · split at h
      · cases h
      · rename_i g hg
        cases h
        exact .inr ⟨g, hg, rfl⟩

/-- Names of files that the command line takes as they are. -/
structure IsInput (input : String) : Prop where
  named : (FilePath.ofText input).names ≠ []
  noNull : '\x00' ∉ input.toList
  noHyphen : input.toList.head? ≠ some '-'

theorem convertFile_fault {pandoc : Pandoc} {options : ConversionOptions} (ho : pandoc.IsOrderly)
    {input : String} (hi : IsInput input) {w w' : Workspace} {f : ConvertFault}
    (h : convertFile pandoc options input none w = (.error f, w')) :
    f.report?.isSome ∨
      (∃ text g, Convert.readText w.files (.ofText input) = .ok text ∧
        FrontMatter.extract text.toList = .error g ∧ f = .render (.frontMatter g)) ∨
      (∃ r, w'.session.EndsRefused pandoc r ∧ f = .render r) ∨
      ∃ title g, w'.session.title = some title ∧ (∀ t : String, title ≠ t) ∧ f = .unencodable g := by
  have hn := FilePath.hasNull_ofText hi.noNull
  obtain ⟨target, ht⟩ := FilePath.withSuffix_of_names hi.named ".html"
  simp only [convertFile, outputPath_none, ht, Option.map_some, Option.getD_some] at h
  split at h
  · rename_i hr
    cases h
    exact .inl (readText_fault hn hr)
  · rename_i text hr
    split at h
    · rename_i hc
      cases h
      rcases convertText_fault ho hc with hf | hs | ⟨g, hg, rfl⟩
      · exact .inl hf
      · exact .inr (.inr (.inl ⟨_, hs, rfl⟩))
      · exact .inr (.inl ⟨text, g, hr, hg, rfl⟩)
    · rename_i hc
      split at h
      · rename_i hw
        cases h
        rcases writeText_fault (FilePath.hasNull_withSuffix hn ht) hw with hf | ⟨g, hg, rfl⟩
        · exact .inl hf
        · obtain ⟨title, htitle, hlone⟩ := convertText_unencodable hc hg
          exact .inr (.inr (.inr ⟨title, g, htitle, hlone, rfl⟩))
      · cases h

/-- The turns that end a program: the front matter of the text can not be built, Pandoc's answer is
refused, or a surrogate stands alone in the title, so that the document has no bytes. -/
inductive Turn.Escapes (pandoc : Pandoc) (t : Turn) : Prop
  | frontMatter (text : String) (g : Yaml.Fault)
    (read : Convert.readText t.before.files (.ofText t.input) = .ok text)
    (fault : FrontMatter.extract text.toList = .error g)
    (result : t.result = .error (.render (.frontMatter g)))
  | answer (f : RenderFault) (refused : t.after.session.EndsRefused pandoc f)
    (result : t.result = .error (.render f))
  | title (title : CodeText) (g : EncodeFault) (left : t.after.session.title = some title)
    (alone : ∀ s : String, title ≠ s) (result : t.result = .error (.unencodable g))

theorem Turn.Escapes.escaped {pandoc : Pandoc} {t : Turn} (h : t.Escapes pandoc) :
    ∃ f, t.result = .error f ∧ t.escaped? = some f := by
  rcases h with ⟨text, g, -, -, hr⟩ | ⟨f, hrefused, hr⟩ | ⟨title, g, -, -, hr⟩
  · exact ⟨_, hr, by simp [Turn.escaped?, hr, ConvertFault.report?, RenderFault.report?]⟩
  · exact ⟨_, hr, by simp [Turn.escaped?, hr, ConvertFault.report?, hrefused.unreported]⟩
  · exact ⟨_, hr, by simp [Turn.escaped?, hr, ConvertFault.report?]⟩

/-- What a batch without an output path shows and gives. -/
structure Batch.Report (pandoc : Pandoc) (arguments : Arguments) (ts : List Turn) (finish : Finish) :
    Prop where
  order : ts.map Turn.input <+: arguments.inputs
  output : finish.standardOutput = String.join (ts.map Turn.output)
  errors : finish.standardError = String.join (ts.map (Turn.errors arguments.verbose))
  /-- A turn that does not end the program says one thing about its file. -/
  outcome : ∀ t ∈ ts, ¬ t.Escapes pandoc →
    (∃ path, t.result = .ok path ∧ t.complaint = "" ∧
      t.output = "Converted " ++ t.input ++ " to " ++ path.text ++ "\n") ∨
    (∃ f message, t.result = .error f ∧ f.report? = some message ∧ t.output = "" ∧
      t.complaint = "Error: " ++ message ++ "\n")
  goesOn : (∀ t ∈ ts, ¬ t.Escapes pandoc) → ts.map Turn.input = arguments.inputs ∧
    finish.result = .ok (if ts.any Turn.failed then 1 else 0)
  /-- A turn that ends the program is the last one, and its fault is left. -/
  stops : ∀ t ∈ ts, t.Escapes pandoc →
    ts.getLast? = some t ∧ ∃ f, t.result = .error f ∧ finish.result = .error f
  /-- Every text whose front matter can not be built has such a turn. -/
  frontMatter : ∀ t ∈ ts, ∀ text g, Convert.readText t.before.files (.ofText t.input) = .ok text →
    FrontMatter.extract text.toList = .error g → t.Escapes pandoc

section

variable {pandoc : Pandoc} {arguments : Arguments} {w : Workspace} {t : Turn}

theorem escaped?_eq_none_iff (ho : pandoc.IsOrderly) (hout : arguments.output = none)
    (hi : ∀ input ∈ arguments.inputs, IsInput input)
    (ht : t ∈ turns pandoc arguments arguments.inputs w) :
    t.escaped? = none ↔ ¬ t.Escapes pandoc := by
  constructor
  · intro hn he
    obtain ⟨f, -, hf⟩ := he.escaped
    rw [hn] at hf
    cases hf
  · intro he
    cases hr : t.result with
    | ok path => simp [Turn.escaped?, hr]
    | error f =>
      obtain ⟨hm, htake⟩ := turns_mem ht
      have hc : convertFile pandoc ⟨arguments.css⟩ t.input none
          { t.before with session := { t.before.session with logs := [] } } =
            (.error f, t.after) := by
        rw [← hr, ← hout]
        exact Prod.ext (congrArg Turn.result htake).symm (congrArg Turn.after htake).symm
      rcases convertFile_fault ho (hi _ hm) hc with
        hf | ⟨text, g, hread, hg, rfl⟩ | ⟨r, hs, rfl⟩ | ⟨title, g, htitle, halone, rfl⟩
      · simp [Turn.escaped?, hr, hf]
      · exact absurd (.frontMatter text g hread hg hr) he
      · exact absurd (.answer r hs hr) he
      · exact absurd (.title title g htitle halone hr) he

theorem result_of_frontMatter (hout : arguments.output = none) (hi : IsInput t.input)
    (ht : t = Turn.take pandoc arguments t.input t.before) {text : String} {g : Yaml.Fault}
    (hread : Convert.readText t.before.files (.ofText t.input) = .ok text)
    (hg : FrontMatter.extract text.toList = .error g) :
    t.result = .error (.render (.frontMatter g)) := by
  obtain ⟨target, htarget⟩ := FilePath.withSuffix_of_names hi.named ".html"
  have hf := convertText_frontMatter pandoc ⟨arguments.css⟩
    ({ t.before.session with logs := [] }.log (Convert.startRecord (.ofText t.input) text)) hg
  rw [congrArg Turn.result ht]
  simp only [Turn.take, convertFile, hout, outputPath_none, htarget, Option.map_some,
    Option.getD_some, hread]
  split
  · rename_i f _ hc
    rw [hc] at hf
    rw [Except.error.inj hf]
  · rename_i hc
    rw [hc] at hf
    cases hf

end

def greetingTree : String :=
  "\x7b\"pandoc-api-version\":[1,23,1],\"meta\":\x7b\x7d,\"blocks\":" ++
    "[\x7b\"t\":\"Para\",\"c\":[\x7b\"t\":\"Str\",\"c\":\"Hi\"\x7d]\x7d]\x7d\n"

def greeting : Pandoc
  | _, .read _ => .ok greetingTree
  | _, .write _ _ => .ok "<p>Hi</p>\n"
  | _, .version => .ok "3.9"

theorem greetingTree_fits : ∃ tree, Json.parse greetingTree = .ok tree ∧
    Pandoc.fits (.record .document) tree = true := by
  have h : (Json.parse greetingTree).toOption.any (Pandoc.fits (.record .document)) = true := by
    decide +kernel
  -- left as it is, the text would be read again in every step below
  generalize Json.parse greetingTree = parsed at h
  cases parsed with
  | error f => cases h
  | ok tree => exact ⟨tree, rfl, h⟩

theorem greeting_orderly : greeting.IsOrderly where
  tree earlier markdown text h := by
    have ht : greetingTree = text := Except.ok.inj h
    rw [← ht]
    exact greetingTree_fits
  conversion earlier request f hr h := by
    cases request with
    | version => exact absurd rfl hr
    | read markdown => exact nomatch h
    | write arguments tree => exact nomatch h
  version earlier f h := nomatch h

instance (input : String) : Decidable (IsInput input) :=
  decidable_of_iff ((FilePath.ofText input).names ≠ [] ∧ '\x00' ∉ input.toList ∧
    input.toList.head? ≠ some '-') ⟨fun h => ⟨h.1, h.2.1, h.2.2⟩, fun h => ⟨h.1, h.2, h.3⟩⟩

end CmsMarkup
