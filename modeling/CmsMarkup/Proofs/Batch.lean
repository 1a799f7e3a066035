import CmsMarkup.CommandLine
import Mathlib.Data.List.Basic

/-! A run as the turns of its files. Each file has its turn on what the one before it left,
until one turn ends the program; what a run prints and gives is read off its turns. -/

namespace CmsMarkup

/-- One file's turn. -/
structure Turn where
  input : String
  before : Workspace
  result : Except ConvertFault FilePath
  after : Workspace

namespace Turn

/-- The turn of a file. Its records alone are in the session behind it. -/
def take (pandoc : Pandoc) (arguments : Arguments) (input : String) (w : Workspace) : Turn :=
  let session := { w.session with logs := [] }
  let (result, after) :=
    convertFile pandoc ⟨arguments.css⟩ input arguments.output { w with session }
  ⟨input, w, result, after⟩

def failed (t : Turn) : Bool :=
  match t.result with
  | .ok _ => false
  | .error _ => true

/-- The fault that no message reports; it ends the program. -/
def escaped? (t : Turn) : Option ConvertFault :=
  match t.result with
  | .ok _ => none
  | .error f => if f.report?.isSome then none else some f

def output (t : Turn) : String :=
  match t.result with
  | .ok path => "Converted " ++ t.input ++ " to " ++ path.text ++ "\n"
  | .error _ => ""

/-- The line about a file that has no document. -/
def complaint (t : Turn) : String :=
  match t.result with
  | .ok _ => ""
  | .error f => (f.report?.map fun message => "Error: " ++ message ++ "\n").getD ""

/-- The records of a turn, with one more for a fault that is reported. -/
def records (t : Turn) : List LogRecord :=
  t.after.session.logs ++
    if t.failed && t.escaped?.isNone then [CommandLine.failedRecord t.input] else []

def errors (verbose : Bool) (t : Turn) : String :=
  CommandLine.shownLines verbose t.records ++ t.complaint

end Turn

/-- The turns that files get. -/
def turns (pandoc : Pandoc) (arguments : Arguments) : List String → Workspace → List Turn
  | [], _ => []
  | input :: rest, w =>
    let t := Turn.take pandoc arguments input w
    t :: if t.escaped?.isNone then turns pandoc arguments rest t.after else []

section

variable (pandoc : Pandoc) (arguments : Arguments)

theorem shownLines_append (verbose : Bool) (rs rs' : List LogRecord) :
    CommandLine.shownLines verbose (rs ++ rs') =
      CommandLine.shownLines verbose rs ++ CommandLine.shownLines verbose rs' := by
  simp [CommandLine.shownLines]

theorem step_eq (input : String) (r : Run) :
    let t := Turn.take pandoc arguments input r.workspace
    CommandLine.step pandoc arguments input r =
      (t.escaped?.elim (.ok ()) .error,
        ⟨t.after, r.standardOutput ++ t.output, r.standardError ++ t.errors arguments.verbose,
          if t.failed && t.escaped?.isNone then 1 else r.exitCode⟩) := by
  intro t
  rcases hc : convertFile pandoc ⟨arguments.css⟩ input arguments.output
    { r.workspace with session := { r.workspace.session with logs := [] } } with ⟨result, after⟩
  have ht : t = ⟨input, r.workspace, result, after⟩ := by simp only [t, Turn.take, hc]
  rw [ht]
  simp only [CommandLine.step, hc]
  cases result with
  | ok path =>
    simp [Turn.escaped?, Turn.output, Turn.errors, Turn.records, Turn.complaint, Turn.failed,
      String.append_assoc]
  | error f =>
    cases hf : f.report? with
    | none =>
      simp [Turn.escaped?, Turn.output, Turn.errors, Turn.records, Turn.complaint, Turn.failed, hf]
    | some message =>
      simp [Turn.escaped?, Turn.output, Turn.errors, Turn.records, Turn.complaint, Turn.failed, hf,
        shownLines_append, String.append_assoc]

theorem lastAfter_cons (t : Turn) (ts : List Turn) (w : Workspace) :
    ((t :: ts).getLast?.map Turn.after).getD w = (ts.getLast?.map Turn.after).getD t.after := by
  cases hl : ts.getLast? <;> simp [List.getLast?_cons, hl]

theorem lastAfter_append (before : List Turn) (t : Turn) (ts : List Turn) (w : Workspace) :
    ((before ++ t :: ts).getLast?.map Turn.after).getD w =
      (ts.getLast?.map Turn.after).getD t.after := by
  induction before generalizing w with
  | nil => exact lastAfter_cons t ts w
  | cons u rest ih =>
    rw [List.cons_append, lastAfter_cons]
    exact ih u.after

theorem convertAll_eq (inputs : List String) (r : Run) :
    let ts := turns pandoc arguments inputs r.workspace
    CommandLine.convertAll pandoc arguments inputs r =
      ⟨(ts.findSome? Turn.escaped?).elim (.ok (if ts.any Turn.failed then 1 else r.exitCode)) .error,
        r.standardOutput ++ String.join (ts.map Turn.output),
        r.standardError ++ String.join (ts.map (Turn.errors arguments.verbose)),
        (ts.getLast?.map Turn.after).getD r.workspace⟩ := by
  induction inputs generalizing r with
  | nil => simp [turns, CommandLine.convertAll]
  | cons input rest ih =>
    have hs := step_eq pandoc arguments input r
    rw [turns]
    generalize Turn.take pandoc arguments input r.workspace = t at hs
    cases he : t.escaped? with
    | some f => simp [CommandLine.convertAll, hs, he]
    | none =>
      simp only [CommandLine.convertAll, hs, he, Option.elim_none, ih, Option.isNone_none,
        if_true, Bool.and_true]
      generalize turns pandoc arguments rest t.after = ts
      have hcode : (if ts.any Turn.failed then 1 else if t.failed then 1 else r.exitCode) =
          if (t :: ts).any Turn.failed then 1 else r.exitCode := by
        rw [List.any_cons]
        cases t.failed <;> cases ts.any Turn.failed <;> rfl
      rw [hcode, ← lastAfter_cons t ts r.workspace]
      simp [he, String.append_assoc]

theorem run_eq {words : List String} (files : FileTree)
    (h : Arguments.parse words = .ok arguments) :
    let ts := turns pandoc arguments arguments.inputs ⟨files, .empty⟩
    CommandLine.run pandoc words files =
      ⟨(ts.findSome? Turn.escaped?).elim (.ok (if ts.any Turn.failed then 1 else 0)) .error,
        String.join (ts.map Turn.output), String.join (ts.map (Turn.errors arguments.verbose)),
        (ts.getLast?.map Turn.after).getD ⟨files, .empty⟩⟩ := by
  simp [CommandLine.run, h, convertAll_eq]

theorem turns_inputs (inputs : List String) (w : Workspace) :
    (turns pandoc arguments inputs w).map Turn.input <+: inputs := by
  induction inputs generalizing w with
  | nil => exact List.nil_prefix
  | cons input rest ih =>
    rw [turns, List.map_cons]
    refine List.cons_prefix_cons.mpr ⟨rfl, ?_⟩
    split_ifs
    · exact ih _
    · exact List.nil_prefix

/-- Only the last turn can end the program, and without such a turn every file has its own. -/
theorem turns_escaped (inputs : List String) (w : Workspace) :
    let ts := turns pandoc arguments inputs w
    (∀ t ∈ ts, ∀ f, t.escaped? = some f →
        ts.getLast? = some t ∧ ts.findSome? Turn.escaped? = some f) ∧
      ((∀ t ∈ ts, t.escaped? = none) → ts.map Turn.input = inputs) := by
  induction inputs generalizing w with
  | nil => simp [turns]
  | cons input rest ih =>
    rw [turns]
    have hi : (Turn.take pandoc arguments input w).input = input := rfl
    generalize Turn.take pandoc arguments input w = t at hi
    cases he : t.escaped? with
    | some f => simp [he]
    | none =>
      obtain ⟨hlast, hall⟩ := ih t.after
      rw [Option.isNone_none, if_pos rfl]
      refine ⟨fun u hu f hf => ?_, fun h => ?_⟩
      · rcases List.mem_cons.mp hu with rfl | hu
        · rw [he] at hf
          cases hf
        · obtain ⟨hl, hs⟩ := hlast u hu f hf
          exact ⟨by rw [List.getLast?_cons, hl]; rfl, by rw [List.findSome?_cons, he]; exact hs⟩
      · rw [List.map_cons, hi, hall fun u hu => h u (List.mem_cons_of_mem _ hu)]

variable {pandoc} {arguments}

theorem turns_mem {inputs : List String} {w : Workspace} {t : Turn}
    (h : t ∈ turns pandoc arguments inputs w) :
    t.input ∈ inputs ∧ t = Turn.take pandoc arguments t.input t.before := by
  induction inputs generalizing w with
  | nil => cases h
  | cons input rest ih =>
    rw [turns] at h
    rcases List.mem_cons.mp h with rfl | h
    · exact ⟨List.mem_cons_self, rfl⟩
    · split_ifs at h
      · obtain ⟨hi, ht⟩ := ih h
        exact ⟨List.mem_cons_of_mem _ hi, ht⟩
      · cases h

end

/-! ### The path of a document -/

namespace FilePath

theorem withSuffix_eq {p target : FilePath} {suffix : String}
    (h : p.withSuffix? suffix = some target) :
    ∃ name ∈ p.names, target =
      { p with names := p.names.dropLast ++ [String.ofList (stem name.toList) ++ suffix] } := by
  obtain ⟨name, hn, rfl⟩ := Option.map_eq_some_iff.mp h
  exact ⟨name, List.mem_of_getLast? hn, rfl⟩

/-- The document of a file stands in the same directory. -/
theorem parent_withSuffix {p target : FilePath} {suffix : String}
    (h : p.withSuffix? suffix = some target) : target.parent = p.parent := by
  obtain ⟨name, -, rfl⟩ := withSuffix_eq h
  simp [parent]

theorem withSuffix_of_names {p : FilePath} (h : p.names ≠ []) (suffix : String) :
    ∃ target, p.withSuffix? suffix = some target :=
  ⟨_, by rw [withSuffix?, List.getLast?_eq_some_getLast h]; rfl⟩

end FilePath

theorem outputPath_none (p : FilePath) : Convert.outputPath p none =
    ((p.withSuffix? ".html").map Except.ok).getD (.error (.noName p)) := by
  cases h : p.withSuffix? ".html" <;> simp [Convert.outputPath, h]

/-! ### The words of a command line -/

namespace Arguments

/-- The flags that take no value. -/
def switches : List String := ["--css", "-v", "--verbose"]

/-- The word that a switch or a file's name is. -/
def wordFor (text : String) : Word :=
  if text = "--css" then .long .css none
  else if text = "-v" then .group ['v']
  else if text = "--verbose" then .long .verbose none
  else .plain text

theorem wordOf_switch {text : String} (h : text ∈ switches) :
    wordOf text = .ok (wordFor text) ∧ text ≠ "--" := by
  simp only [switches, List.mem_cons, List.not_mem_nil, or_false] at h
  rcases h with rfl | rfl | rfl
  · exact ⟨rfl, by decide⟩
  · exact ⟨rfl, by decide⟩
  · exact ⟨rfl, by decide⟩

theorem wordOf_plain {text : String} (h : text.toList.head? ≠ some '-') :
    wordOf text = .ok (wordFor text) ∧ wordFor text = .plain text ∧ text ≠ "--" := by
  have hc : text ≠ "--css" ∧ text ≠ "-v" ∧ text ≠ "--verbose" ∧ text ≠ "--" := by
    refine ⟨?_, ?_, ?_, ?_⟩ <;> rintro rfl <;> exact h rfl
  have hw : wordFor text = .plain text := by simp [wordFor, hc]
  refine ⟨?_, hw, hc.2.2.2⟩
  rw [hw]
  unfold wordOf
  split
  · rename_i ht
    simp [ht] at h
  · rename_i ht
    simp [ht] at h
  · rfl

theorem wordsOf_eq {texts : List String}
    (h : ∀ text ∈ texts, wordOf text = .ok (wordFor text) ∧ text ≠ "--") :
    wordsOf texts = .ok (texts.map wordFor) := by
  induction texts with
  | nil => rfl
  | cons text rest ih =>
    obtain ⟨hw, hn⟩ := h text List.mem_cons_self
    simp [wordsOf, hn, hw, ih fun u hu => h u (List.mem_cons_of_mem _ hu), bind, Except.bind, pure,
      Except.pure]

namespace Reading

theorem words_append (ws ws' : List Word) (r : Reading) :
    words (ws ++ ws') r = (words ws r).bind (words ws') := by
  induction ws generalizing r with
  | nil => rfl
  | cons w rest ih =>
    simp only [List.cons_append, words]
    cases r.word w with
    | ok r => exact ih r
    | error stop => rfl

theorem words_plain (inputs : List String) {r : Reading} (hp : r.pending = none)
    (hc : r.closed = false) :
    words (inputs.map .plain) r = .ok { r with inputs := r.inputs ++ inputs } := by
  induction inputs generalizing r with
  | nil => simp [words]
  | cons input rest ih =>
    have hr : r.plain input = { r with inputs := r.inputs ++ [input] } := by simp [plain, hp, hc]
    simp only [List.map_cons, words, word, hr]
    rw [ih (r := { r with inputs := r.inputs ++ [input] }) hp hc]
    simp

/-- What the switches of a command line say. -/
def switched (texts : List String) (r : Reading) : Reading :=
  { r with css := r.css || texts.contains "--css"
           verbose := r.verbose || texts.any (· != "--css") }

theorem switched_switched (texts texts' : List String) (r : Reading) :
    switched texts' (switched texts r) = switched (texts ++ texts') r := by
  simp [switched, Bool.or_assoc]

@[simp]
theorem close_switched (texts : List String) (r : Reading) :
    (switched texts r).close = switched texts r.close := rfl

@[simp]
theorem close_close (r : Reading) : r.close.close = r.close := by
  simp [close]

theorem word_switch {text : String} (h : text ∈ switches) {r : Reading} (hp : r.pending = none) :
    r.word (wordFor text) = .ok (switched [text] r.close) := by
  simp only [switches, List.mem_cons, List.not_mem_nil, or_false] at h
  rcases h with rfl | rfl | rfl
  · simp [wordFor, word, hp, raise, switched]
  · simp [wordFor, word, hp, groupFlags, Flag.ofLetter?, Flag.all, Flag.letter?, raiseAll, raise,
      switched, Flag.takesValue, Except.bind]
  · simp [wordFor, word, hp, raise, switched]

theorem words_switches {texts : List String} (h : ∀ text ∈ texts, text ∈ switches) {r : Reading}
    (hp : r.pending = none) :
    words (texts.map wordFor) r = .ok (switched texts (if texts = [] then r else r.close)) := by
  induction texts generalizing r with
  | nil => simp [words, switched]
  | cons text rest ih =>
    rw [List.map_cons, words, word_switch (h text List.mem_cons_self) hp]
    have hrest := ih (r := switched [text] r.close) (fun u hu => h u (List.mem_cons_of_mem _ hu)) hp
    simp only [hrest, close_switched, close_close, ite_self, switched_switched, reduceCtorEq,
      if_false, List.singleton_append]

end Reading

/-- Files without a hyphen in front are the inputs, with switches before and behind them. -/
theorem parse_inputs {front inputs back : List String} (hf : ∀ text ∈ front, text ∈ switches)
    (hb : ∀ text ∈ back, text ∈ switches) (hn : inputs ≠ [])
    (hi : ∀ input ∈ inputs, input.toList.head? ≠ some '-') :
    parse (front ++ inputs ++ back) =
      .ok ⟨inputs, none, (front ++ back).contains "--css", (front ++ back).any (· != "--css")⟩ := by
  have hw : wordsOf (front ++ inputs ++ back) = .ok ((front ++ inputs ++ back).map wordFor) := by
    refine wordsOf_eq fun text ht => ?_
    rw [List.mem_append, List.mem_append] at ht
    rcases ht with (ht | ht) | ht
    · exact wordOf_switch (hf text ht)
    · exact ⟨(wordOf_plain (hi text ht)).1, (wordOf_plain (hi text ht)).2.2⟩
    · exact wordOf_switch (hb text ht)
  have hp : inputs.map wordFor = inputs.map .plain :=
    List.map_congr_left fun text ht => (wordOf_plain (hi text ht)).2.1
  have hfront : Reading.words (front.map wordFor) .start = .ok (Reading.switched front .start) := by
    rw [Reading.words_switches hf rfl, show Reading.start.close = Reading.start from rfl, ite_self]
  have hinputs := Reading.words_plain inputs (r := Reading.switched front .start) rfl rfl
  obtain ⟨r, hr⟩ : ∃ r, r = { Reading.switched front .start with
    inputs := (Reading.switched front .start).inputs ++ inputs } := ⟨_, rfl⟩
  rw [← hr] at hinputs
  have hback := Reading.words_switches hb (r := r) (by rw [hr]; rfl)
  have hread : Reading.words ((front ++ inputs ++ back).map wordFor) .start =
      .ok (Reading.switched back (if back = [] then r else r.close)) := by
    rw [List.map_append, List.map_append, Reading.words_append, Reading.words_append, hfront, hp,
      Except.bind, hinputs, Except.bind, hback]
  have hfinish : (Reading.switched back (if back = [] then r else r.close)).finish =
      .ok ⟨inputs, none, (front ++ back).contains "--css", (front ++ back).any (· != "--css")⟩ := by
    by_cases hb : back = []
    · simp [hb, hr, hn, Reading.finish, Reading.switched, Reading.start]
    · simp [hb, hr, hn, Reading.finish, Reading.switched, Reading.start, Reading.close]
  simp only [parse, hw, bind, Except.bind, hread, hfinish]

end Arguments

end CmsMarkup
