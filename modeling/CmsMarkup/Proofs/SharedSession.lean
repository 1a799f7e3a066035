import CmsMarkup.Render
import Mathlib.Data.List.DropRight

/-! A session that lookups, renders and clearings of its switch share. Nothing but the switch goes
over from one to the next, and it is that of the first version found since the last clearing. -/

namespace CmsMarkup

open Pandoc (Switch Request)

namespace Session

/-! ### Steps -/

/-- A use of a session. Each finds a Pandoc of its own. -/
inductive Step where
  | clear
  | lookup (pandoc : Pandoc)
  | render (pandoc : Pandoc) (text : String)

inductive Outcome where
  | cleared
  | switch (result : Except RenderFault Switch)
  | body (result : Except RenderFault String)

/-- A step, what came of it, and the session that it left. -/
structure Taken where
  step : Step
  outcome : Outcome
  after : Session

namespace Step

def isClear : Step → Bool
  | .clear => true
  | _ => false

/-- Takes a step. Only its own requests are counted. -/
def take (step : Step) (s : Session) : Taken :=
  let s := { s with requests := [], logs := [] }
  match step with
  | .clear => ⟨step, .cleared, { s with switch := none }⟩
  | .lookup pandoc =>
    let (result, after) := Render.switch pandoc s
    ⟨step, .switch result, after⟩
  | .render pandoc text =>
    let (result, after) := CmsMarkup.render pandoc text s
    ⟨step, .body result, after⟩

end Step

def run : List Step → Session → List Taken
  | [], _ => []
  | step :: rest, s => step.take s :: run rest (step.take s).after

/-! ### What Pandoc was asked -/

/-- Requests after earlier ones, with their answers. -/
def exchanges (pandoc : Pandoc) : List Request → List Request →
    List (Request × Except Pandoc.Fault String)
  | _, [] => []
  | earlier, request :: rest =>
    (request, pandoc earlier request) :: exchanges pandoc (earlier ++ [request]) rest

/-- The version that an exchange has found: it is given, and its numbers can be read. -/
def foundIn? : Request × Except Pandoc.Fault String → Option String
  | (.version, .ok version) => if (Pandoc.longNumber? version).isNone then some version else none
  | _ => none

def isVersion : Request → Bool
  | .version => true
  | _ => false

namespace Taken

def exchanges (t : Taken) : List (Request × Except Pandoc.Fault String) :=
  match t.step with
  | .clear => []
  | .lookup pandoc => Session.exchanges pandoc [] t.after.requests
  | .render pandoc _ => Session.exchanges pandoc [] t.after.requests

/-- The version that was found in a step. -/
def version? (t : Taken) : Option String := t.exchanges.findSome? foundIn?

end Taken

def sinceClear (earlier : List Taken) : List Taken := earlier.rtakeWhile fun t => !t.step.isClear

/-- The first version that was found since the last clearing. -/
def known? (earlier : List Taken) : Option String := (sinceClear earlier).findSome? Taken.version?

/-! ### Renders before and after the lookup -/

/-- What a render has when it comes to look up the switch. -/
structure Prepared where
  frontMatter : FrontMatter
  markdown : String
  title : CodeText
  marked : Json
  logs : List LogRecord

def prepared? (pandoc : Pandoc) (text : String) : Option Prepared :=
  match FrontMatter.extract text.toList with
  | .error _ => none
  | .ok extracted =>
    match pandoc [] (.read (String.ofList extracted.body)) with
    | .error _ => none
    | .ok answer =>
      match Json.parse answer with
      | .error _ => none
      | .ok tree =>
        match Pandoc.title tree, Pandoc.markDocument tree with
        | .ok title, .ok marked =>
          some ⟨extracted.frontMatter, String.ofList extracted.body, title, marked,
            extracted.logs ++ [Render.treeRecord tree]⟩
        | _, _ => none

def Step.reaches : Step → Bool
  | .clear => false
  | .lookup _ => true
  | .render pandoc text => (prepared? pandoc text).isSome

/-- The body of a render, given Pandoc's answer to its last request. -/
def bodyOf : Except Pandoc.Fault String → Except RenderFault String
  | .error f => .error (Render.conversionFault Pandoc.treeFormat Pandoc.htmlFormat f)
  | .ok html =>
    match Html.parse html with
    | .error r => .error (.markup r)
    | .ok nodes => .ok (Html.print (postprocess nodes).1)

def bodyLogs : Except Pandoc.Fault String → List LogRecord
  | .error _ => []
  | .ok html =>
    match Html.parse html with
    | .error _ => []
    | .ok nodes => (postprocess nodes).2

/-- The rest of a render, after the lookup. -/
def finish (pandoc : Pandoc) (marked : Json) :
    Except RenderFault Switch × Session → Except RenderFault String × Session
  | (.error f, s) => (.error f, s)
  | (.ok found, s) =>
    let answer := pandoc s.requests (.write found.written marked)
    (bodyOf answer, { s with
      requests := s.requests ++ [.write found.written marked], logs := s.logs ++ bodyLogs answer })

section

variable {pandoc : Pandoc} {text : String} {s : Session}

theorem lower_of_marked {tree marked : Json} (hm : Pandoc.markDocument tree = .ok marked) :
    (match Render.lower pandoc tree s with
      | (.error f, s) => (.error f, s)
      | (.ok nodes, s) => (.ok (Html.print (postprocess nodes).1), s.logAll (postprocess nodes).2)) =
      finish pandoc marked (Render.switch pandoc s) := by
  simp only [Render.lower, hm]
  rcases Render.switch pandoc s with ⟨f | found, u⟩
  · rfl
  · simp only [Session.ask, finish]
    cases pandoc u.requests (.write found.written marked) with
    | error f => simp [bodyOf, bodyLogs]
    | ok html =>
      cases hp : Html.parse html with
      | error r => simp [bodyOf, bodyLogs, hp]
      | ok nodes => simp [bodyOf, bodyLogs, hp, Session.logAll]

theorem prepared?_eq_some_iff {p : Prepared} : prepared? pandoc text = some p ↔
    ∃ extracted answer tree title marked, FrontMatter.extract text.toList = .ok extracted ∧
      pandoc [] (.read (String.ofList extracted.body)) = .ok answer ∧
      Json.parse answer = .ok tree ∧ Pandoc.title tree = .ok title ∧
      Pandoc.markDocument tree = .ok marked ∧
      p = ⟨extracted.frontMatter, String.ofList extracted.body, title, marked,
        extracted.logs ++ [Render.treeRecord tree]⟩ := by
  constructor
  · intro h
    unfold prepared? at h
    split at h
    · cases h
    · rename_i extracted he
      split at h
      · cases h
      · rename_i answer ha
        split at h
        · cases h
        · rename_i tree hj
          split at h
          · rename_i title marked ht hm
            exact ⟨extracted, answer, tree, title, marked, he, ha, hj, ht, hm,
              (Option.some.inj h).symm⟩
          · cases h
  · rintro ⟨extracted, answer, tree, title, marked, he, ha, hj, ht, hm, rfl⟩
    simp only [prepared?, he, ha, hj, ht, hm]

theorem prepared?_congr {pandoc' : Pandoc} {p : Prepared} (hp : prepared? pandoc text = some p)
    (h : pandoc' [] (.read p.markdown) = pandoc [] (.read p.markdown)) :
    prepared? pandoc' text = some p := by
  rw [prepared?_eq_some_iff] at hp ⊢
  obtain ⟨extracted, answer, tree, title, marked, he, ha, hj, ht, hm, rfl⟩ := hp
  exact ⟨extracted, answer, tree, title, marked, he, h.trans ha, hj, ht, hm, rfl⟩

theorem render_of_prepared {p : Prepared} (hs : s.requests = [])
    (hp : prepared? pandoc text = some p) :
    render pandoc text s = finish pandoc p.marked (Render.switch pandoc
      ⟨some p.frontMatter, some p.title, s.switch, [.read p.markdown], s.logs ++ p.logs⟩) := by
  obtain ⟨extracted, answer, tree, title, marked, he, ha, hj, ht, hm, rfl⟩ :=
    prepared?_eq_some_iff.mp hp
  simp only [render, he, Render.body, Render.readTree, Session.ask, Session.logAll, hs,
    List.nil_append, ha, hj, ht]
  rw [← lower_of_marked hm, ← List.append_assoc]
  rfl

theorem render_of_unprepared (hs : s.requests = []) (hp : prepared? pandoc text = none) :
    ∃ f s', render pandoc text s = (.error f, s') ∧ s'.switch = s.switch ∧
      ∀ r ∈ s'.requests, ∃ markdown, r = .read markdown := by
  cases he : FrontMatter.extract text.toList with
  | error f => simp [render, he, hs]
  | ok extracted =>
    cases ha : pandoc [] (.read (String.ofList extracted.body)) with
    | error f => simp [render, he, Render.body, Render.readTree, Session.ask, Session.logAll, hs, ha]
    | ok answer =>
      cases hj : Json.parse answer with
      | error f =>
        simp [render, he, Render.body, Render.readTree, Session.ask, Session.logAll, hs, ha, hj]
      | ok tree =>
        simp only [render, he, Render.body, Render.readTree, Session.ask, Session.logAll, hs,
          List.nil_append, ha, hj]
        cases ht : Pandoc.title tree with
        | error f => simp
        | ok title =>
          cases hm : Pandoc.markDocument tree with
          | error f => simp [Render.lower, hm, Session.log]
          | ok marked =>
            have hsome := prepared?_eq_some_iff.mpr
              ⟨extracted, answer, tree, title, marked, he, ha, hj, ht, hm, rfl⟩
            rw [hp] at hsome
            cases hsome

/-! ### One step -/

/-- A lookup, with the switch that it finds, what it asks, and the switch that it leaves. -/
inductive Looked (pandoc : Pandoc) (earlier : List Request) :
    Option Switch → List Request → Option Switch → Prop
  | remembered (found : Switch) : Looked pandoc earlier (some found) [] (some found)
  | answered {version : String} (answer : pandoc earlier .version = .ok version)
      (readable : Pandoc.longNumber? version = none) :
      Looked pandoc earlier none [.version] (some (Switch.of version))
  | unreadable {version : String} {digits : Nat} (answer : pandoc earlier .version = .ok version)
      (long : Pandoc.longNumber? version = some digits) : Looked pandoc earlier none [.version] none
  | failed {f : Pandoc.Fault} (answer : pandoc earlier .version = .error f) :
      Looked pandoc earlier none [.version] none

theorem switch_looked (pandoc : Pandoc) (s : Session) :
    ∃ asked r u, Render.switch pandoc s = (r, u) ∧
      Looked pandoc s.requests s.switch asked u.switch ∧ u.requests = s.requests ++ asked ∧
      u.frontMatter = s.frontMatter ∧ u.title = s.title ∧
      ∀ found, r = .ok found → u.switch = some found := by
  obtain ⟨frontMatter, title, remembered, requests, logs⟩ := s
  cases remembered with
  | some found =>
    exact ⟨[], .ok found, _, rfl, .remembered found, (List.append_nil _).symm, rfl, rfl,
      fun _ h => congrArg some (Except.ok.inj h)⟩
  | none =>
    cases ha : pandoc requests .version with
    | ok version =>
      cases hl : Pandoc.longNumber? version with
      | none =>
        have hu : Render.switch pandoc ⟨frontMatter, title, none, requests, logs⟩ =
            (.ok (Switch.of version), ⟨frontMatter, title, some (Switch.of version),
              requests ++ [.version], logs ++ [Render.switchRecord version (Switch.of version)]⟩) := by
          simp [Render.switch, Session.ask, ha, hl, Session.log]
        exact ⟨[.version], _, _, hu, .answered ha hl, rfl, rfl, rfl,
          fun _ h => congrArg some (Except.ok.inj h)⟩
      | some digits =>
        have hu : Render.switch pandoc ⟨frontMatter, title, none, requests, logs⟩ =
            (.error (.version digits), ⟨frontMatter, title, none, requests ++ [.version], logs⟩) := by
          simp [Render.switch, Session.ask, ha, hl]
        exact ⟨[.version], _, _, hu, .unreadable ha hl, rfl, rfl, rfl, nofun⟩
    | error f =>
      have hu : Render.switch pandoc ⟨frontMatter, title, none, requests, logs⟩ =
          (.error (Render.versionFault f),
            ⟨frontMatter, title, none, requests ++ [.version], logs⟩) := by
        simp [Render.switch, Session.ask, ha]
      exact ⟨[.version], _, _, hu, .failed ha, rfl, rfl, rfl, nofun⟩

/-- What a step asks, if it comes to look up the switch and if not. -/
inductive Course (pandoc : Pandoc) : Bool → Option Switch → List Request → Option Switch → Prop
  | unreached {before : Option Switch} {reads : List Request}
      (hreads : ∀ r ∈ reads, ∃ markdown, r = .read markdown) :
      Course pandoc false before reads before
  | reached {before after : Option Switch} {reads asked writes : List Request}
      (hreads : ∀ r ∈ reads, ∃ markdown, r = .read markdown)
      (looked : Looked pandoc reads before asked after)
      (hwrites : ∀ r ∈ writes, ∃ tree found, r = .write (Switch.written found) tree ∧ after = some found) :
      Course pandoc true before (reads ++ asked ++ writes) after

theorem switch_course (hs : s.requests = []) :
    Course pandoc true s.switch (Render.switch pandoc s).2.requests
      (Render.switch pandoc s).2.switch := by
  obtain ⟨asked, r, u, hu, hl, hr, -⟩ := switch_looked pandoc s
  rw [hs] at hl hr
  have hc : Course pandoc true s.switch ([] ++ asked ++ []) u.switch :=
    .reached (by simp) hl (by simp)
  rwa [hu, hr, ← List.append_nil ([] ++ asked)]

theorem render_course (hs : s.requests = []) :
    Course pandoc (prepared? pandoc text).isSome s.switch (render pandoc text s).2.requests
      (render pandoc text s).2.switch := by
  cases hp : prepared? pandoc text with
  | none =>
    obtain ⟨f, s', hr, hw, hreads⟩ := render_of_unprepared hs hp
    rw [hr]
    dsimp only
    rw [hw]
    exact .unreached hreads
  | some p =>
    rw [render_of_prepared hs hp]
    obtain ⟨asked, r, u, hu, hl, hr, -, -, hf⟩ := switch_looked pandoc
      ⟨some p.frontMatter, some p.title, s.switch, [.read p.markdown], s.logs ++ p.logs⟩
    rw [hu]
    cases r with
    | error f =>
      have hc : Course pandoc true s.switch ([.read p.markdown] ++ asked ++ []) u.switch :=
        .reached (by simp) hl (by simp)
      rwa [List.append_nil, ← hr] at hc
    | ok found =>
      have hc : Course pandoc true s.switch
          ([.read p.markdown] ++ asked ++ [.write found.written p.marked]) u.switch :=
        .reached (by simp) hl (by simp [hf found rfl])
      rwa [← hr] at hc

theorem exchanges_append (pandoc : Pandoc) (earlier requests more : List Request) :
    exchanges pandoc earlier (requests ++ more) =
      exchanges pandoc earlier requests ++ exchanges pandoc (earlier ++ requests) more := by
  induction requests generalizing earlier with
  | nil => simp [exchanges]
  | cons r rest ih => simp [exchanges, ih]

theorem findSome?_foundIn?_eq_none {requests : List Request} (earlier : List Request)
    (h : ∀ r ∈ requests, r ≠ .version) :
    (exchanges pandoc earlier requests).findSome? foundIn? = none := by
  induction requests generalizing earlier with
  | nil => rfl
  | cons r rest ih =>
    rw [List.forall_mem_cons] at h
    have hr : foundIn? (r, pandoc earlier r) = none := by
      cases r with
      | version => exact absurd rfl h.1
      | read => rfl
      | write => rfl
    rw [exchanges, List.findSome?_cons, hr]
    exact ih _ h.2

theorem ne_version_of_reads {reads : List Request}
    (h : ∀ r ∈ reads, ∃ markdown, r = .read markdown) : ∀ r ∈ reads, r ≠ .version := by
  intro r hr
  obtain ⟨markdown, rfl⟩ := h r hr
  nofun

theorem ne_version_of_writes {writes : List Request} {after : Option Switch}
    (h : ∀ r ∈ writes, ∃ tree found, r = .write (Switch.written found) tree ∧ after = some found) :
    ∀ r ∈ writes, r ≠ .version := by
  intro r hr
  obtain ⟨tree, found, rfl, -⟩ := h r hr
  nofun

theorem countP_isVersion_eq_zero {requests : List Request} (h : ∀ r ∈ requests, r ≠ .version) :
    requests.countP isVersion = 0 := by
  rw [List.countP_eq_zero]
  intro r hr
  cases r with
  | version => exact absurd rfl (h _ hr)
  | read => exact Bool.false_ne_true
  | write => exact Bool.false_ne_true

section

variable {reaches : Bool} {before after : Option Switch} {requests : List Request}

theorem Looked.switch {earlier asked : List Request} (h : Looked pandoc earlier before asked after) :
    after =
      before.or (((exchanges pandoc earlier asked).findSome? foundIn?).map Switch.of) := by
  cases h with
  | remembered found => rfl
  | answered answer readable => simp [exchanges, answer, foundIn?, readable]
  | unreadable answer long => simp [exchanges, answer, foundIn?, long]
  | failed answer => simp [exchanges, answer, foundIn?]

theorem Looked.countP {earlier asked : List Request} (h : Looked pandoc earlier before asked after) :
    asked.countP isVersion = if before.isNone then 1 else 0 := by
  cases h <;> rfl

theorem Looked.eq_version {earlier asked : List Request}
    (h : Looked pandoc earlier before asked after) {r : Request} (hr : r ∈ asked) : r = .version := by
  cases h with
  | remembered found => cases hr
  | answered => exact List.mem_singleton.mp hr
  | unreadable => exact List.mem_singleton.mp hr
  | failed => exact List.mem_singleton.mp hr

theorem Course.switch (h : Course pandoc reaches before requests after) :
    after = before.or (((exchanges pandoc [] requests).findSome? foundIn?).map Switch.of) := by
  cases h with
  | unreached hreads =>
    simp [findSome?_foundIn?_eq_none [] (ne_version_of_reads hreads)]
  | @reached before after reads asked writes hreads looked hwrites =>
    have hr : (exchanges pandoc [] reads).findSome? foundIn? = none :=
      findSome?_foundIn?_eq_none [] (ne_version_of_reads hreads)
    have hw (earlier : List Request) : (exchanges pandoc earlier writes).findSome? foundIn? = none :=
      findSome?_foundIn?_eq_none earlier (ne_version_of_writes hwrites)
    rw [exchanges_append, exchanges_append, List.findSome?_append, List.findSome?_append, hr, hw,
      Option.none_or, Option.or_none]
    exact looked.switch

theorem Course.countP (h : Course pandoc reaches before requests after) :
    requests.countP isVersion = if reaches && before.isNone then 1 else 0 := by
  cases h with
  | unreached hreads =>
    exact countP_isVersion_eq_zero (ne_version_of_reads hreads)
  | @reached before after reads asked writes hreads looked hwrites =>
    rw [List.countP_append, List.countP_append, looked.countP, Bool.true_and,
      countP_isVersion_eq_zero (ne_version_of_reads hreads),
      countP_isVersion_eq_zero (ne_version_of_writes hwrites)]
    omega

theorem Course.written (h : Course pandoc reaches before requests after) {arguments : List String}
    {tree : Json} (hm : .write arguments tree ∈ requests) :
    ∃ found, after = some found ∧ arguments = found.written := by
  cases h with
  | unreached hreads =>
    obtain ⟨_, hr⟩ := hreads _ hm
    cases hr
  | reached hreads looked hwrites =>
    rcases List.mem_append.mp hm with hm | hm
    · rcases List.mem_append.mp hm with hm | hm
      · obtain ⟨_, hr⟩ := hreads _ hm
        cases hr
      · cases looked.eq_version hm
    · obtain ⟨_, found, hr, ha⟩ := hwrites _ hm
      cases hr
      exact ⟨found, ha, rfl⟩

end

theorem take_step (step : Step) (s : Session) : (step.take s).step = step := by
  cases step <;> rfl

theorem take_outcome (pandoc : Pandoc) (text : String) (s : Session) :
    ((Step.render pandoc text).take s).outcome =
      .body (render pandoc text { s with requests := [], logs := [] }).1 := rfl

theorem take_switch (step : Step) (s : Session) :
    (step.take s).after.switch =
      if step.isClear then none else s.switch.or ((step.take s).version?.map Switch.of) := by
  cases step with
  | clear => rfl
  | lookup pandoc => exact (switch_course rfl).switch
  | render pandoc text => exact (render_course rfl).switch

theorem take_countP (step : Step) (s : Session) :
    (step.take s).after.requests.countP isVersion =
      if step.reaches && s.switch.isNone then 1 else 0 := by
  cases step with
  | clear => rfl
  | lookup pandoc => exact (switch_course rfl).countP
  | render pandoc text => exact (render_course rfl).countP

theorem take_written {step : Step} {s : Session} {arguments : List String} {tree : Json}
    (h : .write arguments tree ∈ (step.take s).after.requests) :
    ∃ found, (step.take s).after.switch = some found ∧ arguments = found.written := by
  cases step with
  | clear => cases h
  | lookup pandoc => exact (switch_course rfl).written h
  | render pandoc text => exact (render_course rfl).written h

theorem take_looked {step : Step} {s : Session} {found : Switch}
    (h : (step.take s).outcome = .switch (.ok found)) :
    (step.take s).after.switch = some found := by
  cases step with
  | clear => cases h
  | lookup pandoc =>
    obtain ⟨_, r, u, hu, _, _, _, _, hf⟩ :=
      switch_looked pandoc { s with requests := [], logs := [] }
    simp only [Step.take, hu, Outcome.switch.injEq] at h ⊢
    exact hf found h
  | render pandoc text => cases h

theorem take_rendered {s : Session} {body : String}
    (h : ((Step.render pandoc text).take s).outcome = .body (.ok body)) :
    ∃ found, ((Step.render pandoc text).take s).after.switch = some found ∧
      ∀ pandoc' : Pandoc, (∀ e ∈ ((Step.render pandoc text).take s).exchanges, e.1 ≠ .version →
          ∀ others, pandoc' others e.1 = e.2) →
        ∃ s', render pandoc' text { empty with switch := some found } = (.ok body, s') ∧
          s'.frontMatter = ((Step.render pandoc text).take s).after.frontMatter ∧
          s'.title = ((Step.render pandoc text).take s).after.title := by
  cases hp : prepared? pandoc text with
  | none =>
    obtain ⟨f, s', hr, -⟩ :=
      render_of_unprepared (s := { s with requests := [], logs := [] }) rfl hp
    simp [Step.take, hr] at h
  | some p =>
    have hr := render_of_prepared (s := { s with requests := [], logs := [] }) rfl hp
    obtain ⟨asked, r, u, hu, -, hrequests, hfront, htitle, hfound⟩ := switch_looked pandoc
      ⟨some p.frontMatter, some p.title, s.switch, [.read p.markdown], [] ++ p.logs⟩
    dsimp only at hr
    rw [hu] at hr
    cases r with
    | error f => simp [Step.take, hr, finish] at h
    | ok found =>
      simp only [Step.take, hr, finish, Outcome.body.injEq, Taken.exchanges] at h ⊢
      refine ⟨found, hfound found rfl, fun pandoc' hsame => ?_⟩
      rw [hrequests, exchanges_append, exchanges_append] at hsame
      have hread : pandoc' [] (.read p.markdown) = pandoc [] (.read p.markdown) :=
        hsame (.read p.markdown, _) (by simp [exchanges]) nofun []
      have hwrite : pandoc' [.read p.markdown] (.write found.written p.marked) =
          pandoc u.requests (.write found.written p.marked) := by
        refine hsame (.write found.written p.marked, _) (List.mem_append_right _ ?_) nofun _
        simp [exchanges, hrequests]
      refine ⟨_, (render_of_prepared rfl (prepared?_congr hp hread)).trans (Prod.ext ?_ rfl),
        hfront.symm, htitle.symm⟩
      -- With the switch at hand there is no lookup, and the HTML is asked for at once.
      have hbody : bodyOf (pandoc' [.read p.markdown] (.write found.written p.marked)) = .ok body := by
        rw [hwrite, h]
      exact hbody

/-! ### A step and the ones before it -/

theorem known?_concat (earlier : List Taken) (t : Taken) :
    known? (earlier ++ [t]) = if t.step.isClear then none else (known? earlier).or t.version? := by
  cases hc : t.step.isClear with
  | true => simp [known?, sinceClear, hc]
  | false => simp [known?, sinceClear, hc, List.findSome?_append]

/-- What a step does after the ones before it: the version is asked for once if the switch is
needed and no version has been found since the last clearing, the switch that is kept and used
is that of the first one found, and a body comes out as it does in a session that has nothing
else. A version with a number that is too long to be read is not found. -/
structure Accounted (earlier : List Taken) (t : Taken) : Prop where
  asked : t.after.requests.countP isVersion =
    if t.step.reaches && (known? earlier).isNone then 1 else 0
  kept : t.after.switch = (known? (earlier ++ [t])).map Switch.of
  looked : ∀ found, t.outcome = .switch (.ok found) →
    (known? (earlier ++ [t])).map Switch.of = some found
  written : ∀ arguments tree, .write arguments tree ∈ t.after.requests →
    ∃ found, (known? (earlier ++ [t])).map Switch.of = some found ∧ arguments = found.written
  rendered : ∀ pandoc text body, t.step = .render pandoc text → t.outcome = .body (.ok body) →
    ∃ version, known? (earlier ++ [t]) = some version ∧
      ∀ pandoc' : Pandoc, (∀ e ∈ t.exchanges, e.1 ≠ .version → ∀ others, pandoc' others e.1 = e.2) →
        ∃ s, render pandoc' text { empty with switch := some (Switch.of version) } = (.ok body, s) ∧
          s.frontMatter = t.after.frontMatter ∧ s.title = t.after.title

theorem take_accounted {earlier : List Taken} {s : Session}
    (hs : s.switch = (known? earlier).map Switch.of) (step : Step) :
    Accounted earlier (step.take s) := by
  have hstep := take_step step s
  have hkept : (step.take s).after.switch = (known? (earlier ++ [step.take s])).map Switch.of := by
    rw [take_switch, known?_concat, hstep, hs]
    split_ifs
    · rfl
    · cases known? earlier <;> rfl
  refine ⟨?_, hkept, fun found h => ?_, fun arguments tree h => ?_, fun pandoc text body ht ho => ?_⟩
  · rw [take_countP, hstep, hs, Option.isNone_map]
  · rw [← hkept]
    exact take_looked h
  · rw [← hkept]
    exact take_written h
  · rw [hstep] at ht
    subst ht
    obtain ⟨found, hf, hrender⟩ := take_rendered ho
    rw [hkept, Option.map_eq_some_iff] at hf
    obtain ⟨version, hv, rfl⟩ := hf
    exact ⟨version, hv, hrender⟩

theorem run_accounted_of_known {steps : List Step} {done earlier later : List Taken} {t : Taken}
    {s : Session} (hs : s.switch = (known? done).map Switch.of)
    (h : run steps s = earlier ++ t :: later) : Accounted (done ++ earlier) t := by
  induction steps generalizing done earlier s with
  | nil => simp [run] at h
  | cons step rest ih =>
    have hstep := take_accounted hs step
    cases earlier with
    | nil =>
      obtain ⟨rfl, -⟩ := List.cons.inj h
      rwa [List.append_nil]
    | cons e earlier =>
      obtain ⟨rfl, hrest⟩ := List.cons.inj h
      have hlater := ih hstep.kept hrest
      rwa [List.append_assoc, List.singleton_append] at hlater

end

end Session

/-- Any steps in one session that starts without a switch. -/
theorem run_accounted {steps : List Session.Step} {frontMatter : Option FrontMatter}
    {title : Option CodeText} {earlier later : List Session.Taken} {t : Session.Taken}
    (h : Session.run steps ⟨frontMatter, title, none, [], []⟩ = earlier ++ t :: later) :
    Session.Accounted earlier t := by
  have hfirst : (none : Option Switch) = (Session.known? []).map Switch.of := rfl
  exact Session.run_accounted_of_known hfirst h

def emptyDocument : Pandoc
  | _, .read _ => .ok "\x7b\"blocks\":[]\x7d"
  | _, .write _ _ => .ok "<p>x</p>"
  | _, .version => .ok "3.9"

theorem emptyDocument_answers {requests : List Request} (earlier : List Request) :
    ∀ e ∈ Session.exchanges emptyDocument earlier requests, ∀ others,
      emptyDocument others e.1 = e.2 := by
  induction requests generalizing earlier with
  | nil => nofun
  | cons r rest ih =>
    rw [Session.exchanges, List.forall_mem_cons]
    exact ⟨fun others => by cases r <;> rfl, ih _⟩

/-- The lookup that failed is made again, and the body is that of a session with the switch. -/
theorem run_accounted_after_failed_lookup :
    let gone : Pandoc := fun _ _ => .error (.system "gone")
    ∃ t s, Session.run [.lookup gone, .render emptyDocument "x"] .empty =
        [(Session.Step.lookup gone).take .empty] ++ t :: [] ∧
      t.after.requests.countP Session.isVersion = 1 ∧ t.after.switch = some .current ∧
      render emptyDocument "x" { Session.empty with switch := some .current } =
        (.ok "<p>x</p>", s) ∧ s.frontMatter = t.after.frontMatter ∧ s.title = t.after.title := by
  intro gone
  have hasked : ((Session.Step.render emptyDocument "x").reaches &&
      (Session.known? [(Session.Step.lookup gone).take .empty]).isNone) = true := by
    decide +kernel
  have hswitch : ((Session.Step.render emptyDocument "x").take
      ((Session.Step.lookup gone).take .empty).after).after.switch = some .current := by
    decide +kernel
  have hbody : (render emptyDocument "x"
      { ((Session.Step.lookup gone).take .empty).after with requests := [], logs := [] }).1 =
        .ok "<p>x</p>" := by
    decide +kernel
  have houtcome :=
    Session.take_outcome emptyDocument "x" ((Session.Step.lookup gone).take .empty).after
  rw [hbody] at houtcome
  have hstep := Session.take_step (.render emptyDocument "x")
    ((Session.Step.lookup gone).take .empty).after
  have h : Session.run [.lookup gone, .render emptyDocument "x"] .empty =
      [(Session.Step.lookup gone).take .empty] ++ (Session.Step.render emptyDocument "x").take
        ((Session.Step.lookup gone).take .empty).after :: [] := rfl
  -- left as it is, the text would be rendered again in every step below
  generalize (Session.Step.render emptyDocument "x").take
    ((Session.Step.lookup gone).take .empty).after = t at h hswitch houtcome hstep
  have hacc := run_accounted h
  obtain ⟨version, hv, hfresh⟩ := hacc.rendered emptyDocument "x" "<p>x</p>" hstep houtcome
  have hof : Switch.of version = .current := by
    have hkept := hacc.kept
    rw [hv, hswitch] at hkept
    exact (Option.some.inj hkept).symm
  have hanswers : ∀ e ∈ t.exchanges, ∀ others, emptyDocument others e.1 = e.2 := by
    rw [Session.Taken.exchanges, hstep]
    exact emptyDocument_answers []
  obtain ⟨s, hs, hfront, htitle⟩ := hfresh emptyDocument fun e he _ => hanswers e he
  rw [hof] at hs
  exact ⟨t, s, h, hacc.asked.trans (by rw [hstep, if_pos hasked]), hswitch, hs, hfront, htitle⟩

end CmsMarkup
