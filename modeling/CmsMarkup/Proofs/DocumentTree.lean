import CmsMarkup.Pandoc.FenceMark
import CmsMarkup.Pandoc.Title
import CmsMarkup.Proofs.DocumentShape

/-! Well-formed document trees can be read: the search for a title and the marks on code
blocks find in each element the shape they look for. -/

namespace CmsMarkup

theorem Json.induction {motive : Json → Prop} (null : motive .null)
    (bool : ∀ b, motive (.bool b)) (int : ∀ n, motive (.int n)) (real : ∀ t, motive (.real t))
    (string : ∀ s, motive (.string s))
    (array : ∀ items, (∀ v ∈ items, motive v) → motive (.array items))
    (object : ∀ members : List (CodeText × Json), (∀ m ∈ members, motive m.2) →
      motive (.object members)) (v : Json) : motive v := by
  refine @Json.rec motive (fun items => ∀ v ∈ items, motive v) (fun members => ∀ m ∈ members, motive m.2)
    (fun m => motive m.2) null bool int real string array object ?_ ?_ ?_ ?_ ?_ v
  · simp
  · intro v rest hv hrest
    exact List.forall_mem_cons.mpr ⟨hv, hrest⟩
  · simp
  · intro m rest hm hrest
    exact List.forall_mem_cons.mpr ⟨hm, hrest⟩
  · intro key v hv
    exact hv

namespace Pandoc

/-! ### The search for a heading -/

/-- Following a reach through a value of a shape leads to blocks. -/
inductive Reach.Leads : Reach → Shape → Prop
  | blocks : Leads .blocks .blocks
  | item {i : Nat} {r : Reach} {s : Shape} {ss : List Shape} (hs : ss[i]? = some s)
      (h : Leads r s) : Leads (.item i r) (.tuple ss)
  | each {r : Reach} {s : Shape} (h : Leads r s) : Leads (.each r) (.list s)
  | second {r : Reach} {s s' : Shape} (h : Leads r s) : Leads (.second r) (.tuple [s', s])

theorem reaches_leads {kind : String} {r : Reach} (h : reaches.lookup kind = some r) :
    ∃ s, Family.block.fields? kind = some [(.text "t", .text), (.text "c", s)] ∧ r.Leads s := by
  have hm := lookup_mem h
  simp only [reaches, List.mem_cons, Prod.mk.injEq, List.not_mem_nil, or_false] at hm
  rcases hm with ⟨rfl, rfl⟩ | ⟨rfl, rfl⟩ | ⟨rfl, rfl⟩ | ⟨rfl, rfl⟩ | ⟨rfl, rfl⟩ | ⟨rfl, rfl⟩
  · exact ⟨_, rfl, .blocks⟩
  · exact ⟨_, rfl, .item rfl .blocks⟩
  · exact ⟨_, rfl, .each .blocks⟩
  · exact ⟨_, rfl, .item rfl (.each .blocks)⟩
  · exact ⟨_, rfl, .each (.second (.each .blocks))⟩
  · exact ⟨_, rfl, .item rfl .blocks⟩

theorem searchItem_eq (r : Reach) (i : Nat) (items : List Json) :
    searchItem r i items = (items[i]?.map (search r)).getD (.error .tooShort) := by
  induction items generalizing i with
  | nil => rfl
  | cons v rest ih => cases i <;> simp [searchItem, ih]

theorem searchContent_eq (r : Reach) (members : List (CodeText × Json)) :
    searchContent r members = ((members.lookup (.text "c")).map (search r)).getD (.error .wrongType) := by
  induction members with
  | nil => rfl
  | cons m rest ih =>
    obtain ⟨key, v⟩ := m
    by_cases hk : key = "c"
    · subst hk
      simp [searchContent]
    · have hk' : ("c" == key) = false := by simpa using fun h : "c" = key => hk h.symm
      simp [searchContent, List.lookup_cons, hk, hk', ih]

/-- A search that reads all it comes to, and finds a well-formed heading if any. -/
def Search.Succeeds (found : Search) : Prop :=
  ∃ heading : Option (List (CodeText × Json)), found = .ok heading ∧
    ∀ members ∈ heading, kindOf? members = some "Header" ∧
      fits (.element .block) (.object members) = true

theorem Search.Succeeds.nothing : Search.Succeeds (.ok none) := ⟨none, rfl, by simp⟩

/-- The first of several searches that does not end without a heading. -/
def firstFound : List Search → Search
  | [] => .ok none
  | .ok none :: rest => firstFound rest
  | found :: _ => found

theorem searchEach_eq (r : Reach) (items : List Json) :
    searchEach r items = firstFound (items.map (search r)) := by
  induction items with
  | nil => rfl
  | cons v rest ih =>
    simp only [searchEach, List.map_cons, ih]
    rcases search r v with f | ⟨_ | members⟩ <;> rfl

theorem searchBlocks_eq (items : List Json) :
    searchBlocks items = firstFound (items.map searchBlock) := by
  induction items with
  | nil => rfl
  | cons v rest ih =>
    simp only [searchBlocks, List.map_cons, ih]
    rcases searchBlock v with f | ⟨_ | members⟩ <;> rfl

theorem firstFound_succeeds {searches : List Search} (h : ∀ found ∈ searches, found.Succeeds) :
    (firstFound searches).Succeeds := by
  induction searches with
  | nil => exact .nothing
  | cons found rest ih =>
    obtain ⟨heading, rfl, hh⟩ := h found List.mem_cons_self
    cases heading with
    | none => exact ih fun f hf => h f (List.mem_cons_of_mem _ hf)
    | some members => exact ⟨some members, rfl, hh⟩

theorem element_members {f : Family} {members : List (CodeText × Json)}
    (h : fits (.element f) (.object members) = true) :
    ∃ kind fields, kindOf? members = some kind ∧ f.fields? kind = some fields ∧
      ∀ key s, fields.lookup key = some s →
        ∃ v, members.lookup key = some v ∧ (key, v) ∈ members ∧ fits s v = true := by
  obtain ⟨members', kind, fields, he, hk, hf, hn, hm⟩ := fits_element h
  cases he
  exact ⟨kind, fields, hk, hf, fun key s hs => member_fits key hn hm hs⟩

/-- The search goes on from a value to the values in it, and from a block to its content. -/
theorem search_succeeds (v : Json) :
    (∀ r s, Reach.Leads r s → fits s v = true → (search r v).Succeeds) ∧
      (fits (.element .block) v = true → (searchBlock v).Succeeds) := by
  induction v using Json.induction with
  | array items ih =>
    refine ⟨fun r s hl hs => ?_, fun hs => by cases hs⟩
    cases hl with
    | blocks =>
      rw [Shape.blocks, fits, fitsEach_iff] at hs
      rw [search, searchBlocks_eq]
      exact firstFound_succeeds (List.forall_mem_map.mpr fun v hv => (ih v hv).2 (hs v hv))
    | item hi hl =>
      rw [fits, fitsInTurn_iff] at hs
      obtain ⟨v, hv, hf⟩ := item_fits hs hi
      rw [search, searchItem_eq, hv]
      exact (ih v (List.mem_of_getElem? hv)).1 _ _ hl hf
    | each hl =>
      rw [fits, fitsEach_iff] at hs
      rw [search, searchEach_eq]
      exact firstFound_succeeds (List.forall_mem_map.mpr fun v hv => (ih v hv).1 _ _ hl (hs v hv))
    | second hl =>
      rw [fits, fitsInTurn_iff] at hs
      obtain ⟨v, hv, hf⟩ := item_fits (i := 1) hs rfl
      have hlen : items.length = 2 := hs.length_eq.symm
      rw [search, if_pos hlen, searchItem_eq, hv]
      exact (ih v (List.mem_of_getElem? hv)).1 _ _ hl hf
  | object members ih =>
    -- Reaches lead through lists, so an object is searched as a block alone.
    refine ⟨fun r s hl hs => by cases hl <;> simp [Shape.blocks, fits] at hs, fun hs => ?_⟩
    obtain ⟨kind, fields, hk, hf, hm⟩ := element_members hs
    simp only [searchBlock, hk]
    by_cases hh : kind = "Header"
    · rw [if_pos (by simpa using hh)]
      refine ⟨some members, rfl, fun m he => ?_⟩
      cases he
      exact ⟨hh ▸ hk, hs⟩
    · rw [if_neg (by simpa using hh)]
      cases hr : reaches.lookup kind with
      | none => exact .nothing
      | some r =>
        obtain ⟨s, hc, hl⟩ := reaches_leads hr
        rw [hf, Option.some.injEq] at hc
        obtain ⟨v, hv, hmem, hsv⟩ := hm "c" s (by rw [hc]; rfl)
        simp only [searchContent_eq, hv, Option.map_some, Option.getD_some]
        exact (ih _ hmem).1 r s hl hsv
  | _ =>
    exact ⟨fun r s hl hs => by cases hl <;> simp [Shape.blocks, fits] at hs,
      fun hs => by simp [fits] at hs⟩

/-! ### The text of a heading -/

/-- Where an inline element of a shape has its text. -/
inductive Inside.Leads : Inside → Shape → Prop
  | whole : Leads .whole .inlines
  | second {ss : List Shape} (hs : ss[1]? = some .inlines) : Leads .second (.tuple ss)
  | quoted : Leads .quoted (.tuple [.element .quote, .inlines])

theorem insides_leads {kind : String} {inside : Inside} (h : insides.lookup kind = some inside) :
    ∃ s, Family.inline.fields? kind = some [(.text "t", .text), (.text "c", s)] ∧ inside.Leads s := by
  have hm := lookup_mem h
  simp only [insides, List.mem_cons, Prod.mk.injEq, List.not_mem_nil, or_false] at hm
  rcases hm with ⟨rfl, rfl⟩ | ⟨rfl, rfl⟩ | ⟨rfl, rfl⟩ | ⟨rfl, rfl⟩ | ⟨rfl, rfl⟩ | ⟨rfl, rfl⟩ |
    ⟨rfl, rfl⟩ | ⟨rfl, rfl⟩ | ⟨rfl, rfl⟩ | ⟨rfl, rfl⟩ | ⟨rfl, rfl⟩
  iterate 7 exact ⟨_, rfl, .whole⟩
  iterate 3 exact ⟨_, rfl, .second rfl⟩
  exact ⟨_, rfl, .quoted⟩

/-- Pieces that can be joined. -/
def Pieces.AreTexts (ps : Pieces) : Prop :=
  ∃ items, ps = .ok items ∧ ∀ v ∈ items, ∃ t, v = .string t

theorem joined_ok {items : List Json} (h : ∀ v ∈ items, ∃ t, v = .string t) :
    ∃ text, joined items = .ok text := by
  induction items with
  | nil => exact ⟨"", rfl⟩
  | cons v rest ih =>
    obtain ⟨t, rfl⟩ := h v List.mem_cons_self
    obtain ⟨text, ht⟩ := ih fun u hu => h u (List.mem_cons_of_mem _ hu)
    exact ⟨t ++ text, by rw [joined, ht]; rfl⟩

theorem piecesOf_areTexts {items : List Json} (h : ∀ v ∈ items, (piecesIn v).AreTexts) :
    (piecesOf items).AreTexts := by
  induction items with
  | nil => exact ⟨[], rfl, by simp⟩
  | cons v rest ih =>
    obtain ⟨first, hv, hf⟩ := h v List.mem_cons_self
    obtain ⟨more, hr, hm⟩ := ih fun u hu => h u (List.mem_cons_of_mem _ hu)
    exact ⟨first ++ more, by simp [piecesOf, hv, hr, bind, Except.bind, pure, Except.pure],
      List.forall_mem_append.mpr ⟨hf, hm⟩⟩

theorem piecesAt_eq (i : Nat) (items : List Json) :
    piecesAt i items = (items[i]?.map pieces).getD (.error .tooShort) := by
  induction items generalizing i with
  | nil => rfl
  | cons v rest ih => cases i <;> simp [piecesAt, ih]

/-- The text of an inline element whose content is this value. -/
def Inside.piecesIn (v : Json) : Inside → Pieces
  | .whole => pieces v
  | .second => secondPieces v
  | .quoted => do
    let mark ← quoteMark v
    let quoted ← secondPieces v
    return .string mark :: quoted ++ [.string mark]

theorem piecesInside_eq (inside : Inside) (members : List (CodeText × Json)) :
    piecesInside inside members =
      ((members.lookup (.text "c")).map fun v => inside.piecesIn v).getD (.error .wrongType) := by
  induction members with
  | nil => rfl
  | cons m rest ih =>
    obtain ⟨key, v⟩ := m
    by_cases hk : key = "c"
    · subst hk
      cases inside <;> simp [piecesInside, Inside.piecesIn]
    · have hk' : ("c" == key) = false := by simpa using fun h : "c" = key => hk h.symm
      simp [piecesInside, List.lookup_cons, hk, hk', ih]

theorem itemAt_fits {ss : List Shape} {v : Json} {i : Nat} {s : Shape}
    (h : fits (.tuple ss) v = true) (hs : ss[i]? = some s) :
    ∃ u, itemAt i v = .ok u ∧ fits s u = true := by
  obtain ⟨items, rfl, hf⟩ := fits_tuple h
  obtain ⟨u, hu, hsu⟩ := item_fits hf hs
  exact ⟨u, by rw [itemAt, hu], hsu⟩

theorem quoteMark_ok {ss : List Shape} {v : Json} (h : fits (.tuple (.element .quote :: ss)) v = true) :
    ∃ mark, quoteMark v = .ok mark := by
  obtain ⟨u, hu, hf⟩ := itemAt_fits h (i := 0) rfl
  obtain ⟨members, kind, fields, rfl, hk, -⟩ := fits_element hf
  exact ⟨if kind == "SingleQuote" then "'" else "\"",
    by simp [quoteMark, hu, memberOf, lookup_kind hk, bind, Except.bind, pure, Except.pure]⟩

theorem Inside.piecesIn_areTexts {inside : Inside} {s : Shape} {v : Json} (hl : inside.Leads s)
    (hs : fits s v = true) (hwhole : fits .inlines v = true → (pieces v).AreTexts)
    (hsecond : ∀ ss : List Shape, ss[1]? = some .inlines → fits (.tuple ss) v = true →
      (secondPieces v).AreTexts) : (inside.piecesIn v).AreTexts := by
  cases hl with
  | whole => exact hwhole hs
  | second hi => exact hsecond _ hi hs
  | quoted =>
    obtain ⟨mark, hm⟩ := quoteMark_ok hs
    obtain ⟨quoted, hq, ht⟩ := hsecond _ rfl hs
    refine ⟨.string mark :: quoted ++ [.string mark], ?_, ?_⟩
    · simp [Inside.piecesIn, hm, hq, bind, Except.bind, pure, Except.pure]
    · intro v hv
      simp only [List.cons_append, List.mem_cons, List.mem_append, List.not_mem_nil, or_false] at hv
      rcases hv with rfl | hv | rfl
      · exact ⟨mark, rfl⟩
      · exact ht v hv
      · exact ⟨mark, rfl⟩

/-- Text is taken from a list of elements, from the second item of a content and from one
element; each is asked for by one above it. -/
theorem pieces_areTexts (v : Json) :
    (fits .inlines v = true → (pieces v).AreTexts) ∧
      (∀ ss : List Shape, ss[1]? = some .inlines → fits (.tuple ss) v = true →
        (secondPieces v).AreTexts) ∧
      (fits (.element .inline) v = true → (piecesIn v).AreTexts) := by
  induction v using Json.induction with
  | array items ih =>
    refine ⟨fun h => ?_, fun ss hs h => ?_, fun h => by simp [fits] at h⟩
    · rw [Shape.inlines, fits, fitsEach_iff] at h
      exact piecesOf_areTexts fun v hv => (ih v hv).2.2 (h v hv)
    · rw [fits, fitsInTurn_iff] at h
      obtain ⟨v, hv, hf⟩ := item_fits h hs
      rw [secondPieces, piecesAt_eq, hv]
      exact (ih v (List.mem_of_getElem? hv)).1 hf
  | object members ih =>
    refine ⟨fun h => by simp [Shape.inlines, fits] at h, fun ss hs h => by simp [fits] at h,
      fun h => ?_⟩
    obtain ⟨kind, fields, hk, hf, hm⟩ := element_members h
    simp only [piecesIn, lookup_kind hk]
    split_ifs with hstr hspace hbreak hcode
    · obtain ⟨v, hv, -, ht⟩ := hm "c" .text (by rw [beq_iff_eq.mp hstr] at hf; cases hf; rfl)
      obtain ⟨t, rfl⟩ := fits_text ht
      exact ⟨[.string t], by rw [contentOf, hv]; rfl, by simp⟩
    · exact ⟨[.string " "], rfl, by simp⟩
    · exact ⟨[.string "\n"], rfl, by simp⟩
    · obtain ⟨v, hv, -, hc⟩ := hm "c" .code (by rw [beq_iff_eq.mp hcode] at hf; cases hf; rfl)
      obtain ⟨u, hu, ht⟩ := itemAt_fits hc (i := 1) rfl
      obtain ⟨t, rfl⟩ := fits_text ht
      exact ⟨[.string t], by rw [contentOf, hv, Option.getD_some, hu]; rfl, by simp⟩
    · cases hi : insides.lookup kind with
      | none => exact ⟨[], rfl, by simp⟩
      | some inside =>
        obtain ⟨s, hc, hl⟩ := insides_leads hi
        rw [hf, Option.some.injEq] at hc
        obtain ⟨v, hv, hmem, hsv⟩ := hm "c" s (by rw [hc]; rfl)
        simp only [piecesInside_eq, hv, Option.map_some, Option.getD_some]
        exact Inside.piecesIn_areTexts hl hsv (ih _ hmem).1 (ih _ hmem).2.1
  | _ =>
    exact ⟨fun h => by simp [Shape.inlines, fits] at h, fun ss hs h => by simp [fits] at h,
      fun h => by simp [fits] at h⟩

theorem title_ok {tree : Json} (h : fits (.record .document) tree = true) :
    ∃ text, title tree = .ok text := by
  obtain ⟨members, rfl, hn, hm⟩ := fits_record h
  obtain ⟨blocks, hb, -, hf⟩ := member_fits "blocks" hn hm rfl
  obtain ⟨heading, hs, hh⟩ := (search_succeeds blocks).1 _ _ .blocks hf
  simp only [title, blocksOf, hb, Option.getD_some, hs, bind, Except.bind]
  cases heading with
  | none => exact ⟨"", rfl⟩
  | some found =>
    obtain ⟨hk, hf⟩ := hh found rfl
    obtain ⟨kind, fields, hk', hfields, hmem⟩ := element_members hf
    rw [hk, Option.some.injEq] at hk'
    subst hk'
    obtain ⟨content, hc, -, hshape⟩ := hmem "c" _ (by cases hfields; rfl)
    obtain ⟨inlines, hi, hinl⟩ := itemAt_fits hshape (i := 2) rfl
    obtain ⟨ps, hp, hts⟩ := (pieces_areTexts inlines).1 hinl
    obtain ⟨text, ht⟩ := joined_ok hts
    exact ⟨text, by simp [headingText, memberOf, hc, hi, hp, ht, bind, Except.bind]⟩

/-! ### Marks -/

theorem fields?_codeBlock {f : Family} {fields : List (CodeText × Shape)}
    (h : f.fields? "CodeBlock" = some fields) : fields = [(.text "t", .text), (.text "c", .code)] := by
  cases f <;> cases h
  rfl

theorem markContent_ok {content : Json} (h : fits .code content = true) :
    ∃ marked, markContent content = .ok marked := by
  obtain ⟨parts, rfl, hp⟩ := fits_tuple h
  obtain ⟨attributes, ha, hat⟩ := item_fits hp (i := 0) rfl
  obtain ⟨fields, rfl, hfs⟩ := fits_tuple hat
  obtain ⟨pairs, hps, hpairs⟩ := item_fits hfs (i := 2) rfl
  obtain ⟨items, rfl, -⟩ := fits_list hpairs
  exact ⟨_, by simp only [markContent, itemAt, ha, hps, bind, Except.bind, pure, Except.pure]; rfl⟩

theorem markItems_ok {items : List Json} (h : ∀ v ∈ items, ∃ u, mark v = .ok u) :
    ∃ us, markItems items = .ok us := by
  induction items with
  | nil => exact ⟨[], rfl⟩
  | cons v rest ih =>
    obtain ⟨u, hu⟩ := h v List.mem_cons_self
    obtain ⟨us, hus⟩ := ih fun u hu => h u (List.mem_cons_of_mem _ hu)
    exact ⟨u :: us, by simp [markItems, hu, hus, bind, Except.bind, pure, Except.pure]⟩

theorem markMembers_ok {members : List (CodeText × Json)} (h : ∀ m ∈ members, ∃ u, mark m.2 = .ok u) :
    ∃ us, markMembers members = .ok us := by
  induction members with
  | nil => exact ⟨[], rfl⟩
  | cons m rest ih =>
    obtain ⟨key, v⟩ := m
    obtain ⟨u, hu⟩ := h _ List.mem_cons_self
    obtain ⟨us, hus⟩ := ih fun u hu => h u (List.mem_cons_of_mem _ hu)
    exact ⟨(key, u) :: us, by simp_all [markMembers, bind, Except.bind, pure, Except.pure]⟩

theorem markCode_ok {members : List (CodeText × Json)} {fields : List (CodeText × Shape)}
    (hf : fields = [(.text "t", .text), (.text "c", .code)]) (hn : namesFit fields members = true)
    (hm : fitsMembers fields members = true) : ∃ marked, markCode members = .ok marked := by
  obtain ⟨content, hc, -, hs⟩ := member_fits "c" hn hm (by rw [hf]; rfl)
  obtain ⟨marked, hk⟩ := markContent_ok hs
  exact ⟨Json.put "c" marked members,
    by simp [markCode, memberOf, hc, hk, bind, Except.bind, pure, Except.pure]⟩

/-- In a well-formed value only a code block can look like one, and its marks have a place. -/
theorem mark_ok (v : Json) (s : Shape) (h : fits s v = true) : ∃ u, mark v = .ok u := by
  induction v using Json.induction generalizing s with
  | array items ih =>
    have hs : ∀ v ∈ items, ∃ s, fits s v = true := by
      cases s with
      | optionalList s => exact fun v hv => ⟨s, fitsEach_iff.mp h v hv⟩
      | list s => exact fun v hv => ⟨s, fitsEach_iff.mp h v hv⟩
      | tuple ss =>
        intro v hv
        obtain ⟨i, hi, rfl⟩ := List.mem_iff_getElem.mp hv
        have hf := fitsInTurn_iff.mp h
        exact ⟨_, hf.get (hf.length_eq ▸ hi) hi⟩
      | _ => simp [fits] at h
    obtain ⟨us, hus⟩ := markItems_ok fun v hv => (hs v hv).elim (ih v hv)
    exact ⟨.array us, by rw [mark, hus]; rfl⟩
  | object members ih =>
    have hs : (∀ m ∈ members, ∃ s, fits s m.2 = true) ∧
        (kindOf? members = some "CodeBlock" → ∃ marked, markCode members = .ok marked) := by
      cases s with
      | element f =>
        obtain ⟨members', kind, fields, he, hk, hf, hn, hm⟩ := fits_element h
        cases he
        refine ⟨fun m hmem => ?_, fun hc => ?_⟩
        · obtain ⟨s, -, hs⟩ := fitsMembers_iff.mp hm m hmem
          exact ⟨s, hs⟩
        · rw [hc, Option.some.injEq] at hk
          exact markCode_ok (fields?_codeBlock (hk ▸ hf)) hn hm
      | record r =>
        obtain ⟨members', he, hn, hm⟩ := fits_record h
        cases he
        refine ⟨fun m hmem => ?_, fun hc => ?_⟩
        · obtain ⟨s, -, hs⟩ := fitsMembers_iff.mp hm m hmem
          exact ⟨s, hs⟩
        · -- No record has a kind.
          obtain ⟨s, hl, -⟩ := fitsMembers_iff.mp hm _ (lookup_mem (lookup_kind hc))
          cases r <;> cases hl
      | metadataMap =>
        refine ⟨fun m hmem => ⟨_, fitsValues_iff.mp h m hmem⟩, fun hc => ?_⟩
        have ht := fitsValues_iff.mp h _ (lookup_mem (lookup_kind hc))
        simp [fits] at ht
      | _ => simp [fits] at h
    rw [mark]
    split_ifs with hc
    · obtain ⟨marked, hm⟩ := hs.2 (beq_iff_eq.mp hc)
      exact ⟨.object marked, by rw [hm]; rfl⟩
    · obtain ⟨us, hus⟩ := markMembers_ok fun m hm => (hs.1 m hm).elim (ih m hm)
      exact ⟨.object us, by rw [hus]; rfl⟩
  | _ => exact ⟨_, rfl⟩

theorem markDocument_ok {tree : Json} (h : fits (.record .document) tree = true) :
    ∃ marked, markDocument tree = .ok marked := by
  obtain ⟨members, rfl, hn, hm⟩ := fits_record h
  obtain ⟨blocks, hb, -, hf⟩ := member_fits "blocks" hn hm rfl
  obtain ⟨marked, hk⟩ := mark_ok blocks _ hf
  exact ⟨.object (Json.put "blocks" marked members), by simp only [markDocument, hb, hk]; rfl⟩

end Pandoc

end CmsMarkup
