import CmsMarkup.Proofs.PrintedTree
import CmsMarkup.Proofs.TocLinks

/-! Tables of contents as lists. A written table is read as nested lists that have the shape of the
table, whatever is in the titles and links: none of them ends a list or begins another element. -/

namespace CmsMarkup

open Html

namespace TocEntry

/-- A link with nothing but its target. An empty title leaves no text. -/
def link (title href : String) : Node :=
  .element none "a" [⟨"href", href⟩] (if title.isEmpty then [] else [.text .plain title])

/-- One item for each entry, in their order: its link, and a list of the entries below it exactly
when there are any. -/
inductive Shows : List TocEntry → List Node → Prop
  | nil : Shows [] []
  | leaf {level : Nat} {id title href : String} {rest : List TocEntry} {items : List Node}
      (onward : Shows rest items) :
      Shows (.entry level id title href [] :: rest)
        (.element none "li" [] [link title href] :: items)
  | branch {level : Nat} {id title href : String} {children rest : List TocEntry}
      {below items : List Node} (someBelow : children ≠ []) (inside : Shows children below)
      (onward : Shows rest items) :
      Shows (.entry level id title href children :: rest)
        (.element none "li" [] [link title href, .element none "ul" [] below] :: items)

mutual

/-- The item of an entry as it is read: without a text for an empty title. -/
def shownItem : TocEntry → Node
  | .entry _ _ title href children =>
    .element none "li" []
      (link title href ::
        if children.isEmpty then [] else [.element none "ul" [] (shownItems children)])

def shownItems : List TocEntry → List Node
  | [] => []
  | e :: rest => shownItem e :: shownItems rest

end

theorem shows_shownItems : ∀ forest, Shows forest (shownItems forest)
  | [] => .nil
  | .entry level id title href [] :: rest => .leaf (shows_shownItems rest)
  | .entry level id title href (e :: children) :: rest =>
    .branch (List.cons_ne_nil _ _) (shows_shownItems (e :: children)) (shows_shownItems rest)

/-! ### An empty text is not printed -/

theorem printNode_congr (name : String) (hv : isVoid name = false) (hraw : isRawParent name = false)
    (attributes : List Attribute) {nodes more : List Node}
    (h : printNodes false nodes = printNodes false more) :
    printNode false (.element none name attributes nodes) =
      printNode false (.element none name attributes more) := by
  simp only [printNode, hv, hraw, h, Bool.false_and]

theorem printNode_link (title href : String) :
    printNode false (.element none "a" [⟨"href", href⟩] [.text .plain title]) =
      printNode false (link title href) := by
  rw [link]
  split_ifs with h
  · rw [String.isEmpty_iff.mp h]
    exact printNode_congr _ rfl rfl _ rfl
  · rfl

mutual

theorem printNode_item : ∀ e, printNode false (item e) = printNode false (shownItem e)
  | .entry level id title href children => by
    have hlist := printNode_congr "ul" rfl rfl [] (printNodes_items children)
    rw [item, shownItem]
    refine printNode_congr _ rfl rfl [] ?_
    rw [printNodes, printNodes, printNode_link]
    split_ifs
    · rfl
    · simp only [printNodes, hlist]

theorem printNodes_items : ∀ forest,
    printNodes false (items forest) = printNodes false (shownItems forest)
  | [] => rfl
  | e :: rest => by
    rw [items, shownItems, printNodes, printNodes, printNode_item e, printNodes_items rest]

end

/-! ### Lists that read back -/

/-- White space alone would be read as another text. -/
def Readable (title : String) : Prop :=
  title.toList.all Construction.isAsciiBlank = true → title = ""

theorem isName_of_all {name : String}
    (h : (name.toList.all Char.isLower && !name.toList.isEmpty) = true) : IsName name.toList :=
  (isTagName_of_all h).isName

theorem printable_link {title : String} (h : Readable title) (href : String) :
    (link title href).Printable := by
  have hnormal : [Attribute.normalized "a" ⟨"href", href⟩] = [⟨"href", href⟩] := by
    have hkey : isWordList "a" "href" = false := by decide
    rw [Attribute.normalized, hkey, if_neg Bool.false_ne_true]
  have hname : IsName "href".toList := isName_of_all rfl
  have hdistinct : Attribute.Distinct [⟨"href", href⟩] :=
    List.nodup_cons.mpr ⟨List.not_mem_nil, List.nodup_nil⟩
  refine .element (isName_of_all rfl) (by decide) nofun (List.forall_mem_singleton.mpr hname)
    hdistinct hnormal ?_ ?_
  · split_ifs
    · exact .nil
    · exact .singleton _
  · split_ifs with hempty
    · exact List.forall_mem_nil _
    · refine List.forall_mem_singleton.mpr (.text fun hblank => ?_)
      exact absurd (String.isEmpty_iff.mpr (h hblank)) hempty

theorem printable_plainElement {name : String} (hn : IsName name.toList)
    (ho : name ∉ Node.exceptionalNames) (hv : isVoid name = false) {children : List Node}
    (h : ∀ n ∈ children, n.isElement = true ∧ n.Printable) :
    (Node.element none name [] children).Printable := by
  have hapart : children.IsChain Node.Apart := by
    induction children with
    | nil => exact .nil
    | cons n rest ih =>
      rw [List.forall_mem_cons] at h
      exact (ih h.2).cons fun _ _ => .inl h.1.1
  exact .element hn ho (by simp [hv]) (List.forall_mem_nil _) List.nodup_nil rfl hapart
    fun n hn => (h n hn).2

mutual

theorem printable_shownItem : ∀ e, (∀ f ∈ preorder e, Readable f.title) → (shownItem e).Printable
  | .entry level id title href children => by
    intro h
    rw [preorder, List.forall_mem_cons] at h
    have hlink := printable_link h.1 href
    have hlist : (Node.element none "ul" [] (shownItems children)).Printable :=
      printable_plainElement (isName_of_all rfl) (by decide) rfl (printable_shownItems children h.2)
    refine printable_plainElement (isName_of_all rfl) (by decide) rfl
      (List.forall_mem_cons.mpr ⟨⟨rfl, hlink⟩, ?_⟩)
    split_ifs
    · exact List.forall_mem_nil _
    · exact List.forall_mem_singleton.mpr ⟨rfl, hlist⟩

theorem printable_shownItems : ∀ forest, (∀ f ∈ preorderOf forest, Readable f.title) →
    ∀ n ∈ shownItems forest, n.isElement = true ∧ n.Printable
  | [] => fun _ => List.forall_mem_nil _
  | e :: rest => by
    intro h
    rw [preorderOf, List.forall_mem_append] at h
    have helement : (shownItem e).isElement = true := by
      cases e
      rfl
    exact List.forall_mem_cons.mpr
      ⟨⟨helement, printable_shownItem e h.1⟩, printable_shownItems rest h.2⟩

end

/-- A table that is not empty is read back as one list that has its shape. Titles and targets are
any texts, but a title that is not empty has more than white space in it. -/
theorem renderToc_reads {forest : List TocEntry} (hsome : forest ≠ [])
    (htitles : ∀ e ∈ preorderOf forest, Readable e.title) :
    ∃ items, parse? (renderToc forest) = some [.element none "ul" [] items] ∧
      Shows forest items := by
  refine ⟨shownItems forest, ?_, shows_shownItems forest⟩
  have hlist : (Node.element none "ul" [] (shownItems forest)).Printable :=
    printable_plainElement (isName_of_all rfl) (by decide) rfl (printable_shownItems forest htitles)
  have hback := parse?_printNodes (List.forall_mem_singleton.mpr hlist) (.singleton _)
  have hprint := printNode_congr "ul" rfl rfl [] (printNodes_items forest)
  rw [printNodes, printNodes, List.append_nil, ← hprint] at hback
  rw [renderToc, List.isEmpty_eq_false_iff.mpr hsome, if_neg Bool.false_ne_true, hback]

theorem renderToc_reads_markup_in_title :
    let forest : List TocEntry := [.entry 1 "a" "</a></li></ul>&lt;" "\"'><p" [.entry 3 "b" "" "#b" []]]
    forest ≠ [] ∧ (∀ e ∈ preorderOf forest, Readable e.title) ∧
      ∃ items, parse? (renderToc forest) = some [.element none "ul" [] items] ∧
        Shows forest items := by
  intro forest
  have hsome : forest ≠ [] := List.cons_ne_nil _ _
  have htitles : ∀ e ∈ preorderOf forest, Readable e.title := by
    unfold Readable
    decide
  exact ⟨hsome, htitles, renderToc_reads hsome htitles⟩

end TocEntry

end CmsMarkup
