import CmsMarkup.Proofs.HeadingIds

/-! Languages of code. A marked `pre` hands its first class to the `code` it begins with, and the
shell languages get the name that the system knows; all other classes of `pre` and `code` stay. -/

namespace CmsMarkup

open Html

namespace Html

namespace Node

def attributes : Node → List Attribute
  | .text .. => []
  | .element _ _ attributes _ => attributes

def classes (n : Node) : List String := Attribute.classes n.attributes

end Node

namespace Attribute

theorem find?_set_of_ne {name other : String} (hne : name ≠ other) (value : String)
    (attributes : List Attribute) :
    find? name (set other value attributes) = find? name attributes := by
  induction attributes with
  | nil => simp [set, find?, hne.symm]
  | cons a rest ih =>
    by_cases ha : a.name = other
    · simp [set, find?, ha, hne.symm]
    · by_cases hn : a.name = name
      · subst hn
        simp [set, find?, hne]
      · simp [set, find?, ha, hn, ih]

theorem find?_remove (name : String) (attributes : List Attribute) :
    find? name (remove name attributes) = none := by
  induction attributes with
  | nil => rfl
  | cons a rest ih =>
    by_cases ha : a.name = name
    · simpa [remove, ha] using ih
    · simpa [remove, find?, ha] using ih

theorem find?_remove_of_ne {name other : String} (hne : name ≠ other)
    (attributes : List Attribute) :
    find? name (remove other attributes) = find? name attributes := by
  induction attributes with
  | nil => rfl
  | cons a rest ih =>
    by_cases ha : a.name = other
    · simpa [remove, find?, ha, hne.symm] using ih
    · by_cases hn : a.name = name
      · subst hn
        simp [remove, find?, hne]
      · simpa [remove, find?, ha, hn] using ih

theorem classes_remove_of_ne {other : String} (hne : "class" ≠ other)
    (attributes : List Attribute) :
    classes (remove other attributes) = classes attributes := by
  rw [classes, find?_remove_of_ne hne, classes]

/-- A class is a word: it has a character, and no blank. -/
def IsClass (name : String) : Prop := name ≠ "" ∧ ∀ c ∈ name.toList, isBlank c = false

theorem isClass_of_mem {attributes : List Attribute} {name : String}
    (h : name ∈ classes attributes) : IsClass name := by
  obtain ⟨w, hw, rfl⟩ := List.mem_map.mp h
  obtain ⟨hne, hblank⟩ := mem_runs hw
  exact ⟨by simpa using hne, by simpa using hblank⟩

theorem classes_setClasses {names : List String} (h : ∀ name ∈ names, IsClass name)
    (attributes : List Attribute) : classes (setClasses names attributes) = names := by
  rw [classes, setClasses, find?_set, Option.getD_some, words_intercalate h]

end Attribute

end Html

namespace CodeFence

def isMarked (n : Node) : Bool := n.hasName "pre" && (Attribute.find? mark n.attributes).isSome

/-- The language that a marked `pre` hands to its code: its first class, if its first direct `code`
has no class. -/
def language? (n : Node) : Option String :=
  if isMarked n && (n.children.find? (·.hasName "code")).any (·.classes.isEmpty) then
    n.classes.head?
  else none

mutual

/-- The elements of a tree in document order, each with the language that is handed to it. -/
def handed (language : Option String) : Node → List (Node × Option String)
  | .text .. => []
  | .element number name attributes children =>
    (.element number name attributes children, language) ::
      handedOf (language? (.element number name attributes children)) children

/-- The first `code` of the nodes takes the language. -/
def handedOf (language : Option String) : List Node → List (Node × Option String)
  | [] => []
  | n :: rest =>
    if n.hasName "code" then handed language n ++ handedOf none rest
    else handed none n ++ handedOf language rest

end

/-- The attributes of an element after the fence pass. -/
def handedAttributes (n : Node) (language : Option String) : List Attribute :=
  if n.hasName "code" then
    match language with
    | none => n.attributes
    | some language => Attribute.setClasses [languageClass language] n.attributes
  else if isMarked n then
    let unmarked := Attribute.remove mark n.attributes
    match language? n with
    | none => unmarked
    | some _ =>
      if n.classes.tail.isEmpty then Attribute.remove "class" unmarked
      else Attribute.setClasses n.classes.tail unmarked
  else n.attributes

/-- An element of a page and the same one after the fence pass. -/
structure Handed (o : Node × Option String) (m : Node) : Prop where
  name : ∀ name, m.hasName name = o.1.hasName name
  attributes : m.attributes = handedAttributes o.1 o.2
  word : ∀ language ∈ o.2, Attribute.IsClass language

theorem Handed.of_attributes {n m : Node} (hname : ∀ name, m.hasName name = n.hasName name)
    (h : m.attributes = handedAttributes n none) : Handed (n, none) m :=
  ⟨hname, h, fun _ hl => nomatch hl⟩

theorem isClass_of_language {n : Node} {language : String} (h : language? n = some language) :
    Attribute.IsClass language := by
  rw [language?] at h
  split_ifs at h
  exact Attribute.isClass_of_mem (List.mem_of_head? h)

theorem handedOf_none (nodes : List Node) : handedOf none nodes = nodes.flatMap (handed none) := by
  induction nodes with
  | nil => rfl
  | cons n rest ih =>
    rw [handedOf, ih, List.flatMap_cons]
    split_ifs <;> rfl

theorem normalizeNode_attributes_of_code {n : Node} (h : n.hasName "code" = true) :
    (normalizeNode n).attributes = n.attributes := by
  cases n with
  | text kind s => rfl
  | element number name attributes children =>
    obtain rfl : name = "code" := by simpa using h
    rfl

theorem hasName_normalizeNode (n : Node) (name : String) :
    (normalizeNode n).hasName name = n.hasName name := (normalizeNode_relabelled n).hasName_eq name

theorem labelCode_cons_of_other {n : Node} (h : n.hasName "code" = false) (label : String)
    (rest : List Node) : labelCode label (n :: rest) = (labelCode label rest).map (n :: ·) := by
  cases n with
  | text kind s => rfl
  | element number name attributes children =>
    have hname : name ≠ "code" := by simpa using h
    rw [labelCode]
    rintro _ _ _ ⟨⟩
    exact hname rfl

/-- Whether the label is taken is told by the first `code`. -/
theorem labelCode_isSome (label : String) (nodes : List Node) :
    (labelCode label nodes).isSome = (nodes.find? (·.hasName "code")).any (·.classes.isEmpty) := by
  induction nodes with
  | nil => rfl
  | cons n rest ih =>
    cases hc : n.hasName "code" with
    | true =>
      cases n with
      | text kind s => cases hc
      | element number name attributes children =>
        obtain rfl : name = "code" := by simpa using hc
        rw [labelCode, List.find?_cons_of_pos hc, Option.any_some, Node.classes, Node.attributes]
        split_ifs with he <;> simp [he]
    | false =>
      rw [labelCode_cons_of_other hc, Option.isSome_map, ih, List.find?_cons_of_neg (by simp [hc])]

theorem labelCode_normalizeNodes_isSome (label : String) (nodes : List Node) :
    (labelCode label (normalizeNodes nodes)).isSome =
      (nodes.find? (·.hasName "code")).any (·.classes.isEmpty) := by
  have hname : (fun n => (normalizeNode n).hasName "code") = (·.hasName "code") := by
    funext n
    exact hasName_normalizeNode n "code"
  rw [labelCode_isSome, normalizeNodes_eq_map, List.find?_map, Function.comp_def, hname]
  cases hf : nodes.find? (·.hasName "code") with
  | none => rfl
  | some code =>
    have hcode : code.hasName "code" = true := by simpa using List.find?_some hf
    rw [Option.map_some, Option.any_some, Option.any_some, Node.classes, Node.classes,
      normalizeNode_attributes_of_code hcode]

theorem handedOf_none_normalizeNodes {nodes : List Node}
    (hn : ∀ n ∈ nodes, List.Forall₂ Handed (handed none n) (Node.elements (normalizeNode n))) :
    List.Forall₂ Handed (handedOf none nodes) (Node.elementsOf (normalizeNodes nodes)) := by
  rw [handedOf_none, normalizeNodes_eq_map, Node.elementsOf_eq_flatMap, List.flatMap_map]
  refine forall₂_flatMap (List.forall₂_same.mpr fun n _ => rfl) fun n hm m he => ?_
  subst he
  exact hn n hm

/-- A label that is taken goes to the element that the language is handed to. -/
theorem handedOf_labelCode {language : String} (hword : Attribute.IsClass language)
    {nodes labelled : List Node}
    (h : labelCode (languageClass language) (normalizeNodes nodes) = some labelled)
    (hn : ∀ n ∈ nodes, List.Forall₂ Handed (handed none n) (Node.elements (normalizeNode n))) :
    List.Forall₂ Handed (handedOf (some language) nodes) (Node.elementsOf labelled) := by
  induction nodes generalizing labelled with
  | nil => cases h
  | cons n rest ih =>
    have hhead := hn n List.mem_cons_self
    have hrest := fun m hm => hn m (List.mem_cons_of_mem _ hm)
    rw [normalizeNodes] at h
    cases hc : n.hasName "code" with
    | true =>
      -- The first `code` is here, and what follows is as without a language.
      cases n with
      | text kind s => cases hc
      | element number name attributes children =>
        obtain rfl : name = "code" := by simpa using hc
        have hcode : normalizeNode (.element number "code" attributes children) =
            .element number "code" attributes (normalizeNodes children) := rfl
        rw [hcode] at h hhead
        rw [labelCode] at h
        split_ifs at h
        obtain rfl := Option.some.inj h
        rw [handed, Node.elements] at hhead
        obtain ⟨-, hbelow⟩ := List.forall₂_cons.mp hhead
        rw [handedOf, if_pos hc, handed, Node.elementsOf, Node.elements]
        have hlabelled : Handed (.element number "code" attributes children, some language)
            (.element number "code" (Attribute.setClasses [languageClass language] attributes)
              (normalizeNodes children)) := ⟨fun _ => rfl, rfl, by simpa using hword⟩
        exact List.rel_append (.cons hlabelled hbelow) (handedOf_none_normalizeNodes hrest)
    | false =>
      have hm : (normalizeNode n).hasName "code" = false := by rw [hasName_normalizeNode, hc]
      rw [labelCode_cons_of_other hm] at h
      obtain ⟨more, hmore, rfl⟩ := Option.map_eq_some_iff.mp h
      rw [handedOf, hc, if_neg Bool.false_ne_true, Node.elementsOf]
      exact List.rel_append hhead (ih hmore hrest)

section

variable {number : Option Nat} {name : String} {attributes : List Attribute}
  {children : List Node}

theorem normalizeNode_of_not_marked
    (h : isMarked (.element number name attributes children) = false) :
    normalizeNode (.element number name attributes children) =
      .element number name attributes (normalizeNodes children) := by
  have hif : (name == "pre" && (Attribute.find? mark attributes).isSome) = false := h
  rw [normalizeNode, hif, if_neg Bool.false_ne_true]

theorem normalizeNode_of_marked
    (h : isMarked (.element number name attributes children) = true) :
    normalizeNode (.element number name attributes children) =
      .element number name (moved (Attribute.remove mark attributes) (normalizeNodes children)).1
        (moved (Attribute.remove mark attributes) (normalizeNodes children)).2 := by
  have hif : (name == "pre" && (Attribute.find? mark attributes).isSome) = true := h
  rw [normalizeNode, hif, if_pos rfl]

theorem classes_unmarked :
    Attribute.classes (Attribute.remove mark attributes) = Attribute.classes attributes :=
  Attribute.classes_remove_of_ne (by decide) attributes

/-- Without a language to hand down, nothing moves. -/
theorem moved_of_no_language (hm : isMarked (.element number name attributes children) = true)
    (h : language? (.element number name attributes children) = none) :
    moved (Attribute.remove mark attributes) (normalizeNodes children) =
      (Attribute.remove mark attributes, normalizeNodes children) := by
  rw [moved, classes_unmarked]
  cases hc : Attribute.classes attributes with
  | nil => rfl
  | cons language others =>
    have hfree : (children.find? (·.hasName "code")).any (·.classes.isEmpty) = false := by
      rw [language?, hm, Bool.true_and] at h
      refine Bool.eq_false_iff.mpr fun htaken => ?_
      rw [Node.children, htaken, if_pos rfl, Node.classes, Node.attributes, hc] at h
      cases h
    have hnone := labelCode_normalizeNodes_isSome (languageClass language) children
    rw [hfree, Option.isSome_eq_false_iff, Option.isNone_iff_eq_none] at hnone
    dsimp only
    rw [hnone]

/-- A language goes from the classes of the `pre` to its code. -/
theorem moved_of_language {language : String}
    (h : language? (.element number name attributes children) = some language) :
    ∃ labelled, labelCode (languageClass language) (normalizeNodes children) = some labelled ∧
      moved (Attribute.remove mark attributes) (normalizeNodes children) =
        (if (Attribute.classes attributes).tail.isEmpty then
          Attribute.remove "class" (Attribute.remove mark attributes)
        else
          Attribute.setClasses (Attribute.classes attributes).tail
            (Attribute.remove mark attributes), labelled) := by
  rw [language?] at h
  split_ifs at h with hm
  obtain ⟨others, hc⟩ := List.head?_eq_some_iff.mp h
  have hsome := labelCode_normalizeNodes_isSome (languageClass language) children
  rw [show (children.find? (·.hasName "code")).any (·.classes.isEmpty) = true from
    (Bool.and_eq_true_iff.mp hm).2] at hsome
  obtain ⟨labelled, hl⟩ := Option.isSome_iff_exists.mp hsome
  have hclasses : Attribute.classes attributes = language :: others := hc
  refine ⟨labelled, hl, ?_⟩
  rw [moved, classes_unmarked, hclasses]
  dsimp only [List.tail_cons]
  rw [hl]
  rfl

end

theorem handed_normalizeNode (n : Node) :
    List.Forall₂ Handed (handed none n) (Node.elements (normalizeNode n)) := by
  induction n with
  | text kind s => exact .nil
  | element number name attributes children ih =>
    have hplain := handedOf_none_normalizeNodes ih
    obtain ⟨e, he⟩ : ∃ e, e = Node.element number name attributes children := ⟨_, rfl⟩
    rw [handed, ← he]
    cases hm : isMarked e with
    | false =>
      have hnone : language? e = none := by rw [language?, hm]; rfl
      rw [hnone, he, normalizeNode_of_not_marked (he ▸ hm), ← he, Node.elements]
      refine .cons (.of_attributes (fun _ => by rw [he]; rfl) ?_) hplain
      rw [handedAttributes, hm, if_neg Bool.false_ne_true, he]
      split_ifs <;> rfl
    | true =>
      have hpre : e.hasName "pre" = true := (Bool.and_eq_true_iff.mp hm).1
      have hcode : e.hasName "code" = false := Node.hasName_eq_false hpre (by decide)
      have hnormal := normalizeNode_of_marked (he ▸ hm)
      cases hl : language? e with
      | none =>
        rw [moved_of_no_language (he ▸ hm) (he ▸ hl), ← he] at hnormal
        rw [hnormal, Node.elements]
        refine .cons (.of_attributes (fun _ => by rw [he]; rfl) ?_) hplain
        rw [handedAttributes, hcode, hm, hl, he]
        rfl
      | some language =>
        obtain ⟨labelled, hlabel, hmoved⟩ := moved_of_language (he ▸ hl)
        have hword : Attribute.IsClass language := isClass_of_language hl
        rw [hmoved, ← he] at hnormal
        rw [hnormal, Node.elements]
        refine .cons ⟨fun _ => by rw [he]; rfl, ?_, ?_⟩ (handedOf_labelCode hword hlabel ih)
        · rw [handedAttributes, hcode, hm, hl, he]
          rfl
        · rintro _ ⟨⟩

theorem handedOf_normalizeNodes (nodes : List Node) :
    List.Forall₂ Handed (handedOf none nodes) (Node.elementsOf (normalizeNodes nodes)) :=
  handedOf_none_normalizeNodes fun n _ => handed_normalizeNode n

/-- Every element stands in the list once, in document order. -/
theorem handed_map_fst (language : Option String) (n : Node) :
    (handed language n).map Prod.fst = Node.elements n := by
  induction n generalizing language with
  | text kind s => rfl
  | element number name attributes children ih =>
    rw [handed, List.map_cons, Node.elements]
    congr 1
    generalize language? (.element number name attributes children) = below
    induction children generalizing below with
    | nil => rfl
    | cons n rest ihrest =>
      have hn := ih n List.mem_cons_self
      have hrest := ihrest fun m hm => ih m (List.mem_cons_of_mem _ hm)
      rw [handedOf, Node.elementsOf]
      split_ifs <;> rw [List.map_append, hn, hrest]

theorem handedOf_named (name : String) (nodes : List Node) :
    List.Forall₂ (fun o m => o.1.hasName name = true ∧ Handed o m)
      ((handedOf none nodes).filter (·.1.hasName name))
      ((Node.elementsOf (normalizeNodes nodes)).filter (·.hasName name)) := by
  refine (List.forall₂_and_left _ _).mpr ⟨fun o ho => (List.mem_filter.mp ho).2, ?_⟩
  exact List.rel_filter (fun o m hh => by simp only [hh.name]) (handedOf_normalizeNodes nodes)

theorem handedOf_none_map_fst (nodes : List Node) :
    (handedOf none nodes).map Prod.fst = Node.elementsOf nodes := by
  rw [handedOf_none, List.map_flatMap, Node.elementsOf_eq_flatMap]
  exact List.flatMap_congr fun n _ => handed_map_fst none n

end CodeFence

/-! ### Names that the system knows -/

/-- The class that the system has for a language. -/
def systemClass (language : String) : String :=
  if language ∈ ["sh", "bash", "language-sh", "language-bash"] then "language-php"
  else if "language-".toList.isPrefixOf language.toList then language
  else "language-" ++ language

namespace Rule

theorem lookup_codeLanguages (name : String) :
    Convention.codeLanguages.lookup name =
      if name = "language-sh" ∨ name = "language-bash" then some "language-php" else none := by
  rw [Convention.codeLanguages, List.lookup_cons, List.lookup_cons, List.lookup_nil]
  by_cases hs : name = "language-sh"
  · simp [hs]
  · by_cases hb : name = "language-bash"
    · simp [hb]
    · rw [beq_eq_false_iff_ne.mpr hs, beq_eq_false_iff_ne.mpr hb, if_neg (not_or.mpr ⟨hs, hb⟩)]

theorem findSome?_codeLanguages (names : List String) :
    names.findSome? (Convention.codeLanguages.lookup ·) =
      if "language-sh" ∈ names ∨ "language-bash" ∈ names then some "language-php" else none := by
  induction names with
  | nil => rfl
  | cons name rest ih =>
    rw [List.findSome?_cons, lookup_codeLanguages, ih]
    by_cases hn : name = "language-sh" ∨ name = "language-bash"
    · rw [if_pos hn]
      rcases hn with rfl | rfl <;> simp
    · simp only [not_or] at hn
      simp [hn, Ne.symm hn.1, Ne.symm hn.2]

theorem classes_codeAttributes (attributes : List Attribute) :
    Attribute.classes (codeAttributes attributes) =
      if "language-sh" ∈ Attribute.classes attributes ∨
        "language-bash" ∈ Attribute.classes attributes
      then ["language-php"] else Attribute.classes attributes := by
  rw [codeAttributes, findSome?_codeLanguages]
  split_ifs with h
  · have hmem : "language-php" ∈ Attribute.classes [⟨"class", "language-php"⟩] := by decide
    have hword := Attribute.isClass_of_mem hmem
    exact Attribute.classes_setClasses (List.forall_mem_singleton.mpr hword) attributes
  · rfl

theorem not_shell_codeAttributes (attributes : List Attribute) :
    "language-sh" ∉ Attribute.classes (codeAttributes attributes) ∧
      "language-bash" ∉ Attribute.classes (codeAttributes attributes) := by
  rw [classes_codeAttributes]
  split_ifs with h
  · decide
  · exact not_or.mp h

end Rule

namespace CodeFence

theorem isClass_languageClass {language : String} (h : Attribute.IsClass language) :
    Attribute.IsClass (languageClass language) := by
  have hlead : ("language-".toList.all fun c => !isBlank c) = true := rfl
  dsimp only [languageClass]
  split_ifs
  · exact h
  · refine ⟨by simp, fun c hc => ?_⟩
    rw [String.toList_append, List.mem_append] at hc
    exact hc.elim (fun hm => by simpa using List.all_eq_true.mp hlead c hm) (h.2 c)

theorem languageClass_eq_iff {language : String} (shell : String)
    (hs : ¬ "language-".toList.isPrefixOf shell.toList) :
    languageClass language = "language-" ++ shell ↔
      language = shell ∨ language = "language-" ++ shell := by
  dsimp only [languageClass]
  split_ifs with hp
  · refine ⟨.inr, ?_⟩
    rintro (rfl | h)
    · exact absurd hp hs
    · exact h
  · refine ⟨fun h => .inl (String.append_right_inj _ |>.mp h), ?_⟩
    rintro (rfl | rfl)
    · rfl
    · simp at hp

/-- What a label becomes when the rules have named it anew. -/
theorem classes_labelled {language : String} (h : Attribute.IsClass language)
    (attributes : List Attribute) :
    Attribute.classes
        (Rule.codeAttributes (Attribute.setClasses [languageClass language] attributes)) =
      [systemClass language] := by
  have hclasses := Attribute.classes_setClasses
    (List.forall_mem_singleton.mpr (isClass_languageClass h)) attributes
  have hsh : "language-sh" = languageClass language ↔ language = "sh" ∨ language = "language-sh" :=
    eq_comm.trans (languageClass_eq_iff "sh" (by decide))
  have hbash : "language-bash" = languageClass language ↔
      language = "bash" ∨ language = "language-bash" :=
    eq_comm.trans (languageClass_eq_iff "bash" (by decide))
  have hshell : ("language-sh" ∈ [languageClass language] ∨
      "language-bash" ∈ [languageClass language]) ↔
        language ∈ ["sh", "bash", "language-sh", "language-bash"] := by
    simp only [List.mem_cons, List.not_mem_nil, or_false, hsh, hbash]
    rw [or_or_or_comm, or_assoc]
  rw [Rule.classes_codeAttributes, hclasses, systemClass]
  by_cases hl : language ∈ ["sh", "bash", "language-sh", "language-bash"]
  · rw [if_pos (hshell.mpr hl), if_pos hl]
  · rw [if_neg (mt hshell.mp hl), if_neg hl]
    rfl

end CodeFence

/-! ### The result -/

/-- Elements of a name that the rules neither make nor replace. -/
theorem postprocess_named {text : String} {nodes : List Node} (h : parse? text = some nodes)
    (name : String) (hd : name ≠ "div") (hp : name ≠ "p") (hi : name ≠ "img")
    (hm : name ≠ Convention.mediaName) :
    (Node.elementsOf (postprocess nodes).1).filter (·.hasName name) =
      ((Node.elementsOf (CodeFence.normalizeNodes nodes)).filter (·.hasName name)).map
        fun n => ImageGrid.lifted (Rule.rewritten n) := by
  have hname (o : Placed) : (Rule.successor o).node.hasName name = o.node.hasName name := by
    rw [Rule.hasName_successor]
    split_ifs with himg
    · rw [Node.hasName_eq_false himg hi.symm, beq_eq_false_iff_ne.mpr hm.symm]
    · rfl
  have hnode (o : Placed) (ho : o.node.hasName name = true) :
      (Rule.successor o).node = Rule.rewritten o.node := by
    have himg : o.node.hasName "img" = false := Node.hasName_eq_false ho hi
    rw [Rule.successor, himg, if_neg Bool.false_ne_true]
    split_ifs <;> rfl
  have himages (o : Placed) : (Rule.images o).filter (·.node.hasName name) =
      if o.node.hasName name then [Rule.successor o] else [] := by
    rw [Rule.images_filter_hasName hd, hname]
  have hlift := ImageGrid.lift_elements (ImageGrid.stays_of_hasName hp)
    (fun n => ImageGrid.hasName_lifted n name) (Rule.fixNodes (CodeFence.normalizeNodes nodes)).1
  rw [Rule.placedElements_fixNodes (imagesEmpty_normalizeNodes h), filter_flatMap_eq_map himages,
    List.forall₂_map_left_iff] at hlift
  have hmem : ∀ o ∈ (Node.placedElements [] (CodeFence.normalizeNodes nodes)).filter
      (·.node.hasName name), o.node.hasName name = true := fun o ho => (List.mem_filter.mp ho).2
  have hall := (List.forall₂_and_left _ _).mpr ⟨hmem, hlift⟩
  rw [← Node.placedElements_map_node [], ← Node.placedElements_map_node [], List.filter_map,
    List.filter_map, List.map_map, eq_comm, ← List.forall₂_eq_eq_eq, List.forall₂_map_left_iff,
    List.forall₂_map_right_iff]
  refine hall.imp fun o o' ho => ?_
  rw [ho.2.node, hnode o ho.1]
  rfl

theorem attributes_lifted (n : Node) : (ImageGrid.lifted n).attributes = n.attributes := by
  cases n <;> rfl

theorem attributes_rewritten_pre {n : Node} (h : n.hasName "pre" = true) :
    (Rule.rewritten n).attributes = n.attributes := by
  cases n with
  | text kind s => rfl
  | element number name attributes children =>
    obtain rfl : name = "pre" := by simpa using h
    have hrule : RuleKind.ofElement? "pre" children = none := by
      simp [RuleKind.ofElement?, Convention.headingNames]
    rw [Rule.rewritten_of_no_rule hrule]
    rfl

theorem attributes_rewritten_code {n : Node} (h : n.hasName "code" = true) :
    (Rule.rewritten n).attributes = Rule.codeAttributes n.attributes := by
  cases n with
  | text kind s => cases h
  | element number name attributes children =>
    obtain rfl : name = "code" := by simpa using h
    have hrule := (Rule.ofElement?_eq_some_iff .code rfl "code" children).mpr rfl
    rw [Rule.rewritten, hrule]
    rfl

/-- A `pre` of a page and the same one in the result. -/
structure FencedPre (n m : Node) : Prop where
  unmarked : Attribute.find? CodeFence.mark m.attributes = none
  classes : m.classes = if (CodeFence.language? n).isSome then n.classes.tail else n.classes
  noClasses : (CodeFence.language? n).isSome → n.classes.tail = [] →
    Attribute.find? "class" m.attributes = none

/-- Code of a page, with the language that its `pre` hands to it, and the same code in the
result. -/
structure FencedCode (o : Node × Option String) (m : Node) : Prop where
  labelled : ∀ language, o.2 = some language → m.classes = [systemClass language]
  kept : o.2 = none → m.classes =
    if "language-sh" ∈ o.1.classes ∨ "language-bash" ∈ o.1.classes then ["language-php"]
    else o.1.classes

theorem fencedPre_of_attributes {n m : Node} (hn : n.hasName "pre" = true)
    (language : Option String) (hm : m.attributes = CodeFence.handedAttributes n language) :
    FencedPre n m := by
  have hcode : n.hasName "code" = false := Node.hasName_eq_false hn (by decide)
  have hremoved : Attribute.classes (Attribute.remove CodeFence.mark n.attributes) = n.classes :=
    Attribute.classes_remove_of_ne (by decide) _
  unfold CodeFence.handedAttributes at hm
  rw [hcode, if_neg Bool.false_ne_true] at hm
  by_cases hmark : CodeFence.isMarked n = true
  · rw [if_pos hmark] at hm
    cases hl : CodeFence.language? n with
    | none =>
      rw [hl] at hm
      refine ⟨?_, ?_, ?_⟩
      · rw [hm, Attribute.find?_remove]
      · rw [Node.classes, hm, hremoved, hl]
        rfl
      · rw [hl]
        rintro ⟨⟩
    | some language =>
      rw [hl] at hm
      dsimp only at hm
      split_ifs at hm with ht
      · have htail : n.classes.tail = [] := List.isEmpty_iff.mp ht
        have hnone : Attribute.find? "class" m.attributes = none := by
          rw [hm, Attribute.find?_remove]
        refine ⟨?_, ?_, fun _ _ => hnone⟩
        · rw [hm, Attribute.find?_remove_of_ne (by decide), Attribute.find?_remove]
        · rw [Node.classes, Attribute.classes, hnone, hl, htail]
          rfl
      · have hwords : ∀ name ∈ n.classes.tail, Attribute.IsClass name :=
          fun name hname => Attribute.isClass_of_mem (List.mem_of_mem_tail hname)
        refine ⟨?_, ?_, fun _ hnil => absurd (List.isEmpty_iff.mpr hnil) ht⟩
        · rw [hm, Attribute.setClasses, Attribute.find?_set_of_ne (by decide),
            Attribute.find?_remove]
        · rw [Node.classes, hm, Attribute.classes_setClasses hwords, hl]
          rfl
  · have hlanguage : CodeFence.language? n = none := by
      rw [CodeFence.language?, Bool.eq_false_iff.mpr hmark]
      rfl
    rw [if_neg hmark] at hm
    refine ⟨?_, ?_, ?_⟩
    · rw [CodeFence.isMarked, hn, Bool.true_and, Option.isSome_iff_ne_none, not_not] at hmark
      rw [hm, hmark]
    · rw [Node.classes, hm, hlanguage]
      rfl
    · rw [hlanguage]
      rintro ⟨⟩

theorem fencedCode_of_attributes {o : Node × Option String} {m : Node}
    (ho : o.1.hasName "code" = true) (hword : ∀ language ∈ o.2, Attribute.IsClass language)
    (hm : m.attributes = Rule.codeAttributes (CodeFence.handedAttributes o.1 o.2)) :
    FencedCode o m := by
  unfold CodeFence.handedAttributes at hm
  rw [if_pos ho] at hm
  refine ⟨fun language hl => ?_, fun hl => ?_⟩
  · rw [hl] at hm
    rw [Node.classes, hm]
    exact CodeFence.classes_labelled (hword language hl) _
  · rw [hl] at hm
    rw [Node.classes, hm]
    exact Rule.classes_codeAttributes _

/-- Classes of `pre` and `code`. No mark is left. The first class of a marked `pre` goes to its
code, under the name that the system knows; all other classes of the page stay, except that code
in shell languages gets the language that the system has for these. -/
theorem postprocess_fences {text : String} {nodes : List Node} (h : parse? text = some nodes) :
    (CodeFence.handedOf none nodes).map Prod.fst = Node.elementsOf nodes ∧
      List.Forall₂ FencedPre ((Node.elementsOf nodes).filter (·.hasName "pre"))
        ((Node.elementsOf (postprocess nodes).1).filter (·.hasName "pre")) ∧
      List.Forall₂ FencedCode ((CodeFence.handedOf none nodes).filter (·.1.hasName "code"))
        ((Node.elementsOf (postprocess nodes).1).filter (·.hasName "code")) ∧
      ∀ m ∈ Node.elementsOf (postprocess nodes).1, m.hasName "code" = true →
        "language-sh" ∉ m.classes ∧ "language-bash" ∉ m.classes := by
  have hpres := postprocess_named h "pre" (by decide) (by decide) (by decide) (by decide)
  have hcodes := postprocess_named h "code" (by decide) (by decide) (by decide) (by decide)
  have hmap := CodeFence.handedOf_none_map_fst nodes
  refine ⟨hmap, ?_, ?_, fun m hm hname => ?_⟩
  · rw [hpres, ← hmap, List.filter_map, List.forall₂_map_left_iff, List.forall₂_map_right_iff]
    refine (CodeFence.handedOf_named "pre" nodes).imp fun o m ⟨ho, hm⟩ => ?_
    refine fencedPre_of_attributes ho o.2 ?_
    rw [attributes_lifted, attributes_rewritten_pre (by rw [hm.name, ho]), hm.attributes]
  · rw [hcodes, List.forall₂_map_right_iff]
    refine (CodeFence.handedOf_named "code" nodes).imp fun o m ⟨ho, hm⟩ => ?_
    refine fencedCode_of_attributes ho hm.word ?_
    rw [attributes_lifted, attributes_rewritten_code (by rw [hm.name, ho]), hm.attributes]
  · have hmem := List.mem_filter.mpr ⟨hm, hname⟩
    rw [hcodes] at hmem
    obtain ⟨n, hn, rfl⟩ := List.mem_map.mp hmem
    have hcode : n.hasName "code" = true := (List.mem_filter.mp hn).2
    rw [Node.classes, attributes_lifted, attributes_rewritten_code hcode]
    exact Rule.not_shell_codeAttributes _

theorem postprocess_fences_of_shell :
    parse? "<pre class='sh x' data-fence=1><code>ls</code></pre><code class=y>z</code>" =
        some [.element none "pre" [⟨"class", "sh x"⟩, ⟨"data-fence", "1"⟩]
            [.element none "code" [] [.text .plain "ls"]],
          .element none "code" [⟨"class", "y"⟩] [.text .plain "z"]] ∧
      List.Forall₂ FencedCode
        [(.element none "code" [] [.text .plain "ls"], some "sh"),
          (.element none "code" [⟨"class", "y"⟩] [.text .plain "z"], none)]
        [.element none "code" [⟨"class", "language-php"⟩] [.text .plain "ls"],
          .element none "code" [⟨"class", "y"⟩] [.text .plain "z"]] := by
  have h : parse? "<pre class='sh x' data-fence=1><code>ls</code></pre><code class=y>z</code>" =
      some [.element none "pre" [⟨"class", "sh x"⟩, ⟨"data-fence", "1"⟩]
          [.element none "code" [] [.text .plain "ls"]],
        .element none "code" [⟨"class", "y"⟩] [.text .plain "z"]] := rfl
  exact ⟨h, (postprocess_fences h).2.2.1⟩

end CmsMarkup
