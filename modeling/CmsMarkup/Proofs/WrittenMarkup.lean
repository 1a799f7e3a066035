import CmsMarkup.Metadata
import CmsMarkup.Proofs.RegularTree
import Mathlib.Data.List.TakeDrop

/-! Written markup reads back. Tags come back as one token each, and text and values as they
were before their special characters gave way to references, whatever follows them. -/

namespace CmsMarkup

open Html

/-! ### References -/

namespace Html

theorem namedCharacters?_amp : namedCharacters? ['a', 'm', 'p'] = some ['&'] := by decide +kernel

theorem namedCharacters?_lt : namedCharacters? ['l', 't'] = some ['<'] := by decide +kernel

theorem namedCharacters?_gt : namedCharacters? ['g', 't'] = some ['>'] := by decide +kernel

theorem namedCharacters?_quot : namedCharacters? ['q', 'u', 'o', 't'] = some ['"'] := by
  decide +kernel

theorem escapeValue_cons (c : Char) (cs : List Char) :
    Metadata.escapeValue (c :: cs) = Metadata.escapeValue [c] ++ Metadata.escapeValue cs := by
  simp only [Metadata.escapeValue, escape, List.flatMap_cons, List.flatMap_nil, List.append_nil,
    List.flatMap_append]

theorem escapeChar_of_plain {c : Char} (ha : c ≠ '&') (hl : c ≠ '<') (hg : c ≠ '>') :
    escapeChar c = [c] := by
  rw [escapeChar, if_neg ha, if_neg hl, if_neg hg]

theorem escapeValue_of_plain {c : Char} (ha : c ≠ '&') (hl : c ≠ '<') (hg : c ≠ '>') (hq : c ≠ '"')
    (hs : c ≠ '\'') : Metadata.escapeValue [c] = [c] := by
  rw [Metadata.escapeValue, escape, List.flatMap_singleton, escapeChar_of_plain ha hl hg,
    List.flatMap_singleton, if_neg hq, if_neg hs]

namespace ValueReference

/-- A text that stands for one character of a value, whatever follows. -/
structure Decodes (cs : List Char) (c : Char) : Prop where
  decoded : ∀ rest, decodeFrom 0 (cs ++ rest) = c :: decodeFrom 0 rest
  short : ∀ rest, tooLong? (cs ++ rest) = tooLong? rest

theorem named_of_known {run chars : List Char} (h : namedCharacters? run = some chars) :
    named run true = chars := by simp only [named, if_true, h]

theorem decodeFrom_append (cs rest : List Char) :
    decodeFrom cs.length (cs ++ rest) = decodeFrom 0 rest := by
  induction cs with
  | nil => rfl
  | cons c cs ih => exact ih

theorem tooLong?_append {cs : List Char} (h : '&' ∉ cs) (rest : List Char) :
    tooLong? (cs ++ rest) = tooLong? rest := by
  induction cs with
  | nil => rfl
  | cons c cs ih =>
    rw [List.mem_cons, not_or] at h
    rw [List.cons_append, tooLong?, if_neg (Ne.symm h.1), ih h.2]

theorem decodes_reference {cs : List Char} {c : Char} (ha : '&' ∉ cs)
    (hl : ∀ rest, longDecimal? (cs ++ rest) = none)
    (h : ∀ rest, read? (cs ++ rest) = some ([c], cs.length)) : Decodes ('&' :: cs) c := by
  constructor
  · intro rest
    rw [List.cons_append, decodeFrom, if_pos rfl, h]
    dsimp only
    rw [decodeFrom_append]
    rfl
  · intro rest
    rw [List.cons_append, tooLong?, if_pos rfl, hl, Option.none_or, tooLong?_append ha]

theorem decodes_named (name : List Char) {c : Char} (h : namedCharacters? name = some [c])
    (ha : '&' ∉ name ++ [';']) (hl : ∀ rest, longDecimal? (name ++ ';' :: rest) = none)
    (hread : ∀ rest, read? (name ++ ';' :: rest) = some (named name true, name.length + 1)) :
    Decodes ('&' :: (name ++ [';'])) c := by
  refine decodes_reference ha (fun rest => ?_) fun rest => ?_
  · rw [List.append_assoc, List.singleton_append, hl]
  · rw [List.append_assoc, List.singleton_append, hread, named_of_known h, List.length_append,
      List.length_singleton]

theorem decodes_plain {c : Char} (h : c ≠ '&') : Decodes [c] c := by
  constructor
  · intro rest
    rw [List.singleton_append, decodeFrom, if_neg h]
  · intro rest
    rw [List.singleton_append, tooLong?, if_neg h]

theorem decodes_escapeChar (c : Char) : Decodes (escapeChar c) c := by
  by_cases ha : c = '&'
  · subst ha
    exact decodes_named ['a', 'm', 'p'] namedCharacters?_amp (by decide) (fun _ => rfl) fun _ => rfl
  by_cases hl : c = '<'
  · subst hl
    exact decodes_named ['l', 't'] namedCharacters?_lt (by decide) (fun _ => rfl) fun _ => rfl
  by_cases hg : c = '>'
  · subst hg
    exact decodes_named ['g', 't'] namedCharacters?_gt (by decide) (fun _ => rfl) fun _ => rfl
  · rw [escapeChar_of_plain ha hl hg]
    exact decodes_plain ha

theorem decodes_quot : Decodes ['&', 'q', 'u', 'o', 't', ';'] '"' :=
  decodes_named ['q', 'u', 'o', 't'] namedCharacters?_quot (by decide) (fun _ => rfl) fun _ => rfl

theorem decodes_apostrophe : Decodes ['&', '#', 'x', '2', '7', ';'] '\'' :=
  decodes_reference (by decide) (fun _ => rfl) fun _ => rfl

/-- What escapes quotes too can work on what is escaped already. -/
theorem decodes_requoted {f : Char → List Char} (hquot : Decodes (f '"') '"')
    (hapostrophe : Decodes (f '\'') '\'') (hf : ∀ d, d ≠ '"' → d ≠ '\'' → f d = [d]) (c : Char) :
    Decodes ((escapeChar c).flatMap f) c := by
  by_cases hspecial : c = '&' ∨ c = '<' ∨ c = '>'
  · have hsame : (escapeChar c).flatMap f = escapeChar c := by
      rcases hspecial with rfl | rfl | rfl <;> simp [escapeChar, hf]
    rw [hsame]
    exact decodes_escapeChar c
  · simp only [not_or] at hspecial
    obtain ⟨ha, hl, hg⟩ := hspecial
    rw [escapeChar_of_plain ha hl hg, List.flatMap_singleton]
    by_cases hq : c = '"'
    · rwa [hq]
    by_cases hs : c = '\''
    · rwa [hs]
    · rw [hf c hq hs]
      exact decodes_plain ha

end ValueReference

/-- A written value that is read as these characters. -/
structure IsValue (written cs : List Char) : Prop where
  decoded : decodeValue written = cs
  short : ValueReference.tooLong? written = none

theorem isValue_flatMap {f : Char → List Char} (h : ∀ c, ValueReference.Decodes (f c) c)
    (cs : List Char) : IsValue (cs.flatMap f) cs := by
  induction cs with
  | nil => exact ⟨rfl, rfl⟩
  | cons c cs ih =>
    rw [List.flatMap_cons]
    exact ⟨((h c).decoded _).trans (congrArg _ ih.decoded), ((h c).short _).trans ih.short⟩

theorem isValue_escape (cs : List Char) : IsValue (escape cs) cs :=
  isValue_flatMap ValueReference.decodes_escapeChar cs

theorem isValue_requoted {f : Char → List Char} (hquot : ValueReference.Decodes (f '"') '"')
    (hapostrophe : ValueReference.Decodes (f '\'') '\'')
    (hf : ∀ d, d ≠ '"' → d ≠ '\'' → f d = [d]) (cs : List Char) :
    IsValue ((escape cs).flatMap f) cs := by
  rw [escape, List.flatMap_assoc]
  exact isValue_flatMap (ValueReference.decodes_requoted hquot hapostrophe hf) cs

theorem isValue_escapeValue (cs : List Char) : IsValue (Metadata.escapeValue cs) cs := by
  rw [Metadata.escapeValue]
  refine isValue_requoted ?_ ?_ (fun d hq hs => by rw [if_neg hq, if_neg hs]) cs
  · rw [if_pos rfl]
    exact ValueReference.decodes_quot
  · rw [if_neg (by decide), if_pos rfl]
    exact ValueReference.decodes_apostrophe

end Html

/-! ### Names -/

/-- A name as it is written in tags: small letters only. -/
structure IsTagName (name : List Char) : Prop where
  nonempty : name ≠ []
  small : ∀ c ∈ name, c.isLower = true

theorem isTagName_of_all {name : List Char} (h : (name.all Char.isLower && !name.isEmpty) = true) :
    IsTagName name := by
  rw [Bool.and_eq_true, List.all_eq_true] at h
  exact ⟨by simpa using h.2, h.1⟩

def isNameChar (c : Char) : Bool := c.isLower || c.isDigit || c == '-'

/-- A small letter, then small letters, digits and hyphens. -/
inductive IsName : List Char → Prop
  | mk {c : Char} {more : List Char} (first : c.isLower = true)
      (others : ∀ d ∈ more, isNameChar d = true) : IsName (c :: more)

theorem isNameChar_of_small {c : Char} (h : c.isLower = true) : isNameChar c = true := by
  rw [isNameChar, h, Bool.true_or, Bool.true_or]

theorem code_of_nameChar {c : Char} (h : isNameChar c = true) :
    c.toNat = 45 ∨ (48 ≤ c.toNat ∧ c.toNat ≤ 57) ∨ (97 ≤ c.toNat ∧ c.toNat ≤ 122) := by
  rw [isNameChar, Bool.or_eq_true, Bool.or_eq_true, isLower_iff, isDigit_iff, beq_iff_eq] at h
  rcases h with (h | h) | rfl
  · exact .inr (.inr h)
  · exact .inr (.inl h)
  · exact .inl rfl

theorem IsTagName.isName {name : List Char} (h : IsTagName name) : IsName name := by
  obtain ⟨c, more, rfl⟩ := List.exists_cons_of_ne_nil h.nonempty
  obtain ⟨hc, hmore⟩ := List.forall_mem_cons.mp h.small
  exact .mk hc fun d hd => isNameChar_of_small (hmore d hd)

theorem IsName.chars {name : List Char} (h : IsName name) : ∀ c ∈ name, isNameChar c = true := by
  cases h with
  | mk first others => exact List.forall_mem_cons.mpr ⟨isNameChar_of_small first, others⟩

theorem isAsciiLetter_of_small {c : Char} (h : c.isLower = true) : isAsciiLetter c = true := by
  have hc := isLower_iff.mp h
  have ha : 'a' ≤ c := hc.1
  have hz : c ≤ 'z' := hc.2
  simp [isAsciiLetter, ha, hz]

theorem ne_of_nameChar {c : Char} (h : isNameChar c = true) {d : Char} (hd : isNameChar d = false) :
    c ≠ d := by
  rintro rfl
  rw [h] at hd
  cases hd

theorem isBlank_of_nameChar {c : Char} (h : isNameChar c = true) : isBlank c = false := by
  have hcode := code_of_nameChar h
  simp only [isBlank, Bool.or_eq_false_iff, Bool.and_eq_false_iff, decide_eq_false_iff_not,
    beq_eq_false_iff_ne]
  omega

theorem toLower_of_nameChar {c : Char} (h : isNameChar c = true) : c.toLower = c := by
  have hcapital : ¬ (c.val ≥ 'A'.val ∧ c.val ≤ 'Z'.val) := by
    rintro ⟨ha, hz⟩
    have hcode := code_of_nameChar h
    have ha' : 65 ≤ c.toNat := UInt32.le_iff_toNat_le.mp ha
    have hz' : c.toNat ≤ 90 := UInt32.le_iff_toNat_le.mp hz
    omega
  exact dif_neg hcapital

theorem lowercase_of_nameChars {cs : List Char} (h : ∀ c ∈ cs, isNameChar c = true) :
    lowercase cs = cs := by
  have hfrom (afterCased : Bool) : Casing.lowerFrom afterCased cs = cs := by
    induction cs generalizing afterCased with
    | nil => rfl
    | cons c cs ih =>
      obtain ⟨hc, hcs⟩ := List.forall_mem_cons.mp h
      have hcode := code_of_nameChar hc
      have hsigma : (c.toNat == 0x3A3) = false := beq_eq_false_iff_ne.mpr (by omega)
      have hlower : Casing.lowerChar c = [c] := by
        rw [Casing.lowerChar, if_pos (by omega), toLower_of_nameChar hc]
      rw [Casing.lowerFrom, ih hcs, hsigma, hlower]
      rfl
  exact hfrom false

theorem escapeValue_of_small {cs : List Char} (h : ∀ c ∈ cs, c.isLower = true) :
    Metadata.escapeValue cs = cs := by
  induction cs with
  | nil => rfl
  | cons c cs ih =>
    obtain ⟨hc, hcs⟩ := List.forall_mem_cons.mp h
    have hne {d : Char} (hd : isNameChar d = false) : c ≠ d :=
      ne_of_nameChar (isNameChar_of_small hc) hd
    rw [escapeValue_cons, escapeValue_of_plain (hne rfl) (hne rfl) (hne rfl) (hne rfl) (hne rfl),
      ih hcs]
    rfl

theorem span_append_cons {p : Char → Bool} {cs : List Char} (h : ∀ c ∈ cs, p c = true) {d : Char}
    (hd : p d = false) (rest : List Char) : (cs ++ d :: rest).span p = (cs, d :: rest) := by
  rw [List.span_eq_takeWhile_dropWhile, List.takeWhile_append_of_pos h,
    List.dropWhile_append_of_pos h, List.takeWhile_cons_of_neg (by simp [hd]),
    List.dropWhile_cons_of_neg (by simp [hd]), List.append_nil]

namespace Html.Token

/-- A text that is read as these tokens, whatever comes before it and after it. -/
def Reads (cs : List Char) (tokens : List Token) : Prop :=
  ∀ late rest, ofCharsFrom 0 late (cs ++ rest) = (ofCharsFrom 0 late rest).map (tokens ++ ·)

theorem ofCharsFrom_append (cs : List Char) (late : Bool) (rest : List Char) :
    ofCharsFrom cs.length late (cs ++ rest) = ofCharsFrom 0 late rest := by
  induction cs with
  | nil => rfl
  | cons c cs ih => exact ih

theorem Reads.nil : Reads [] [] := fun late rest => by
  cases h : ofCharsFrom 0 late rest <;> simp [h, Except.map]

theorem Reads.append {cs ds : List Char} {tokens more : List Token} (h : Reads cs tokens)
    (h' : Reads ds more) : Reads (cs ++ ds) (tokens ++ more) := by
  intro late rest
  rw [List.append_assoc, h, h']
  cases ofCharsFrom 0 late rest <;> simp [Except.map]

theorem reads_character {c : Char} (hl : c ≠ '<') (ha : c ≠ '&') : Reads [c] [.character c] := by
  intro late rest
  rw [List.singleton_append, ofCharsFrom, if_neg hl, if_neg ha]
  rfl

theorem reads_markup {cs : List Char} {tokens : List Token}
    (h : ∀ rest, readMarkup (cs ++ rest) = .found tokens rest) : Reads ('<' :: cs) tokens := by
  intro late rest
  rw [List.cons_append, ofCharsFrom, if_pos rfl, h]
  dsimp only
  rw [List.length_append, Nat.add_sub_cancel, ofCharsFrom_append]

theorem reads_ampersand {cs : List Char} {tokens : List Token}
    (hl : ∀ rest, TextReference.tooLong? (cs ++ rest) = none)
    (h : ∀ late rest, readReference late (cs ++ rest) = (tokens, rest, late)) :
    Reads ('&' :: cs) tokens := by
  intro late rest
  rw [List.cons_append, ofCharsFrom, if_neg (by decide), if_pos rfl, hl, h]
  dsimp only
  rw [List.length_append, Nat.add_sub_cancel, ofCharsFrom_append]

/-! ### Text -/

theorem reads_reference (name : List Char) {chars : List Char} (hn : IsTagName name)
    (hc : namedCharacters? name = some chars) :
    Reads ('&' :: (name ++ [';'])) (characters chars) := by
  obtain ⟨c, more, rfl⟩ := List.exists_cons_of_ne_nil hn.nonempty
  obtain ⟨hc', hmore⟩ := List.forall_mem_cons.mp hn.small
  have hspan (rest : List Char) : (more ++ ';' :: rest).span TextReference.isNameChar =
      (more, ';' :: rest) := by
    refine span_append_cons (fun d hd => ?_) (by decide) rest
    rw [TextReference.isNameChar, isAsciiLetter_of_small (hmore d hd)]
    rfl
  have hname (rest : List Char) : TextReference.name? (c :: more ++ ';' :: rest) =
      some (c :: more, ';' :: rest) := by
    rw [List.cons_append, TextReference.name?, isAsciiLetter_of_small hc', hspan]
    rfl
  have hread (late : Bool) (rest : List Char) :
      readReference late (c :: more ++ ';' :: rest) = (characters chars, rest, late) := by
    rw [List.cons_append, readReference]
    · rw [isAsciiLetter_of_small hc', ← List.cons_append, hname, if_pos rfl]
      dsimp only
      rw [hc]
      rfl
    · rintro rfl
      exact ne_of_nameChar (isNameChar_of_small hc') (by decide) rfl
  have hsmall (rest : List Char) : longDecimal? (c :: more ++ rest) = none := by
    rw [List.cons_append, longDecimal?]
    rintro cs ⟨⟩
    exact absurd hc' (by decide)
  refine reads_ampersand (fun rest => ?_) fun late rest => ?_
  · rw [TextReference.tooLong?, List.append_assoc, hsmall]
    split
    · exact ite_self _
    · rfl
  · rw [List.append_assoc]
    exact hread late rest

theorem reads_escapeChar (c : Char) : Reads (escapeChar c) [.character c] := by
  by_cases ha : c = '&'
  · subst ha
    exact reads_reference ['a', 'm', 'p'] (isTagName_of_all rfl) namedCharacters?_amp
  by_cases hl : c = '<'
  · subst hl
    exact reads_reference ['l', 't'] (isTagName_of_all rfl) namedCharacters?_lt
  by_cases hg : c = '>'
  · subst hg
    exact reads_reference ['g', 't'] (isTagName_of_all rfl) namedCharacters?_gt
  · rw [escapeChar, if_neg ha, if_neg hl, if_neg hg]
    exact reads_character hl ha

theorem reads_escape (cs : List Char) : Reads (escape cs) (characters cs) := by
  induction cs with
  | nil => exact .nil
  | cons c cs ih => exact (reads_escapeChar c).append ih

/-! ### Tags -/

/-- An attribute as it is written. -/
def writtenAttribute (a : Attribute) : List Char :=
  ' ' :: (a.name.toList ++ '=' :: '"' :: (Metadata.escapeValue a.value.toList ++ ['"']))

/-- A start tag as it is written. -/
def writtenTag (name : List Char) (attributes : List Attribute) : List Char :=
  '<' :: (name ++ (attributes.flatMap writtenAttribute ++ ['>']))

/-- A text that is read as this attribute: its name, and its value between quotes. -/
structure IsWritten (cs : List Char) (a : Attribute) : Prop where
  name : IsName a.name.toList
  value : ∃ q w, isQuote q = true ∧ q ∉ w ∧ IsValue w a.value.toList ∧
    cs = ' ' :: (a.name.toList ++ '=' :: q :: (w ++ [q]))

/-- The end of a start tag, whether or not the tag closes its element too. -/
def tagEnd : Bool → List Char
  | true => ['/', '>']
  | false => ['>']

theorem splitAtFirst_append {c : Char} {cs : List Char} (h : c ∉ cs) (rest : List Char) :
    splitAtFirst c (cs ++ c :: rest) = some (cs, rest) := by
  have hspan : (cs ++ c :: rest).span (· != c) = (cs, c :: rest) := by
    refine span_append_cons (fun d hd => ?_) (by simp) rest
    exact bne_iff_ne.mpr (ne_of_mem_of_not_mem hd h)
  rw [splitAtFirst, hspan]

theorem quote_not_mem_escapeValue (cs : List Char) : '"' ∉ Metadata.escapeValue cs := by
  rw [Metadata.escapeValue, List.mem_flatMap]
  rintro ⟨c, -, hc⟩
  split_ifs at hc with hq
  · exact absurd hc (by decide)
  · exact absurd hc (by decide)
  · exact hq (List.mem_singleton.mp hc).symm

theorem isWritten_writtenAttribute {a : Attribute} (hn : IsName a.name.toList) :
    IsWritten (writtenAttribute a) a :=
  ⟨hn, '"', Metadata.escapeValue a.value.toList, rfl, quote_not_mem_escapeValue _,
    isValue_escapeValue _, rfl⟩

theorem attributeValue_quoted {q : Char} {w : List Char} (hq : isQuote q = true) (hw : q ∉ w)
    (rest : List Char) : attributeValue ('=' :: q :: (w ++ q :: rest)) = some (w, rest, true) := by
  have hsplit := splitAtFirst_append hw rest
  generalize w ++ q :: rest = tail at hsplit ⊢
  have hquotes : q = '"' ∨ q = '\'' := by simpa [isQuote] using hq
  have hequals : (('=' :: q :: tail).dropWhile isBlank).span (· == '=') = (['='], q :: tail) := by
    rcases hquotes with rfl | rfl <;> rfl
  have hblanks : (q :: tail).span isBlank = ([], q :: tail) := by
    rcases hquotes with rfl | rfl <;> rfl
  simp only [attributeValue, hequals, hblanks, hq, if_true, hsplit]

theorem length_skipFiller_le (cs : List Char) : (skipFiller cs).length ≤ cs.length := by
  fun_induction skipFiller cs with
  | case1 => exact Nat.le_refl _
  | case2 cs _ ih => exact Nat.le_succ_of_le ih
  | case3 c cs _ _ hb ih => exact Nat.le_succ_of_le ih
  | case4 => exact Nat.le_refl _
  | case5 => exact Nat.le_refl _

theorem skipFiller_of_nameChar {c : Char} (h : isNameChar c = true) (cs : List Char) :
    skipFiller (c :: cs) = c :: cs := by
  have hslash : c ≠ '/' := ne_of_nameChar h rfl
  unfold skipFiller
  split
  · rename_i he
    exact absurd (List.cons.inj he).1 hslash
  · rename_i he
    exact absurd (List.cons.inj he).1 hslash
  · rename_i he
    obtain ⟨rfl, rfl⟩ := List.cons.inj he
    rw [isBlank_of_nameChar h, if_neg Bool.false_ne_true]
  · rename_i he
    cases he

theorem skipFiller_name {name : List Char} (hn : IsName name) (tail : List Char) :
    skipFiller (' ' :: (name ++ tail)) = name ++ tail := by
  cases hn with
  | @mk c more first others =>
    have hblank (cs : List Char) : skipFiller (' ' :: c :: cs) = skipFiller (c :: cs) := rfl
    rw [List.cons_append, hblank, skipFiller_of_nameChar (isNameChar_of_small first)]

theorem attributesFrom_name {name : List Char} (hn : IsName name) {q : Char} {w : List Char}
    (hq : isQuote q = true) (hw : q ∉ w) (tail : List Char) (fuel : Nat) :
    attributesFrom (fuel + 1) true (name ++ '=' :: q :: (w ++ q :: tail)) =
      ((name, w) :: (attributesFrom fuel true (skipFiller tail)).1,
        (attributesFrom fuel true (skipFiller tail)).2) := by
  have hlower := lowercase_of_nameChars hn.chars
  cases hn with
  | @mk c more first others =>
    have hspan (cs : List Char) :
        (more ++ '=' :: cs).span (fun c => !(isBlank c || c == '/' || c == '=' || c == '>')) =
          (more, '=' :: cs) := by
      refine span_append_cons (fun d hd => ?_) rfl cs
      have hd := others d hd
      have hne {e : Char} (he : isNameChar e = false) : (d == e) = false :=
        beq_eq_false_iff_ne.mpr (ne_of_nameChar hd he)
      rw [isBlank_of_nameChar hd, hne (e := '/') rfl, hne (e := '=') rfl, hne (e := '>') rfl]
      rfl
    have hbegins : (!true || isBlank c || c == '/' || c == '>') = false := by
      have hc := isNameChar_of_small first
      have hne {e : Char} (he : isNameChar e = false) : (c == e) = false :=
        beq_eq_false_iff_ne.mpr (ne_of_nameChar hc he)
      rw [isBlank_of_nameChar hc, hne (e := '/') rfl, hne (e := '>') rfl]
      rfl
    rw [List.cons_append, attributesFrom, hbegins, hspan, if_neg Bool.false_ne_true]
    dsimp only
    rw [attributeValue_quoted hq hw, Option.getD_some]
    dsimp only
    rw [hlower, Bool.true_or]

/-- The written values of attributes, under their names. -/
def AreValues (pairs : List (List Char × List Char)) (attributes : List Attribute) : Prop :=
  List.Forall₂ (fun p a => p.1 = a.name.toList ∧ IsValue p.2 a.value.toList) pairs attributes

theorem IsWritten.attributesFrom {cs : List Char} {a : Attribute} (h : IsWritten cs a) :
    ∃ w, IsValue w a.value.toList ∧ ∀ tail fuel,
      Token.attributesFrom (fuel + 1) true (skipFiller (cs ++ tail)) =
        ((a.name.toList, w) :: (Token.attributesFrom fuel true (skipFiller tail)).1,
          (Token.attributesFrom fuel true (skipFiller tail)).2) := by
  obtain ⟨hname, q, w, hq, hw, hvalue, rfl⟩ := h
  refine ⟨w, hvalue, fun tail fuel => ?_⟩
  have hread := attributesFrom_name hname hq hw tail fuel
  simp only [List.cons_append, List.append_assoc, List.nil_append, skipFiller_name hname]
  exact hread

theorem IsWritten.length_lt {cs : List Char} {a : Attribute} (h : IsWritten cs a)
    (tail : List Char) : (skipFiller tail).length < (skipFiller (cs ++ tail)).length := by
  obtain ⟨hname, q, w, -, -, -, rfl⟩ := h
  have hle := length_skipFiller_le tail
  simp only [List.cons_append, List.append_assoc, List.nil_append, skipFiller_name hname,
    List.length_append, List.length_cons]
  omega

theorem skipFiller_tagEnd (closed : Bool) (rest : List Char) :
    skipFiller (tagEnd closed ++ rest) = tagEnd closed ++ rest := by
  cases closed <;> rfl

theorem attributesFrom_written {write : Attribute → List Char} {attributes : List Attribute}
    (h : ∀ a ∈ attributes, IsWritten (write a) a) (closed : Bool) (rest : List Char) {fuel : Nat}
    (hf : (skipFiller (attributes.flatMap write ++ (tagEnd closed ++ rest))).length < fuel)
    {openTag : Bool} (ho : attributes ≠ [] → openTag = true) :
    ∃ pairs, AreValues pairs attributes ∧
      attributesFrom fuel openTag
          (skipFiller (attributes.flatMap write ++ (tagEnd closed ++ rest))) =
        (pairs, tagEnd closed ++ rest) := by
  induction attributes generalizing fuel openTag with
  | nil =>
    rw [List.flatMap_nil, List.nil_append, skipFiller_tagEnd] at hf ⊢
    refine ⟨[], .nil, ?_⟩
    cases fuel with
    | zero => exact absurd hf (Nat.not_lt_zero _)
    | succ fuel => cases closed <;> simp [attributesFrom, tagEnd]
  | cons a attributes ih =>
    obtain ⟨ha, hrest⟩ := List.forall_mem_cons.mp h
    obtain rfl := ho (List.cons_ne_nil _ _)
    rw [List.flatMap_cons, List.append_assoc] at hf ⊢
    cases fuel with
    | zero => exact absurd hf (Nat.not_lt_zero _)
    | succ fuel =>
      have hshort := ha.length_lt (attributes.flatMap write ++ (tagEnd closed ++ rest))
      obtain ⟨w, hw, hfirst⟩ := ha.attributesFrom
      have hfuel : (skipFiller (attributes.flatMap write ++ (tagEnd closed ++ rest))).length < fuel := by
        omega
      obtain ⟨pairs, hpairs, hmore⟩ := ih hrest hfuel fun _ => rfl
      exact ⟨(a.name.toList, w) :: pairs, .cons ⟨rfl, hw⟩ hpairs, by rw [hfirst, hmore]⟩

theorem set_of_not_mem {name : String} {attributes : List Attribute}
    (h : name ∉ attributes.map (·.name)) (value : String) :
    Attribute.set name value attributes = attributes ++ [⟨name, value⟩] := by
  induction attributes with
  | nil => rfl
  | cons a rest ih =>
    rw [List.map_cons, List.mem_cons, not_or] at h
    obtain ⟨ha, hrest⟩ := h
    rw [Attribute.set, beq_eq_false_iff_ne.mpr (Ne.symm ha), ih hrest]
    rfl

theorem AreValues.collect {pairs : List (List Char × List Char)} {attributes : List Attribute}
    (h : AreValues pairs attributes) (hd : Attribute.Distinct attributes) :
    Token.collect pairs = attributes := by
  have hfrom (before : List Attribute) (hb : Attribute.Distinct (before ++ attributes)) :
      pairs.foldl (fun attributes p =>
        Attribute.set (String.ofList p.1) (String.ofList (decodeValue p.2)) attributes) before =
        before ++ attributes := by
    clear hd
    induction h generalizing before with
    | nil => exact (List.append_nil _).symm
    | @cons p a pairs attributes hp _ ih =>
      have hnew : a.name ∉ before.map (·.name) := by
        rw [Attribute.Distinct, List.map_append, List.nodup_append] at hb
        exact fun hm => hb.2.2 _ hm _ List.mem_cons_self rfl
      have hset : Attribute.set (String.ofList p.1) (String.ofList (decodeValue p.2)) before =
          before ++ [a] := by
        rw [hp.1, hp.2.decoded, String.ofList_toList, String.ofList_toList, set_of_not_mem hnew]
      rw [List.append_cons] at hb ⊢
      rw [List.foldl_cons, hset, ih _ hb]
  exact hfrom [] hd

theorem AreValues.decoding {pairs : List (List Char × List Char)} {attributes : List Attribute}
    (h : AreValues pairs attributes) (front : Front) : front.decoding pairs = front := by
  have hnone : (pairs.findSome? fun p => ValueReference.tooLong? p.2) = none := by
    induction h with
    | nil => rfl
    | cons hp _ ih => rw [List.findSome?_cons, hp.2.short, ih]
  cases front <;> simp only [Front.decoding, hnone]

theorem isTagNameChar_of_nameChar {c : Char} (h : isNameChar c = true) : isTagNameChar c = true := by
  have hends : ['\t', '\n', '\r', '\x0c', ' ', '/', '>', '\x00'].all (!isNameChar ·) = true := rfl
  have hout : c ∉ ['\t', '\n', '\r', '\x0c', ' ', '/', '>', '\x00'] := by
    intro hm
    have hc := List.all_eq_true.mp hends c hm
    rw [h] at hc
    cases hc
  rw [isTagNameChar, decide_eq_false hout]
  rfl

theorem readStartTag_written {name : List Char} (hn : IsName name)
    {write : Attribute → List Char} {attributes : List Attribute}
    (ha : ∀ a ∈ attributes, IsWritten (write a) a) (hd : Attribute.Distinct attributes)
    (closed : Bool) (rest : List Char) :
    readStartTag (name ++ (attributes.flatMap write ++ (tagEnd closed ++ rest))) =
      let tag := Token.startTag (String.ofList name) attributes closed
      if !closed && isRawName name then
        match rawText? name rest with
        | some (text, rest) =>
          .found (tag :: characters text ++ [.endTag (String.ofList name)]) rest
        | none => .found [tag] []
      else .found [tag] rest := by
  have hfrom (openTag : Bool) (ho : attributes ≠ [] → openTag = true) :=
    attributesFrom_written ha closed rest (Nat.lt_succ_self _) ho
  obtain ⟨d, behind, hbehind, hstop, hfiller⟩ : ∃ d behind,
      attributes.flatMap write ++ (tagEnd closed ++ rest) = d :: behind ∧ isTagNameChar d = false ∧
        (attributes ≠ [] → startsWithFiller (d :: behind) = true) := by
    cases attributes with
    | nil => cases closed <;> exact ⟨_, _, rfl, rfl, fun h => absurd rfl h⟩
    | cons a attributes =>
      obtain ⟨-, q, w, -, -, -, hwrite⟩ := ha a List.mem_cons_self
      rw [List.flatMap_cons, hwrite]
      exact ⟨' ', _, rfl, rfl, fun _ => rfl⟩
  have hspan := span_append_cons (fun c hc => isTagNameChar_of_nameChar (hn.chars c hc)) hstop behind
  rw [hbehind] at hfrom ⊢
  rw [readStartTag, hspan]
  dsimp only
  obtain ⟨pairs, hpairs, hread⟩ := hfrom
    ((name.getLast?.any fun c => isQuote c || isBlank c) || startsWithFiller (d :: behind))
    fun h => by rw [hfiller h, Bool.or_true]
  rw [hread, lowercase_of_nameChars hn.chars]
  dsimp only
  rw [hpairs.collect hd, hpairs.decoding]
  cases closed <;> rfl

theorem readMarkup_of_name {name : List Char} (hn : IsName name) (rest : List Char) :
    readMarkup (name ++ rest) = readStartTag (name ++ rest) := by
  cases hn with
  | @mk c more first others =>
    have hne {d : Char} (hd : isNameChar d = false) : c ≠ d :=
      ne_of_nameChar (isNameChar_of_small first) hd
    rw [List.cons_append, readMarkup, isAsciiLetter_of_small first, if_pos rfl]
    · exact hne rfl
    · exact fun _ he => absurd he (hne rfl)
    · exact fun _ he => absurd he (hne rfl)
    · exact hne rfl
    · exact hne rfl

theorem reads_startTag {name : List Char} (hn : IsName name) (hraw : isRawName name = false)
    {write : Attribute → List Char} {attributes : List Attribute}
    (ha : ∀ a ∈ attributes, IsWritten (write a) a) (hd : Attribute.Distinct attributes)
    (closed : Bool) :
    Reads ('<' :: (name ++ (attributes.flatMap write ++ tagEnd closed)))
      [.startTag (String.ofList name) attributes closed] := by
  refine reads_markup fun rest => ?_
  rw [List.append_assoc, List.append_assoc, readMarkup_of_name hn, readStartTag_written hn ha hd,
    hraw, Bool.and_false]
  rfl

theorem reads_writtenTag {name : List Char} (hn : IsTagName name) (hraw : isRawName name = false)
    {attributes : List Attribute} (ha : ∀ a ∈ attributes, IsTagName a.name.toList)
    (hd : Attribute.Distinct attributes) :
    Reads (writtenTag name attributes) [.startTag (String.ofList name) attributes false] :=
  reads_startTag hn.isName hraw (fun a h => isWritten_writtenAttribute (ha a h).isName) hd false

theorem endTagOf?_written {name : List Char} (hn : IsName name) (rest : List Char) :
    endTagOf? name ('<' :: '/' :: (name ++ '>' :: rest)) = some rest := by
  have hblank : (name ++ '>' :: rest).dropWhile isBlank = name ++ '>' :: rest := by
    cases hn with
    | mk first others =>
      rw [List.cons_append, List.dropWhile_cons_of_neg
        (by simp [isBlank_of_nameChar (isNameChar_of_small first)])]
  have hlower : name.map Char.toLower = name :=
    (List.map_congr_left fun d hd => toLower_of_nameChar (hn.chars d hd)).trans (List.map_id' name)
  rw [endTagOf?, hblank, List.take_left, List.drop_left, hlower, beq_self_eq_true, if_pos rfl]
  rfl

theorem rawText?_written {name : List Char} (hn : IsName name) {cs : List Char} (h : '<' ∉ cs)
    (rest : List Char) :
    rawText? name (cs ++ '<' :: '/' :: (name ++ '>' :: rest)) = some (cs, rest) := by
  induction cs with
  | nil => rw [List.nil_append, rawText?, endTagOf?_written hn]
  | cons c cs ih =>
    rw [List.mem_cons, not_or] at h
    have hno (more : List Char) : endTagOf? name (c :: more) = none := by
      rw [endTagOf?]
      rintro _ ⟨⟩
      exact h.1 rfl
    rw [List.cons_append, rawText?, hno, ih h.2]
    rfl

/-- An element that is read raw comes with its text and its end tag. -/
theorem reads_rawElement {name : List Char} (hn : IsName name) (hraw : isRawName name = true)
    {cs : List Char} (h : '<' ∉ cs) :
    Reads ('<' :: (name ++ '>' :: (cs ++ '<' :: '/' :: (name ++ ['>']))))
      (.startTag (String.ofList name) [] false :: characters cs ++
        [.endTag (String.ofList name)]) := by
  refine reads_markup fun rest => ?_
  have hstart := @readStartTag_written name hn writtenAttribute [] (List.forall_mem_nil _)
    List.nodup_nil false (cs ++ '<' :: '/' :: (name ++ '>' :: rest))
  rw [hraw, rawText?_written hn h, List.flatMap_nil, List.nil_append] at hstart
  simp only [List.append_assoc, List.cons_append, List.nil_append, readMarkup_of_name hn]
  exact hstart

theorem isEndNameChar_of_nameChar {c : Char} (h : isNameChar c = true) : isEndNameChar c = true := by
  rw [isNameChar, Bool.or_eq_true, Bool.or_eq_true, beq_iff_eq] at h
  rcases h with (h | h) | rfl
  · rw [isEndNameChar, isAsciiLetter_of_small h]
    rfl
  · have hdigit : isAsciiDigit c = true := h
    rw [isEndNameChar, hdigit, Bool.or_true]
    rfl
  · rfl

theorem reads_endTag {name : List Char} (hn : IsName name) :
    Reads ('<' :: '/' :: (name ++ ['>'])) [.endTag (String.ofList name)] := by
  refine reads_markup fun rest => ?_
  have hlower := lowercase_of_nameChars hn.chars
  have hsplit : splitAtFirst '>' (name ++ '>' :: rest) = some (name, rest) :=
    splitAtFirst_append (fun hm => ne_of_nameChar (hn.chars _ hm) (d := '>') rfl rfl) rest
  cases hn with
  | @mk c more first others =>
    have hspan : (more ++ '>' :: rest).span isEndNameChar = (more, '>' :: rest) := by
      refine span_append_cons (fun d hd => ?_) rfl rest
      exact isEndNameChar_of_nameChar (others d hd)
    have hplain : plainEndTag? (c :: more ++ '>' :: rest) = some (c :: more, rest) := by
      rw [plainEndTag?, List.cons_append, List.dropWhile_cons_of_neg
        (by simp [isBlank_of_nameChar (isNameChar_of_small first)])]
      dsimp only
      rw [isAsciiLetter_of_small first, hspan]
      rfl
    rw [List.cons_append, List.append_assoc, List.singleton_append, readMarkup, readEndTag, hsplit,
      hplain]
    dsimp only
    rw [hlower]

end Html.Token

/-! ### A tree under construction -/

namespace Html.Construction

theorem flush_pending (c : Construction) : c.flush.pending = [] := by
  unfold Construction.flush
  split
  · rename_i h
    exact List.isEmpty_iff.mp h
  · unfold Construction.add
    split <;> rfl

theorem foldl_characters (cs : List Char) (c : Construction) :
    (Token.characters cs).foldl step c = { c with pending := cs.reverse ++ c.pending } := by
  induction cs generalizing c with
  | nil => rfl
  | cons ch cs ih =>
    rw [Token.characters, List.map_cons, List.foldl_cons, ← Token.characters, ih, step,
      List.reverse_cons, List.append_assoc]
    rfl

theorem close_innermost {c : Construction} {e : OpenElement} {outer : List OpenElement}
    (h : c.opened = e :: outer) {name : String} (hn : e.name = name) :
    c.close name = c.closeOne := by
  rw [close, h, List.findIdx?_cons, beq_iff_eq.mpr hn]
  rfl

end Html.Construction

end CmsMarkup
