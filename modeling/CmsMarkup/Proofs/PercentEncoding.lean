import CmsMarkup.Slug
import CmsMarkup.Text.Ranges
import CmsMarkup.Text.Utf8
import Mathlib.Data.List.Basic
import Mathlib.Data.String.Basic
import Mathlib.Tactic.SplitIfs

/-! Reading percent-encoded text back. The bytes of every character are read back as that character,
and the escape of every byte as that byte, so two texts with one encoding are the same text. Ids of
headings are encoded slugs and tell any two slugs apart. -/

namespace CmsMarkup

/-! ### Characters from their bytes -/

namespace Utf8

section bytes

variable {position : Nat} {a b c d : UInt8} {rest : List UInt8}

theorem decodeFrom_one (h : a.toNat < 0x80) :
    decodeFrom position (a :: rest) = (decodeFrom (position + 1) rest).map (Char.ofNat a.toNat :: ·) := by
  conv_lhs => rw [decodeFrom.eq_def]
  simp [h]

theorem decodeFrom_two (hlow : 0xC2 ≤ a.toNat) (hhigh : a.toNat < 0xE0) (hb : isSecond a b = true) :
    decodeFrom position (a :: b :: rest) =
      (decodeFrom (position + 2) rest).map (Char.ofNat (extend (a.toNat % 32) b) :: ·) := by
  have hlead : ¬ a.toNat < 0x80 ∧ ¬ a.toNat < 0xC2 ∧ ¬ 0xF4 < a.toNat := by omega
  conv_lhs => rw [decodeFrom.eq_def]
  simp only [hlead, hb, hhigh, decide_false, Bool.or_false, Bool.not_true, Bool.false_eq_true, if_false,
    if_true]

theorem decodeFrom_three (hlow : 0xE0 ≤ a.toNat) (hhigh : a.toNat < 0xF0) (hb : isSecond a b = true)
    (hc : isContinuation c = true) :
    decodeFrom position (a :: b :: c :: rest) =
      (decodeFrom (position + 3) rest).map (Char.ofNat (extend (extend (a.toNat % 16) b) c) :: ·) := by
  have hlead : ¬ a.toNat < 0x80 ∧ ¬ a.toNat < 0xC2 ∧ ¬ 0xF4 < a.toNat ∧ ¬ a.toNat < 0xE0 := by omega
  conv_lhs => rw [decodeFrom.eq_def]
  simp only [hlead, hb, hc, hhigh, decide_false, Bool.or_false, Bool.not_true, Bool.false_eq_true, if_false,
    if_true]

theorem decodeFrom_four (hlow : 0xF0 ≤ a.toNat) (hhigh : a.toNat ≤ 0xF4) (hb : isSecond a b = true)
    (hc : isContinuation c = true) (hd : isContinuation d = true) :
    decodeFrom position (a :: b :: c :: d :: rest) =
      (decodeFrom (position + 4) rest).map
        (Char.ofNat (extend (extend (extend (a.toNat % 8) b) c) d) :: ·) := by
  have hlead : ¬ a.toNat < 0x80 ∧ ¬ a.toNat < 0xC2 ∧ ¬ 0xF4 < a.toNat ∧ ¬ a.toNat < 0xE0 ∧
    ¬ a.toNat < 0xF0 := by omega
  conv_lhs => rw [decodeFrom.eq_def]
  simp only [hlead, hb, hc, hd, decide_false, Bool.or_false, Bool.not_true, Bool.false_eq_true, if_false]

end bytes

theorem toNat_byte {n : Nat} (h : n < 256) : (UInt8.ofNat n).toNat = n :=
  UInt8.toNat_ofNat_of_lt' h

theorem isContinuation_byte {n : Nat} (h : n < 64) : isContinuation (.ofNat (n + 128)) = true := by
  rw [isContinuation, toNat_byte (by omega), beq_iff_eq]
  omega

/-- A continuation byte is a second one unless the first byte has a bound for it. -/
theorem isSecond_bytes {m n : Nat} (hm : m < 256) (hn : n < 64)
    (h : (m = 0xE0 → 32 ≤ n) ∧ (m = 0xED → n < 32) ∧ (m = 0xF0 → 16 ≤ n) ∧ (m = 0xF4 → n < 16)) :
    isSecond (.ofNat m) (.ofNat (n + 128)) = true := by
  have hm := toNat_byte hm
  have hn' := toNat_byte (n := n + 128) (by omega)
  simp only [isSecond, isContinuation_byte hn, hm, hn', Bool.true_and, Bool.and_eq_true,
    Bool.not_eq_true', Bool.and_eq_false_iff, beq_eq_false_iff_ne, decide_eq_false_iff_not]
  omega

/-- The bytes of a character are read back as it, whatever follows them. -/
theorem decodeFrom_encodeChar (position : Nat) (c : Char) (rest : List UInt8) :
    decodeFrom position (String.utf8EncodeChar c ++ rest) =
      (decodeFrom (position + c.utf8Size) rest).map (c :: ·) := by
  have hc : Char.ofNat c.val.toNat = c := Char.ofNat_toNat c
  have hvalid : c.val.toNat < 0xD800 ∨ 0xDFFF < c.val.toNat ∧ c.val.toNat < 0x110000 := c.valid
  rw [← String.length_utf8EncodeChar, String.utf8EncodeChar]
  generalize c.val.toNat = n at *
  have hlast := toNat_byte (n := n % 64 + 128) (by omega)
  have hthird := toNat_byte (n := n / 64 % 64 + 128) (by omega)
  have hsecond := toNat_byte (n := n / 4096 % 64 + 128) (by omega)
  -- One case for each number of bytes. That the form is the shortest one and that `n` is neither
  -- a surrogate nor too great is what the second byte is checked for.
  split_ifs with hone htwo hthree
  · have ha := toNat_byte (n := n) (by omega)
    rw [List.singleton_append, decodeFrom_one (by omega), ha, hc]
    rfl
  · have ha := toNat_byte (n := n / 64 % 32 + 192) (by omega)
    have hbits : (n / 64 % 32 + 192) % 32 * 64 + (n % 64 + 128) % 64 = n := by omega
    have hb := isSecond_bytes (m := n / 64 % 32 + 192) (n := n % 64) (by omega) (by omega) (by omega)
    rw [List.cons_append, List.singleton_append, decodeFrom_two (by omega) (by omega) hb, extend, ha, hlast,
      hbits, hc]
    rfl
  · have ha := toNat_byte (n := n / 4096 % 16 + 224) (by omega)
    have hbits : ((n / 4096 % 16 + 224) % 16 * 64 + (n / 64 % 64 + 128) % 64) * 64 +
        (n % 64 + 128) % 64 = n := by omega
    have hb := isSecond_bytes (m := n / 4096 % 16 + 224) (n := n / 64 % 64) (by omega) (by omega) (by omega)
    simp only [List.cons_append, List.nil_append]
    rw [decodeFrom_three (by omega) (by omega) hb (isContinuation_byte (by omega)), extend, extend, ha,
      hthird, hlast, hbits, hc]
    rfl
  · have ha := toNat_byte (n := n / 262144 % 8 + 240) (by omega)
    have hbits : (((n / 262144 % 8 + 240) % 8 * 64 + (n / 4096 % 64 + 128) % 64) * 64 +
        (n / 64 % 64 + 128) % 64) * 64 + (n % 64 + 128) % 64 = n := by omega
    have hb := isSecond_bytes (m := n / 262144 % 8 + 240) (n := n / 4096 % 64) (by omega) (by omega)
      (by omega)
    simp only [List.cons_append, List.nil_append]
    rw [decodeFrom_four (by omega) (by omega) hb (isContinuation_byte (by omega))
      (isContinuation_byte (by omega)), extend, extend, extend, ha, hsecond, hthird, hlast, hbits, hc]
    rfl

theorem decodeFrom_encode (position : Nat) (cs : List Char) : decodeFrom position (encode cs) = .ok cs := by
  induction cs generalizing position with
  | nil => rfl
  | cons c cs ih =>
    have ih := ih (position + c.utf8Size)
    rw [encode] at ih ⊢
    rw [List.flatMap_cons, decodeFrom_encodeChar, ih]
    rfl

theorem decode_encode (cs : List Char) : decode (encode cs) = .ok cs :=
  decodeFrom_encode 0 cs

end Utf8

/-! ### Bytes from their escapes -/

namespace Percent

/-- Two digits behind a percent sign are a byte. Everything else stands for itself, also a percent
sign without them. -/
def decodeBytes : List Char → List UInt8
  | [] => []
  | '%' :: h :: l :: rest =>
    if isHexDigit h && isHexDigit l then
      UInt8.ofNat (digitValue h * 16 + digitValue l) :: decodeBytes rest
    else String.utf8EncodeChar '%' ++ decodeBytes (h :: l :: rest)
  | c :: rest => String.utf8EncodeChar c ++ decodeBytes rest

def decode (cs : List Char) : Except Utf8Fault (List Char) := Utf8.decode (decodeBytes cs)

/-- Letters, digits and the marks that are not escaped. -/
def isUnreserved (c : Char) : Bool :=
  inRanges [(0x30, 0x39), (0x41, 0x5A), (0x61, 0x7A)] c ||
    c ∈ ['-', '_', '.', '!', '~', '*', '\x27', '(', ')']

def isCapitalHexDigit (c : Char) : Bool := inRanges [(0x30, 0x39), (0x41, 0x46)] c

/-- A text of unreserved characters and of escapes in capital digits. -/
inductive IsEncoded : List Char → Prop where
  | nil : IsEncoded []
  | unreserved {c : Char} {cs : List Char} :
    isUnreserved c = true → IsEncoded cs → IsEncoded (c :: cs)
  | escape {h l : Char} {cs : List Char} :
    isCapitalHexDigit h = true → isCapitalHexDigit l = true → IsEncoded cs →
      IsEncoded ('%' :: h :: l :: cs)

theorem hexDigit_reads {n : Nat} (h : n < 16) :
    isHexDigit (hexDigit n) = true ∧ digitValue (hexDigit n) = n ∧
      isCapitalHexDigit (hexDigit n) = true := by
  have hall : ∀ n < 16, isHexDigit (hexDigit n) = true ∧ digitValue (hexDigit n) = n ∧
      isCapitalHexDigit (hexDigit n) = true := by decide
  exact hall n h

/-- A plain byte is that of an unreserved character, and never the percent sign. -/
theorem plain_reads {b : UInt8} (h : isPlain b = true) :
    isUnreserved (Char.ofNat b.toNat) = true ∧ Char.ofNat b.toNat ≠ '%' ∧
      String.utf8EncodeChar (Char.ofNat b.toNat) = [b] := by
  have hall : ∀ n < 256, isPlain (.ofNat n) = true → isUnreserved (Char.ofNat n) = true ∧
      Char.ofNat n ≠ '%' ∧ String.utf8EncodeChar (Char.ofNat n) = [.ofNat n] := by decide +kernel
  have hb := hall b.toNat b.toNat_lt
  rw [UInt8.ofNat_toNat] at hb
  exact hb h

theorem isEncoded_encodeByte_append (b : UInt8) {cs : List Char} (h : IsEncoded cs) :
    IsEncoded (encodeByte b ++ cs) := by
  have hb : b.toNat < 256 := b.toNat_lt
  rw [encodeByte]
  split_ifs with hp
  · exact .unreserved (plain_reads hp).1 h
  · exact .escape (hexDigit_reads (by omega)).2.2 (hexDigit_reads (by omega)).2.2 h

theorem isEncoded_encode (cs : List Char) : IsEncoded (encode cs) := by
  rw [encode]
  induction cs.flatMap String.utf8EncodeChar with
  | nil => exact .nil
  | cons b bs ih => exact isEncoded_encodeByte_append b ih

theorem decodeBytes_cons {c : Char} (h : c ≠ '%') (rest : List Char) :
    decodeBytes (c :: rest) = String.utf8EncodeChar c ++ decodeBytes rest := by
  rw [decodeBytes]
  rintro _ _ _ rfl
  exact absurd rfl h

theorem decodeBytes_encodeByte (b : UInt8) (rest : List Char) :
    decodeBytes (encodeByte b ++ rest) = b :: decodeBytes rest := by
  have hb : b.toNat < 256 := b.toNat_lt
  rw [encodeByte]
  split_ifs with hp
  · obtain ⟨-, hne, hbyte⟩ := plain_reads hp
    rw [List.singleton_append, decodeBytes_cons hne, hbyte, List.singleton_append]
  · obtain ⟨hhigh, hvhigh, -⟩ := hexDigit_reads (n := b.toNat / 16) (by omega)
    obtain ⟨hlow, hvlow, -⟩ := hexDigit_reads (n := b.toNat % 16) (by omega)
    have hvalue : UInt8.ofNat (b.toNat / 16 * 16 + b.toNat % 16) = b := by
      rw [Nat.div_add_mod', UInt8.ofNat_toNat]
    simp only [List.cons_append, List.nil_append]
    rw [decodeBytes, hhigh, hlow, hvhigh, hvlow, hvalue]
    rfl

theorem decodeBytes_encode (cs : List Char) : decodeBytes (encode cs) = Utf8.encode cs := by
  rw [encode, Utf8.encode]
  induction cs.flatMap String.utf8EncodeChar with
  | nil => rfl
  | cons b bs ih => rw [List.flatMap_cons, decodeBytes_encodeByte, ih]

theorem decode_encode (cs : List Char) : decode (encode cs) = .ok cs := by
  rw [decode, decodeBytes_encode, Utf8.decode_encode]

theorem encode_injective : Function.Injective encode := by
  intro cs cs' h
  have hread := congrArg decode h
  rw [decode_encode, decode_encode] at hread
  exact Except.ok.inj hread

end Percent

/-- Every text is encoded in unreserved characters and escapes alone and is read back from them, so two
headings share an id just when they share a slug. -/
theorem headingId_encodes :
    (∀ s : String, Percent.IsEncoded (Percent.encode s.toList) ∧
      Percent.decode (Percent.encode s.toList) = .ok s.toList) ∧
      ∀ a b : String, headingId a = headingId b ↔ slugOf a = slugOf b := by
  refine ⟨fun s => ⟨Percent.isEncoded_encode s.toList, Percent.decode_encode s.toList⟩, fun a b => ?_⟩
  rw [headingId, headingId, slugOf, slugOf, String.ofList_inj, String.ofList_inj,
    Percent.encode_injective.eq_iff]

/-- A percent sign is escaped itself, so a text that looks like an escape is not taken for one. -/
example : Percent.encode "ü%41".toList = "%C3%BC%2541".toList := by decide

end CmsMarkup
