/-! Percent-encoding of fragments: every byte of the UTF-8 form outside the set that
browsers leave alone becomes a percent sign and two capital hexadecimal digits. -/

namespace CmsMarkup.Percent

def isPlain (b : UInt8) : Bool :=
  let c := Char.ofNat b.toNat
  c.isAlphanum || c ∈ ['-', '_', '.', '!', '~', '*', '\x27', '(', ')']

def hexDigit (n : Nat) : Char :=
  Char.ofNat (if n < 10 then 48 + n else 55 + n)

def encodeByte (b : UInt8) : List Char :=
  if isPlain b then [Char.ofNat b.toNat]
  else ['%', hexDigit (b.toNat / 16), hexDigit (b.toNat % 16)]

def encode (cs : List Char) : List Char :=
  (cs.flatMap String.utf8EncodeChar).flatMap encodeByte

end CmsMarkup.Percent
