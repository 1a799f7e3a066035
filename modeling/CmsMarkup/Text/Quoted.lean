import CmsMarkup.Text.Percent
import CmsMarkup.Text.Printable

/-! Texts between quotes, as they stand inside a list or a message. Double quotes are
taken only for a text with single quotes and no double ones. -/

namespace CmsMarkup.Quoted

def hexDigits (n : Nat) : List Char := (Nat.toDigits 16 n)

def hexWidth (width n : Nat) : List Char :=
  let digits := hexDigits n
  List.replicate (width - digits.length) '0' ++ digits

def quoteFor (cs : List Char) : Char :=
  if cs.contains '\'' && !cs.contains '"' then '"' else '\''

def escapeControl? (c : Char) : Option (List Char) :=
  if c = '\t' then some ['\\', 't']
  else if c = '\n' then some ['\\', 'n']
  else if c = '\r' then some ['\\', 'r']
  else if c = '\\' then some ['\\', '\\']
  else none

def encodeChar (quote c : Char) : List Char :=
  match escapeControl? c with
  | some escape => escape
  | none =>
    if c = quote then ['\\', c]
    else if isPrintable c then [c]
    else if c.toNat < 0x100 then '\\' :: 'x' :: hexWidth 2 c.toNat
    else if c.toNat < 0x10000 then '\\' :: 'u' :: hexWidth 4 c.toNat
    else '\\' :: 'U' :: hexWidth 8 c.toNat

def encode (cs : List Char) : List Char :=
  let quote := quoteFor cs
  quote :: cs.flatMap (encodeChar quote) ++ [quote]

def encodeByte (quote : Char) (b : UInt8) : List Char :=
  let c := Char.ofNat b.toNat
  match escapeControl? c with
  | some escape => escape
  | none =>
    if c = quote then ['\\', c]
    else if 0x20 ≤ b.toNat && b.toNat < 0x7F then [c]
    else '\\' :: 'x' :: hexWidth 2 b.toNat

/-- Bytes are quoted like a text, with a `b` in front. -/
def encodeBytes (bytes : List UInt8) : List Char :=
  let quote := quoteFor (bytes.map fun b => Char.ofNat b.toNat)
  'b' :: quote :: bytes.flatMap (encodeByte quote) ++ [quote]

end CmsMarkup.Quoted

namespace CmsMarkup

def quotedText (s : String) : String := String.ofList (Quoted.encode s.toList)

end CmsMarkup
