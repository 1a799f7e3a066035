/-! Bytes from their base 64 form. Characters outside the alphabet are passed over, and
the padding that completes a group of four ends the text. -/

namespace CmsMarkup.Base64

def value? (c : Char) : Option Nat :=
  if 'A' ≤ c && c ≤ 'Z' then some (c.toNat - 65)
  else if 'a' ≤ c && c ≤ 'z' then some (c.toNat - 71)
  else if '0' ≤ c && c ≤ '9' then some (c.toNat + 4)
  else if c = '+' then some 62
  else if c = '/' then some 63
  else none

/-- Reads on with `place` characters of a group behind, `left` the bits not yet written
and `pads` the padding just before. -/
def decodeFrom (place left pads : Nat) : List Char → Option (List UInt8)
  | [] => if place = 0 then some [] else none
  | c :: cs =>
    if c = '=' then
      if 2 ≤ place && 4 ≤ place + pads + 1 then some []
      else decodeFrom place left (if 2 ≤ place then pads + 1 else pads) cs
    else
      match value? c with
      | none => decodeFrom place left pads cs
      | some v =>
        match place with
        | 0 => decodeFrom 1 v 0 cs
        | 1 => (decodeFrom 2 (v % 16) 0 cs).map (UInt8.ofNat (left * 4 + v / 16) :: ·)
        | 2 => (decodeFrom 3 (v % 4) 0 cs).map (UInt8.ofNat (left * 16 + v / 4) :: ·)
        | _ => (decodeFrom 0 0 0 cs).map (UInt8.ofNat (left * 64 + v) :: ·)

def decode? (cs : List Char) : Option (List UInt8) := decodeFrom 0 0 0 cs

end CmsMarkup.Base64
