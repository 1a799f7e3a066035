/-! Characters from bytes in UTF-8, with the first place that is no UTF-8. -/

namespace CmsMarkup

inductive Utf8Cause where
  | start
  | continuation
  | ended
  deriving DecidableEq, Repr

/-- The bytes from `position` on, `count` of them, begin no character. -/
structure Utf8Fault where
  position : Nat
  count : Nat
  byte : UInt8
  cause : Utf8Cause
  deriving DecidableEq, Repr

namespace Utf8

def isContinuation (b : UInt8) : Bool := b.toNat / 64 == 2

/-- Whether a second byte fits a first one: no longer form than needed, no surrogate, and
nothing above U+10FFFF. -/
def isSecond (first second : UInt8) : Bool :=
  let a := first.toNat
  let b := second.toNat
  isContinuation second && !(a == 0xE0 && b < 0xA0) && !(a == 0xED && 0xA0 ≤ b) &&
    !(a == 0xF0 && b < 0x90) && !(a == 0xF4 && 0x90 ≤ b)

/-- The bits that a continuation byte adds. -/
def extend (n : Nat) (b : UInt8) : Nat := n * 64 + b.toNat % 64

def decodeFrom (position : Nat) : List UInt8 → Except Utf8Fault (List Char)
  | [] => .ok []
  | a :: rest =>
    let n := a.toNat
    if n < 0x80 then (decodeFrom (position + 1) rest).map (Char.ofNat n :: ·)
    else if n < 0xC2 || 0xF4 < n then .error ⟨position, 1, a, .start⟩
    else
      match rest with
      | [] => .error ⟨position, 1, a, .ended⟩
      | b :: rest =>
        if !isSecond a b then .error ⟨position, 1, a, .continuation⟩
        else if n < 0xE0 then
          (decodeFrom (position + 2) rest).map (Char.ofNat (extend (n % 32) b) :: ·)
        else
          match rest with
          | [] => .error ⟨position, 2, a, .ended⟩
          | c :: rest =>
            if !isContinuation c then .error ⟨position, 2, a, .continuation⟩
            else if n < 0xF0 then
              (decodeFrom (position + 3) rest).map
                (Char.ofNat (extend (extend (n % 16) b) c) :: ·)
            else
              match rest with
              | [] => .error ⟨position, 3, a, .ended⟩
              | d :: rest =>
                if !isContinuation d then .error ⟨position, 3, a, .continuation⟩
                else
                  (decodeFrom (position + 4) rest).map
                    (Char.ofNat (extend (extend (extend (n % 8) b) c) d) :: ·)

def decode (bytes : List UInt8) : Except Utf8Fault (List Char) := decodeFrom 0 bytes

def encode (cs : List Char) : List UInt8 := cs.flatMap String.utf8EncodeChar

end Utf8

namespace Utf8Fault

def causeText : Utf8Cause → String
  | .start => "invalid start byte"
  | .continuation => "invalid continuation byte"
  | .ended => "unexpected end of data"

def hexByte (b : UInt8) : String :=
  let digits := Nat.toDigits 16 b.toNat
  "0x" ++ String.ofList (List.replicate (2 - digits.length) '0' ++ digits)

def message (f : Utf8Fault) : String :=
  let place :=
    if f.count = 1 then "byte " ++ hexByte f.byte ++ " in position " ++ toString f.position
    else "bytes in position " ++ toString f.position ++ "-" ++ toString (f.position + f.count - 1)
  "'utf-8' codec can't decode " ++ place ++ ": " ++ causeText f.cause

end Utf8Fault

end CmsMarkup
