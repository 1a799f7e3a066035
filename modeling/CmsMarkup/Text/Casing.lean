import CmsMarkup.Text.Ranges
import CmsMarkup.Text.CasingTable

/-! Lower case of a text. Only a capital sigma looks at its neighbours: at the end of
a word it becomes the final form. -/

namespace CmsMarkup.Casing

def isCased (c : Char) : Bool := inRanges casedRanges c

def isIgnorable (c : Char) : Bool := inRanges ignorableRanges c

def lowerCode (n : Nat) : Nat :=
  match lowerRuns.find? fun (first, last, step, _) =>
      first ≤ n && n ≤ last && (n - first) % step == 0 with
  | some (first, _, _, target) => target + (n - first)
  | none => n

/-- U+0130 is the one letter whose lower form is two characters. -/
def lowerChar (c : Char) : List Char :=
  if c.toNat < 0x80 then [c.toLower]
  else if c.toNat == 0x130 then ['i', Char.ofNat 0x307]
  else [Char.ofNat (lowerCode c.toNat)]

/-- The next letter that case rules see has case. -/
def casedAhead (cs : List Char) : Bool :=
  match cs.dropWhile isIgnorable with
  | [] => false
  | c :: _ => isCased c

def lowerFrom (afterCased : Bool) : List Char → List Char
  | [] => []
  | c :: cs =>
    (if c.toNat == 0x3A3 then
      [Char.ofNat (if afterCased && !casedAhead cs then 0x3C2 else 0x3C3)]
    else lowerChar c) ++ lowerFrom (if isIgnorable c then afterCased else isCased c) cs

end CmsMarkup.Casing

namespace CmsMarkup

def lowercase (cs : List Char) : List Char := Casing.lowerFrom false cs

end CmsMarkup
