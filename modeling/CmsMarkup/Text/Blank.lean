/-! Blank characters and the pieces of a text between them. -/

namespace CmsMarkup

/-- White space as text processing counts it: the Unicode spaces and line ends, and the
four ASCII separators U+001C to U+001F. -/
def isBlank (c : Char) : Bool :=
  let n := c.toNat
  (9 ≤ n && n ≤ 13) || (28 ≤ n && n ≤ 32) || n == 0x85 || n == 0xA0 || n == 0x1680 ||
    (0x2000 ≤ n && n ≤ 0x200A) || n == 0x2028 || n == 0x2029 || n == 0x202F || n == 0x205F ||
    n == 0x3000

/-- White space as browsers count it in scripts: with U+FEFF, without U+0085 and the
ASCII separators. -/
def isScriptBlank (c : Char) : Bool :=
  let n := c.toNat
  (9 ≤ n && n ≤ 13) || n == 32 || n == 0xA0 || n == 0x1680 || (0x2000 ≤ n && n ≤ 0x200A) ||
    n == 0x2028 || n == 0x2029 || n == 0x202F || n == 0x205F || n == 0x3000 || n == 0xFEFF

def dropEnds (p : Char → Bool) (cs : List Char) : List Char :=
  ((cs.dropWhile p).reverse.dropWhile p).reverse

/-- A text without the blanks at its two ends. -/
def strip (s : String) : String :=
  String.ofList (dropEnds isBlank s.toList)

/-- The maximal runs of characters that are no separators. -/
def runs (sep : Char → Bool) : List Char → List (List Char)
  | [] => []
  | c :: cs =>
    if sep c then runs sep cs
    else
      match cs, runs sep cs with
      | d :: _, w :: ws => if sep d then [c] :: w :: ws else (c :: w) :: ws
      | _, ws => [c] :: ws

def words (s : String) : List String :=
  (runs isBlank s.toList).map String.ofList

end CmsMarkup
