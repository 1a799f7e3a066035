import CmsMarkup.Text.Blank
import CmsMarkup.Text.Casing
import CmsMarkup.Text.Percent

/-! Slugs of headings. Heading ids and table of contents links share them, so a link
target and its id agree character for character. -/

namespace CmsMarkup.Slug

/-- ASCII letters, digits and the underscore, Hiragana, Katakana, the unified ideographs
and the Hangul block stand in a slug; a capital can not be left after lowering. -/
def isLetter (c : Char) : Bool :=
  let n := c.toNat
  c.isAlphanum || c == '_' || (0x3040 ≤ n && n ≤ 0x30FF) || (0x4E00 ≤ n && n ≤ 0x9FFF) ||
    (0xAC00 ≤ n && n ≤ 0xD7AF)

/-- Characters that part two words of a slug. -/
def isBreak (c : Char) : Bool := isScriptBlank c || c == '-'

/-- The words of a text, lowered and without the characters a slug drops. -/
def slugWords (cs : List Char) : List (List Char) :=
  runs isBreak ((lowercase cs).filter fun c => isLetter c || isBreak c)

def slugify (cs : List Char) : List Char :=
  List.intercalate ['-'] (slugWords cs)

end CmsMarkup.Slug

namespace CmsMarkup

def slugOf (text : String) : String := String.ofList (Slug.slugify text.toList)

/-- The id of a heading with this text. -/
def headingId (text : String) : String :=
  String.ofList (Percent.encode (Slug.slugify text.toList))

end CmsMarkup
