import CmsMarkup.Slug

/-! Slugs in five passes over a whole text. It is lowered, and the characters that no slug can use are
dropped; runs of white space become hyphens, then runs of hyphens one each, and those at the two ends
go. -/

namespace CmsMarkup.Slug

/-- Puts a mark in the place of every run of characters of a kind. -/
def squeeze (p : Char → Bool) (mark : Char) : List Char → List Char
  | [] => []
  | c :: cs =>
    if p c && cs.head?.any p then squeeze p mark cs
    else (if p c then mark else c) :: squeeze p mark cs

def isHyphen (c : Char) : Bool := c == '-'

def passes (cs : List Char) : List Char :=
  let lowered := lowercase cs
  let usable := lowered.filter fun c => isLetter c || isScriptBlank c || isHyphen c
  let hyphened := squeeze isScriptBlank '-' usable
  let single := squeeze isHyphen '-' hyphened
  dropEnds isHyphen single

end CmsMarkup.Slug
