import CmsMarkup.Toc

/-! Tables of contents built with a stack of open entries: the last entry of the table, its last
child, and so on. A heading closes the open entries that are not of a smaller level than its own,
and goes behind the children of the innermost one that is left. -/

namespace CmsMarkup

/-- A table so far, with the levels of its open entries, innermost first. -/
structure TocStack where
  toc : List TocEntry
  levels : List Nat

namespace TocStack

/-- Puts an entry behind all others, as many steps down from the last entry to its last child as
`depth` says. -/
def attach (e : TocEntry) : Nat → List TocEntry → List TocEntry
  | 0, forest => forest ++ [e]
  | depth + 1, forest =>
    forest.dropLast ++ forest.getLast?.toList.map fun (.entry level id title href children) =>
      .entry level id title href (attach e depth children)

def push (s : TocStack) (h : Heading) : TocStack :=
  let opened := s.levels.dropWhile (h.level ≤ ·)
  ⟨attach (TocEntry.ofHeading h) opened.length s.toc, h.level :: opened⟩

def ofHeadings (headings : List Heading) : TocStack := headings.foldl push ⟨[], []⟩

end TocStack

end CmsMarkup
