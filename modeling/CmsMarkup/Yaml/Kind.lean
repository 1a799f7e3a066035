import CmsMarkup.Yaml.Number
import CmsMarkup.Yaml.Timestamp

/-! The kinds of nodes that tags name, and the kinds of plain scalars without a tag. -/

namespace CmsMarkup.Yaml

inductive Kind where
  | null
  | bool
  | int
  | float
  | binary
  | timestamp
  | pairs
  | set
  | str
  | seq
  | map
  /-- A key whose value is merged into the mapping. -/
  | merge
  /-- A key that stands for the mapping itself. -/
  | value
  | other
  deriving DecidableEq, Repr

namespace Kind

def standardLead : List Char := "tag:yaml.org,2002:".toList

def standardNames : List (String × Kind) :=
  [("null", .null), ("bool", .bool), ("int", .int), ("float", .float), ("binary", .binary),
   ("timestamp", .timestamp), ("omap", .pairs), ("pairs", .pairs), ("set", .set), ("str", .str),
   ("seq", .seq), ("map", .map), ("merge", .merge), ("value", .value)]

def ofTag (tag : List Char) : Kind :=
  if standardLead.isPrefixOf tag then
    (standardNames.lookup (String.ofList (tag.drop standardLead.length))).getD .other
  else .other

def boolTexts : List (String × Bool) :=
  [("yes", true), ("no", false), ("true", true), ("false", false), ("on", true), ("off", false)]

/-- A text as it is, with a capital in front, or in capitals. -/
def spellings (s : String) : List (List Char) :=
  let cs := s.toList
  [cs, (cs.take 1).map Char.toUpper ++ cs.drop 1, cs.map Char.toUpper]

def isBoolText (cs : List Char) : Bool :=
  boolTexts.any fun (s, _) => (spellings s).any (· == cs)

def isNullText (cs : List Char) : Bool :=
  cs.isEmpty || cs == ['~'] || (spellings "null").any (· == cs)

def withoutLastBreak (cs : List Char) : List Char :=
  if cs.getLast? == some '\n' then cs.dropLast else cs

/-- The kind of a plain scalar. A line break at its end does not count. -/
def ofPlain (cs : List Char) : Kind :=
  let line := withoutLastBreak cs
  if line.isEmpty && !cs.isEmpty then .str
  else if isBoolText line then .bool
  else if isDoubleText line then .float
  else if isIntegerText line then .int
  else if line == ['<', '<'] then .merge
  else if isNullText line then .null
  else if Timestamp.isPlain line then .timestamp
  else if line == ['='] then .value
  else .str

end Kind

end CmsMarkup.Yaml
