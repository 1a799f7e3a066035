import CmsMarkup.Yaml.TagName

/-! The tokens of a YAML text. Indentation is turned into start and end tokens, and the
token for a key is put in front of it once its colon is found. -/

namespace CmsMarkup.Yaml

inductive Token where
  | documentStart
  | documentEnd
  | directive (d : Directive)
  | blockSequenceStart
  | blockMappingStart
  | blockEnd
  | flowSequenceStart
  | flowSequenceEnd
  | flowMappingStart
  | flowMappingEnd
  | blockEntry
  | flowEntry
  | key
  | value
  | alias (name : List Char)
  | anchor (name : List Char)
  | tag (handle suffix : List Char)
  | scalar (content : List Char) (plain : Bool)
  deriving DecidableEq, Repr

/-- A place where a key without a question mark may have begun; `place` counts the tokens
before it. A key that is `required` must have its colon. -/
structure PossibleKey where
  required : Bool
  place : Nat
  index : Nat
  line : Nat
  column : Nat
  deriving Repr

/-- A text read so far. `tokens` has the newest token first, `indent` is -1 outside of all
block collections, and `outerKeys` holds one entry for every open flow collection. -/
structure Scan where
  cursor : Cursor
  tokens : List Token
  count : Nat
  indent : Int
  outer : List Int
  keyAllowed : Bool
  possible : Option PossibleKey
  outerKeys : List (Option PossibleKey)
  deriving Repr

namespace Scan

def start (cs : List Char) : Scan := ⟨⟨cs, 0, 0, 0⟩, [], 0, -1, [], true, none, []⟩

def inFlow (s : Scan) : Bool := !s.outerKeys.isEmpty

def push (t : Token) (s : Scan) : Scan := { s with tokens := t :: s.tokens, count := s.count + 1 }

def skip (n : Nat) (s : Scan) : Scan := { s with cursor := s.cursor.skip n }

def allowKey (b : Bool) (s : Scan) : Scan := { s with keyAllowed := b }

/-- Puts tokens at a place among the others, the last one first. -/
def insert (place : Nat) (ts : List Token) (s : Scan) : Scan :=
  let newer := s.count - place
  { s with
    tokens := s.tokens.take newer ++ ts ++ s.tokens.drop newer
    count := s.count + ts.length }

/-- Over blanks, comments and line breaks. A line break in block style makes room for a key,
and while there is room a tab is no blank. -/
def skipBlanks : Nat → Scan → Scan
  | 0, s => s
  | fuel + 1, s =>
    let c := s.cursor
    let c := if c.column == 0 && c.rest.head?.any (·.toNat == 0xFEFF) then c.next else c
    let c := c.skipWhile fun ch => ch == ' ' || (ch == '\t' && (s.inFlow || !s.keyAllowed))
    let c := if c.rest.head? == some '#' then c.skipWhile (!isBreak ·) else c
    if c.rest.head?.any isBreak then
      skipBlanks fuel { s with cursor := c.takeBreak.2, keyAllowed := s.keyAllowed || !s.inFlow }
    else { s with cursor := c }

/-- A key ends on its line and within 1024 characters. -/
def dropStale (c : Cursor) : Option PossibleKey → Option (Option PossibleKey)
  | some k =>
    if k.line < c.line || k.index + 1024 < c.index then
      if k.required then none else some none
    else some (some k)
  | none => some none

def dropStaleKeys (s : Scan) : Option Scan := do
  let possible ← dropStale s.cursor s.possible
  let outerKeys ← s.outerKeys.mapM (dropStale s.cursor)
  return { s with possible, outerKeys }

/-- Gives up a possible key. -/
def removeKey (s : Scan) : Option Scan :=
  if s.possible.any (·.required) then none else some { s with possible := none }

def saveKey (s : Scan) : Option Scan :=
  if s.keyAllowed then
    (s.removeKey).map fun s =>
      let c := s.cursor
      { s with
        possible := some
          ⟨!s.inFlow && s.indent == c.column, s.count, c.index, c.line, c.column⟩ }
  else some s

/-- Whether a block collection begins at a column. -/
def opensAt (column : Nat) (s : Scan) : Bool := !s.inFlow && s.indent < column

def indentTo (column : Nat) (s : Scan) : Scan :=
  { s with outer := s.indent :: s.outer, indent := column }

/-- Begins a block collection here, if there is none of this column yet. -/
def openHere (t : Token) (s : Scan) : Scan :=
  if s.opensAt s.cursor.column then (s.push t).indentTo s.cursor.column else s

/-- Ends the block collections that stand to the right of a column. -/
def closeTo (column : Int) (s : Scan) : Scan :=
  if s.inFlow then s else loop s.outer s
where
  loop : List Int → Scan → Scan
    | [], s => s
    | i :: rest, s =>
      if column < s.indent then loop rest { s.push .blockEnd with indent := i, outer := rest } else s

/-- An indicator of block style stands where a key might. -/
def blockIndicator (opening t : Token) (s : Scan) : Option Scan := do
  guard (s.inFlow || s.keyAllowed)
  let s ← ((if s.inFlow then s else s.openHere opening)).removeKey
  return ((s.allowKey (t == .blockEntry || !s.inFlow)).skip 1).push t

/-- A colon ends the key that may stand before it, or begins a value without a key. -/
def valueIndicator (s : Scan) : Option Scan :=
  match s.possible with
  | some k =>
    let opens := s.opensAt k.column
    let s := s.insert k.place (.key :: if opens then [.blockMappingStart] else [])
    let s := if opens then s.indentTo k.column else s
    some ((({ s with possible := none }.allowKey false).skip 1).push .value)
  | none => do
    guard (s.inFlow || s.keyAllowed)
    let s := if s.inFlow then s else s.openHere .blockMappingStart
    return ((s.allowKey (!s.inFlow)).skip 1).push .value

def openFlow (t : Token) (s : Scan) : Option Scan :=
  (s.saveKey).map fun s =>
    (({ s with outerKeys := s.possible :: s.outerKeys, possible := none }.allowKey true).skip 1).push t

def closeFlow (t : Token) (s : Scan) : Option Scan :=
  (s.removeKey).map fun s =>
    let s := match s.outerKeys with
      | k :: rest => { s with possible := k, outerKeys := rest }
      | [] => s
    ((s.allowKey false).skip 1).push t

def flowEntry (s : Scan) : Option Scan :=
  (s.removeKey).map fun s => ((s.allowKey true).skip 1).push .flowEntry

def documentMark (t : Token) (s : Scan) : Option Scan :=
  ((s.closeTo (-1)).removeKey).map fun s => ((s.allowKey false).skip 3).push t

def directive (s : Scan) : Option Scan := do
  let s ← (s.closeTo (-1)).removeKey
  let (d, rest) ← readDirective (s.cursor.rest.drop 1)
  let c ← lineEnd (s.cursor.jumpTo rest)
  return ({ s with cursor := c }.allowKey false).push (.directive d)

/-- A token that may be a key, read by `read`. -/
def keyToken (read : Cursor → Option (Token × Cursor)) (s : Scan) : Option Scan := do
  let s ← s.saveKey
  let (t, c) ← read s.cursor
  return ({ s with cursor := c }.allowKey false).push t

/-- The name of an anchor or an alias, from behind its indicator. -/
def nameToken (t : List Char → Token) (c : Cursor) : Option (Token × Cursor) := do
  let c := c.next
  let (name, rest) := c.rest.span isWordChar
  guard (!name.isEmpty)
  guard (endsWord rest || rest.head?.any fun ch => ch ∈ ['?', ':', ',', ']', '\x7d', '%', '@', '\x60'])
  return (t name, c.jumpTo rest)

def tagToken (flow : Bool) (c : Cursor) : Option (Token × Cursor) := do
  let (handle, suffix, rest) ← readTag c.rest
  guard (endsWord rest || (flow && rest.head? == some ','))
  return (.tag handle suffix, c.jumpTo rest)

def quotedToken (single : Bool) (c : Cursor) : Option (Token × Cursor) :=
  (quotedFrom single (c.rest.length + 1) [] c.next).map fun (content, c) => (.scalar content false, c)

def blockToken (literal : Bool) (s : Scan) : Option Scan := do
  let s ← s.removeKey
  let (content, c) ← blockScalar literal s.indent s.cursor.next
  return ({ s with cursor := c }.allowKey true).push (.scalar content false)

/-- A plain scalar. When it ends behind a line break, a key may follow. -/
def plainToken (s : Scan) : Option Scan := do
  let s ← s.saveKey
  let c := s.cursor
  let (content, broken, c) ← plainFrom s.inFlow (s.indent + 1) (c.rest.length + 1) [] .none c
  return ({ s with cursor := c }.allowKey broken).push (.scalar content true)

def indicators : List Char :=
  ['-', '?', ':', ',', '[', ']', '\x7b', '\x7d', '#', '&', '*', '!', '|', '>', '\'', '"', '%', '@',
   '\x60']

/-- Whether a plain scalar begins here. Some indicators begin one before another character. -/
def startsPlain (flow : Bool) (c : Char) (rest : List Char) : Bool :=
  !(isSpace c || isBreak c || c ∈ indicators) || (c == '-' && !rest.head?.any isSpace) ||
    (!flow && (c == '?' || c == ':') && !endsWord rest)

/-- Reads the token that begins with `ch`. -/
def readToken (ch : Char) (rest : List Char) (s : Scan) : Option Scan :=
  let atWordEnd := s.inFlow || endsWord rest
  if s.cursor.column == 0 && ch == '%' then s.directive
  else if s.cursor.isDocumentMark then s.documentMark (if ch == '-' then .documentStart else .documentEnd)
  else if ch == '[' then s.openFlow .flowSequenceStart
  else if ch == '\x7b' then s.openFlow .flowMappingStart
  else if ch == ']' then s.closeFlow .flowSequenceEnd
  else if ch == '\x7d' then s.closeFlow .flowMappingEnd
  else if ch == ',' then s.flowEntry
  else if ch == '-' && endsWord rest then s.blockIndicator .blockSequenceStart .blockEntry
  else if ch == '?' && atWordEnd then s.blockIndicator .blockMappingStart .key
  else if ch == ':' && atWordEnd then s.valueIndicator
  else if ch == '*' then s.keyToken (nameToken .alias)
  else if ch == '&' then s.keyToken (nameToken .anchor)
  else if ch == '!' then s.keyToken (tagToken s.inFlow)
  else if ch == '|' && !s.inFlow then s.blockToken true
  else if ch == '>' && !s.inFlow then s.blockToken false
  else if ch == '\'' then s.keyToken (quotedToken true)
  else if ch == '"' then s.keyToken (quotedToken false)
  else if startsPlain s.inFlow ch rest then s.plainToken
  else none

/-- Reads tokens up to the end of the text. -/
def run : Nat → Scan → Option Scan
  | 0, _ => none
  | fuel + 1, s => do
    let s ← (s.skipBlanks (s.cursor.rest.length + 1)).dropStaleKeys
    let s := s.closeTo s.cursor.column
    match s.cursor.rest with
    | [] => (s.closeTo (-1)).removeKey
    | ch :: rest => run fuel (← s.readToken ch rest)

end Scan

/-- The tokens of a text; none if it is no YAML text. -/
def tokens? (cs : List Char) : Option (List Token) := do
  guard (cs.all isAllowed)
  let s ← Scan.run (cs.length + 1) (Scan.start cs)
  return s.tokens.reverse

end CmsMarkup.Yaml
