/-! Character classes of YAML, and places in a YAML text. -/

namespace CmsMarkup.Yaml

def isBreak (c : Char) : Bool :=
  c == '\n' || c == '\r' || c.toNat == 0x85 || c.toNat == 0x2028 || c.toNat == 0x2029

def isSpace (c : Char) : Bool := c == ' ' || c == '\t'

def isWordChar (c : Char) : Bool := c.isAlphanum || c == '_' || c == '-'

/-- A blank, a line break or the end of the text. -/
def endsWord : List Char → Bool
  | [] => true
  | c :: _ => isSpace c || isBreak c

/-- Characters that a YAML text may hold. -/
def isAllowed (c : Char) : Bool :=
  let n := c.toNat
  n == 9 || n == 10 || n == 13 || (0x20 ≤ n && n ≤ 0x7E) || n == 0x85 ||
    (0xA0 ≤ n && n ≤ 0xD7FF) || (0xE000 ≤ n && n ≤ 0xFFFD) || 0x10000 ≤ n

/-- A place in the text, with what follows it. -/
structure Cursor where
  rest : List Char
  index : Nat
  line : Nat
  column : Nat
  deriving Repr

namespace Cursor

def next (c : Cursor) : Cursor :=
  match c.rest with
  | [] => c
  | ch :: rest =>
    if isBreak ch then ⟨rest, c.index + 1, c.line + 1, 0⟩
    else ⟨rest, c.index + 1, c.line, c.column + 1⟩

def skip : Nat → Cursor → Cursor
  | 0, c => c
  | n + 1, c => skip n c.next

/-- Past the characters before `rest`, a tail of the text that follows. -/
def jumpTo (rest : List Char) (c : Cursor) : Cursor :=
  skip (c.rest.length - rest.length) c

def skipWhile (p : Char → Bool) (c : Cursor) : Cursor := c.jumpTo (c.rest.dropWhile p)

/-- The line break here, as text, and the cursor behind it. -/
def takeBreak (c : Cursor) : List Char × Cursor :=
  match c.rest with
  | '\r' :: '\n' :: _ => (['\n'], c.skip 2)
  | ch :: _ =>
    if ch.toNat == 0x2028 || ch.toNat == 0x2029 then ([ch], c.next)
    else if isBreak ch then (['\n'], c.next)
    else ([], c)
  | [] => ([], c)

/-- Three hyphens or full stops at the start of a line. -/
def isDocumentMark (c : Cursor) : Bool :=
  c.column == 0 &&
    match c.rest with
    | '-' :: '-' :: '-' :: rest => endsWord rest
    | '.' :: '.' :: '.' :: rest => endsWord rest
    | _ => false

end Cursor

end CmsMarkup.Yaml
