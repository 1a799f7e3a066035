import CmsMarkup.Yaml.Cursor

/-! The texts of plain, quoted and block scalars. -/

namespace CmsMarkup.Yaml

/-- Line breaks inside a scalar: a single one is a space, of more the first is dropped. A
Unicode line or paragraph separator stands for itself. -/
def foldBreaks (first more : List Char) : List Char :=
  if first == ['\n'] then if more.isEmpty then [' '] else more else first ++ more

/-- Blanks and breaks between the words of a scalar. `broken` once a break has been seen;
only then `first` and `more` hold line breaks, and else `spaces` the blanks. -/
structure Gap where
  spaces : List Char
  first : List Char
  more : List Char
  broken : Bool
  deriving Repr

namespace Gap

def none : Gap := ⟨[], [], [], false⟩

/-- An escaped break has no text of its own. -/
def escaped : Gap := ⟨[], [], [], true⟩

def text (g : Gap) : List Char :=
  if g.broken then foldBreaks g.first g.more else g.spaces

/-- Reads on over blanks and breaks. With an `indent`, a tab before that column on a new
line is an error. -/
def read (indent : Option Int) : Nat → Gap → Cursor → Option (Gap × Cursor)
  | 0, g, c => some (g, c)
  | fuel + 1, g, c =>
    match c.rest with
    | [] => some (g, c)
    | ch :: _ =>
      if isSpace ch then
        if g.broken && ch == '\t' && indent.any ((c.column : Int) < ·) then Option.none
        else read indent fuel (if g.broken then g else { g with spaces := g.spaces ++ [ch] }) c.next
      else if isBreak ch then
        let (text, next) := c.takeBreak
        if g.broken then read indent fuel { g with more := g.more ++ text } next
        else read indent fuel ⟨[], text, g.more, true⟩ next
      else some (g, c)

end Gap

/-- The characters of a plain scalar up to a blank, an end, or an indicator that ends it.
A colon before an indicator of flow style is an error in flow style. -/
def plainWord (flow : Bool) : List Char → Option (List Char × List Char)
  | [] => some ([], [])
  | c :: cs =>
    if isSpace c || isBreak c then some ([], c :: cs)
    else if flow && c == ':' && (cs.head?.any fun d => d ∈ [',', '?', '[', ']', '\x7b', '\x7d']) then
      none
    else if (c == ':' && endsWord cs) || (flow && c ∈ [',', '[', ']', '\x7b', '\x7d']) then
      some ([], c :: cs)
    else (plainWord flow cs).map fun (word, rest) => (c :: word, rest)

/-- The text of a plain scalar. The result tells whether a line break came last. -/
def plainFrom (flow : Bool) (indent : Int) :
    Nat → List Char → Gap → Cursor → Option (List Char × Bool × Cursor)
  | 0, _, _, _ => none
  | fuel + 1, read, gap, c =>
    if c.isDocumentMark || c.rest.head? == some '#' then some (read, gap.broken, c)
    else
      match plainWord flow c.rest with
      | none => none
      | some (word, rest) =>
        let (read, gap) := if word.isEmpty then (read, gap) else (read ++ gap.text ++ word, Gap.none)
        let c := c.jumpTo rest
        if endsWord c.rest && !c.rest.isEmpty then
          match gap.read (some indent) (c.rest.length + 1) c with
          | none => none
          | some (gap, c) =>
            if !flow && (c.column : Int) < indent then some (read, gap.broken, c)
            else plainFrom flow indent fuel read gap c
        else some (read, gap.broken, c)

def escapeCodes : List (Char × Nat) :=
  [('0', 0), ('a', 7), ('b', 8), ('t', 9), ('\t', 9), ('n', 10), ('v', 11), ('f', 12), ('r', 13),
   ('e', 0x1B), (' ', 0x20), ('"', 0x22), ('/', 0x2F), ('\\', 0x5C), ('N', 0x85), ('_', 0xA0),
   ('L', 0x2028), ('P', 0x2029)]

def hexValue? (c : Char) : Option Nat :=
  if '0' ≤ c && c ≤ '9' then some (c.toNat - 48)
  else if 'a' ≤ c && c ≤ 'f' then some (c.toNat - 87)
  else if 'A' ≤ c && c ≤ 'F' then some (c.toNat - 55)
  else none

def hexNumber? (cs : List Char) : Option Nat :=
  cs.foldl (fun n c => match n, hexValue? c with
    | some n, some d => some (n * 16 + d)
    | _, _ => none) (some 0)

/-- The character of an escape, from behind its backslash, and what follows. -/
def readEscape : List Char → Option (Char × List Char)
  | [] => none
  | e :: rest =>
    let coded (width : Nat) :=
      if (rest.take width).length < width then none
      else
        match hexNumber? (rest.take width) with
        | none => none
        | some n =>
          if (0xD800 ≤ n && n ≤ 0xDFFF) || 0x10FFFF < n then none
          else some (Char.ofNat n, rest.drop width)
    match escapeCodes.lookup e with
    | some n => some (Char.ofNat n, rest)
    | none =>
      if e == 'x' then coded 2 else if e == 'u' then coded 4 else if e == 'U' then coded 8 else none

/-- The characters of a quoted scalar up to a blank, a break or the closing quote. The flag
tells that an escaped line break ended them. -/
def quotedWord (single : Bool) : Nat → List Char → Option (List Char × Bool × List Char)
  | 0, _ => none
  | fuel + 1, cs =>
    let more (c : Char) (rest : List Char) :=
      (quotedWord single fuel rest).map fun (word, escaped, rest) => (c :: word, escaped, rest)
    match cs with
    | [] => some ([], false, [])
    | c :: rest =>
      if isSpace c || isBreak c then some ([], false, c :: rest)
      else if single then
        match c, rest with
        | '\'', '\'' :: rest => more '\'' rest
        | '\'', _ => some ([], false, c :: rest)
        | _, _ => more c rest
      else if c == '"' then some ([], false, c :: rest)
      else if c == '\\' then
        match rest with
        | b :: _ =>
          if isBreak b then some ([], true, rest)
          else
            match readEscape rest with
            | some (e, rest) => more e rest
            | none => none
        | [] => none
      else more c rest

/-- The text of a quoted scalar, from behind its opening quote. -/
def quotedFrom (single : Bool) : Nat → List Char → Cursor → Option (List Char × Cursor)
  | 0, _, _ => none
  | fuel + 1, read, c =>
    if c.isDocumentMark || c.rest.isEmpty then none
    else
      match quotedWord single (c.rest.length + 1) c.rest with
      | none => none
      | some (word, escaped, rest) =>
        let read := read ++ word
        let c := c.jumpTo rest
        let c := if escaped then c.takeBreak.2 else c
        if c.rest.head? == some (if single then '\'' else '"') then some (read, c.next)
        else
          match (if escaped then Gap.escaped else Gap.none).read none (c.rest.length + 1) c with
          | none => none
          | some (gap, c) => quotedFrom single fuel (read ++ gap.text) c

/-- The line breaks before a line of a block scalar, and its indentation: given, or found
here as the widest one of the blank lines and the first line with text. -/
def blockBreaks (parent : Int) (indent : Nat) :
    Nat → Nat → List Char → Cursor → Option (Nat × List Char × Cursor)
  | 0, _, _, _ => none
  | fuel + 1, widest, read, c =>
    let spaces := (c.rest.takeWhile (· == ' ')).length
    let c := c.skip (if indent = 0 then spaces else min spaces (indent - c.column))
    let widest := max widest c.column
    if (indent = 0 || c.column < indent) && c.rest.head? == some '\t' then none
    else if c.rest.head?.any isBreak then
      let (text, next) := c.takeBreak
      blockBreaks parent indent fuel widest (read ++ text) next
    else
      let found := if indent = 0 then max 1 (max widest (parent + 1).toNat) else indent
      some (found, read, c)

/-- What ends a block scalar: its last break is kept alone, none is, or all are. -/
inductive Chomping where
  | clip
  | strip
  | keep
  deriving DecidableEq, Repr

/-- The lines of a block scalar. `last` is the break behind the line before, `more` are
the breaks after it, and `ledBlank` tells that this line began with a blank. -/
def blockLines (literal : Bool) (parent : Int) (indent : Nat) :
    Nat → List Char → List Char → List Char → Bool → Cursor →
      Option (List Char × List Char × List Char × Cursor)
  | 0, _, _, _, _, _ => none
  | fuel + 1, read, last, more, ledBlank, c =>
    if c.column == indent && !c.rest.isEmpty then
      let blank := c.rest.head?.any isSpace
      let joint :=
        if !literal && last == ['\n'] && !ledBlank && !blank then
          if more.isEmpty then [' '] else []
        else last
      let line := c.rest.takeWhile fun ch => !isBreak ch
      let (last, c') := (c.skip line.length).takeBreak
      match blockBreaks parent indent (c'.rest.length + 1) 0 [] c' with
      | none => none
      | some (_, breaks, next) =>
        blockLines literal parent indent fuel (read ++ joint ++ more ++ line) last breaks blank next
    else some (read, last, more, c)

/-- The chomping and the indentation that a block scalar's first line gives. -/
def blockHeader (cs : List Char) : Option (Chomping × Nat × List Char) :=
  let chomping (c : Char) : Option Chomping :=
    if c == '+' then some .keep else if c == '-' then some .strip else none
  let digit (c : Char) : Option Nat := if '0' ≤ c && c ≤ '9' then some (c.toNat - 48) else none
  match cs with
  | [] => some (.clip, 0, [])
  | c :: rest =>
    match chomping c with
    | some kind =>
      match rest.head?.bind digit with
      | some 0 => none
      | some n => some (kind, n, rest.drop 1)
      | none => some (kind, 0, rest)
    | none =>
      match digit c with
      | none => some (.clip, 0, cs)
      | some 0 => none
      | some n =>
        match rest.head?.bind chomping with
        | some kind => some (kind, n, rest.drop 1)
        | none => some (.clip, n, rest)

/-- The rest of a line behind blanks and a comment; anything else there is an error. -/
def lineEnd (c : Cursor) : Option Cursor :=
  let c := c.skipWhile isSpace
  let c := if c.rest.head? == some '#' then c.skipWhile (!isBreak ·) else c
  match c.rest with
  | [] => some c
  | ch :: _ => if isBreak ch then some c.takeBreak.2 else none

/-- A block scalar, from behind its indicator, inside a node indented to `parent`. -/
def blockScalar (literal : Bool) (parent : Int) (c : Cursor) : Option (List Char × Cursor) :=
  match blockHeader c.rest with
  | none => none
  | some (chomping, increment, rest) =>
    match lineEnd (c.jumpTo rest) with
    | none => none
    | some c =>
      let given := if increment = 0 then 0 else (max parent 0).toNat + increment
      match blockBreaks parent given (c.rest.length + 1) 0 [] c with
      | none => none
      | some (indent, breaks, c) =>
        match blockLines literal parent indent (c.rest.length + 1) [] [] breaks false c with
        | none => none
        | some (read, last, more, c) =>
          let tail :=
            match chomping with
            | .strip => []
            | .clip => last
            | .keep => last ++ more
          some (read ++ tail, c)

end CmsMarkup.Yaml
