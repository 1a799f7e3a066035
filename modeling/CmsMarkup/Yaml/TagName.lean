import CmsMarkup.Yaml.Scalar

/-! Tags of nodes and the directives that shorten them. -/

namespace CmsMarkup.Yaml

def isUriChar (c : Char) : Bool :=
  isWordChar c ||
    c ∈ [';', '/', '?', ':', '@', '&', '=', '+', '$', '.', '!', '~', '*', '\'', '(', ')']

/-- The octet of a percent escape. -/
def readOctet : List Char → Option (Nat × List Char)
  | '%' :: a :: b :: rest =>
    match hexValue? a, hexValue? b with
    | some x, some y => some (x * 16 + y, rest)
    | _, _ => none
  | _ => none

def readOctets : Nat → List Char → Option (List Nat × List Char)
  | 0, cs => some ([], cs)
  | n + 1, cs =>
    match readOctet cs with
    | none => none
    | some (o, rest) =>
      if o / 64 == 2 then (readOctets n rest).map fun (os, rest) => (o :: os, rest) else none

/-- A character written as the escaped octets of its UTF-8 form. -/
def readEscapedChar (cs : List Char) : Option (Char × List Char) :=
  match readOctet cs with
  | none => none
  | some (o, rest) =>
    let (width, bits) :=
      if o < 0x80 then (1, o) else if o / 32 == 6 then (2, o % 32)
      else if o / 16 == 14 then (3, o % 16) else if o / 8 == 30 then (4, o % 8) else (0, 0)
    if width = 0 then none
    else
      (readOctets (width - 1) rest).map fun (os, rest) =>
        (Char.ofNat (os.foldl (fun n o => n * 64 + o % 64) bits), rest)

/-- The characters of a tag; `verbatim` ones may also hold commas and brackets. -/
def tagChars (verbatim : Bool) : Nat → List Char → Option (List Char × List Char)
  | 0, _ => none
  | fuel + 1, cs =>
    match cs with
    | [] => some ([], [])
    | c :: rest =>
      if c == '%' then
        match readEscapedChar cs with
        | none => none
        | some (e, rest) => (tagChars verbatim fuel rest).map fun (word, rest) => (e :: word, rest)
      else if isUriChar c || (verbatim && c ∈ [',', '[', ']']) then
        (tagChars verbatim fuel rest).map fun (word, rest) => (c :: word, rest)
      else some ([], c :: rest)

/-- A handle: an exclamation mark, a word, and perhaps a second mark. -/
def tagHandle (cs : List Char) : Option (List Char × List Char) :=
  match cs with
  | '!' :: rest =>
    let (word, rest) := rest.span isWordChar
    match rest with
    | '!' :: rest => some ('!' :: word ++ ['!'], rest)
    | _ => some ('!' :: word, rest)
  | _ => none

/-- A tag as its handle and suffix, from its first mark on. -/
def readTag (cs : List Char) : Option (List Char × List Char × List Char) :=
  match cs with
  | '!' :: '<' :: rest =>
    match tagChars true (rest.length + 1) rest with
    | some (c :: word, '>' :: rest) => some ([], c :: word, rest)
    | _ => none
  | _ =>
    match tagHandle cs with
    | none => none
    | some (handle, rest) =>
      match tagChars false (rest.length + 1) rest with
      | none => none
      | some (word, rest) =>
        if 2 ≤ handle.length && handle.getLast? == some '!' then
          if word.isEmpty then none else some (handle, word, rest)
        else
          let suffix := handle.drop 1 ++ word
          if suffix.isEmpty then some ([], ['!'], rest) else some (['!'], suffix, rest)

/-! ### Directives -/

inductive Directive where
  | version (major minor : Nat)
  | tag (handle lead : List Char)
  deriving DecidableEq, Repr

def isDigit (c : Char) : Bool := '0' ≤ c && c ≤ '9'

def decimal (digits : List Char) : Nat :=
  digits.foldl (fun n d => n * 10 + (d.toNat - 48)) 0

/-- A part of a version, of at most nine digits. -/
def versionPart (cs : List Char) : Option (Nat × List Char) :=
  let digits := cs.takeWhile isDigit
  if digits.isEmpty || 9 < digits.length then none
  else some (decimal digits, cs.dropWhile isDigit)

/-- The handle of a directive is a mark, or a word between two marks. -/
def isWholeHandle (handle : List Char) : Bool :=
  handle == ['!'] || (2 ≤ handle.length && handle.getLast? == some '!')

/-- A directive, from behind its percent sign. -/
def readDirective (cs : List Char) : Option (Directive × List Char) := do
  let (name, rest) := cs.span isWordChar
  guard (endsWord rest)
  let rest := rest.dropWhile isSpace
  if name == "YAML".toList then
    match ← versionPart rest with
    | (major, '.' :: rest) =>
      let (minor, rest) ← versionPart rest
      some (.version major minor, rest)
    | _ => none
  else if name == "TAG".toList then
    let (handle, rest) ← tagHandle rest
    guard (isWholeHandle handle && rest.head?.any isSpace)
    let rest := rest.dropWhile isSpace
    let (lead, rest) ← tagChars true (rest.length + 1) rest
    guard (!lead.isEmpty && endsWord rest)
    some (.tag handle lead, rest)
  else none

end CmsMarkup.Yaml
