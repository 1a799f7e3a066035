import CmsMarkup.Text.Blank
import CmsMarkup.Text.Casing
import CmsMarkup.Html.Node
import CmsMarkup.Html.Reference

/-! The tokens of an HTML text. Markup that the text never completes is read as
characters. The only texts without tokens are those with a marked section of unknown name,
or with a decimal reference of too many digits. -/

namespace CmsMarkup.Html

inductive Token where
  | character (c : Char)
  | startTag (name : String) (attributes : List Attribute) (selfClosing : Bool)
  | endTag (name : String)
  | special (kind : TextKind) (content : List Char)
  deriving DecidableEq, Repr

/-- Why a text is not read. -/
inductive Refusal where
  | unknownSection
  /-- A decimal reference of this many digits. -/
  | tooLong (digits : Nat)
  deriving DecidableEq, Repr

/-- The message of a refusal, for those that have one. -/
def Refusal.message? : Refusal → Option String
  | .unknownSection => none
  | .tooLong digits => some (longNumeralMessage (some digits))

namespace Token

/-- What stands at the front of a text: a token run with the rest of the text, markup
that is never completed, or what no reader takes. -/
inductive Front where
  | found (tokens : List Token) (rest : List Char)
  | incomplete
  | refused (r : Refusal)
  deriving Repr

def characters (cs : List Char) : List Token := cs.map .character

/-- The text before the first `c`, and the text after it. -/
def splitAtFirst (c : Char) (cs : List Char) : Option (List Char × List Char) :=
  match cs.span (· != c) with
  | (_, []) => none
  | (before, _ :: after) => some (before, after)

def isTagNameChar (c : Char) : Bool :=
  !(c ∈ ['\t', '\n', '\r', '\x0c', ' ', '/', '>', '\x00'])

def isQuote (c : Char) : Bool := c == '"' || c == '\''

/-- Skips blanks and slashes, but not the slash that closes the tag. -/
def skipFiller : List Char → List Char
  | '/' :: '>' :: rest => '/' :: '>' :: rest
  | '/' :: cs => skipFiller cs
  | c :: cs => if isBlank c then skipFiller cs else c :: cs
  | [] => []

def startsWithFiller : List Char → Bool
  | '/' :: '>' :: _ => false
  | c :: _ => c == '/' || isBlank c
  | [] => false

/-- The value after an attribute's name, with what follows it and whether another name
may follow at once. An unclosed quote opens no value; it is part of one only behind a
second equals sign. -/
def attributeValue (cs : List Char) : Option (List Char × List Char × Bool) :=
  let (equals, afterEquals) := (cs.dropWhile isBlank).span (· == '=')
  let (blanks, rest) := afterEquals.span isBlank
  let bare (cs : List Char) :=
    let (value, rest) := cs.span fun c => !(c == '>' || isBlank c)
    some (value, rest, false)
  match equals, rest with
  | [], _ => none
  | _ :: more, q :: tail =>
    if isQuote q then
      match splitAtFirst q tail, blanks, more with
      | some (value, rest), _, _ => some (value, rest, true)
      | none, _ :: _, _ => some ([], rest, true)
      | none, [], _ :: _ => bare ('=' :: rest)
      | none, [], [] => none
    else bare rest
  | _ :: _, [] => bare []

/-- The attributes of a tag, their values as they are written, and what follows them. `open_` when a name may begin here:
after a blank, a slash or a quote. -/
def attributesFrom (fuel : Nat) (open_ : Bool) (cs : List Char) :
    List (List Char × List Char) × List Char :=
  match fuel, cs with
  | 0, _ => ([], cs)
  | _, [] => ([], [])
  | fuel + 1, c :: cs =>
    if !open_ || isBlank c || c == '/' || c == '>' then ([], c :: cs)
    else
      let (more, rest) := cs.span fun c => !(isBlank c || c == '/' || c == '=' || c == '>')
      let (value, rest, touching) :=
        (attributeValue rest).getD ([], rest, isQuote ((c :: more).getLast?.getD c))
      let (attributes, rest) :=
        attributesFrom fuel (touching || startsWithFiller rest) (skipFiller rest)
      ((lowercase (c :: more), value) :: attributes, rest)

/-- A repeated attribute keeps its first place and takes the last value. -/
def collect (pairs : List (List Char × List Char)) : List Attribute :=
  pairs.foldl (fun attributes (name, value) =>
    Attribute.set (String.ofList name) (String.ofList (decodeValue value)) attributes) []

/-- After the blanks that may follow `<`, `/` and a name, or that name's end. -/
def closesAfterBlanks (cs : List Char) : Option (List Char) :=
  match cs.dropWhile isBlank with
  | '>' :: rest => some rest
  | _ => none

/-- The rest behind an end tag of this name, read without regard to case. -/
def endTagOf? (name : List Char) : List Char → Option (List Char)
  | '<' :: '/' :: cs =>
    let cs := cs.dropWhile isBlank
    if (cs.take name.length).map Char.toLower == name then
      closesAfterBlanks (cs.drop name.length)
    else none
  | _ => none

/-- The raw text before the end tag of this name, and the rest behind the tag. -/
def rawText? (name : List Char) : List Char → Option (List Char × List Char)
  | [] => none
  | c :: cs =>
    match endTagOf? name (c :: cs) with
    | some rest => some ([], rest)
    | none => (rawText? name cs).map fun (text, rest) => (c :: text, rest)

def isRawName (name : List Char) : Bool :=
  name == ['s', 'c', 'r', 'i', 'p', 't'] || name == ['s', 't', 'y', 'l', 'e']

/-- The values of a tag are decoded once its end is found. -/
def Front.decoding (pairs : List (List Char × List Char)) : Front → Front
  | .incomplete => .incomplete
  | front =>
    match pairs.findSome? fun p => ValueReference.tooLong? p.2 with
    | some digits => .refused (.tooLong digits)
    | none => front

/-- A start tag, from behind its `<`. A script or style comes with its text and end tag;
without an end tag all that follows is lost. -/
def readStartTag (cs : List Char) : Front :=
  let (name, rest) := cs.span isTagNameChar
  let next := skipFiller rest
  let touching := name.getLast?.any fun c => isQuote c || isBlank c
  let (pairs, rest) :=
    attributesFrom (next.length + 1) (touching || startsWithFiller rest) next
  let lowered := lowercase name
  let tag := Token.startTag (String.ofList lowered) (collect pairs)
  Front.decoding pairs <|
    match rest with
    | [] => .incomplete
    | '/' :: '>' :: rest => .found [tag true] rest
    | '>' :: rest =>
      if isRawName lowered then
        match rawText? lowered rest with
        | some (text, rest) =>
          .found (tag false :: characters text ++ [.endTag (String.ofList lowered)]) rest
        | none => .found [tag false] []
      else .found [tag false] rest
    | c :: after =>
      if isAsciiLetter c || c == '=' || c == '/' then .incomplete
      else .found (characters ('<' :: cs.take (cs.length - (c :: after).length))) (c :: after)

def isEndNameChar (c : Char) : Bool :=
  isAsciiLetter c || isAsciiDigit c || c ∈ ['-', '.', ':', '_']

/-- The name of an end tag that holds nothing else, and the rest behind the tag. -/
def plainEndTag? (cs : List Char) : Option (List Char × List Char) :=
  match cs.dropWhile isBlank with
  | [] => none
  | c :: cs =>
    if isAsciiLetter c then
      let (more, rest) := cs.span isEndNameChar
      (closesAfterBlanks rest).map (c :: more, ·)
    else none

/-- An end tag, from behind its `</`. What is no name is a comment. -/
def readEndTag (cs : List Char) : Front :=
  let tag (name : List Char) := Token.endTag (String.ofList (lowercase name))
  match splitAtFirst '>' cs with
  | none => .incomplete
  | some (inner, after) =>
    match plainEndTag? cs with
    | some (name, rest) => .found [tag name] rest
    | none =>
      match inner with
      | [] => .found [] after
      | c :: _ =>
        if isAsciiLetter c then .found [tag (cs.takeWhile isTagNameChar)] after
        else .found [.special .comment inner] after

/-- The text before the first run of these closing characters, blanks allowed between
them, and the rest. -/
def splitAtClose (close : List Char) : List Char → Option (List Char × List Char)
  | [] => none
  | c :: cs =>
    let step (rest : Option (List Char)) (d : Char) : Option (List Char) :=
      match rest.map (·.dropWhile isBlank) with
      | some (e :: rest) => if e == d then some rest else none
      | _ => none
    match close with
    | [] => none
    | first :: others =>
      match if c == first then others.foldl step (some cs) else none with
      | some rest => some ([], rest)
      | none => (splitAtClose close cs).map fun (text, rest) => (c :: text, rest)

/-- The text before the end of a comment, and the rest: two hyphens, blanks, `>`. -/
def splitAtCommentEnd : List Char → Option (List Char × List Char)
  | [] => none
  | c :: cs =>
    match c, cs with
    | '-', '-' :: after =>
      match closesAfterBlanks after with
      | some rest => some ([], rest)
      | none => (splitAtCommentEnd cs).map fun (text, rest) => (c :: text, rest)
    | _, _ => (splitAtCommentEnd cs).map fun (text, rest) => (c :: text, rest)

def isSectionNameChar (c : Char) : Bool :=
  isAsciiLetter c || isAsciiDigit c || c ∈ ['-', '_', '.']

def startsWithCdata (cs : List Char) : Bool :=
  (cs.take 6).map Char.toUpper == ['C', 'D', 'A', 'T', 'A', '[']

/-- A marked section, from behind its `<![`. -/
def readSection (cs : List Char) : Front :=
  match cs with
  | [] => .incomplete
  | c :: _ =>
    if !isAsciiLetter c then .refused .unknownSection
    else
      let (name, rest) := cs.span isSectionNameChar
      if (rest.dropWhile isBlank).isEmpty then .incomplete
      else
        let name := String.ofList (name.map Char.toLower)
        let close :=
          if name ∈ ["temp", "cdata", "ignore", "include", "rcdata"] then some [']', ']', '>']
          else if name ∈ ["if", "else", "endif"] then some [']', '>']
          else none
        match close with
        | none => .refused .unknownSection
        | some close =>
          match splitAtClose close cs with
          | none => .incomplete
          | some (inner, rest) =>
            if startsWithCdata inner then .found [.special .cdata (inner.drop 6)] rest
            else .found [.special .declaration inner] rest

/-- A declaration that is neither comment nor section, from behind its `<!`. -/
def readDeclaration (cs : List Char) : Front :=
  let isDoctype := (cs.take 7).map Char.toLower == ['d', 'o', 'c', 't', 'y', 'p', 'e']
  match splitAtFirst '>' cs with
  | none => .incomplete
  | some (inner, rest) =>
    if isDoctype then .found [.special .doctype (inner.drop 8)] rest
    else .found [.special .comment inner] rest

/-- Markup, from behind its `<`. -/
def readMarkup (cs : List Char) : Front :=
  match cs with
  | '/' :: cs => readEndTag cs
  | '!' :: '-' :: '-' :: cs =>
    match splitAtCommentEnd cs with
    | some (inner, rest) => .found [.special .comment inner] rest
    | none => .incomplete
  | '!' :: '[' :: cs => readSection cs
  | '!' :: cs => readDeclaration cs
  | '?' :: cs =>
    match splitAtFirst '>' cs with
    | some (inner, rest) => .found [.special .instruction inner] rest
    | none => .incomplete
  | c :: _ => if isAsciiLetter c then readStartTag cs else .found [.character '<'] cs
  | [] => .found [.character '<'] []

/-- Incomplete markup as characters: up to the next `>` with it, else up to the next `<`,
else the one `<` alone. -/
def asCharacters (cs : List Char) : List Token × List Char :=
  match splitAtFirst '>' cs with
  | some (text, rest) => (characters ('<' :: text ++ ['>']), rest)
  | none =>
    match cs.span (· != '<') with
    | (_, []) => ([.character '<'], cs)
    | (text, rest) => (characters ('<' :: text), rest)

/-- A reference, from behind its ampersand: tokens, rest, and whether the text has shown
that it may leave markup incomplete. `late` when it has done so before. -/
def readReference (late : Bool) (cs : List Char) : List Token × List Char × Bool :=
  match cs with
  | '#' :: digits =>
    match TextReference.number? digits with
    | some (n, rest) => ([.character (numericCharacter n)], TextReference.dropSemicolon rest, late)
    | none =>
      if digits.contains ';' && !late then (characters ['&', '#'], digits, true)
      else (characters ('&' :: cs), [], true)
  | c :: after =>
    if isAsciiLetter c then
      match TextReference.name? cs with
      | some (name, rest) =>
        let chars := (namedCharacters? name).getD ('&' :: name)
        (characters chars, TextReference.dropSemicolon rest, late)
      | none => (characters (if after.isEmpty then cs else '&' :: cs), [], true)
    else ([.character '&'], cs, late)
  | [] => ([.character '&'], [], late)

/-- The tokens of a text, behind `k` characters that belong to earlier tokens. -/
def ofCharsFrom (k : Nat) (late : Bool) : List Char → Except Refusal (List Token)
  | [] => .ok []
  | c :: cs =>
    match k with
    | k + 1 => ofCharsFrom k late cs
    | 0 =>
      if c = '<' then
        match readMarkup cs with
        | .found tokens rest =>
          (ofCharsFrom (cs.length - rest.length) late cs).map (tokens ++ ·)
        | .incomplete =>
          let (tokens, rest) := asCharacters cs
          (ofCharsFrom (cs.length - rest.length) true cs).map (tokens ++ ·)
        | .refused r => .error r
      else if c = '&' then
        match TextReference.tooLong? cs with
        | some digits => .error (.tooLong digits)
        | none =>
          let (tokens, rest, late) := readReference late cs
          (ofCharsFrom (cs.length - rest.length) late cs).map (tokens ++ ·)
      else (ofCharsFrom 0 late cs).map (.character c :: ·)

/-- The tokens of a text. -/
def ofChars (cs : List Char) : Except Refusal (List Token) := ofCharsFrom 0 false cs

end Token

end CmsMarkup.Html
