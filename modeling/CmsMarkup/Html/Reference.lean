import CmsMarkup.Text.Digit
import CmsMarkup.Text.Ranges
import CmsMarkup.Html.ReferenceTable

/-! Character references. Running text and attribute values read them by different
rules: text needs a character after the reference and knows every name without its
semicolon; a value knows only some bare names, and takes the longest one. -/

namespace CmsMarkup.Html

/-- Code points 0x80 to 0x9F in references stand for the characters of code page 1252. -/
def windowsCodes : List (Nat × Nat) :=
  [(0x80, 0x20AC), (0x82, 0x201A), (0x83, 0x192), (0x84, 0x201E), (0x85, 0x2026),
   (0x86, 0x2020), (0x87, 0x2021), (0x88, 0x2C6), (0x89, 0x2030), (0x8A, 0x160),
   (0x8B, 0x2039), (0x8C, 0x152), (0x8E, 0x17D), (0x91, 0x2018), (0x92, 0x2019),
   (0x93, 0x201C), (0x94, 0x201D), (0x95, 0x2022), (0x96, 0x2013), (0x97, 0x2014),
   (0x98, 0x2DC), (0x99, 0x2122), (0x9A, 0x161), (0x9B, 0x203A), (0x9C, 0x153),
   (0x9E, 0x17E), (0x9F, 0x178)]

/-- The character of a number by the rules of the HTML standard, which Beautiful Soup 4.15.0 follows
in running text too: zero, surrogates and numbers past the last code point become U+FFFD. So no
reference gives a surrogate. -/
def numericCharacter (n : Nat) : Char :=
  match windowsCodes.lookup n with
  | some code => Char.ofNat code
  | none =>
    if n = 0 || (0xD800 ≤ n && n ≤ 0xDFFF) || 0x10FFFF < n then Char.ofNat 0xFFFD
    else Char.ofNat n

/-- The digits of a decimal reference behind its ampersand, if they are too many to be read. -/
def longDecimal? : List Char → Option Nat
  | '#' :: cs =>
    let digits := cs.takeWhile isAsciiDigit
    if longestNumeral < digits.length then some digits.length else none
  | _ => none

def namedCharacters? (name : List Char) : Option (List Char) :=
  (namedReferences.lookup (String.ofList name)).map (List.map Char.ofNat)

namespace TextReference

def isNameChar (c : Char) : Bool :=
  isAsciiLetter c || isAsciiDigit c || c == '-' || c == '.'

/-- Splits at the last hyphen or full stop, which is left in the rest. -/
def splitLastStop (cs : List Char) : Option (List Char × List Char) :=
  match cs.reverse.span fun c => !(c == '-' || c == '.') with
  | (_, []) => none
  | (after, stop :: before) => some (before.reverse, stop :: after.reverse)

/-- The name that follows an ampersand, and what follows the name. A name needs a
character after it; at the end of the input it is cut back to find one. -/
def name? : List Char → Option (List Char × List Char)
  | [] => none
  | c :: cs =>
    if !isAsciiLetter c then none
    else
      match cs.span isNameChar with
      | (more, []) => (splitLastStop more).map fun (name, rest) => (c :: name, rest)
      | (more, rest) => some (c :: more, rest)

/-- The number that follows an ampersand and a number sign. -/
def number? (cs : List Char) : Option (Nat × List Char) :=
  let read (base : Nat) (isDigit : Char → Bool) (cs : List Char) :=
    match cs.span isDigit with
    | ([], _) => none
    | (_, []) => none
    | (digits, c :: rest) =>
      if isHexDigit c then none else some (numeral base digits, c :: rest)
  match cs with
  | 'x' :: rest => read 16 isHexDigit rest
  | 'X' :: rest => read 16 isHexDigit rest
  | _ => read 10 isAsciiDigit cs

/-- The digits of a reference that is too long to be read. One without a character behind it
is not read at all. -/
def tooLong? (cs : List Char) : Option Nat :=
  match (cs.drop 1).dropWhile isAsciiDigit with
  | c :: _ => if isHexDigit c then none else longDecimal? cs
  | [] => none

def dropSemicolon : List Char → List Char
  | ';' :: rest => rest
  | rest => rest

end TextReference

namespace ValueReference

/-- Controls and noncharacters, which numeric references in values leave out. -/
def isLeftOut (n : Nat) : Bool :=
  (1 ≤ n && n ≤ 8) || n == 0xB || (0xE ≤ n && n ≤ 0x1F) || (0x7F ≤ n && n ≤ 0x9F) ||
    (0xFDD0 ≤ n && n ≤ 0xFDEF) || (n % 0x10000 == 0xFFFE) || (n % 0x10000 == 0xFFFF)

def numericCharacters (n : Nat) : List Char :=
  if (0x80 ≤ n && n ≤ 0x9F) || !isLeftOut n || 0x10FFFF < n then [numericCharacter n] else []

def isStop (c : Char) : Bool :=
  c ∈ ['\t', '\n', '\x0c', ' ', '<', '&', '#', ';']

/-- The longest bare name, of two characters at least, that begins a run. -/
def longestBare (run : List Char) : Nat → Option (List Char × List Char)
  | 0 => none
  | 1 => none
  | k + 1 =>
    let name := run.take (k + 1)
    if bareReferences.contains (String.ofList name) then
      (namedCharacters? name).map (·, run.drop (k + 1))
    else longestBare run k

/-- What a run after an ampersand stands for; `closed` when a semicolon follows it. -/
def named (run : List Char) (closed : Bool) : List Char :=
  let tail := if closed then [';'] else []
  let whole := if closed then namedCharacters? run
    else if bareReferences.contains (String.ofList run) then namedCharacters? run else none
  match whole with
  | some chars => chars
  | none =>
    match longestBare run (if closed then run.length else run.length - 1) with
    | some (chars, rest) => chars ++ rest ++ tail
    | none => '&' :: run ++ tail

/-- Reads the reference after an ampersand: its characters and the number of characters
it takes up. -/
def read? (cs : List Char) : Option (List Char × Nat) :=
  let close (digits rest : List Char) : Nat :=
    digits.length + if rest.head? == some ';' then 1 else 0
  let decimal (cs : List Char) :=
    match cs.span isAsciiDigit with
    | ([], _) => none
    | (digits, rest) => some (numericCharacters (numeral 10 digits), 1 + close digits rest)
  let hexadecimal (cs : List Char) :=
    match cs.span isHexDigit with
    | ([], _) => none
    | (digits, rest) => some (numericCharacters (numeral 16 digits), 2 + close digits rest)
  match cs with
  | '#' :: 'x' :: rest => hexadecimal rest
  | '#' :: 'X' :: rest => hexadecimal rest
  | '#' :: rest => decimal rest
  | _ =>
    let run := (cs.takeWhile fun c => !isStop c).take 32
    if run.isEmpty then none
    else
      let closed := (cs.drop run.length).head? == some ';'
      some (named run closed, run.length + if closed then 1 else 0)

/-- The digits of the first reference in a value that is too long to be read. -/
def tooLong? : List Char → Option Nat
  | [] => none
  | c :: cs => if c = '&' then (longDecimal? cs).or (tooLong? cs) else tooLong? cs

/-- Decodes a value, passing over `k` characters that a reference took up. -/
def decodeFrom (k : Nat) : List Char → List Char
  | [] => []
  | c :: cs =>
    match k with
    | k + 1 => decodeFrom k cs
    | 0 =>
      if c = '&' then
        match read? cs with
        | some (chars, length) => chars ++ decodeFrom length cs
        | none => '&' :: decodeFrom 0 cs
      else c :: decodeFrom 0 cs

end ValueReference

/-- An attribute value with its character references read. -/
def decodeValue (cs : List Char) : List Char := ValueReference.decodeFrom 0 cs

end CmsMarkup.Html
