import CmsMarkup.Json
import CmsMarkup.Text.Digit
import CmsMarkup.Text.Ranges

/-! JSON values from text. A repeated key keeps its first place and takes the last value. -/

namespace CmsMarkup.Json

inductive Fault where
  | malformed
  /-- A whole number of so many digits. -/
  | tooLong (digits : Nat)
  deriving DecidableEq, Repr

/-- The message of a fault; that of a malformed text is not kept. -/
def Fault.message? : Fault → Option String
  | .malformed => none
  | .tooLong digits => some (longNumeralMessage digits)

/-- What is read at the front of a text, and what follows it. -/
abbrev Reading (α : Type) := Except Fault (α × List Char)

def malformed {α : Type} : Reading α := .error .malformed

def isSpace (c : Char) : Bool := c == ' ' || c == '\t' || c == '\n' || c == '\r'

def dropSpace (cs : List Char) : List Char := cs.dropWhile isSpace

/-- Four hexadecimal digits and what follows them. -/
def readUnit (cs : List Char) : Option (Nat × List Char) :=
  let digits := cs.take 4
  if digits.length == 4 && digits.all isHexDigit then some (numeral 16 digits, cs.drop 4) else none

/-- The surrogate of a code point, if it is one. -/
def surrogate? (n : Nat) : Option Surrogate :=
  if h : 0xD800 ≤ n ∧ n ≤ 0xDFFF then some ⟨n - 0xD800, by omega⟩ else none

/-- The character of an escape, or a surrogate that stands alone, from behind its `u`. Two
surrogates make one character if the escape of the lower one follows that of the higher one. -/
def readEscapedUnit (cs : List Char) : Option ((Char ⊕ Surrogate) × List Char) :=
  match readUnit cs with
  | none => none
  | some (high, rest) =>
    match surrogate? high with
    | none => some (.inl (Char.ofNat high), rest)
    | some unit =>
      let alone := some (.inr unit, rest)
      if 0xDBFF < high then alone
      else
        match rest with
        | '\\' :: 'u' :: after =>
          match readUnit after with
          | some (low, rest) =>
            if 0xDC00 ≤ low && low ≤ 0xDFFF then
              some (.inl (Char.ofNat (0x10000 + (high - 0xD800) * 0x400 + (low - 0xDC00))), rest)
            else alone
          | none => alone
        | _ => alone

def simpleEscapes : List (Char × Char) :=
  [('"', '"'), ('\\', '\\'), ('/', '/'), ('b', '\x08'), ('f', '\x0c'), ('n', '\n'), ('r', '\r'),
   ('t', '\t')]

/-- A string up to its closing quote, after characters that were read, last first. -/
def readString : Nat → List Char → List Char → Reading CodeText
  | 0, _, _ => malformed
  | fuel + 1, read, cs =>
    match cs with
    | [] => malformed
    | '"' :: rest => .ok (.text (String.ofList read.reverse), rest)
    | '\\' :: 'u' :: rest =>
      match readEscapedUnit rest with
      | some (.inl c, rest) => readString fuel (c :: read) rest
      | some (.inr unit, rest) =>
        (readString fuel [] rest).map fun (more, rest) =>
          (.lone (String.ofList read.reverse) unit more, rest)
      | none => malformed
    | '\\' :: e :: rest =>
      match simpleEscapes.lookup e with
      | some c => readString fuel (c :: read) rest
      | none => malformed
    | c :: rest =>
      if c.toNat < 0x20 || c == '\\' then malformed else readString fuel (c :: read) rest

def readKey (cs : List Char) : Reading CodeText := readString (cs.length + 1) [] cs

/-- A number without leading zeros. One that is not whole keeps its text. -/
def readNumber (cs : List Char) : Reading Json :=
  let (sign, unsigned) :=
    match cs with
    | '-' :: rest => (['-'], rest)
    | _ => ([], cs)
  let whole :=
    match unsigned with
    | '0' :: rest => some (['0'], rest)
    | _ =>
      match unsigned.span isAsciiDigit with
      | ([], _) => none
      | (digits, rest) => some (digits, rest)
  match whole with
  | none => malformed
  | some (digits, rest) =>
    let (fraction, rest) :=
      match rest with
      | '.' :: after =>
        match after.span isAsciiDigit with
        | ([], _) => ([], rest)
        | (digits, rest) => ('.' :: digits, rest)
      | _ => ([], rest)
    let exponentAfter (lead : List Char) (after : List Char) :=
      match after.span isAsciiDigit with
      | ([], _) => ([], rest)
      | (digits, rest) => (lead ++ digits, rest)
    let (exponent, rest) :=
      match rest with
      | e :: s :: after =>
        if e != 'e' && e != 'E' then ([], rest)
        else if s == '+' || s == '-' then exponentAfter [e, s] after
        else exponentAfter [e] (s :: after)
      | _ => ([], rest)
    if fraction.isEmpty && exponent.isEmpty then
      if longestNumeral < digits.length then .error (.tooLong digits.length)
      else
        let n : Int := numeral 10 digits
        .ok (.int (if sign.isEmpty then n else -n), rest)
    else .ok (.real (String.ofList (sign ++ digits ++ fraction ++ exponent)), rest)

def literals : List (String × Json) :=
  [("null", .null), ("true", .bool true), ("false", .bool false), ("NaN", .real "NaN"),
   ("Infinity", .real "Infinity"), ("-Infinity", .real "-Infinity")]

def readScalar (cs : List Char) : Reading Json :=
  match literals.find? fun (word, _) => word.toList.isPrefixOf cs with
  | some (word, value) => .ok (value, cs.drop word.length)
  | none => readNumber cs

mutual

/-- A value at the front of a text, and what follows it. -/
def readValue : Nat → List Char → Reading Json
  | 0, _ => malformed
  | fuel + 1, cs =>
    match cs with
    | '"' :: rest => (readKey rest).map fun (s, rest) => (.string s, rest)
    | '[' :: rest =>
      match dropSpace rest with
      | ']' :: rest => .ok (.array [], rest)
      | rest => (readItems fuel rest).map fun (items, rest) => (.array items, rest)
    | '\x7b' :: rest =>
      match dropSpace rest with
      | '\x7d' :: rest => .ok (.object [], rest)
      | rest => (readMembers fuel [] rest).map fun (members, rest) => (.object members, rest)
    | _ => readScalar cs

def readItems : Nat → List Char → Reading (List Json)
  | 0, _ => malformed
  | fuel + 1, cs =>
    match readValue fuel cs with
    | .error f => .error f
    | .ok (item, rest) =>
      match dropSpace rest with
      | ',' :: rest =>
        (readItems fuel (dropSpace rest)).map fun (items, rest) => (item :: items, rest)
      | ']' :: rest => .ok ([item], rest)
      | _ => malformed

def readMembers : Nat → List (CodeText × Json) → List Char → Reading (List (CodeText × Json))
  | 0, _, _ => malformed
  | fuel + 1, read, cs =>
    match cs with
    | '"' :: rest =>
      match readKey rest with
      | .error f => .error f
      | .ok (key, rest) =>
        match dropSpace rest with
        | ':' :: rest =>
          match readValue fuel (dropSpace rest) with
          | .error f => .error f
          | .ok (value, rest) =>
            let read := put key value read
            match dropSpace rest with
            | ',' :: rest => readMembers fuel read (dropSpace rest)
            | '\x7d' :: rest => .ok (read, rest)
            | _ => malformed
        | _ => malformed
    | _ => malformed

end

/-- The value that a text holds, with nothing but white space around it. -/
def parse (text : String) : Except Fault Json :=
  let cs := dropSpace text.toList
  match readValue (2 * cs.length + 2) cs with
  | .ok (value, rest) => if (dropSpace rest).isEmpty then .ok value else .error .malformed
  | .error f => .error f

end CmsMarkup.Json
