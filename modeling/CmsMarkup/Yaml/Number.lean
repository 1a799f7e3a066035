import CmsMarkup.Double
import CmsMarkup.Text.Blank
import CmsMarkup.Text.Casing
import CmsMarkup.Text.Digit
import CmsMarkup.Text.Quoted
import CmsMarkup.Value
import CmsMarkup.Yaml.TagName

/-! Numbers of YAML 1.1: which texts are numbers, and how a number's text is read. Reading
takes more texts than are numbers, for a tag may call any text a number. -/

namespace CmsMarkup.Yaml

inductive NumberFault where
  /-- Nothing is left behind the sign. -/
  | noDigits
  | notInteger (base : Nat) (content : List Char)
  | notDouble (content : List Char)
  /-- A decimal of too many digits to be read. -/
  | tooLong (digits : Nat)
  /-- A whole number of too many digits to be written. -/
  | tooLongToWrite
  /-- A part of sixtieths outweighs every double. -/
  | overflow
  deriving DecidableEq, Repr

/-- The message of a fault, for those that have one. A long text is cut short. -/
def NumberFault.message? : NumberFault → Option String
  | .noDigits => none
  | .notInteger base content =>
    some ("invalid literal for int() with base " ++ toString base ++ ": " ++
      String.ofList ((Quoted.encode content).take 200))
  | .notDouble content =>
    some ("could not convert string to float: " ++ String.ofList (Quoted.encode content))
  | .tooLong digits => some (longNumeralMessage (some digits))
  | .tooLongToWrite => some (longNumeralMessage none)
  | .overflow => none

/-- The parts of a text between its colons. -/
def colonParts : List Char → List (List Char)
  | [] => [[]]
  | c :: cs =>
    if c == ':' then [] :: colonParts cs
    else
      match colonParts cs with
      | part :: parts => (c :: part) :: parts
      | [] => [[c]]

def afterSign : List Char → List Char
  | '+' :: cs => cs
  | '-' :: cs => cs
  | cs => cs

def isDigitOrGap (c : Char) : Bool := isDigit c || c == '_'

/-- Up to 59, in one digit or two. -/
def isSixtieth : List Char → Bool
  | [d] => isDigit d
  | [t, d] => '0' ≤ t && t ≤ '5' && isDigit d
  | _ => false

def isIntegerText (cs : List Char) : Bool :=
  match afterSign cs with
  | '0' :: 'b' :: ds => !ds.isEmpty && ds.all (· ∈ ['0', '1', '_'])
  | '0' :: 'x' :: ds => !ds.isEmpty && ds.all fun c => (hexValue? c).isSome || c == '_'
  | ['0'] => true
  | '0' :: ds => ds.all fun c => ('0' ≤ c && c ≤ '7') || c == '_'
  | c :: ds =>
    isDigit c &&
      match colonParts ds with
      | [] => false
      | first :: parts => first.all isDigitOrGap && parts.all isSixtieth
  | [] => false

/-- An exponent with its sign, or nothing. -/
def isExponentText : List Char → Bool
  | [] => true
  | e :: sign :: ds =>
    (e == 'e' || e == 'E') && (sign == '+' || sign == '-') && !ds.isEmpty && ds.all isDigit
  | _ => false

def isDoubleText (cs : List Char) : Bool :=
  match afterSign cs, cs with
  | _, ['.', 'n', 'a', 'n'] => true
  | _, ['.', 'N', 'a', 'N'] => true
  | _, ['.', 'N', 'A', 'N'] => true
  | ['.', 'i', 'n', 'f'], _ => true
  | ['.', 'I', 'n', 'f'], _ => true
  | ['.', 'I', 'N', 'F'], _ => true
  | _, '.' :: d :: ds => isDigit d && isExponentText (ds.dropWhile isDigitOrGap)
  | d :: ds, _ =>
    isDigit d &&
      match ds.span (· != '.') with
      | (whole, '.' :: fraction) =>
        match colonParts whole with
        | [whole] => whole.all isDigitOrGap && isExponentText (fraction.dropWhile isDigitOrGap)
        | whole :: parts =>
          whole.all isDigitOrGap && parts.all isSixtieth && fraction.all isDigitOrGap
        | [] => false
      | _ => false
  | [], _ => false

/-! ### Reading -/

/-- A decimal digit of any script is read as the ASCII one, and a blank of any script as a
space. -/
def numeralChar? (c : Char) : Option Char :=
  if c.toNat < 127 then some c
  else if isBlank c then some ' '
  else (decimal? c).map fun d => Char.ofNat (48 + d)

/-- A text as a number is read from it. At a character that stands in no number it ends, with
a mark that stands in none either. -/
def numeralText : List Char → List Char
  | [] => []
  | c :: cs =>
    match numeralChar? c with
    | some d => d :: numeralText cs
    | none => ['?']

/-- The blanks around a number. The four ASCII separators are none of them. -/
def isNumeralBlank (c : Char) : Bool := (9 ≤ c.toNat && c.toNat ≤ 13) || c == ' '

def digitValue? (base : Nat) (c : Char) : Option Nat :=
  let value :=
    if isDigit c then some (c.toNat - 48)
    else if 'a' ≤ c && c ≤ 'z' then some (c.toNat - 87)
    else if 'A' ≤ c && c ≤ 'Z' then some (c.toNat - 55)
    else none
  value.filter (· < base)

def digits? (base : Nat) (cs : List Char) : Option Nat :=
  if cs.isEmpty then none
  else cs.foldl (fun n c => n.bind fun n => (digitValue? base c).map (n * base + ·)) (some 0)

/-- The letter that marks a base behind a zero. -/
def baseMark (base : Nat) : List Char :=
  if base = 2 then ['b', 'B'] else if base = 8 then ['o', 'O'] else if base = 16 then ['x', 'X'] else []

/-- A whole number with a sign and the mark of its base if they are there. -/
def integer? (base : Nat) (cs : List Char) : Option Int :=
  let unsigned := afterSign cs
  let digits :=
    match unsigned with
    | '0' :: mark :: ds => if mark ∈ baseMark base then ds else unsigned
    | _ => unsigned
  (digits? base digits).map fun n => if cs.head? == some '-' then -(n : Int) else n

/-- Only decimals are bounded in length; the digits in front are counted before the rest is
looked at. -/
def readInteger (base : Nat) (cs : List Char) : Except NumberFault Int :=
  let trimmed := dropEnds isNumeralBlank (numeralText cs)
  let digits := ((afterSign trimmed).takeWhile isDigit).length
  if base = 10 && longestNumeral < digits then .error (.tooLong digits)
  else
    match integer? base trimmed with
    | some n => .ok n
    | none => .error (.notInteger base cs)

def decimalDigits? (cs : List Char) : Option Int := do
  let unsigned := afterSign cs
  guard (!unsigned.isEmpty && unsigned.all isDigit)
  let n : Int := decimal unsigned
  return if cs.head? == some '-' then -n else n

/-- A decimal without its sign. -/
def unsignedDouble? (cs : List Char) : Option Double :=
  if lowercase cs ∈ ["inf".toList, "infinity".toList] then some (.infinite false)
  else if lowercase cs == "nan".toList then some (.nan false)
  else do
    let (mantissa, tail) := cs.span fun c => c != 'e' && c != 'E'
    let exponent ← match tail with
      | [] => some 0
      | _ :: cs => decimalDigits? cs
    let (whole, tail) := mantissa.span (· != '.')
    let fraction := tail.drop 1
    guard (!(whole.isEmpty && fraction.isEmpty))
    guard (whole.all isDigit && fraction.all isDigit)
    return Double.ofDecimal (decimal (whole ++ fraction)) (exponent - fraction.length)

def readDouble (cs : List Char) : Except NumberFault Double :=
  let trimmed := dropEnds isNumeralBlank (numeralText cs)
  match unsignedDouble? (afterSign trimmed) with
  | some x => .ok (if trimmed.head? == some '-' then x.neg else x)
  | none => .error (.notDouble cs)

/-- The whole number that a text stands for. Gaps are dropped, a leading zero means base
eight, and parts between colons are sixtieths of the part before. -/
def integerOf (cs : List Char) : Except NumberFault Int := do
  let cs := cs.filter (· != '_')
  let unsigned := afterSign cs
  let n ←
    match unsigned with
    | [] => throw .noDigits
    | ['0'] => pure 0
    | '0' :: 'b' :: ds => readInteger 2 ds
    | '0' :: 'x' :: ds => readInteger 16 ds
    | '0' :: _ => readInteger 8 unsigned
    | _ =>
      if ':' ∈ unsigned then do
        let parts ← (colonParts unsigned).mapM (readInteger 10)
        pure (parts.foldl (fun n part => n * 60 + part) 0)
      else readInteger 10 unsigned
  return if cs.head? == some '-' then -n else n

/-- Parts between colons, the last one first, each with sixty times the weight before. -/
def weighted (weight : Nat) (sum : Double) : List Double → Except NumberFault Double
  | [] => .ok sum
  | x :: rest =>
    match Double.ofNat weight with
    | .infinite _ => .error .overflow
    | w => weighted (weight * 60) (sum.add (x.mul w)) rest

/-- The double that a text stands for. -/
def doubleOf (cs : List Char) : Except NumberFault Double := do
  let cs := lowercase (cs.filter (· != '_'))
  let unsigned := afterSign cs
  if cs.isEmpty then throw .noDigits
  let x ←
    if unsigned == ".inf".toList then pure (Double.infinite false)
    else if unsigned == ".nan".toList then pure (Double.nan true)
    else if ':' ∈ unsigned then do
      let parts ← (colonParts unsigned).mapM readDouble
      weighted 1 Double.zero parts.reverse
    else readDouble unsigned
  return if cs.head? == some '-' then x.neg else x

end CmsMarkup.Yaml
