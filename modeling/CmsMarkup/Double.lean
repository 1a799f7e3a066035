/-! Double precision numbers as exact values: a whole number of at most 53 bits times a
power of two. Results are rounded to the nearest one, halves to the even one. -/

namespace CmsMarkup

/-- `finite negative m e` is `m * 2 ^ e`. -/
inductive Double where
  | finite (negative : Bool) (m : Nat) (e : Int)
  | infinite (negative : Bool)
  /-- No number. A named one is the same wherever its name stands, every other is one of its own. -/
  | nan (named : Bool)
  deriving DecidableEq, Repr

namespace Double

def pow2 (k : Nat) : Nat := Nat.pow 2 k

def pow10 (k : Nat) : Nat := Nat.pow 10 k

def leastExponent : Int := -1074

def greatestExponent : Int := 971

def zero : Double := .finite false 0 leastExponent

/-- `n * 2 ^ e` as a fraction. -/
def binaryFraction (n : Nat) (e : Int) : Nat × Nat :=
  if 0 ≤ e then (n * pow2 e.toNat, 1) else (n, pow2 (-e).toNat)

/-- The nearest whole number to `n / d`, halves to the even one. -/
def roundDiv (n d : Nat) : Nat :=
  let q := n / d
  let twice := 2 * (n % d)
  if twice < d then q else if d < twice then q + 1 else q + q % 2

/-- The power of two at or below `n / d`. -/
def binaryPlace (n d : Nat) : Int :=
  let k : Int := (Nat.log2 n : Int) - Nat.log2 d
  let (p, _) := binaryFraction 1 k
  let (_, q) := binaryFraction 1 k
  if n * q < d * p then k - 1 else k

/-- The double nearest to `n / d`. -/
def ofFraction (negative : Bool) (n d : Nat) : Double :=
  if n = 0 then .finite negative 0 leastExponent
  else
    let e := max leastExponent (binaryPlace n d - 52)
    let (p, q) := binaryFraction 1 (-e)
    let m := roundDiv (n * p) (d * q)
    let (m, e) := if m = pow2 53 then (pow2 52, e + 1) else (m, e)
    if greatestExponent < e then .infinite negative else .finite negative m e

def ofNat (n : Nat) : Double := ofFraction false n 1

/-- `digits * 10 ^ exponent`. Exponents far out of range are settled without computing. -/
def ofDecimal (digits : Nat) (exponent : Int) : Double :=
  let places : Int := (Nat.toDigits 10 digits).length
  if digits = 0 then zero
  else if 400 < exponent + places then .infinite false
  else if exponent + places < -400 then zero
  else if 0 ≤ exponent then ofFraction false (digits * pow10 exponent.toNat) 1
  else ofFraction false digits (pow10 (-exponent).toNat)

def neg : Double → Double
  | .finite negative m e => .finite (!negative) m e
  | .infinite negative => .infinite (!negative)
  | .nan named => .nan named

def mul : Double → Double → Double
  | .finite s m e, .finite t n f =>
    let (p, q) := binaryFraction (m * n) (e + f)
    ofFraction (s != t) p q
  | .finite s m _, .infinite t => if m = 0 then .nan false else .infinite (s != t)
  | .infinite s, .finite t n _ => if n = 0 then .nan false else .infinite (s != t)
  | .infinite s, .infinite t => .infinite (s != t)
  | _, _ => .nan false

/-- The value of a finite double times `2 ^ 1074`. -/
def scaled (negative : Bool) (m : Nat) (e : Int) : Int :=
  let n : Int := (m * pow2 (e - leastExponent).toNat : Nat)
  if negative then -n else n

def add : Double → Double → Double
  | .finite s m e, .finite t n f =>
    let sum := scaled s m e + scaled t n f
    ofFraction (if sum = 0 then s && t else sum < 0) sum.natAbs (pow2 1074)
  | .finite .., .infinite t => .infinite t
  | .infinite s, .finite .. => .infinite s
  | .infinite s, .infinite t => if s = t then .infinite s else .nan false
  | _, _ => .nan false

/-- Numbers are the same when their values are; a value that is no number is not even
the same as itself. -/
def same : Double → Double → Bool
  | .finite s m e, .finite t n f => scaled s m e == scaled t n f
  | .infinite s, .infinite t => s == t
  | _, _ => false

def sameInt (n : Int) : Double → Bool
  | .finite s m e => scaled s m e == n * (pow2 1074 : Nat)
  | _ => false

/-! ### Shortest decimals -/

/-- The place of the decimal point: `n / d` is below `10 ^ k` and not below `10 ^ (k - 1)`. -/
def decimalPlace (n d : Nat) : Int :=
  if d ≤ n then (Nat.toDigits 10 (n / d)).length
  else
    let zeros : Nat := ((List.range 400).find? fun j => d ≤ n * pow10 (j + 1)).getD 0
    Int.negOfNat zeros

/-- A decimal `c * 10 ^ p` against the fraction `n / d`, as numbers with one scale. -/
def onGrid (c : Nat) (p : Int) (n d : Nat) : Nat × Nat :=
  if 0 ≤ p then (c * pow10 p.toNat * d, n) else (c * d, n * pow10 (-p).toNat)

/-- A decimal reads back as the double `m * 2 ^ e` when it lies between the middles to the
two neighbours; a middle itself goes to an even `m`. -/
def readsBack (m : Nat) (e : Int) (c : Nat) (p : Int) : Bool :=
  let lower := if m == pow2 52 && leastExponent < e then 4 * m - 1 else 4 * m - 2
  let (n, d) := binaryFraction lower (e - 2)
  let (x, low) := onGrid c p n d
  let (n, d) := binaryFraction (4 * m + 2) (e - 2)
  let (y, high) := onGrid c p n d
  if m % 2 = 0 then low ≤ x && y ≤ high else low < x && y < high

/-- The decimal with `places` digits that reads back, if there is one; the nearer of two,
of two equally near ones the even one. -/
def decimalWith (m : Nat) (e : Int) (places : Nat) : Option (Nat × Int) :=
  let (n, d) := binaryFraction m e
  let p := decimalPlace n d - places
  let (unit, value) := onGrid 1 p n d
  let c := value / unit
  let twice := 2 * (value % unit)
  let below := readsBack m e c p
  let above := readsBack m e (c + 1) p
  if below && above then
    some (if twice < unit || (twice == unit && c % 2 == 0) then (c, p) else (c + 1, p))
  else if below then some (c, p)
  else if above then some (c + 1, p)
  else none

/-- The shortest digits that read back as a positive double, and the place of the point. -/
def shortest (m : Nat) (e : Int) : List Char × Int :=
  match (List.range 17).findSome? fun i => decimalWith m e (i + 1) with
  | none => ([], 0)
  | some (c, p) =>
    let digits := Nat.toDigits 10 c
    let kept := (digits.reverse.dropWhile (· == '0')).reverse
    (kept, p + digits.length)

/-- Positional from 0.0001 up to sixteen digits before the point, and always with a digit
after it; else with an exponent of at least two digits. -/
def digitsText (digits : List Char) (place : Int) : List Char :=
  if -4 < place && place ≤ 16 then
    if place ≤ 0 then '0' :: '.' :: List.replicate (-place).toNat '0' ++ digits
    else
      let whole := digits.take place.toNat
      let rest := digits.drop place.toNat
      whole ++ List.replicate (place.toNat - whole.length) '0' ++ '.' ::
        (if rest.isEmpty then ['0'] else rest)
  else
    let exponent := Nat.toDigits 10 (place - 1).natAbs
    let padded := if exponent.length < 2 then '0' :: exponent else exponent
    let fraction := if digits.length ≤ 1 then [] else '.' :: digits.drop 1
    digits.take 1 ++ fraction ++ 'e' :: (if place - 1 < 0 then '-' else '+') :: padded

def text : Double → String
  | .nan _ => "nan"
  | .infinite negative => if negative then "-inf" else "inf"
  | .finite negative m e =>
    let unsigned :=
      if m = 0 then ['0', '.', '0']
      else
        let (digits, place) := shortest m e
        digitsText digits place
    String.ofList (if negative then '-' :: unsigned else unsigned)

end Double

end CmsMarkup
