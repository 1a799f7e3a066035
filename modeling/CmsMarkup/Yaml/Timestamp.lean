import CmsMarkup.Calendar
import CmsMarkup.Yaml.TagName

/-! Dates and times as YAML 1.1 writes them. -/

namespace CmsMarkup.Yaml

structure TimeOfDay where
  hour : Nat
  minute : Nat
  second : Nat
  /-- The digits behind the point. -/
  fraction : List Char
  /-- Minutes ahead of universal time. -/
  offset : Option Int
  deriving Repr

/-- A date or a time. `padded` tells that month and day have two digits. -/
structure Timestamp where
  date : Date
  padded : Bool
  time : Option TimeOfDay
  deriving Repr

namespace Timestamp

/-- A number of `least` to `most` digits. -/
def digits? (least most : Nat) (cs : List Char) : Option (Nat × Nat × List Char) :=
  let ds := (cs.take most).takeWhile isDigit
  if ds.length < least then none else some (decimal ds, ds.length, cs.drop ds.length)

def expect (c : Char) : List Char → Option (List Char)
  | [] => none
  | d :: cs => if c == d then some cs else none

/-- The offset at the end of a time; blanks may stand before it. -/
def zone? (cs : List Char) : Option (Option Int) :=
  if cs.isEmpty then some none
  else
    match cs.dropWhile isSpace with
    | ['Z'] => some (some 0)
    | sign :: cs => do
      guard (sign == '+' || sign == '-')
      let (hours, _, cs) ← digits? 1 2 cs
      let (minutes, cs) ← match cs with
        | ':' :: cs => (digits? 2 2 cs).map fun (n, _, cs) => (n, cs)
        | _ => some (0, cs)
      guard cs.isEmpty
      let distance : Int := (hours * 60 + minutes : Nat)
      return some (if sign == '-' then -distance else distance)
    | [] => none

def time? (cs : List Char) : Option TimeOfDay := do
  let (hour, _, cs) ← digits? 1 2 cs
  let (minute, _, cs) ← digits? 2 2 (← expect ':' cs)
  let (second, _, cs) ← digits? 2 2 (← expect ':' cs)
  let (fraction, cs) := match cs with
    | '.' :: cs => cs.span isDigit
    | _ => ([], cs)
  return ⟨hour, minute, second, fraction, ← zone? cs⟩

/-- The time part behind a date: a letter or blanks, and the time. -/
def timePart? : List Char → Option TimeOfDay
  | c :: cs =>
    if c == 'T' || c == 't' then time? cs
    else if isSpace c then time? (cs.dropWhile isSpace)
    else none
  | [] => none

def read? (cs : List Char) : Option Timestamp := do
  let (year, _, cs) ← digits? 4 4 cs
  let (month, monthWidth, cs) ← digits? 1 2 (← expect '-' cs)
  let (day, dayWidth, cs) ← digits? 1 2 (← expect '-' cs)
  let time ← if cs.isEmpty then some none else (timePart? cs).map some
  return ⟨⟨year, month, day⟩, monthWidth == 2 && dayWidth == 2, time⟩

/-- A text without a tag is a date only when month and day have two digits. -/
def isPlain (cs : List Char) : Bool :=
  (read? cs).any fun t => t.padded || t.time.isSome

/-- Six digits behind the point count. -/
def microseconds (fraction : List Char) : Nat :=
  decimal (fraction.take 6 ++ List.replicate (6 - fraction.length) '0')

end Timestamp

end CmsMarkup.Yaml
