import CmsMarkup.Calendar
import CmsMarkup.Double
import CmsMarkup.Text.Digit
import CmsMarkup.Text.Quoted

/-! Values of document metadata, and the text each of them is shown as. -/

namespace CmsMarkup

inductive Value where
  | null
  | bool (b : Bool)
  | int (n : Int)
  | double (x : Double)
  | text (s : String)
  | bytes (content : List UInt8)
  | date (d : Date)
  | moment (t : Moment)
  | list (items : List Value)
  | pair (first second : Value)
  | set (items : List Value)
  | map (entries : List (Value × Value))
  /-- A list or a map that holds this very place. -/
  | enclosing (isMap : Bool)
  deriving Repr

namespace Value

/-- The name of a value's kind in messages. -/
def kindName : Value → String
  | .null => "NoneType"
  | .bool _ => "bool"
  | .int _ => "int"
  | .double _ => "float"
  | .text _ => "str"
  | .bytes _ => "bytes"
  | .date _ => "date"
  | .moment _ => "datetime"
  | .list _ => "list"
  | .pair .. => "tuple"
  | .set _ => "set"
  | .map _ => "dict"
  | .enclosing isMap => if isMap then "dict" else "list"

/-- Numbers are one key by their value, truth values count as 0 and 1, and everything else
is a key of its own kind. -/
def sameKey : Value → Value → Bool
  | .null, .null => true
  | .text s, .text t => s == t
  | .bytes s, .bytes t => s == t
  | .date d, .date e => d == e
  | .moment t, .moment u => t.same u
  | .double (.nan true), .double (.nan true) => true
  | .double x, .double y => Double.same x y
  | .double x, v => (number? v).any fun n => Double.sameInt n x
  | v, .double x => (number? v).any fun n => Double.sameInt n x
  | v, w =>
    match number? v, number? w with
    | some m, some n => m == n
    | _, _ => false
where
  number? : Value → Option Int
    | .bool b => some (if b then 1 else 0)
    | .int n => some n
    | _ => none

/-- Gives a key its value. An old key keeps its place and its form. -/
def put (key value : Value) : List (Value × Value) → List (Value × Value)
  | [] => [(key, value)]
  | (k, v) :: rest => if sameKey k key then (k, value) :: rest else (k, v) :: put key value rest

/-- The value of a text key. -/
def field? (key : String) (entries : List (Value × Value)) : Option Value :=
  (entries.find? fun (k, _) => sameKey k (.text key)).map (·.2)

mutual

/-- A value as it stands inside another one: texts are quoted, and what is around it is no more
than dots. -/
def inner : Value → String
  | .null => "None"
  | .bool b => if b then "True" else "False"
  | .int n => toString n
  | .double x => x.text
  | .text s => quotedText s
  | .bytes content => String.ofList (Quoted.encodeBytes content)
  | .date d => d.quoted
  | .moment t => t.quoted
  | .list items => "[" ++ innerList items ++ "]"
  | .pair first second => "(" ++ inner first ++ ", " ++ inner second ++ ")"
  | .set [] => "set()"
  | .set items => "\x7b" ++ innerList items ++ "\x7d"
  | .map entries => "\x7b" ++ innerEntries entries ++ "\x7d"
  | .enclosing isMap => if isMap then "\x7b...\x7d" else "[...]"

def innerList : List Value → String
  | [] => ""
  | [v] => inner v
  | v :: rest => inner v ++ ", " ++ innerList rest

def innerEntries : List (Value × Value) → String
  | [] => ""
  | [(k, v)] => inner k ++ ": " ++ inner v
  | (k, v) :: rest => inner k ++ ": " ++ inner v ++ ", " ++ innerEntries rest

end

/-- A value on its own: a text as it is, dates and times in their plain form. -/
def shown : Value → String
  | .text s => s
  | .date d => d.text
  | .moment t => t.text
  | v => inner v

mutual

/-- Whether every whole number in a value can be written out. -/
def isWritable : Value → Bool
  | .int n => n.natAbs < Nat.pow 10 longestNumeral
  | .list items => areWritable items
  | .pair first second => isWritable first && isWritable second
  | .set items => areWritable items
  | .map entries => entriesAreWritable entries
  | _ => true

def areWritable : List Value → Bool
  | [] => true
  | v :: rest => isWritable v && areWritable rest

def entriesAreWritable : List (Value × Value) → Bool
  | [] => true
  | (k, v) :: rest => isWritable k && isWritable v && entriesAreWritable rest

end

/-- Nothing, zero and what is empty count as absent. -/
def isAbsent : Value → Bool
  | .null => true
  | .bool b => !b
  | .int n => n == 0
  | .double x => Double.sameInt 0 x
  | .text s => s.isEmpty
  | .bytes content => content.isEmpty
  | .list items => items.isEmpty
  | .set items => items.isEmpty
  | .map entries => entries.isEmpty
  | .date _ => false
  | .moment _ => false
  | .pair .. => false
  | .enclosing _ => false

end Value

end CmsMarkup
