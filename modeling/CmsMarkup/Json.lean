import CmsMarkup.Text.CodeText

/-! JSON values, object members in their own order. Their strings are texts of code points. -/

namespace CmsMarkup

inductive Json where
  | null
  | bool (b : Bool)
  | int (n : Int)
  /-- A number with a fraction, an exponent or no finite value, by its text. -/
  | real (text : String)
  | string (s : CodeText)
  | array (items : List Json)
  | object (members : List (CodeText × Json))
  deriving Repr

namespace Json

/-- The member of an object; other values have none. -/
def get? (key : CodeText) : Json → Option Json
  | .object members => members.lookup key
  | _ => none

/-- Gives a key its value, in its old place if it has one and else at the end. -/
def put (key : CodeText) (value : Json) : List (CodeText × Json) → List (CodeText × Json)
  | [] => [(key, value)]
  | (k, v) :: rest => if k == key then (k, value) :: rest else (k, v) :: put key value rest

end Json

end CmsMarkup
