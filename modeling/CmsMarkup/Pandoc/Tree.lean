import CmsMarkup.Json

/-! Document trees as Pandoc writes them, read through positions and members. -/

namespace CmsMarkup.Pandoc

/-- What is wrong with a tree that does not have the expected form. -/
inductive TreeFault where
  /-- Neither a sequence to walk nor one to take an item of, or no text. -/
  | wrongType
  | notObject
  | notList
  | noMember
  | tooShort
  /-- A sequence of this many items where a pair should stand. -/
  | notPair (count : Nat)
  deriving DecidableEq, Repr

/-- The message of a fault, for those that have one. -/
def TreeFault.message? : TreeFault → Option String
  | .notPair count =>
    some (if count < 2 then "not enough values to unpack (expected 2, got " ++ toString count ++ ")"
      else "too many values to unpack (expected 2)")
  | _ => none

/-- The item at a position; those of a text are its characters. -/
def itemAt (i : Nat) : Json → Except TreeFault Json
  | .array items =>
    match items[i]? with
    | some v => .ok v
    | none => .error .tooShort
  | .string s =>
    match s.at? i with
    | some c => .ok (.string c)
    | none => .error .tooShort
  | .object _ => .error .noMember
  | _ => .error .wrongType

def memberOf (key : CodeText) (members : List (CodeText × Json)) : Except TreeFault Json :=
  match members.lookup key with
  | some v => .ok v
  | none => .error .noMember

/-- The kind of a block or an inline element, if it is a text of characters; no other text is
one of the kinds. -/
def kindOf? (members : List (CodeText × Json)) : Option String :=
  match members.lookup (.text "t") with
  | some (.string (.text kind)) => some kind
  | _ => none

end CmsMarkup.Pandoc
