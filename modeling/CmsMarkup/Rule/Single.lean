import CmsMarkup.Rule

/-! Single rules on collected elements, in any order. The elements of a tree are numbered
once; an element keeps its number through every change, in the tree or out of it. -/

namespace CmsMarkup

open Html

def Html.Node.number? : Node → Option Nat
  | .text .. => none
  | .element number .. => number

namespace Rule

/-- What a rule changes in an element itself. -/
def revise (kind : RuleKind) : Node → Node
  | .text k s => .text k s
  | .element number name attributes children =>
    match kind with
    | .table => .element number name (Attribute.set "class" Convention.tableClass attributes) children
    | .image => .element number name attributes children
    | _ => result number name attributes children children kind

/-- What takes the place of an element, and whether the element goes on inside it. -/
structure Replacement where
  of : Node → Node
  keepsElement : Bool

def replacement? : RuleKind → Option Replacement
  | .table => some ⟨wrapTable, true⟩
  | .image =>
    some ⟨fun
      | .text .. => grid ""
      | .element _ _ attributes _ => grid ((Attribute.find? "alt" attributes).getD ""), false⟩
  | _ => none

end Rule

inductive SingleRuleError where
  | noSuchElement
  | notInTree
  deriving DecidableEq, Repr

def SingleRuleError.message : SingleRuleError → String
  | .noSuchElement => "list index out of range"
  | .notInTree =>
    "Cannot replace one element with another when the element to be replaced is not part of a tree."

/-- A tree with numbered elements, the elements that were taken out of it, and how many there
were when they were collected. -/
structure Collected where
  nodes : List Node
  removed : List Node
  count : Nat

namespace Collected

def ofNodes (nodes : List Node) : Collected :=
  let (nodes, count) := Node.numberedFrom 0 nodes
  ⟨nodes, [], count⟩

/-- Positions below zero count from the end. -/
def number? (c : Collected) (position : Int) : Option Nat :=
  let p := if position < 0 then position + c.count else position
  if 0 ≤ p && p < c.count then some p.toNat else none

def find? (number : Nat) (nodes : List Node) : Option Node :=
  (Node.elementsOf nodes).find? (·.number? == some number)

mutual

/-- Puts `f n` in the place of the element `n` with this number. -/
def replaceNode (number : Nat) (f : Node → Node) : Node → Node
  | .text kind s => .text kind s
  | .element n name attributes children =>
    if n == some number then f (.element n name attributes children)
    else .element n name attributes (replaceNodes number f children)

def replaceNodes (number : Nat) (f : Node → Node) : List Node → List Node
  | [] => []
  | n :: rest => replaceNode number f n :: replaceNodes number f rest

end

def element? (number : Nat) (c : Collected) : Option Node := find? number (c.nodes ++ c.removed)

def change (number : Nat) (f : Node → Node) (c : Collected) : Collected :=
  { c with nodes := replaceNodes number f c.nodes, removed := replaceNodes number f c.removed }

/-- Applies the rule of an element, if it falls under one. The rule first changes the element
itself; only then does something take its place, and this fails outside the tree. -/
def call (number : Nat) (c : Collected) : Except SingleRuleError (Option RuleKind) × Collected :=
  match c.element? number with
  | none => (.error .noSuchElement, c)
  | some element =>
    match RuleKind.of? element with
    | none => (.ok none, c)
    | some kind =>
      match Rule.replacement? kind with
      | none => (.ok (some kind), c.change number (Rule.revise kind))
      | some replacement =>
        if c.removed.any (·.number? == some number) then
          (.error .notInTree, c.change number (Rule.revise kind))
        else
          let changed := c.change number fun n => replacement.of (Rule.revise kind n)
          (.ok (some kind),
            if replacement.keepsElement then changed
            else { changed with removed := changed.removed ++ [Rule.revise kind element] })

/-- Applies the rule of the element at a position. -/
def apply (c : Collected) (position : Int) : Except SingleRuleError (Option RuleKind × Collected) :=
  match c.number? position with
  | none => .error .noSuchElement
  | some number =>
    match c.call number with
    | (.ok kind, c) => .ok (kind, c)
    | (.error e, _) => .error e

end Collected

end CmsMarkup
