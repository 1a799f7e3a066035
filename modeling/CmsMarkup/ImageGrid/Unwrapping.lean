import CmsMarkup.ImageGrid
import CmsMarkup.Rule.Single

/-! Grids taken out of the paragraphs of a page in place. All paragraphs are listed before
anything changes. In its turn a paragraph gives up its first grid, and what stands behind the
grid goes into a new paragraph, which is looked at next. An element keeps its number, in the
page or out of it. -/

namespace CmsMarkup

open Html

inductive UnwrapError where
  | noSuchElement
  | nothingToReplace
  | nothingToFollow
  deriving DecidableEq, Repr

/-- A page with numbered elements, the paragraphs that were taken out of it, and the first
number that no element has. -/
structure Unwrapping where
  nodes : List Node
  removed : List Node
  next : Nat

namespace Unwrapping

def ofNodes (nodes : List Node) : Unwrapping :=
  let (nodes, next) := Node.numberedFrom 0 nodes
  ⟨nodes, [], next⟩

mutual

/-- Puts the nodes `f n` in the place of the element `n` with this number. -/
def spliceNode (number : Nat) (f : Node → List Node) : Node → List Node
  | .text kind s => [.text kind s]
  | .element n name attributes children =>
    if n == some number then f (.element n name attributes children)
    else [.element n name attributes (spliceNodes number f children)]

def spliceNodes (number : Nat) (f : Node → List Node) : List Node → List Node
  | [] => []
  | n :: rest => spliceNode number f n ++ spliceNodes number f rest

end

def splice (number : Nat) (f : Node → List Node) (u : Unwrapping) : Unwrapping :=
  { u with nodes := spliceNodes number f u.nodes, removed := spliceNodes number f u.removed }

/-- An element that was taken out has nothing around it, unless it went with another one. -/
def isDetached (number : Nat) (u : Unwrapping) : Bool :=
  (Collected.find? number u.nodes).isNone && u.removed.any (·.number? == some number)

def isBlank (nodes : List Node) : Bool := nodes.all Node.isBlankText

/-- The nodes before the first grid, the grid, and the nodes behind it. -/
def firstGrid? : List Node → Option (List Node × Node × List Node)
  | [] => none
  | n :: rest =>
    if ImageGrid.isGrid n then some ([], n, rest)
    else (firstGrid? rest).map fun (leading, grid, trailing) => (n :: leading, grid, trailing)

/-- Moves a grid from inside an element to behind it, or into its place when nothing but blanks
leads up to the grid. What trails the grid goes into a new paragraph unless it is blank; the
number of that paragraph comes first in the result. Outside a tree there is no place to move to. -/
def split (number : Nat) (element : List Node → Node) (leading : List Node) (grid : Node)
    (trailing : List Node) (u : Unwrapping) : Except UnwrapError (Option Nat × Unwrapping) :=
  let tail := if isBlank trailing then none else some u.next
  let behind := tail.toList.map fun k => Node.element (some k) "p" [] trailing
  let numbered := { u with next := u.next + 1 }
  if isBlank leading then
    if u.isDetached number then .error .nothingToReplace
    else
      let spliced := numbered.splice number fun _ => grid :: behind
      .ok (tail, { spliced with removed := spliced.removed ++ [element leading] })
  else if u.isDetached number then .error .nothingToFollow
  else .ok (tail, numbered.splice number fun _ => element leading :: grid :: behind)

/-- Splits a paragraph at its first grid, then the new paragraph behind that grid, and so on
until one has no grid or there is no new one. -/
def unwrapFrom (current : Option Nat) (u : Unwrapping) : ExceptT UnwrapError Option Unwrapping :=
  match current with
  | none => pure u
  | some number =>
    match Collected.find? number (u.nodes ++ u.removed) with
    | some (.element n name attributes children) =>
      match firstGrid? children with
      | none => pure u
      | some (leading, grid, trailing) =>
        match u.split number (.element n name attributes) leading grid trailing with
        | .error e => throw e
        | .ok (tail, v) => v |>.unwrapFrom tail
    | _ => throw .noSuchElement
partial_fixpoint

def paragraphs (nodes : List Node) : List Nat :=
  ((Node.elementsOf nodes).filter (·.hasName "p")).filterMap Node.number?

/-- The paragraphs that stand in the page now, one after the other. -/
def unwrap (u : Unwrapping) : ExceptT UnwrapError Option Unwrapping :=
  (paragraphs u.nodes).foldlM (fun u number => unwrapFrom (some number) u) u

end Unwrapping

end CmsMarkup
