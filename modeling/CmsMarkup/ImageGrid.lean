import CmsMarkup.Convention

/-! Image grids out of paragraphs. A grid is a block, so a paragraph with grids among its
children is split around them: what comes first stays in the paragraph, what follows a
grid goes into a new one, and a part with nothing but white space goes away. -/

namespace CmsMarkup.ImageGrid

open Html

def isGrid : Node → Bool
  | .text .. => false
  | .element _ name attributes _ =>
    name == "div" && (Attribute.classes attributes).contains Convention.gridClass

/-- A child of an element, by what it was, with the nodes that take its place. -/
structure Part where
  isGrid : Bool
  isBlank : Bool
  nodes : List Node

def paragraph (number : Option Nat) (attributes : List Attribute) (segment : List Part) :
    List Node :=
  if segment.all (·.isBlank) then []
  else [.element number "p" attributes (segment.flatMap (·.nodes))]

/-- The parts before the first grid, and each grid with the parts up to the next. -/
def splitGrids : List Part → List Part × List (Part × List Part)
  | [] => ([], [])
  | p :: rest =>
    let (segment, grids) := splitGrids rest
    if p.isGrid then ([], (p, segment) :: grids) else (p :: segment, grids)

def splitParagraph (number : Option Nat) (attributes : List Attribute) (parts : List Part) :
    List Node :=
  let (first, grids) := splitGrids parts
  paragraph number attributes first ++
    grids.flatMap fun (grid, segment) => grid.nodes ++ paragraph none [] segment

mutual

/-- The nodes that take the place of a node. -/
def liftNode : Node → List Node
  | .text kind s => [.text kind s]
  | .element number name attributes children =>
    let parts := liftParts children
    if name == "p" && parts.any (·.isGrid) then splitParagraph number attributes parts
    else [.element number name attributes (parts.flatMap (·.nodes))]

def liftParts : List Node → List Part
  | [] => []
  | n :: rest => ⟨isGrid n, n.isBlankText, liftNode n⟩ :: liftParts rest

end

def lift (nodes : List Node) : List Node := nodes.flatMap liftNode

end CmsMarkup.ImageGrid
