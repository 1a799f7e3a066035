import CmsMarkup.CodeFence
import CmsMarkup.ImageGrid
import CmsMarkup.Rule

/-! The passes over a lowered tree, in their order: grids exist only after the rules. -/

namespace CmsMarkup

open Html

def postprocess (nodes : List Node) : List Node × List LogRecord :=
  let (nodes, logs) := fixup (CodeFence.normalizeNodes nodes)
  (ImageGrid.lift nodes, logs)

end CmsMarkup
