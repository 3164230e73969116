import Tilework.Text

/-!
# Target devices

A module is compiled for one device: a grid of worker cores, the chips that it
spans, and the mesh they form.
-/

namespace Tilework

/-- The worker cores of a device.  The core in row `y` and column `x` of the grid
stands in row `originY + y` and column `originX + x` of the chip. -/
structure WorkerGrid where
  rows : UInt32
  columns : UInt32
  originY : UInt32 := 0
  originX : UInt32 := 0
  deriving DecidableEq

/-- The device that a module is compiled for. -/
structure Target where
  workers : WorkerGrid
  chips : List UInt32
  mesh : List Int64
  deriving DecidableEq

namespace Target

/-- The printed form of a target. -/
def text (target : Target) : String :=
  "#device<worker_grid = " ++ toString target.workers.rows ++ "x" ++
    toString target.workers.columns ++ ", origin = " ++ toString target.workers.originY ++
    "x" ++ toString target.workers.originX ++ ", chips = " ++
    Text.bracketed (target.chips.map toString) ++ ", mesh = " ++
    Text.crossed (target.mesh.map toString) ++ ">"

end Target

end Tilework
