import Tilework.Artifact.Record
import Tilework.Device.Target
import Tilework.Lowering.Narrow

/-!
# Cores that hold a tensor

The cores of a tensor are placed one by one on the worker grid, and then gathered
into rectangles.  They are put in order first.  Neighbouring cores of a row form a
run, and a run is added to the rectangle that ends just above it and spans the same
columns, if there is one.
-/

namespace Tilework

open Artifact

/-- A position on a chip. -/
structure Core where
  row : Nat
  column : Nat
  deriving DecidableEq

/-- The cores of one row from column `left` up to, but without, column `right`. -/
structure Run where
  row : Nat
  left : Nat
  right : Nat
  deriving DecidableEq

/-- The cores from row `top` up to, but without, row `bottom`, and from column
`left` up to, but without, column `right`. -/
structure Rectangle where
  top : Nat
  bottom : Nat
  left : Nat
  right : Nat
  deriving DecidableEq

namespace Core

/-- A core comes before those further right in its row, and those in lower rows. -/
def Precedes (core other : Core) : Prop :=
  core.row < other.row ∨ core.row = other.row ∧ core.column < other.column

instance : DecidableRel Precedes := fun _ _ => inferInstanceAs (Decidable (_ ∨ _))

/-- Put a core into its place among cores in order, unless it is there already. -/
def insert (core : Core) : List Core → List Core
  | [] => [core]
  | other :: later =>
      if core.Precedes other then core :: other :: later
      else if core = other then other :: later
      else other :: insert core later

/-- Cores row by row and from left to right, each of them once. -/
def inOrder (cores : List Core) : List Core :=
  cores.foldr insert []

/-- Add a core to a list of runs, which is held newest first. -/
def addToRuns (runs : List Run) (core : Core) : List Run :=
  match runs with
  | [] => [⟨core.row, core.column, core.column + 1⟩]
  | run :: older =>
      if run.row = core.row ∧ run.right = core.column then
        { run with right := core.column + 1 } :: older
      else ⟨core.row, core.column, core.column + 1⟩ :: run :: older

/-- The runs of cores, from top to bottom and from left to right. -/
def runs (cores : List Core) : List Run :=
  ((inOrder cores).foldl addToRuns []).reverse

end Core

namespace Run

/-- Add a run to the first rectangle that it continues, or as a rectangle of its
own at the end. -/
def addToRectangles (run : Run) : List Rectangle → List Rectangle
  | [] => [⟨run.row, run.row + 1, run.left, run.right⟩]
  | rectangle :: later =>
      if rectangle.bottom = run.row ∧ rectangle.left = run.left ∧
          rectangle.right = run.right then
        { rectangle with bottom := run.row + 1 } :: later
      else rectangle :: addToRectangles run later

/-- The rectangles that runs, listed from top to bottom, make up. -/
def rectangles (runs : List Run) : List Rectangle :=
  runs.foldl (fun rectangles run => run.addToRectangles rectangles) []

end Run

/-- A rectangle as it is stored. -/
def Rectangle.record (rectangle : Rectangle) : Except LoweringError CoreRange := do
  let y ← Number.toInt32 "core row" rectangle.top
  let x ← Number.toInt32 "core column" rectangle.left
  let rows ← Number.toInt32 "core rows" (rectangle.bottom - rectangle.top : Nat)
  let columns ← Number.toInt32 "core columns" (rectangle.right - rectangle.left : Nat)
  pure { origin := some { y, x }, size := some { y := rows, x := columns } }

namespace CoreGrid

/-- The cores of a grid on a chip, row by row and from left to right.

Positions are natural numbers.  They are the positions on a chip as long as the numbers right
after the last row and after the last column fit 32 bits.  A chip counts rows and columns in
32-bit words, and beyond that bound its sums overflow. -/
def cores (grid : CoreGrid) (workers : WorkerGrid) : List Core :=
  (List.range grid.rows.toNat).flatMap fun row =>
    (List.range grid.columns.toNat).map fun column =>
      ⟨workers.originY.toNat + row, workers.originX.toNat + column⟩

/-- The rectangles of cores that a grid occupies. -/
def coreRanges (grid : CoreGrid) (workers : WorkerGrid) :
    Except LoweringError (List CoreRange) :=
  if workers.rows < grid.rows ∨ workers.columns < grid.columns then
    .error (.gridOutOfBounds grid.rows grid.columns workers.rows workers.columns)
  else (Run.rectangles (Core.runs (grid.cores workers))).mapM Rectangle.record

end CoreGrid

end Tilework
