import Tilework.Lowering.Golden

/-!
# Options of lowering

The options fix what an artifact says about its origin, and the debug
information that is stored with it.  Golden tensors are kept in the order of
their names, one for each name.
-/

namespace Tilework

open Artifact

/-- What an artifact says about its origin, and its optional debug information. -/
structure LoweringOptions where
  version : Version := { major := 0, minor := 3, patch := 0 }
  buildIdentity : String := "unknown"
  generatedSource : Option String := none
  /-- The golden tensors, in increasing order of their names.  Each of them is held under its own
  name, as `withGolden` puts it there: options that hold a tensor under any other key are not
  represented. -/
  golden : List GoldenTensor := []
  /-- The names of compiler passes, and the module after each of them. -/
  passes : List (String × String) := []

namespace LoweringOptions

/-- Put a golden tensor in its place among others, instead of one of the same
name. -/
def insertGolden (tensor : GoldenTensor) : List GoldenTensor → List GoldenTensor
  | [] => [tensor]
  | other :: later =>
      if tensor.name = other.name then tensor :: later
      else if tensor.name < other.name then tensor :: other :: later
      else other :: insertGolden tensor later

/-- Add a golden tensor, instead of one of the same name. -/
def withGolden (options : LoweringOptions) (tensor : GoldenTensor) : LoweringOptions :=
  { options with golden := insertGolden tensor options.golden }

/-- Add the module after a compiler pass. -/
def withPass (options : LoweringOptions) (pass source : String) : LoweringOptions :=
  { options with passes := options.passes ++ [(pass, source)] }

/-- The debug information for a module with the given text. -/
def debugRecord (options : LoweringOptions) (source : String) : DebugRecord where
  snapshot := some { name := "ttnn", source }
  generatedSource := options.generatedSource.getD ""
  passes := options.passes.map fun (name, source) => { name, source }
  golden := some
    { entries := options.golden.map fun tensor =>
        { key := tensor.name, value := some tensor.record } }

end LoweringOptions

end Tilework
