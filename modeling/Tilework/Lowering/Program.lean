import Tilework.Artifact.Frame
import Tilework.Lowering.Linking
import Tilework.Lowering.Options
import Tilework.Module.Printer

/-!
# Programs and artifacts

Every function of a module becomes one program, in the order of the module, and
all programs share the tables of records.  The finished artifact is framed and
verified, so an artifact that a runtime would reject is never returned.
-/

namespace Tilework

open Artifact

/-! ## Functions -/

/-- Lower an instruction, and keep its text and its location. -/
def Instruction.lower (m : Module) (instruction : Instruction) : Lowering OperationEntry := do
  let record ← instruction.operation.lower m
  pure
    { record := some record
      debugText := m.instructionText instruction
      locationText := instruction.location.text }

/-- Lower an argument.  A tensor becomes an input of the program; a device does
not. -/
def Module.lowerArgument (m : Module) (argument : ValueId) : Lowering (Option Handle) := do
  match ← (m.valueType argument).mapError LoweringError.program with
  | .device _ =>
      let _ ← Lowering.openDevice m argument
      pure none
  | .tensor _ => some <$> Lowering.allocate m argument

/-- Lower a function whose debug information has the given handle. -/
def Function.lower (m : Module) (function : Function) (debugInfo : Handle) :
    Lowering Program := do
  Lowering.clearAliases
  let arguments ← function.arguments.mapM m.lowerArgument
  let operations ← function.body.mapM (Instruction.lower m)
  let outputs ← function.returns.mapM Lowering.tensor
  pure
    { name := function.name
      inputs := arguments.reduceOption
      outputs, operations, debugInfo }

/-! ## Modules -/

namespace Module

/-- Lower all functions of a module.  Their debug information is shared. -/
def lowerFunctions (m : Module) (options : LoweringOptions) : Lowering (List Program) := do
  let debugInfo ← Lowering.interning (Interning.intern .debugInfos .debugInfo
    (pure (options.debugRecord m.text)))
  m.functions.mapM fun function => function.lower m debugInfo

/-- The artifact of a module. -/
def binary (m : Module) (options : LoweringOptions) : Except LoweringError Binary := do
  let (outcome, state) := (m.lowerFunctions options).run {}
  let programs ← outcome
  let system ← m.system.record
  pure
    { version := some options.version
      buildIdentity := options.buildIdentity
      system := some system
      objects := some state.interner.objects
      programs }

/-- The framed artifact of a module, which has passed verification. -/
def lower (m : Module) (options : LoweringOptions) : Except LoweringError Bytes := do
  let binary ← m.binary options
  let buffer ← binary.toFrame.mapError .verification
  let _ ← (Binary.ofFrame buffer).mapError LoweringError.verification
  pure buffer

end Module

end Tilework
