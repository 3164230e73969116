import Tilework.Lowering.Program
import Tilework.Proofs.Artifact.Slots

/-!
# Properties of lowering

Lowering is made of a few kinds of single steps, one after another.  A property that
holds of each of them, and that a sequence of steps has when all of its steps do, holds
of the lowering of a whole module.
-/

namespace Tilework

open Artifact

namespace Lowering

/-- A property of steps that the single steps of lowering have, and that sequences of
steps have when their steps do. -/
structure Closed (m : Module) (property : {α : Type} → Lowering α → Prop) : Prop where
  pure : ∀ {α : Type} (value : α), property (pure value)
  bind : ∀ {α β : Type} {first : Lowering α} {next : α → Lowering β}, property first →
    (∀ value, property (next value)) → property (first >>= next)
  resolve : ∀ value, property (resolve value)
  lookup : ∀ table key, property (interning (Interning.lookup table key))
  modify : ∀ f : Aliases → Aliases,
    property (modify fun state => { state with aliases := f state.aliases } : Lowering PUnit)
  /-- Only a value that the module knows is worked with. -/
  program : ∀ {α β : Type} {outcome : Except ModuleError α} {next : α → Lowering β},
    (∀ value, outcome = .ok value → property (next value)) →
      property (liftM (outcome.mapError LoweringError.program) >>= next)
  internTensor : ∀ {value type}, m.tensorType value = .ok type →
    property (interning
      (Interning.intern .tensors (.value value) (type.record m.target.workers 0 0)))
  internDevice : ∀ {value type}, m.deviceType value = .ok type →
    property (interning (Interning.intern .devices (.value value) (liftM type.record)))
  memoryConfig : ∀ config, property (memoryConfig config)
  unplaced : ∀ name, property (throw (.missingDestination name) : Lowering Handle)
  encode : ∀ operation : Operation, property (liftM (operation.record m) : Lowering _)

namespace Closed

variable {m : Module} {property : {α : Type} → Lowering α → Prop} (closed : Closed m property)

include closed

theorem map {α β : Type} (f : α → β) {action : Lowering α} (holds : property action) :
    property (f <$> action) := by
  rw [← bind_pure_comp]
  exact closed.bind holds fun value => closed.pure (f value)

theorem mapM {α β : Type} {f : α → Lowering β} (each : ∀ value, property (f value))
    (values : List α) : property (values.mapM f) := by
  induction values with
  | nil =>
      rw [List.mapM_nil]
      exact closed.pure []
  | cons value values ih =>
      rw [List.mapM_cons]
      apply closed.bind (each value)
      intro result
      apply closed.bind ih
      intro results
      exact closed.pure (result :: results)

theorem shared (table : Table) (value : ValueId) : property (shared table value) := by
  rw [Lowering.shared]
  exact closed.bind (closed.resolve value) fun root => closed.lookup table (.value root)

theorem allocate (value : ValueId) : property (allocate m value) := by
  rw [Lowering.allocate, own]
  exact closed.program fun type typed => closed.internTensor typed

theorem openDevice (value : ValueId) : property (openDevice m value) := by
  rw [Lowering.openDevice, own]
  exact closed.program fun type typed => closed.internDevice typed

theorem write (output result : ValueId) : property (write output result) := by
  rw [Lowering.write]
  split
  · exact closed.bind (closed.modify ((result, output) :: ·)) fun _ => closed.shared .tensors result
  · exact closed.shared .tensors result

theorem link (reference : Reference) : property (reference.link m) := by
  cases reference with
  | tensor value => exact closed.shared .tensors value
  | device value => exact closed.shared .devices value
  | memoryConfig config => exact closed.memoryConfig config
  | allocated result => exact closed.allocate result
  | written output result => exact closed.write output result
  | opened result => exact closed.openDevice result
  | unplaced name => exact closed.unplaced name

theorem operation (operation : Operation) : property (operation.lower m) := by
  have relates : OperationRecord.Relates (Reference.link m) (Reference.link m)
      fun {α} (steps _ : Lowering α) _ => property steps :=
    ⟨closed.pure, closed.bind, closed.link⟩
  rw [Operation.lower]
  exact closed.bind (closed.encode operation) relates.mapM

theorem instruction (instruction : Instruction) : property (instruction.lower m) := by
  rw [Instruction.lower]
  exact closed.bind (closed.operation instruction.operation) fun record => closed.pure _

theorem argument (argument : ValueId) : property (m.lowerArgument argument) := by
  rw [Module.lowerArgument]
  apply closed.program
  intro type _
  cases type with
  | device type => exact closed.bind (closed.openDevice argument) fun _ => closed.pure none
  | tensor type => exact closed.map some (closed.allocate argument)

theorem function (function : Function) (debugInfo : Handle) :
    property (function.lower m debugInfo) := by
  rw [Function.lower]
  have cleared : property Lowering.clearAliases := closed.modify fun _ => []
  apply closed.bind cleared
  intro _
  apply closed.bind (closed.mapM closed.argument function.arguments)
  intro arguments
  apply closed.bind (closed.mapM closed.instruction function.body)
  intro operations
  apply closed.bind (closed.mapM (closed.shared .tensors) function.returns)
  intro outputs
  exact closed.pure _

/-- The property holds of the lowering of a whole module once it holds of adding the
debug information. -/
theorem lowerFunctions {options : LoweringOptions}
    (debug : property (interning (Interning.intern .debugInfos .debugInfo
      (Pure.pure (options.debugRecord m.text))))) : property (m.lowerFunctions options) := by
  rw [Module.lowerFunctions]
  apply closed.bind debug
  intro debugInfo
  exact closed.mapM (fun function => closed.function function debugInfo) m.functions

end Closed

end Lowering

end Tilework
