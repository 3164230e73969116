import Tilework.Lowering.Descriptor
import Tilework.Lowering.Encoding

/-!
# Linking

Linking replaces the references of a record by handles.  Tensors and devices are
interned by the value that they belong to.  A result that is written into
another tensor has no tensor of its own: it becomes an alias of that tensor, and
both have the same handle.

Aliases are chains, since a tensor that is written into may itself be the result
of such an operation.  A chain is followed for at most as many steps as there
are aliases, which is enough for any chain that does not return to itself.
-/

namespace Tilework

open Artifact

/-! ## State -/

/-- The results that are aliases, with the tensors that they are written into,
newest first. -/
abbrev Aliases := List (ValueId × ValueId)

namespace Aliases

/-- Follow a chain of aliases for a number of steps. -/
def follow (aliases : Aliases) : Nat → ValueId → ValueId
  | 0, value => value
  | steps + 1, value =>
      match aliases.lookup value with
      | some output => follow aliases steps output
      | none => value

/-- The value at the end of a chain of aliases, whose tensor a value shares. -/
def resolve (aliases : Aliases) (value : ValueId) : ValueId :=
  aliases.follow aliases.length value

end Aliases

/-- The tables under construction, and the aliases of the function at hand. -/
structure LoweringState where
  interner : Interner := {}
  aliases : Aliases := []

/-- Steps that build the programs of an artifact.  What was built before a
failure stays. -/
abbrev Lowering := ExceptT LoweringError (StateM LoweringState)

namespace Lowering

/-- Steps that do not concern aliases. -/
def interning {α : Type} (action : Interning α) : Lowering α := fun state =>
  let (outcome, interner) := action.run state.interner
  (outcome, { state with interner })

/-! ## Values -/

/-- The value whose tensor or device a value shares. -/
def resolve (value : ValueId) : Lowering ValueId := do
  pure ((← get).aliases.resolve value)

/-- The handle of the record that a value shares in a table, which has to exist. -/
def shared (table : Table) (value : ValueId) : Lowering Handle := do
  let root ← resolve value
  interning (Interning.lookup table (.value root))

/-- The handle of a record of its own in a table, for a value of a type that is asked for. -/
def own {τ : Type} (table : Table) (value : ValueId) (asked : Except ModuleError τ)
    (record : τ → Interning table.Record) : Lowering Handle := do
  let type ← asked.mapError LoweringError.program
  interning (Interning.intern table (.value value) (record type))

/-- The handle of the tensor of a value, which has to exist. -/
def tensor (value : ValueId) : Lowering Handle :=
  shared .tensors value

/-- The handle of the device of a value, which has to exist. -/
def device (value : ValueId) : Lowering Handle :=
  shared .devices value

/-- The handle of a tensor that the runtime allocates, at no fixed address. -/
def allocate (m : Module) (value : ValueId) : Lowering Handle :=
  own .tensors value (m.tensorType value) fun type => type.record m.target.workers 0 0

/-- The handle of a result that is written into another tensor. -/
def write (output result : ValueId) : Lowering Handle := do
  if result ≠ output then
    modify fun state => { state with aliases := (result, output) :: state.aliases }
  tensor result

/-- The handle of a device that is opened. -/
def openDevice (m : Module) (value : ValueId) : Lowering Handle :=
  own .devices value (m.deviceType value) fun type => liftM type.record

/-- The handle of a memory configuration. -/
def memoryConfig (config : MemoryConfig) : Lowering Handle :=
  interning (Interning.intern .memoryConfigs (.memoryConfig config) config.record)

/-- Forget all aliases. -/
def clearAliases : Lowering Unit :=
  modify fun state => { state with aliases := [] }

end Lowering

/-! ## References -/

/-- The handle that replaces a reference. -/
def Reference.link (m : Module) : Reference → Lowering Handle
  | tensor value => Lowering.tensor value
  | device value => Lowering.device value
  | memoryConfig config => Lowering.memoryConfig config
  | allocated result => Lowering.allocate m result
  | written output result => Lowering.write output result
  | opened result => Lowering.openDevice m result
  | unplaced operation => throw (.missingDestination operation)

/-- The linked record of an operation. -/
def Operation.lower (m : Module) (operation : Operation) :
    Lowering (OperationRecord Handle) := do
  let record ← operation.record m
  record.mapM (Reference.link m)

end Tilework
