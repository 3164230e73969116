import Tilework.Sharding.Basic

/-!
# Assigning tensor axes to mesh dimensions

A device sharding is complete once its mesh has two dimensions and every split
axis has been given one of them.  A mesh written as a mere count is rebuilt from
the shard shape: if the count is itself an entry of the shape, the devices form
a line, and otherwise the entries other than one are the mesh.

Axes of a written mesh are matched from its last dimension to its first.  When
that fails and the mesh is no line, they are matched from the first to the last,
and the first failure is the one reported.
-/

namespace Tilework.Sharding

/-- The order in which mesh dimensions are given away. -/
inductive Direction
  | frontToBack
  | backToFront
  deriving DecidableEq

/-- The mesh dimension that comes after `taken` others, in a mesh of the given
rank. -/
def Direction.dimension? (rank taken : Nat) : Direction → Option Nat
  | .frontToBack => some taken
  | .backToFront => if taken < rank then some (rank - 1 - taken) else none

/-- Give a mesh dimension to every split axis among `sizes`, the first of which
is axis number `axis`.  The count `taken` runs over the dimensions given away so
far. -/
def assignFrom (sharding : Sharding) (direction : Direction) :
    (axis taken : Nat) → (dims : List Int64) → (sizes : List Int64) →
      Except ShardingError (List Int64)
  | _, _, dims, [] => .ok dims
  | axis, taken, dims, size :: sizes =>
      if size = 1 then assignFrom sharding direction (axis + 1) taken dims sizes
      else
        let found := do
          let dimension ← direction.dimension? sharding.meshShape.length taken
          let meshSize ← sharding.meshShape[dimension]?
          pure (dimension, meshSize)
        match found with
        | none => .error (.tooManyShardedAxes sharding.shardShape sharding.meshShape)
        | some (dimension, meshSize) =>
            if size = meshSize then
              assignFrom sharding direction (axis + 1) (taken + 1)
                (dims.set dimension (Int64.ofNat axis)) sizes
            else .error (.shardMeshMismatch axis size dimension meshSize)

/-- Give a mesh dimension to every split axis.  On a line one dimension counts as
taken from the start. -/
def assign (sharding : Sharding) (direction : Direction) :
    Except ShardingError (List Int64) :=
  assignFrom sharding direction 0 (if sharding.isLine then 1 else 0)
    (List.replicate sharding.meshShape.length (-1)) sharding.shardShape

/-- Assign axes to the dimensions of a mesh that was `written` out, or rebuilt
from a count.  Only a written mesh that is no line gets a second attempt. -/
def assignEither (sharding : Sharding) (written : Bool) :
    Except ShardingError (List Int64) :=
  if written then
    match sharding.assign .backToFront with
    | .ok dims => .ok dims
    | .error first =>
        if sharding.isLine then .error first
        else
          match sharding.assign .frontToBack with
          | .ok dims => .ok dims
          | .error _ => .error first
  else sharding.assign .frontToBack

/-- Complete a device sharding.  The result is the sharding as it stands
afterwards, together with the error that stopped the completion, if any: a
failure leaves behind what had been settled before it. -/
def complete (sharding : Sharding) : Sharding × Except ShardingError Unit :=
  let full := sharding.shardShape
  let sharding :=
    if sharding.lastTileReplicates then { sharding with shardShape := full.dropLast }
    else sharding
  match Number.product? sharding.meshShape with
  | none => (sharding, .error (.meshTooLarge sharding.meshShape))
  | some total =>
      let isLine := full.contains total
      let written := sharding.meshShape.length != 1
      let sharding :=
        if written then sharding
        else
          { sharding with
            meshShape := if isLine then [1, total] else full.filter (· != 1) }
      if sharding.meshShape.length = 2 then
        let sharding := { sharding with isLine }
        match sharding.assignEither written with
        | .ok shardDims => ({ sharding with shardDims }, .ok ())
        | .error error => (sharding, .error error)
      else (sharding, .error (.unsupportedMeshRank sharding.meshShape))

end Tilework.Sharding
