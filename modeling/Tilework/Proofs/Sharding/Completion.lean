import Mathlib.Algebra.Group.Nat.Defs
import Mathlib.Algebra.Ring.Int.Defs
import Tilework.Proofs.Sharding.Assignment

/-!
# Completed shardings

What a sharding says once it is complete follows from what was read: the mesh is the one
read unless that is a mere count, and every axis that is split, and no other, has a mesh
dimension of the axis's own size.
-/

namespace Tilework.Sharding

/-! ## Settled fields -/

/-- The shard shape without the entry that counts replicas, if there is one. -/
def tensorShards (sharding : Sharding) : List Int64 :=
  if sharding.lastTileReplicates then sharding.shardShape.dropLast else sharding.shardShape

/-- The mesh of a number of devices: the one read, unless that is a mere count. -/
def settledMesh (sharding : Sharding) (total : Int64) : List Int64 :=
  if sharding.meshShape.length = 1 then
    if total ∈ sharding.shardShape then [1, total] else sharding.shardShape.filter (· != 1)
  else sharding.meshShape

/-- A sharding whose mesh has been settled for a number of devices, and whose axes have
not been assigned yet. -/
def settled (sharding : Sharding) (total : Int64) : Sharding :=
  { sharding with
    shardShape := sharding.tensorShards
    meshShape := sharding.settledMesh total
    isLine := sharding.shardShape.contains total }

variable {sharding completed : Sharding}

/-- Completion settles the mesh once the devices can be counted, and assigns the axes once
the mesh has two dimensions. -/
theorem complete_eq (sharding : Sharding) :
    sharding.complete =
      match Number.product? sharding.meshShape with
      | none =>
          ({ sharding with shardShape := sharding.tensorShards },
            .error (.meshTooLarge sharding.meshShape))
      | some total =>
          if (sharding.settledMesh total).length = 2 then
            match (sharding.settled total).assignEither (sharding.meshShape.length != 1) with
            | .ok dims => ({ sharding.settled total with shardDims := dims }, .ok ())
            | .error error => (sharding.settled total, .error error)
          else
            ({ sharding with
                shardShape := sharding.tensorShards
                meshShape := sharding.settledMesh total },
              .error (.unsupportedMeshRank (sharding.settledMesh total))) := by
  have shards : (if sharding.lastTileReplicates then
        { sharding with shardShape := sharding.shardShape.dropLast } else sharding) =
      { sharding with shardShape := sharding.tensorShards } := by
    rw [tensorShards]
    split <;> rfl
  simp only [complete, shards]
  cases Number.product? sharding.meshShape with
  | none => rfl
  | some total =>
      have mesh : (if sharding.meshShape.length != 1 then
            { sharding with shardShape := sharding.tensorShards }
          else
            { sharding with
              shardShape := sharding.tensorShards
              meshShape :=
                if sharding.shardShape.contains total then [1, total]
                else sharding.shardShape.filter (· != 1) }) =
          { sharding with
            shardShape := sharding.tensorShards
            meshShape := sharding.settledMesh total } := by
        by_cases count : sharding.meshShape.length = 1
        · simp [settledMesh, count]
        · simp [settledMesh, count]
      simp only [mesh]
      rfl

/-- Completion succeeds when the devices can be counted, the settled mesh has two
dimensions and the split axes can be assigned to them. -/
theorem complete_eq_ok_iff :
    sharding.complete = (completed, .ok ()) ↔
      ∃ total dims, Number.product? sharding.meshShape = some total ∧
        (sharding.settledMesh total).length = 2 ∧
        (sharding.settled total).assignEither (sharding.meshShape.length != 1) = .ok dims ∧
        completed = { sharding.settled total with shardDims := dims } := by
  rw [complete_eq]
  cases Number.product? sharding.meshShape with
  | none => simp
  | some total =>
      simp only [Option.some.injEq, exists_and_left, exists_eq_left']
      by_cases rank : (sharding.settledMesh total).length = 2
      · cases (sharding.settled total).assignEither (sharding.meshShape.length != 1) with
        | ok dims => simp [rank, eq_comm]
        | error error => simp [rank]
      · simp [rank]

/-! ## Completed shardings -/

/-- What is true of a sharding `completed` from the sharding `read`: the mesh has two
dimensions, and the split axes, and no others, have one dimension each, of their size. -/
structure Completes (read completed : Sharding) : Prop where
  meshRank : completed.meshShape.length = 2
  dimsRank : completed.shardDims.length = 2
  shards : completed.shardShape =
    if completed.lastTileReplicates then read.shardShape.dropLast else read.shardShape
  replicas : completed.lastTileReplicates = read.lastTileReplicates
  entry : ∀ entry ∈ completed.shardDims, entry = -1 ∨
    ∃ axis : Nat, entry.toInt = axis ∧ axis < completed.shardShape.length
  count : ∀ (axis : Nat) size, completed.shardShape[axis]? = some size →
    (completed.shardDims.map Int64.toInt).count (axis : Int) = if size = 1 then 0 else 1
  size : ∀ (dimension axis : Nat) entry, completed.shardDims[dimension]? = some entry →
    entry.toInt = axis → ∃ size, completed.shardShape[axis]? = some size ∧
      completed.meshShape[dimension]? = some size

theorem toInt_storedAxis_none : (storedAxis none).toInt = -1 := rfl

theorem toInt_storedAxis_some {axis : Nat} (small : axis < 2 ^ 63) :
    (storedAxis (some axis)).toInt = axis :=
  Int64.toInt_ofNat_of_lt small

variable {mesh sizes : List Int64} {dims : List (Option Nat)}

/-- A stored axis is read back as it was given. -/
theorem Matches.toInt_storedAxis_eq_iff (matched : Matches mesh sizes dims)
    (short : sizes.length < 2 ^ 63) {dim : Option Nat} (given : dim ∈ dims) {axis : Nat} :
    (storedAxis dim).toInt = axis ↔ dim = some axis := by
  cases dim with
  | none =>
      rw [toInt_storedAxis_none]
      simp only [reduceCtorEq]
  | some other =>
      have inside := matched.axis_lt given
      rw [toInt_storedAxis_some (by omega), Int.natCast_inj, Option.some.injEq]

/-- The stored assignment counts every axis as often as it was given a dimension. -/
theorem Matches.count_storedAxis (matched : Matches mesh sizes dims)
    (short : sizes.length < 2 ^ 63) (axis : Nat) :
    ((dims.map storedAxis).map Int64.toInt).count (axis : Int) = dims.count (some axis) := by
  rw [List.map_map, List.count, List.countP_map, List.count]
  apply List.countP_congr
  intro dim given
  simp only [Function.comp_apply, beq_iff_eq]
  exact matched.toInt_storedAxis_eq_iff short given

theorem completes_of_complete (completes : sharding.complete = (completed, .ok ()))
    (short : sharding.shardShape.length < 2 ^ 63) : Completes sharding completed := by
  obtain ⟨total, stored, -, rank, assigned, rfl⟩ := complete_eq_ok_iff.mp completes
  obtain ⟨dims, rfl, matched⟩ := matches_of_assignEither assigned
  have shorter : sharding.tensorShards.length < 2 ^ 63 := by
    have dropped : sharding.shardShape.dropLast.length = sharding.shardShape.length - 1 :=
      List.length_dropLast
    rw [tensorShards]
    split <;> omega
  constructor
  case meshRank => exact rank
  case dimsRank => exact List.length_map _ |>.trans (matched.length.trans rank)
  case shards => rfl
  case replicas => rfl
  case entry =>
    intro entry member
    obtain ⟨dim, given, rfl⟩ := List.mem_map.mp member
    cases dim with
    | none => exact Or.inl rfl
    | some axis =>
        have inside := matched.axis_lt given
        exact Or.inr ⟨axis, (matched.toInt_storedAxis_eq_iff shorter given).mpr rfl, inside⟩
  case count =>
    intro axis size found
    rw [matched.count_storedAxis shorter axis]
    exact matched.count axis size found
  case size =>
    intro dimension axis entry found same
    rw [List.getElem?_map, Option.map_eq_some_iff] at found
    obtain ⟨dim, given, rfl⟩ := found
    have member := List.mem_of_getElem? given
    obtain rfl := (matched.toInt_storedAxis_eq_iff shorter member).mp same
    have inside := matched.axis_lt member
    have sizes_eq := matched.size dimension axis given
    rw [List.getElem?_eq_getElem inside] at sizes_eq
    exact ⟨_, List.getElem?_eq_getElem inside, sizes_eq.symm⟩

end Tilework.Sharding
