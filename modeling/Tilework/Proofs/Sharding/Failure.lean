import Tilework.Proofs.Sharding.Rules

/-!
# Failed completions

A completion that fails has settled some fields of its sharding by then.  The entry that
counts replicas is gone from the shard shape in any case, while the axes of the mesh are
only ever assigned all at once.  What has become of the mesh depends on the step that
failed: counting the devices, giving the mesh two dimensions, or matching the split axes
with them.
-/

namespace Tilework

/-- An axis does not fit the mesh: it has no dimension, or one of another size. -/
inductive ShardingError.IsMisfit (shards mesh : List Int64) : ShardingError → Prop
  | noDimension : IsMisfit shards mesh (.tooManyShardedAxes shards mesh)
  | otherSize (axis : Nat) (size : Int64) (dimension : Nat) (meshSize : Int64) :
      IsMisfit shards mesh (.shardMeshMismatch axis size dimension meshSize)

namespace Sharding

open Number

/-! ## What is left behind -/

/-- The shard shape that is left of a shard shape: its last entry is gone if it counts
replicas. -/
inductive ShardsRemain (read left : Sharding) : Prop
  | cut (counts : read.lastTileReplicates = true) (replicas : Int64)
      (shards : read.shardShape = left.shardShape ++ [replicas])
  | whole (kept : read.lastTileReplicates = false ∨ read.shardShape = [])
      (shards : left.shardShape = read.shardShape)

/-- What is left of the mesh of a sharding after an error, and of the decision whether it is
a line. -/
inductive MeshRemains (read left : Sharding) : ShardingError → Prop
  /-- The devices could not be counted. -/
  | uncounted (mesh : left.meshShape = read.meshShape) (line : left.isLine = read.isLine) :
      MeshRemains read left (.meshTooLarge left.meshShape)
  /-- The mesh does not have two dimensions, not even once a mere count has been replaced by
  the entries of the shard shape other than one. -/
  | unranked
      (mesh : left.meshShape =
        if read.meshShape.length = 1 then read.shardShape.filter (· != 1) else read.meshShape)
      (line : left.isLine = read.isLine) :
      MeshRemains read left (.unsupportedMeshRank left.meshShape)
  /-- An axis did not fit.  Whether the mesh is a line has been decided by then. -/
  | unassigned {error : ShardingError} (misfit : error.IsMisfit left.shardShape left.meshShape)
      (rank : left.meshShape.length = 2)
      (line : left.isLine = true ↔
        (read.meshShape.map Int64.toInt).prod ∈ read.shardShape.map Int64.toInt) :
      MeshRemains read left error

/-- What is left of a sharding when its completion fails with an error. -/
structure Remains (read left : Sharding) (error : ShardingError) : Prop where
  kind : left.kind = read.kind
  replicas : left.lastTileReplicates = read.lastTileReplicates
  dims : left.shardDims = read.shardDims
  shards : ShardsRemain read left
  mesh : MeshRemains read left error

/-! ## Failures -/

section

variable {read left : Sharding} {error : ShardingError} {total : Int64}

theorem FirstMisfit.isMisfit {shards mesh : List Int64} {splits turns : List (Int64 × Nat)}
    (misfit : FirstMisfit (.tooManyShardedAxes shards mesh) splits turns error) :
    error.IsMisfit shards mesh := by
  induction misfit with
  | noTurn => exact .noDimension
  | @otherSize size meshSize _ axis dimension => exact .otherSize axis size dimension meshSize
  | later _ _ _ _ ih => exact ih

/-- Both attempts to assign the axes fail at an axis that does not fit. -/
theorem isMisfit_of_assignEither {sharding : Sharding} {written : Bool}
    (refused : sharding.assignEither written = .error error) :
    error.IsMisfit sharding.shardShape sharding.meshShape := by
  obtain ⟨direction, failed⟩ := exists_assign_of_assignEither refused
  exact (assign_eq_error_iff.mp failed).isMisfit

theorem shardsRemain_tensorShards (shards : left.shardShape = read.tensorShards) :
    ShardsRemain read left := by
  rw [tensorShards] at shards
  by_cases counts : read.lastTileReplicates = true
  · rw [if_pos counts] at shards
    rcases List.eq_nil_or_concat read.shardShape with empty | ⟨front, replicas, split⟩
    · rw [empty] at shards
      exact .whole (Or.inr empty) (shards.trans empty.symm)
    · rw [List.concat_eq_append] at split
      rw [split, List.dropLast_concat] at shards
      exact .cut counts replicas (by rw [split, shards])
  · rw [if_neg counts] at shards
    exact .whole (Or.inl (Bool.eq_false_iff.mpr counts)) shards

/-- The count of the devices is an entry of the shard shape exactly when the number of
devices is. -/
theorem isLine_settled_iff_prod_mem (product : product? read.meshShape = some total) :
    (read.settled total).isLine = true ↔
      (read.meshShape.map Int64.toInt).prod ∈ read.shardShape.map Int64.toInt := by
  rw [isLine_settled_iff, ← toInt_of_product?_eq_some product, List.mem_map]
  constructor
  · intro member
    exact ⟨total, member, rfl⟩
  · rintro ⟨entry, member, same⟩
    rwa [← Int64.toInt_inj.mp same]

/-- A mesh without two dimensions is no line made of a count. -/
theorem settledMesh_of_rank (rank : (read.settledMesh total).length ≠ 2) :
    read.settledMesh total =
      if read.meshShape.length = 1 then read.shardShape.filter (· != 1) else read.meshShape := by
  rw [settledMesh] at rank ⊢
  by_cases line : total ∈ read.shardShape
  · rw [if_pos line] at rank ⊢
    by_cases count : read.meshShape.length = 1
    · rw [if_pos count] at rank
      exact absurd rfl rank
    · rw [if_neg count, if_neg count]
  · rw [if_neg line]

/-- A completion that fails removes the entry that counts replicas, assigns no axis, and
settles the mesh as far as it gets. -/
theorem remains_of_complete (fails : read.complete = (left, .error error)) :
    Remains read left error := by
  rw [complete_eq] at fails
  cases product : product? read.meshShape with
  | none =>
      rw [product] at fails
      cases fails
      exact ⟨rfl, rfl, rfl, shardsRemain_tensorShards rfl, .uncounted rfl rfl⟩
  | some total =>
      simp only [product] at fails
      by_cases rank : (read.settledMesh total).length = 2
      · rw [if_pos rank] at fails
        split at fails
        · cases fails
        · rename_i found refused
          cases fails
          exact ⟨rfl, rfl, rfl, shardsRemain_tensorShards rfl,
            .unassigned (isMisfit_of_assignEither refused) rank
              (isLine_settled_iff_prod_mem product)⟩
      · rw [if_neg rank] at fails
        cases fails
        exact ⟨rfl, rfl, rfl, shardsRemain_tensorShards rfl,
          .unranked (settledMesh_of_rank rank) rfl⟩

end

/-- A sharding whose first axis fits neither dimension of its mesh, so that both attempts
to assign the axes fail. -/
def splitInThree : Sharding where
  kind := .devices
  shardShape := [3, 1, 4, 2]
  meshShape := [2, 4]
  shardDims := [7]
  lastTileReplicates := true
  isLine := true

theorem remains_splitInThree :
    Remains splitInThree { splitInThree with shardShape := [3, 1, 4], isLine := false }
      (.shardMeshMismatch 0 3 1 4) :=
  remains_of_complete (by decide)

end Sharding

end Tilework
