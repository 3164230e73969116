import Tilework.Proofs.Number
import Tilework.Proofs.Sharding.Annotation
import Tilework.Proofs.Sharding.Completion

/-!
# What is inferred from an annotation

A device sharding that is accepted assigns every split axis, and has the devices that its
annotation declares.  The one exception is a mere count that is no entry of the shard
shape: the mesh is then made of the entries of the shape, whatever the count was.
-/

namespace Tilework.Sharding

open Number

variable {input : String} {read result completed : Sharding}

/-! ## Assignment -/

/-- Whenever a sharding is completed, its split axes are assigned once each, and whenever
an annotation is accepted as a device sharding, that is how the sharding came about.  The
lengths are those that lists and texts in memory have. -/
theorem completes_of_complete_and_of_parse :
    (∀ read completed : Sharding, read.shardShape.length < 2 ^ 63 →
      read.complete = (completed, .ok ()) → Completes read completed) ∧
    ∀ (input : String) (result : Sharding), input.length < 2 ^ 63 →
      parse input = .ok result → result.kind = .devices →
        ∃ read : Sharding, Completes read result ∧
          ∀ shards devices, Declares input shards devices ↔
            shards = read.shardShape ∧ devices = read.meshShape := by
  constructor
  · intro read completed short completes
    exact completes_of_complete completes short
  · intro input result short parses splits
    obtain ⟨read, completes, shorter, declared⟩ := exists_complete_of_parse parses splits
    exact ⟨read, completes_of_complete completes (by omega), declared⟩

/-- The sharding that `{devices=[1,4,2]<=[8] last_tile_dim_replicate}` denotes. -/
def replicatedPairs : Sharding where
  kind := .devices
  shardShape := [1, 4]
  meshShape := [4, 2]
  shardDims := [1, -1]
  lastTileReplicates := true

theorem completes_replicatedPairs :
    Completes
        { kind := .devices, shardShape := [1, 4, 2], meshShape := [8], lastTileReplicates := true }
        replicatedPairs ∧
      ∃ read : Sharding, Completes read replicatedPairs ∧
        ∀ shards devices,
          Declares "{devices=[1,4,2]<=[8] last_tile_dim_replicate}" shards devices ↔
            shards = read.shardShape ∧ devices = read.meshShape :=
  ⟨completes_of_complete_and_of_parse.1 _ _ (by decide) (by decide),
    completes_of_complete_and_of_parse.2 _ _ (by decide +kernel) (by decide +kernel) rfl⟩

/-! ## Devices -/

/-- The devices of a settled mesh are those of the mesh that was read, unless that is a
mere count which no entry of the shard shape equals. -/
theorem product?_settledMesh {total : Int64}
    (product : Number.product? read.meshShape = some total)
    (counted : ∀ count, read.meshShape = [count] → count ∈ read.shardShape) :
    Number.product? (read.settledMesh total) = some total := by
  by_cases single : read.meshShape.length = 1
  · obtain ⟨count, mesh⟩ := List.length_eq_one_iff.mp single
    rw [mesh] at product
    obtain rfl := eq_of_product?_singleton product
    rw [settledMesh, if_pos single, if_pos (counted total mesh), product?_pair_eq_some_iff]
    exact Int.one_mul total.toInt
  · rwa [settledMesh, if_neg single]

/-- An annotation that is accepted as a device sharding declares one list of devices.
Their number is kept if the list is no mere count, or a count that is an entry of the shard
shape.  Otherwise two entries of the shape are the mesh, and the number is kept exactly
when their product is the count. -/
theorem deviceCount?_of_parse (parses : parse input = .ok result)
    (splits : result.kind = .devices) :
    ∃ shards devices,
      (∀ otherShards otherDevices, Declares input otherShards otherDevices ↔
        otherShards = shards ∧ otherDevices = devices) ∧
      ((∀ count, devices = [count] → count ∈ shards) →
        ∃ count, result.deviceCount? = some count ∧
          count.toInt = (devices.map Int64.toInt).prod) ∧
      ∀ count, devices = [count] → count ∉ shards →
        ∃ rows columns, shards.filter (· != 1) = [rows, columns] ∧
          result.meshShape = [rows, columns] ∧
          (result.deviceCount? = some count ↔ rows.toInt * columns.toInt = count.toInt) := by
  obtain ⟨read, completes, -, declared⟩ := exists_complete_of_parse parses splits
  obtain ⟨total, dims, product, rank, -, settles⟩ := complete_eq_ok_iff.mp completes
  have mesh : result.meshShape = read.settledMesh total := congrArg meshShape settles
  have counts : result.deviceCount? = Number.product? (read.settledMesh total) := by
    rw [deviceCount?, splitsDevices, splits, mesh]
    rfl
  refine ⟨read.shardShape, read.meshShape, declared, ?_, ?_⟩
  · intro counted
    refine ⟨total, ?_, toInt_of_product?_eq_some product⟩
    rw [counts]
    exact product?_settledMesh product counted
  · intro count flat missing
    rw [flat] at product
    obtain rfl := eq_of_product?_singleton product
    have single : read.meshShape.length = 1 := congrArg List.length flat
    have entries : read.settledMesh total = read.shardShape.filter (· != 1) := by
      rw [settledMesh, if_pos single, if_neg missing]
    obtain ⟨rows, columns, pair⟩ := List.length_eq_two.mp rank
    refine ⟨rows, columns, entries.symm.trans pair, mesh.trans pair, ?_⟩
    rw [counts, pair]
    exact product?_pair_eq_some_iff

/-- The sharding that `{devices=[1,2,4]<=[8]}` denotes. -/
def pairsAndFours : Sharding where
  kind := .devices
  shardShape := [1, 2, 4]
  meshShape := [2, 4]
  shardDims := [1, 2]

theorem deviceCount?_pairsAndFours :
    ∃ shards devices,
      (∀ otherShards otherDevices, Declares "{devices=[1,2,4]<=[8]}" otherShards otherDevices ↔
        otherShards = shards ∧ otherDevices = devices) ∧
      ((∀ count, devices = [count] → count ∈ shards) →
        ∃ count, pairsAndFours.deviceCount? = some count ∧
          count.toInt = (devices.map Int64.toInt).prod) ∧
      ∀ count, devices = [count] → count ∉ shards →
        ∃ rows columns, shards.filter (· != 1) = [rows, columns] ∧
          pairsAndFours.meshShape = [rows, columns] ∧
          (pairsAndFours.deviceCount? = some count ↔
            rows.toInt * columns.toInt = count.toInt) :=
  deviceCount?_of_parse (by decide +kernel) rfl

/-- The sharding that `{devices=[2,4]<=[16]}` denotes. -/
def eightOfSixteen : Sharding where
  kind := .devices
  shardShape := [2, 4]
  meshShape := [2, 4]
  shardDims := [0, 1]

theorem declares_eightOfSixteen : Declares "{devices=[2,4]<=[16]}" [2, 4] [16] :=
  ⟨"devices=[2,4]<=[16]".toList, "[2,4]<=[16]".toList, by decide +kernel, by decide +kernel,
    "[2,4]".toList, "[16]".toList, [], by decide +kernel, Or.inl rfl, by decide +kernel,
    by decide +kernel⟩

/-- Sixteen devices are declared, and the sharding has eight. -/
theorem deviceCount?_eightOfSixteen :
    parse "{devices=[2,4]<=[16]}" = .ok eightOfSixteen ∧ eightOfSixteen.kind = .devices ∧
      Declares "{devices=[2,4]<=[16]}" [2, 4] [16] ∧
      ¬ ∃ count, eightOfSixteen.deviceCount? = some count ∧
        count.toInt = ([16].map Int64.toInt).prod := by
  refine ⟨by decide +kernel, rfl, declares_eightOfSixteen, ?_⟩
  rintro ⟨count, counts, same⟩
  have eight : eightOfSixteen.deviceCount? = some 8 := by decide +kernel
  rw [eight] at counts
  cases counts
  exact absurd same (by decide)

end Tilework.Sharding
