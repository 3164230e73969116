import Mathlib.Algebra.Order.Floor.Div
import Tilework.Proofs.Lowering.Memory

/-!
# Bytes of block formats

A value of a block format takes a fixed number of bits, and every sixteen values share an
exponent byte.  The bytes of a tile are counted with both quotients rounded down, so a tile
whose values do not fill whole groups is stored short of its last exponent byte, and of one
more byte where its bits end inside a byte.
-/

namespace Tilework

open Artifact

/-- The bits of one value of a block format, its share of the exponent aside. -/
def DataType.mantissaBits? : DataType → Option Nat
  | blockFloat8 | blockBFloat8 => some 8
  | blockFloat4 | blockBFloat4 => some 4
  | blockFloat2 | blockBFloat2 => some 2
  | float32 | float16 | bfloat16 | uint32 | uint16 | uint8 | int32 => none

/-! ## One tile -/

/-- Rounding up exceeds rounding down by one, unless the division is exact. -/
theorem Number.ceilDiv_eq_div_add (n : Nat) {size : Nat} (positive : 0 < size) :
    n ⌈/⌉ size = n / size + if size ∣ n then 0 else 1 := by
  rw [Nat.ceilDiv_eq_add_pred_div]
  have parts := Nat.div_add_mod n size
  have below := Nat.mod_lt n positive
  split
  · rename_i divides
    rw [Nat.div_eq_iff positive]
    obtain ⟨quotient, rfl⟩ := divides
    rw [Nat.mul_div_cancel_left quotient positive, Nat.add_zero, Nat.mul_comm]
    omega
  · rename_i partly
    have rest : n % size ≠ 0 := fun exact => partly (Nat.dvd_of_mod_eq_zero exact)
    rw [Nat.div_eq_iff positive, Nat.add_mul, Nat.mul_comm]
    omega

namespace Tile

variable {tile : Tile} {bits : Nat}

/-- The bytes that hold all bits of the values of a tile and an exponent for every group that
is started. -/
def blockBytes (tile : Tile) (bits : Nat) : Nat :=
  (tile.count * bits) ⌈/⌉ 8 + tile.count ⌈/⌉ 16

/-- The bytes that rounding down leaves out. -/
def lostBytes (tile : Tile) (bits : Nat) : Nat :=
  (if 8 ∣ tile.count * bits then 0 else 1) + if 16 ∣ tile.count then 0 else 1

/-- Nothing is lost exactly where the values fill whole groups.  Such values end at a byte. -/
theorem lostBytes_eq_zero_iff (tile : Tile) (bits : Nat) :
    tile.lostBytes bits = 0 ↔ 16 ∣ tile.count := by
  have whole : 16 ∣ tile.count → 8 ∣ tile.count * bits :=
    fun groups => (dvd_trans (by decide) groups).mul_right bits
  rw [lostBytes]
  constructor
  · intro none
    by_contra partly
    rw [if_neg partly] at none
    omega
  · intro groups
    rw [if_pos groups, if_pos (whole groups)]

variable (format : tile.dataType.mantissaBits? = some bits)

include format

/-- A tile of a block format is counted with both of its quotients rounded down. -/
theorem bytes_eq_of_mantissaBits : tile.bytes = tile.count * bits / 8 + tile.count / 16 := by
  rw [Tile.bytes]
  generalize tile.count = count
  cases kind : tile.dataType <;> rw [kind] at format <;> cases format
  all_goals
    dsimp only
    omega

theorem blockBytes_eq : tile.blockBytes bits = tile.bytes + tile.lostBytes bits := by
  rw [blockBytes, lostBytes, bytes_eq_of_mantissaBits format,
    Number.ceilDiv_eq_div_add _ (by decide), Number.ceilDiv_eq_div_add _ (by decide)]
  omega

theorem bytes_lt (tall : tile.height.toNat < 2 ^ 31) (wide : tile.width.toNat < 2 ^ 31) :
    tile.bytes < 2 ^ 64 := by
  have count : tile.count < 2 ^ 31 * 2 ^ 31 := Nat.mul_lt_mul'' tall wide
  have narrow : bits ≤ 8 := by
    revert format
    cases tile.dataType <;> simp [DataType.mantissaBits?] <;> omega
  have values : tile.count * bits ≤ tile.count * 8 := Nat.mul_le_mul_left _ narrow
  rw [bytes_eq_of_mantissaBits format]
  omega

end Tile

/-! ## Regions of tiles -/

namespace MemoryRegion

variable {region : MemoryRegion} {banks : Option BankLayout} {record : MemoryRecord}
  {tile : Tile} {bits : Nat}

/-- The number of elements of a region. -/
def places (region : MemoryRegion) : Int :=
  (region.shape.map Int64.toInt).prod

/-- The size stored for a region of block tiles lacks, for every tile, the bytes that rounding
down leaves out.  Where no dimension is empty, it holds all values with their exponents exactly
if the values of a tile fill whole groups of sixteen. -/
theorem blockSize_of_record (tiled : region.element = .tile tile)
    (format : tile.dataType.mantissaBits? = some bits)
    (positive : ∀ size ∈ region.shape, 1 ≤ size.toInt)
    (found : region.record banks = .ok record) :
    (record.size.toNat : Int) + region.places * tile.lostBytes bits =
        region.places * tile.blockBytes bits ∧
      (region.places * tile.blockBytes bits ≤ record.size.toNat ↔ 16 ∣ tile.count) := by
  have bytes : region.element.bytes = tile.bytes := by rw [tiled, Element.bytes]
  have small : (region.element.bytes : Int) < 2 ^ 64 := by
    obtain ⟨extent, _, _, _, measured, _⟩ := record_eq_ok_iff.mp found
    have sides := (Element.exists_extent_iff.mp ⟨extent, measured⟩).2
    rw [tiled] at sides
    have := Tile.bytes_lt format sides.1 sides.2
    omega
  have size : (record.size.toNat : Int) = region.places * tile.bytes := by
    rw [(measured_of_record small found).size, MemoryRegion.bytes, bytes, places, Int.mul_comm]
  have short : (record.size.toNat : Int) + region.places * tile.lostBytes bits =
      region.places * tile.blockBytes bits := by
    rw [size, Tile.blockBytes_eq format, Int.natCast_add, Int.mul_add]
  refine ⟨short, ?_⟩
  have some_place : 0 < region.places := prod_pos_of_positive positive
  rw [← Tile.lostBytes_eq_zero_iff tile bits, ← short]
  constructor
  · intro enough
    by_contra lost
    have gap : 0 < region.places * tile.lostBytes bits := Int.mul_pos some_place (by omega)
    omega
  · intro none
    rw [none]
    omega

/-- Six tiles of fifteen values of four bits. -/
def partialTiles : MemoryRegion where
  shape := [2, 3]
  element := .tile ⟨3, 5, .blockFloat4⟩
  buffer := .dram

/-- Their values take fifty-four bytes. -/
theorem size_partialTiles_lt :
    ∃ record, partialTiles.record (some .interleaved) = .ok record ∧ record.size = 42 ∧
      (∀ size ∈ partialTiles.shape, 1 ≤ size.toInt) ∧
      (record.size.toNat : Int) < partialTiles.places * Tile.blockBytes ⟨3, 5, .blockFloat4⟩ 4 :=
  ⟨_, rfl, rfl, by simp [partialTiles], by decide⟩

theorem blockSize_of_record_partialTiles :
    ∃ record, partialTiles.record (some .interleaved) = .ok record ∧
      (record.size.toNat : Int) + 6 * 2 = 6 * 9 ∧ ¬ 6 * 9 ≤ (record.size.toNat : Int) := by
  obtain ⟨record, found⟩ : ∃ record, partialTiles.record (some .interleaved) = .ok record :=
    ⟨_, rfl⟩
  have positive : ∀ size ∈ partialTiles.shape, 1 ≤ size.toInt := by simp [partialTiles]
  have sized := blockSize_of_record rfl rfl positive found
  exact ⟨record, found, sized.1, fun enough => absurd (sized.2.mp enough) (by decide)⟩

end MemoryRegion

end Tilework
