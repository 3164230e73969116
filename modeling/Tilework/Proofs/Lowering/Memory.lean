import Mathlib.Algebra.Order.BigOperators.GroupWithZero.List
import Mathlib.Algebra.Order.Ring.Int
import Tilework.Lowering.Descriptor
import Tilework.Proofs.Number
import Tilework.Proofs.Run

/-!
# Sizes in memory

The bytes of a memory region are counted along its shape, one dimension after another, and
the count never leaves 64 bits.  So the size that is stored is the exact product, and where
no dimension is empty a region is refused exactly if one of its numbers does not fit.
-/

namespace Tilework

open Artifact

/-! ## Counting along a shape -/

section Counting

variable {bytes total : Nat} {size : Int64} {shape : List Int64}

theorem scaleBytes_eq_ok_iff :
    scaleBytes bytes size = .ok total ↔
      0 ≤ size.toInt ∧ (total : Int) = bytes * size.toInt ∧ (total : Int) < 2 ^ 64 := by
  have small : ∀ n : Nat, n < UInt64.size ↔ (n : Int) < 2 ^ 64 := by
    intro n
    rw [UInt64.size]
    omega
  simp only [scaleBytes]
  by_cases negative : size.toInt < 0
  · simp only [negative, if_true, reduceCtorEq, false_iff, not_and]
    intro positive
    omega
  · have positive := Int.not_lt.mp negative
    have product : ((bytes * size.toInt.toNat : Nat) : Int) = bytes * size.toInt := by
      rw [Int.natCast_mul, Int.toNat_of_nonneg positive]
    rw [if_neg negative, ← product, Int.natCast_inj]
    split
    · rename_i fits
      rw [Except.ok.injEq, eq_comm]
      refine ⟨fun same => ⟨positive, same, ?_⟩, fun stored => stored.2.1⟩
      rw [same]
      exact (small _).mp fits
    · rename_i wide
      simp only [reduceCtorEq, false_iff, not_and]
      rintro _ rfl
      rwa [← small]

/-- What is counted is the exact product. -/
theorem eq_prod_of_foldlM_scaleBytes (counted : shape.foldlM scaleBytes bytes = .ok total) :
    (total : Int) = bytes * (shape.map Int64.toInt).prod := by
  have whole : (total : Int) = bytes * (([] ++ shape).map Int64.toInt).prod := by
    refine holds_of_foldlM (I := fun sizes (count : Nat) =>
      (count : Int) = bytes * (sizes.map Int64.toInt).prod) ?_ (by simp) counted
    intro earlier size count next product step
    rw [(scaleBytes_eq_ok_iff.mp step).2.1, product, List.map_append, List.prod_append,
      List.map_singleton, List.prod_singleton, Int.mul_assoc]
  exact whole

theorem lt_of_foldlM_scaleBytes (small : (bytes : Int) < 2 ^ 64)
    (counted : shape.foldlM scaleBytes bytes = .ok total) : (total : Int) < 2 ^ 64 := by
  induction shape generalizing bytes with
  | nil =>
      cases counted
      exact small
  | cons size later ih =>
      rw [List.foldlM_cons] at counted
      obtain ⟨next, step, rest⟩ := bind_eq_ok_iff.mp counted
      exact ih (scaleBytes_eq_ok_iff.mp step).2.2 rest

theorem prod_pos_of_positive (positive : ∀ size ∈ shape, 1 ≤ size.toInt) :
    0 < (shape.map Int64.toInt).prod := by
  apply List.prod_pos
  intro n member
  obtain ⟨size, inside, rfl⟩ := List.mem_map.mp member
  exact positive size inside

/-- Where no dimension is empty, counting succeeds exactly if the product fits. -/
theorem exists_foldlM_scaleBytes_iff (positive : ∀ size ∈ shape, 1 ≤ size.toInt)
    (small : (bytes : Int) < 2 ^ 64) :
    (∃ total, shape.foldlM scaleBytes bytes = .ok total) ↔
      bytes * (shape.map Int64.toInt).prod < 2 ^ 64 := by
  constructor
  · rintro ⟨total, counted⟩
    rw [← eq_prod_of_foldlM_scaleBytes counted]
    exact lt_of_foldlM_scaleBytes small counted
  · intro fits
    induction shape generalizing bytes with
    | nil => exact ⟨bytes, rfl⟩
    | cons size shape ih =>
        rw [List.forall_mem_cons] at positive
        rw [List.map_cons, List.prod_cons, ← Int.mul_assoc] at fits
        obtain ⟨next, product⟩ := Int.eq_ofNat_of_zero_le
          (Int.mul_nonneg (Int.natCast_nonneg bytes) (by omega : 0 ≤ size.toInt))
        rw [product] at fits
        have nextSmall : (next : Int) < 2 ^ 64 :=
          (le_mul_of_one_le_right (Int.natCast_nonneg next)
            (prod_pos_of_positive positive.2)).trans_lt fits
        obtain ⟨total, counted⟩ := ih positive.2 nextSmall fits
        refine ⟨total, bind_eq_ok_iff.mpr ⟨next, ?_, counted⟩⟩
        exact scaleBytes_eq_ok_iff.mpr ⟨by omega, product.symm, nextSmall⟩

end Counting

/-! ## Elements -/

namespace Element

variable {element : Element}

/-- The bytes of one element. -/
def bytes : Element → Nat
  | scalar dataType => dataType.scalarBytes?.getD 0
  | tile block => block.bytes

/-- The rows and columns of one element. -/
def sides : Element → Nat × Nat
  | scalar _ => (1, 1)
  | tile block => (block.height.toNat, block.width.toNat)

/-- Whether a value of the element has an address of its own. -/
def Addressed : Element → Prop
  | scalar dataType => dataType.isBlockFloat = false
  | tile _ => True

theorem extent_eq_ok_iff {extent : Extent} {bytes : Nat} :
    element.extent = .ok (extent, bytes) ↔
      element.Addressed ∧ extent.y.toInt = element.sides.1 ∧ extent.x.toInt = element.sides.2 ∧
        bytes = element.bytes := by
  cases element with
  | scalar dataType =>
      have one (side : Int32) : side.toInt = ((1 : Nat) : Int) ↔ side = 1 :=
        ⟨fun same => Int32.toInt_inj.mp same, fun same => by rw [same]; rfl⟩
      simp only [Element.extent, Addressed, DataType.isBlockFloat, sides, Element.bytes, one]
      cases known : dataType.scalarBytes? with
      | none => simp
      | some count =>
          simp only [Except.ok.injEq, Prod.mk.injEq, Option.isNone_some, Option.getD_some,
            true_and]
          rcases extent with ⟨y, x⟩
          constructor
          · rintro ⟨same, rfl⟩
            cases same
            exact ⟨rfl, rfl, rfl⟩
          · rintro ⟨rfl, rfl, rfl⟩
            exact ⟨rfl, rfl⟩
  | tile block =>
      simp only [Element.extent, bind_eq_ok_iff, Number.toInt32_eq_ok_iff, Addressed, sides,
        Element.bytes, true_and]
      constructor
      · rintro ⟨y, tall, x, wide, same⟩
        cases same
        exact ⟨tall, wide, rfl⟩
      · rintro ⟨tall, wide, rfl⟩
        exact ⟨_, tall, _, wide, rfl⟩

theorem exists_extent_iff :
    (∃ extent, element.extent = .ok (extent, element.bytes)) ↔
      element.Addressed ∧ element.sides.1 < 2 ^ 31 ∧ element.sides.2 < 2 ^ 31 := by
  simp only [extent_eq_ok_iff, and_true, ← Number.exists_toInt_eq_natCast_iff]
  constructor
  · rintro ⟨extent, addressed, tall, wide⟩
    exact ⟨addressed, ⟨_, tall⟩, ⟨_, wide⟩⟩
  · rintro ⟨addressed, ⟨y, tall⟩, ⟨x, wide⟩⟩
    exact ⟨{ y, x }, addressed, tall, wide⟩

end Element

theorem Buffer.exists_memorySpace_iff {buffer : Buffer} :
    (∃ space, buffer.memorySpace = .ok space) ↔
      buffer = .systemMemory ∨ buffer = .dram ∨ buffer = .l1 := by
  cases buffer <;> simp [memorySpace]

/-! ## Regions -/

namespace MemoryRegion

variable {region : MemoryRegion} {banks : Option BankLayout} {record : MemoryRecord}

/-- The exact size of a region in bytes. -/
def bytes (region : MemoryRegion) : Int :=
  region.element.bytes * (region.shape.map Int64.toInt).prod

/-- A record holds the measures of a region as they are. -/
structure Measured (region : MemoryRegion) (record : MemoryRecord) : Prop where
  size : (record.size.toNat : Int) = region.bytes
  shape : record.shape.map Int32.toInt = region.shape.map Int64.toInt
  tileShape : ∃ tile, record.tileShape = some tile ∧
    tile.y.toInt = region.element.sides.1 ∧ tile.x.toInt = region.element.sides.2

/-- The numbers of a region fit, and it is in a memory that holds tensors. -/
structure Fits (region : MemoryRegion) : Prop where
  element : region.element.Addressed
  sides : region.element.sides.1 < 2 ^ 31 ∧ region.element.sides.2 < 2 ^ 31
  shape : ∀ size ∈ region.shape, size.toInt < 2 ^ 31
  buffer : region.buffer = .systemMemory ∨ region.buffer = .dram ∨ region.buffer = .l1
  bytes : region.bytes < 2 ^ 64

theorem record_eq_ok_iff :
    region.record banks = .ok record ↔
      ∃ tile bytes shape space, region.element.extent = .ok (tile, region.element.bytes) ∧
        region.shape.foldlM scaleBytes region.element.bytes = .ok bytes ∧
        Number.toInt32s "memref shape" region.shape = .ok shape ∧
        region.buffer.memorySpace = .ok space ∧
        record =
          { shape
            tileShape := some tile
            dataType := .of region.element.dataType
            memorySpace := .of space
            banks := .of banks
            size := UInt64.ofNat bytes } := by
  rw [MemoryRegion.record, bind_eq_ok_iff]
  constructor
  · rintro ⟨⟨tile, elementBytes⟩, measured, rest⟩
    obtain ⟨bytes, counted, rest⟩ := bind_eq_ok_iff.mp rest
    obtain ⟨shape, narrowed, rest⟩ := bind_eq_ok_iff.mp rest
    obtain ⟨space, placed, rest⟩ := bind_eq_ok_iff.mp rest
    cases rest
    obtain rfl := (Element.extent_eq_ok_iff.mp measured).2.2.2
    exact ⟨tile, bytes, shape, space, measured, counted, narrowed, placed, rfl⟩
  · rintro ⟨tile, bytes, shape, space, measured, counted, narrowed, placed, rfl⟩
    exact ⟨_, measured, bind_eq_ok_iff.mpr ⟨bytes, counted, bind_eq_ok_iff.mpr
      ⟨shape, narrowed, bind_eq_ok_iff.mpr ⟨space, placed, rfl⟩⟩⟩⟩

variable (small : (region.element.bytes : Int) < 2 ^ 64)

include small

theorem measured_of_record (found : region.record banks = .ok record) : region.Measured record := by
  obtain ⟨tile, bytes, shape, space, measured, counted, narrowed, _, rfl⟩ :=
    record_eq_ok_iff.mp found
  obtain ⟨_, tall, wide, _⟩ := Element.extent_eq_ok_iff.mp measured
  refine ⟨?_, Number.toInt32s_eq_ok_iff.mp narrowed, tile, rfl, tall, wide⟩
  have fits := lt_of_foldlM_scaleBytes small counted
  have word : (UInt64.ofNat bytes).toNat = bytes :=
    UInt64.toNat_ofNat_of_lt' (by rw [UInt64.size]; omega)
  rw [MemoryRegion.bytes, ← eq_prod_of_foldlM_scaleBytes counted, word]

theorem exists_record_iff (positive : ∀ size ∈ region.shape, 1 ≤ size.toInt) :
    (∃ record, region.record banks = .ok record) ↔ region.Fits := by
  have shapes : (∃ shape, Number.toInt32s "memref shape" region.shape = .ok shape) ↔
      ∀ size ∈ region.shape, size.toInt < 2 ^ 31 := by
    rw [Number.exists_toInt32s_iff]
    refine forall₂_congr fun size member => ?_
    have := positive size member
    omega
  have counts := exists_foldlM_scaleBytes_iff positive small
  simp only [record_eq_ok_iff]
  constructor
  · rintro ⟨_, tile, bytes, shape, space, measured, counted, narrowed, placed, _⟩
    obtain ⟨addressed, sides⟩ := Element.exists_extent_iff.mp ⟨tile, measured⟩
    exact ⟨addressed, sides, shapes.mp ⟨shape, narrowed⟩,
      Buffer.exists_memorySpace_iff.mp ⟨space, placed⟩, counts.mp ⟨bytes, counted⟩⟩
  · intro fits
    obtain ⟨tile, measured⟩ := Element.exists_extent_iff.mpr ⟨fits.element, fits.sides⟩
    obtain ⟨bytes, counted⟩ := counts.mpr fits.bytes
    obtain ⟨shape, narrowed⟩ := shapes.mpr fits.shape
    obtain ⟨space, placed⟩ := Buffer.exists_memorySpace_iff.mpr fits.buffer
    exact ⟨_, tile, bytes, shape, space, measured, counted, narrowed, placed, rfl⟩

/-- The record of a region holds its exact size.  Where no dimension is empty, there is a record
exactly if all numbers fit. -/
theorem record_exact :
    (∀ record, region.record banks = .ok record → region.Measured record) ∧
      ((∀ size ∈ region.shape, 1 ≤ size.toInt) →
        ((∃ record, region.record banks = .ok record) ↔ region.Fits)) :=
  ⟨fun _ found => measured_of_record small found, exists_record_iff small⟩

/-- Six tiles of a block format, each of which has two exponent bytes. -/
def blockTiles : MemoryRegion where
  shape := [2, 3]
  element := .tile ⟨8, 4, .blockFloat8⟩
  buffer := .dram

omit small in
theorem record_exact_blockTiles :
    ((blockTiles.element.bytes : Int) < 2 ^ 64 ∧ (∀ size ∈ blockTiles.shape, 1 ≤ size.toInt)) ∧
      (∀ record, blockTiles.record none = .ok record → blockTiles.Measured record) ∧
        ∃ record, blockTiles.record none = .ok record ∧ record.size = 204 := by
  have small : (blockTiles.element.bytes : Int) < 2 ^ 64 := by decide
  have positive : ∀ size ∈ blockTiles.shape, 1 ≤ size.toInt := by simp [blockTiles]
  have measured : ∀ record, blockTiles.record none = .ok record → blockTiles.Measured record :=
    (record_exact small).1
  have exists_iff : (∃ record, blockTiles.record none = .ok record) ↔ blockTiles.Fits :=
    (record_exact small).2 positive
  have fits : blockTiles.Fits :=
    { element := trivial
      sides := by decide
      shape := by simp [blockTiles]
      buffer := by decide
      bytes := by decide }
  obtain ⟨record, found⟩ := exists_iff.mpr fits
  refine ⟨⟨small, positive⟩, measured, record, found, ?_⟩
  have size := (measured record found).size
  apply UInt64.toNat_inj.mp
  have bytes_eq : blockTiles.bytes = 204 := by decide
  rw [bytes_eq] at size
  exact Int.natCast_inj.mp size

end MemoryRegion

end Tilework
