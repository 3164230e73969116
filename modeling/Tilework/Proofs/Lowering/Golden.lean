import Mathlib.Data.List.Lex
import Tilework.Lowering.Golden
import Tilework.Proofs.Lowering.Memory

/-!
# Golden tensors in row-major order

A golden tensor is made exactly if it is given one value for each place of its shape.
Its strides then lead from the places, taken in lexicographic order, to the values one
after another, and its data holds each value at its own offset.
-/

namespace Tilework

namespace GoldenTensor

/-! ## Places -/

/-- A place of a shape has one entry for each dimension, inside of it. -/
def IsPlace (shape : List Int64) (place : List Nat) : Prop :=
  List.Forall₂ (fun (entry : Nat) (size : Int64) => (entry : Int) < size.toInt) place shape

/-- How many values come before a place, by the distances along each dimension. -/
def offset (stride : List Int64) (place : List Nat) : Int :=
  (List.zipWith (fun (entry : Nat) (distance : Int64) => entry * distance.toInt) place
    stride).sum

/-- Some strides lead from the places of a shape to the numbers below a bound, and keep
their order. -/
structure Enumerates (shape stride : List Int64) (bound : Nat) : Prop where
  inside : ∀ place, IsPlace shape place → 0 ≤ offset stride place ∧ offset stride place < bound
  /-- Places that come first in lexicographic order have smaller offsets. -/
  lt_iff : ∀ place other, IsPlace shape place → IsPlace shape other →
    (place < other ↔ offset stride place < offset stride other)
  /-- Every number below the bound is the offset of exactly one place. -/
  existsUnique : ∀ n < bound, ∃! place, IsPlace shape place ∧ offset stride place = n

variable {shape later : List Int64} {size : Int64}

theorem places?_eq (shape : List Int64) : places? shape = (shape.foldlM scaleBytes 1).toOption := by
  have step (count : Nat) (size : Int64) :
      (if 0 ≤ size.toInt ∧ count * size.toInt.toNat < UInt64.size then
          some (count * size.toInt.toNat)
        else none) = (scaleBytes count size).toOption := by
    simp only [scaleBytes]
    by_cases negative : size.toInt < 0
    · rw [if_pos negative, if_neg fun stored => Int.not_le.mpr negative stored.1]
      rfl
    · rw [if_neg negative]
      by_cases fits : count * size.toInt.toNat < UInt64.size
      · rw [if_pos fits, if_pos ⟨Int.not_lt.mp negative, fits⟩]
        rfl
      · rw [if_neg fits, if_neg fun stored => fits stored.2]
        rfl
  have from_start (start : Nat) (sizes : List Int64) :
      sizes.foldlM (fun count size => (scaleBytes count size).toOption) start =
        (sizes.foldlM scaleBytes start).toOption := by
    induction sizes generalizing start with
    | nil => rfl
    | cons size sizes ih =>
        rw [List.foldlM_cons, List.foldlM_cons]
        cases scaleBytes start size with
        | error error => rfl
        | ok next => exact ih next
  simp only [places?, step]
  exact from_start 1 shape

/-- Where no dimension is empty, the places are counted exactly if their number fits. -/
theorem places?_eq_some_iff (positive : ∀ size ∈ shape, 1 ≤ size.toInt) {count : Nat}
    (small : count < 2 ^ 64) :
    places? shape = some count ↔ (shape.map Int64.toInt).prod = count := by
  have start : ((1 : Nat) : Int) < 2 ^ 64 := by decide
  have exists_iff := exists_foldlM_scaleBytes_iff positive start
  rw [places?_eq, ← Option.mem_def, mem_toOption_iff]
  constructor
  · intro counted
    have exactly := eq_prod_of_foldlM_scaleBytes counted
    rw [exactly, Int.natCast_one, Int.one_mul]
  · intro product
    obtain ⟨total, counted⟩ := exists_iff.mpr (by rw [product]; omega)
    have exactly := eq_prod_of_foldlM_scaleBytes counted
    rw [product, Int.natCast_one, Int.one_mul, Int.natCast_inj] at exactly
    rwa [← exactly]

/-! ## Strides -/

/-- The distance along a dimension is the exact number of places in the later ones. -/
theorem toInt_stride (positive : ∀ size ∈ later, 1 ≤ size.toInt)
    (small : (later.map Int64.toInt).prod < 2 ^ 63) :
    (later.foldr (fun size stride => stride * size) 1).toInt = (later.map Int64.toInt).prod := by
  induction later with
  | nil => rfl
  | cons size later ih =>
      rw [List.forall_mem_cons] at positive
      rw [List.map_cons, List.prod_cons] at small ⊢
      have rest := prod_pos_of_positive positive.2
      have restSmall : (later.map Int64.toInt).prod < 2 ^ 63 :=
        (le_mul_of_one_le_left rest.le positive.1).trans_lt small
      have total := Int.mul_pos (by omega : 0 < size.toInt) rest
      rw [List.foldr_cons, Int64.toInt_mul, ih positive.2 restSmall, Int.mul_comm]
      exact Int.bmod_eq_of_le (by omega) (by omega)

theorem offset_cons (positive : ∀ size ∈ later, 1 ≤ size.toInt)
    (small : (later.map Int64.toInt).prod < 2 ^ 63) (entry : Nat) (place : List Nat) :
    offset (rowMajorStrides (size :: later)) (entry :: place) =
      entry * (later.map Int64.toInt).prod + offset (rowMajorStrides later) place := by
  rw [offset, rowMajorStrides, List.zipWith_cons_cons, List.sum_cons, toInt_stride positive small]
  rfl

/-- An entry that is greater by one outweighs all later entries. -/
theorem mul_add_le_mul {lower upper weight : Int} (less : lower < upper) (positive : 0 < weight) :
    lower * weight + weight ≤ upper * weight := by
  have step := Int.mul_le_mul_of_nonneg_right (Int.add_one_le_of_lt less) positive.le
  rwa [Int.add_mul, Int.one_mul] at step

theorem offset_inside (positive : ∀ size ∈ shape, 1 ≤ size.toInt)
    (small : (shape.map Int64.toInt).prod < 2 ^ 63) {place : List Nat}
    (inside : IsPlace shape place) :
    0 ≤ offset (rowMajorStrides shape) place ∧
      offset (rowMajorStrides shape) place < (shape.map Int64.toInt).prod := by
  induction inside with
  | nil => exact ⟨Int.le_refl 0, Int.one_pos⟩
  | @cons entry size place later within _ ih =>
      obtain ⟨nonempty, others⟩ := List.forall_mem_cons.mp positive
      rw [List.map_cons, List.prod_cons] at small ⊢
      have rest := prod_pos_of_positive others
      have restSmall := (le_mul_of_one_le_left rest.le nonempty).trans_lt small
      obtain ⟨least, greatest⟩ := ih others restSmall
      rw [offset_cons others restSmall]
      constructor
      · exact Int.add_nonneg (Int.mul_nonneg (Int.natCast_nonneg entry) rest.le) least
      · exact (Int.add_lt_add_left greatest _).trans_le (mul_add_le_mul within rest)

theorem lt_iff_offset_lt (positive : ∀ size ∈ shape, 1 ≤ size.toInt)
    (small : (shape.map Int64.toInt).prod < 2 ^ 63) {place other : List Nat}
    (inside : IsPlace shape place) (otherInside : IsPlace shape other) :
    place < other ↔
      offset (rowMajorStrides shape) place < offset (rowMajorStrides shape) other := by
  induction inside generalizing other with
  | nil =>
      cases otherInside
      exact iff_of_false (List.lt_irrefl []) (Int.lt_irrefl _)
  | @cons entry size place later _ inside ih =>
      cases otherInside with
      | @cons otherEntry _ other _ _ otherInside =>
          obtain ⟨nonempty, others⟩ := List.forall_mem_cons.mp positive
          rw [List.map_cons, List.prod_cons] at small
          have rest := prod_pos_of_positive others
          have restSmall := (le_mul_of_one_le_left rest.le nonempty).trans_lt small
          have bounds := offset_inside others restSmall inside
          have otherBounds := offset_inside others restSmall otherInside
          rw [List.cons_lt_cons_iff, ih others restSmall otherInside, offset_cons others restSmall,
            offset_cons others restSmall]
          rcases Nat.lt_trichotomy entry otherEntry with less | rfl | greater
          · have := mul_add_le_mul (Int.ofNat_lt.mpr less) rest
            exact iff_of_true (Or.inl less) (by omega)
          · simp
          · have := mul_add_le_mul (Int.ofNat_lt.mpr greater) rest
            exact iff_of_false (by omega) (by omega)

theorem exists_offset_eq (positive : ∀ size ∈ shape, 1 ≤ size.toInt)
    (small : (shape.map Int64.toInt).prod < 2 ^ 63) {n : Nat}
    (below : (n : Int) < (shape.map Int64.toInt).prod) :
    ∃ place, IsPlace shape place ∧ offset (rowMajorStrides shape) place = n := by
  induction shape generalizing n with
  | nil =>
      obtain rfl : n = 0 := by
        rw [List.map_nil, List.prod_nil] at below
        omega
      exact ⟨[], .nil, rfl⟩
  | cons size later ih =>
      obtain ⟨nonempty, others⟩ := List.forall_mem_cons.mp positive
      rw [List.map_cons, List.prod_cons] at small below
      have rest := prod_pos_of_positive others
      have restSmall := (le_mul_of_one_le_left rest.le nonempty).trans_lt small
      obtain ⟨count, product⟩ := Int.eq_ofNat_of_zero_le rest.le
      rw [product] at rest below
      have counted : 0 < count := by omega
      have remainder : ((n % count : Nat) : Int) < (later.map Int64.toInt).prod := by
        have := Nat.mod_lt n counted
        omega
      obtain ⟨place, inside, same⟩ := ih others restSmall remainder
      have entry : ((n / count : Nat) : Int) < size.toInt := by
        rw [Int.natCast_div]
        exact Int.ediv_lt_of_lt_mul rest below
      refine ⟨n / count :: place, .cons entry inside, ?_⟩
      rw [offset_cons others restSmall, same, product, ← Int.natCast_mul, ← Int.natCast_add,
        Nat.div_add_mod']

/-- Row-major strides lead from the places of a shape to all numbers below their number, in
order. -/
theorem enumerates_rowMajorStrides (positive : ∀ size ∈ shape, 1 ≤ size.toInt) {bound : Nat}
    (product : (shape.map Int64.toInt).prod = bound) (small : bound < 2 ^ 63) :
    Enumerates shape (rowMajorStrides shape) bound := by
  have fits : (shape.map Int64.toInt).prod < 2 ^ 63 := by
    rw [product]
    omega
  refine ⟨?_, fun place other => lt_iff_offset_lt positive fits, fun n below => ?_⟩
  · rw [← product]
    exact fun place => offset_inside positive fits
  · obtain ⟨place, inside, same⟩ := exists_offset_eq positive fits (n := n) (by omega)
    refine ⟨place, ⟨inside, same⟩, ?_⟩
    rintro other ⟨otherInside, otherSame⟩
    have notLess := (lt_iff_offset_lt positive fits otherInside inside).not.mpr (by omega)
    have notGreater := (lt_iff_offset_lt positive fits inside otherInside).not.mpr (by omega)
    exact le_antisymm (not_lt.mp notGreater) (not_lt.mp notLess)

end GoldenTensor

/-! ## Values -/

namespace Bytes

variable {width : Nat} {words : List Nat}

/-- The bytes at a place, where all places have the same width. -/
def slice (width : Nat) (bytes : Bytes) (place : Nat) : Bytes :=
  (bytes.drop (place * width)).take width

theorem length_flatMap_littleEndian :
    (words.flatMap (littleEndian width)).length = words.length * width := by
  induction words with
  | nil => rw [List.flatMap_nil, List.length_nil, List.length_nil, Nat.zero_mul]
  | cons word words ih =>
      rw [List.flatMap_cons, List.length_append, length_littleEndian, ih, List.length_cons,
        Nat.add_one_mul, Nat.add_comm]

theorem slice_flatMap_littleEndian {place word : Nat} (found : words[place]? = some word) :
    slice width (words.flatMap (littleEndian width)) place = littleEndian width word := by
  induction words generalizing place with
  | nil => cases found
  | cons first words ih =>
      have own := length_littleEndian width first
      rw [List.flatMap_cons]
      cases place with
      | zero =>
          cases found
          rw [slice, Nat.zero_mul, List.drop_zero, List.take_left' own]
      | succ place =>
          rw [slice, Nat.add_one_mul, Nat.add_comm, ← List.drop_drop, List.drop_left' own]
          exact ih found

end Bytes

namespace GoldenValues

variable {values : GoldenValues}

/-- The values of a data type with given bits.  Values of a block format have no bits of their
own. -/
def ofWords? : DataType → List Nat → Option GoldenValues
  | .float32, words => some (.float32 (words.map fun word => ⟨UInt32.ofNat word⟩))
  | .float16, words => some (.float16 (words.map UInt16.ofNat))
  | .bfloat16, words => some (.bfloat16 (words.map UInt16.ofNat))
  | .int32, words => some (.int32 (words.map fun word => (UInt32.ofNat word).toInt32))
  | .uint32, words => some (.uint32 (words.map UInt32.ofNat))
  | .uint16, words => some (.uint16 (words.map UInt16.ofNat))
  | .uint8, words => some (.uint8 (words.map UInt8.ofNat))
  | .blockFloat8, _ | .blockBFloat8, _ | .blockFloat4, _ | .blockBFloat4, _ | .blockFloat2, _
  | .blockBFloat2, _ => none

theorem ofWords?_words (values : GoldenValues) :
    ofWords? values.dataType values.words = some values := by
  cases values <;>
    simp only [ofWords?, dataType, words, List.map_map, Function.comp_def, UInt32.ofNat_toNat,
      UInt16.ofNat_toNat, UInt8.ofNat_toNat, Int32.toInt32_toUInt32, List.map_id_fun', id]

theorem scalarBytes?_dataType (values : GoldenValues) :
    values.dataType.scalarBytes? = some values.width := by
  cases values <;> rfl

theorem words_lt_capacity : ∀ word ∈ values.words, word < Bytes.capacity values.width := by
  cases values <;> simp only [words, List.forall_mem_map] <;> intro value _
  case float32 => exact value.bits.toNat_lt
  case int32 => exact value.toUInt32.toNat_lt
  all_goals exact value.toNat_lt

/-- Each value is in the bytes at its place, with the least significant byte first. -/
theorem slice_bytes {place word : Nat} (found : values.words[place]? = some word) :
    Bytes.slice values.width values.bytes place = Bytes.littleEndian values.width word :=
  Bytes.slice_flatMap_littleEndian found

theorem toNat_slice_bytes {place word : Nat} (found : values.words[place]? = some word) :
    Bytes.toNat (Bytes.slice values.width values.bytes place) = word := by
  rw [slice_bytes found]
  exact Bytes.toNat_littleEndian (words_lt_capacity word (List.mem_of_getElem? found))

/-- The numbers at all places are the values as they were given. -/
theorem map_toNat_slice_bytes (values : GoldenValues) :
    (List.range values.words.length).map
        (fun place => Bytes.toNat (Bytes.slice values.width values.bytes place)) =
      values.words := by
  apply List.ext_getElem?
  intro place
  by_cases inside : place < values.words.length
  · have found := List.getElem?_eq_getElem inside
    rw [List.getElem?_map, List.getElem?_range inside, Option.map_some, toNat_slice_bytes found,
      found]
  · have outside := Nat.not_lt.mp inside
    rw [List.getElem?_eq_none outside, List.getElem?_eq_none (by simpa using outside)]

end GoldenValues

/-! ## Tensors -/

namespace GoldenTensor

variable {name : String} {shape : List Int64} {values : GoldenValues} {tensor : GoldenTensor}

/-- A tensor has the given values at the places of its shape, in lexicographic order. -/
structure RowMajor (shape : List Int64) (values : GoldenValues) (tensor : GoldenTensor) :
    Prop where
  sizes : tensor.shape = shape
  enumerates : Enumerates shape tensor.stride values.words.length
  dataType : tensor.dataType = values.dataType
  width : tensor.dataType.scalarBytes? = some values.width
  length : tensor.data.length = values.words.length * values.width
  /-- Each value has its own bytes, least significant first. -/
  slices : ∀ offset word, values.words[offset]? = some word →
    Bytes.slice values.width tensor.data offset = Bytes.littleEndian values.width word
  /-- All values are read back bit for bit. -/
  decoded : GoldenValues.ofWords? tensor.dataType
      ((List.range values.words.length).map
        fun offset => Bytes.toNat (Bytes.slice values.width tensor.data offset)) =
    some values

theorem ofValues_eq_ok_iff :
    ofValues name shape values = .ok tensor ↔
      places? shape = some values.words.length ∧
        tensor =
          { name, shape, stride := rowMajorStrides shape
            dataType := values.dataType, data := values.bytes } := by
  rw [ofValues]
  split
  · rename_i counted
    rw [Except.ok.injEq, eq_comm, and_iff_right counted]
  · rename_i other
    exact iff_of_false (fun made => nomatch made) fun made => other made.1

/-- Where no dimension is empty, a tensor is made exactly if there is one value for each place.
It then has the values in row-major order. -/
theorem ofValues_rowMajor (positive : ∀ size ∈ shape, 1 ≤ size.toInt)
    (small : values.words.length < 2 ^ 63) :
    ((∃ tensor, ofValues name shape values = .ok tensor) ↔
        (shape.map Int64.toInt).prod = values.words.length) ∧
      ∀ tensor, ofValues name shape values = .ok tensor → tensor.RowMajor shape values := by
  have counted_iff : places? shape = some values.words.length ↔
      (shape.map Int64.toInt).prod = values.words.length :=
    places?_eq_some_iff positive (by omega)
  constructor
  · rw [← counted_iff]
    simp only [ofValues_eq_ok_iff, exists_and_left, exists_eq, and_true]
  · intro tensor made
    obtain ⟨counted, rfl⟩ := ofValues_eq_ok_iff.mp made
    refine
      { sizes := rfl
        enumerates := enumerates_rowMajorStrides positive (counted_iff.mp counted) small
        dataType := rfl
        width := values.scalarBytes?_dataType
        length := Bytes.length_flatMap_littleEndian
        slices := fun _ _ => GoldenValues.slice_bytes
        decoded := ?_ }
    rw [values.map_toNat_slice_bytes]
    exact values.ofWords?_words

/-- Two rows of three numbers. -/
def twoRows : GoldenValues :=
  .int32 [1, -2, 3, 4, 5, 6]

theorem ofValues_rowMajor_twoRows :
    ((∀ size ∈ ([2, 3] : List Int64), 1 ≤ size.toInt) ∧ twoRows.words.length < 2 ^ 63) ∧
      ∃ tensor, ofValues "loss" [2, 3] twoRows = .ok tensor ∧ tensor.RowMajor [2, 3] twoRows := by
  have positive : ∀ size ∈ ([2, 3] : List Int64), 1 ≤ size.toInt := by simp
  have small : twoRows.words.length < 2 ^ 63 := by decide
  have exists_iff : (∃ tensor, ofValues "loss" [2, 3] twoRows = .ok tensor) ↔
      (([2, 3] : List Int64).map Int64.toInt).prod = twoRows.words.length :=
    (ofValues_rowMajor positive small).1
  obtain ⟨tensor, made⟩ := exists_iff.mpr (by decide)
  exact ⟨⟨positive, small⟩, tensor, made, (ofValues_rowMajor positive small).2 tensor made⟩

end GoldenTensor

end Tilework
