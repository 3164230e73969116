import Mathlib.Algebra.BigOperators.Group.List.Basic
import Mathlib.Algebra.Ring.Int.Defs
import Tilework.Lowering.Narrow
import Tilework.Proofs.Run

/-!
# Words and the integers they hold

A word that is stored has the value of the integer that it stores, and a product that
never leaves 64 bits is the product of the integers.
-/

namespace Tilework.Number

/-! ## Products -/

theorem toInt_of_product?_eq_some {sizes : List Int64} {total : Int64}
    (product : product? sizes = some total) :
    total.toInt = (sizes.map Int64.toInt).prod := by
  have from_start : ∀ start : Int64,
      sizes.foldlM (fun volume size => int64? (volume.toInt * size.toInt)) start =
        some total → total.toInt = start.toInt * (sizes.map Int64.toInt).prod := by
    clear product
    induction sizes with
    | nil =>
        intro start folded
        cases folded
        simp
    | cons size sizes ih =>
        intro start folded
        rw [List.foldlM_cons] at folded
        obtain ⟨next, fits, folded⟩ := Option.bind_eq_some_iff.mp folded
        rw [ih next folded, int64?_eq_some_iff.mp fits, List.map_cons, List.prod_cons,
          Int.mul_assoc]
  have whole := from_start 1 product
  rwa [Int64.toInt_one, Int.one_mul] at whole

theorem eq_of_product?_singleton {count total : Int64}
    (product : product? [count] = some total) : total = count := by
  have whole := toInt_of_product?_eq_some product
  rw [List.map_singleton, List.prod_singleton] at whole
  exact Int64.toInt_inj.mp whole

theorem product?_pair_eq_some_iff {rows columns total : Int64} :
    product? [rows, columns] = some total ↔ rows.toInt * columns.toInt = total.toInt := by
  have start : int64? (Int64.toInt 1 * rows.toInt) = some rows :=
    int64?_eq_some_iff.mpr (Int.one_mul rows.toInt).symm
  have folds : product? [rows, columns] =
      int64? (rows.toInt * columns.toInt) := by
    rw [product?, List.foldlM_cons, start, Option.bind_eq_bind, Option.bind_some]
    cases found : int64? (rows.toInt * columns.toInt) <;> simp [found]
  rw [folds, int64?_eq_some_iff, eq_comm]

/-! ## Overflow -/

/-- An integer that does not fit in 64 bits. -/
def IsWide (n : Int) : Prop :=
  n < -2 ^ 63 ∨ 2 ^ 63 ≤ n

/-- Some product of the sizes, taken from left to right, does not fit in 64 bits. -/
def Overflows (sizes : List Int64) : Prop :=
  ∃ part, part <+: sizes ∧ IsWide (part.map Int64.toInt).prod

theorem not_isWide_toInt (word : Int64) : ¬ IsWide word.toInt := by
  have least := word.le_toInt
  have greatest := word.toInt_lt
  rintro (low | high) <;> omega

theorem int64?_eq_none_iff {n : Int} : int64? n = none ↔ IsWide n := by
  constructor
  · intro unstored
    by_contra narrow
    rw [IsWide, not_or, Int.not_lt, Int.not_le] at narrow
    have stored := int64?_eq_some_iff.mpr (Int64.toInt_ofInt_of_le narrow.1 narrow.2)
    rw [unstored] at stored
    cases stored
  · intro wide
    rw [Option.eq_none_iff_forall_ne_some]
    rintro word stored
    rw [← int64?_eq_some_iff.mp stored] at wide
    exact not_isWide_toInt word wide

/-- There is no product exactly when one on the way to it does not fit. -/
theorem product?_eq_none_iff {sizes : List Int64} : product? sizes = none ↔ Overflows sizes := by
  have from_start : ∀ start : Int64,
      sizes.foldlM (fun volume size => int64? (volume.toInt * size.toInt)) start = none ↔
        ∃ part, part <+: sizes ∧ IsWide (start.toInt * (part.map Int64.toInt).prod) := by
    induction sizes with
    | nil =>
        intro start
        simp [not_isWide_toInt]
    | cons size sizes ih =>
        intro start
        have parts : (∃ part, part <+: size :: sizes ∧
              IsWide (start.toInt * (part.map Int64.toInt).prod)) ↔
            ∃ part, part <+: sizes ∧
              IsWide (start.toInt * size.toInt * (part.map Int64.toInt).prod) := by
          constructor
          · rintro ⟨part, inside, wide⟩
            rcases List.prefix_cons_iff.mp inside with rfl | ⟨later, rfl, shorter⟩
            · rw [List.map_nil, List.prod_nil, Int.mul_one] at wide
              exact absurd wide (not_isWide_toInt start)
            · rw [List.map_cons, List.prod_cons, ← Int.mul_assoc] at wide
              exact ⟨later, shorter, wide⟩
          · rintro ⟨part, inside, wide⟩
            refine ⟨size :: part, List.cons_prefix_cons.mpr ⟨rfl, inside⟩, ?_⟩
            rwa [List.map_cons, List.prod_cons, ← Int.mul_assoc]
        rw [parts, List.foldlM_cons]
        cases next : int64? (start.toInt * size.toInt) with
        | none =>
            have wide := int64?_eq_none_iff.mp next
            simp only [Option.bind_eq_bind, Option.bind_none, true_iff]
            refine ⟨[], List.nil_prefix, ?_⟩
            rwa [List.map_nil, List.prod_nil, Int.mul_one]
        | some volume =>
            rw [Option.bind_eq_bind, Option.bind_some, ih, int64?_eq_some_iff.mp next]
  have whole := from_start 1
  simp only [Int64.toInt_one, Int.one_mul] at whole
  exact whole

/-! ## Narrow words -/

theorem toInt32_eq_ok_iff {name : String} {value : Int} {word : Int32} :
    toInt32 name value = .ok word ↔ word.toInt = value := by
  rw [← int32?_eq_some_iff, toInt32]
  cases int32? value <;> simp

/-- A number that does not fit in 32 bits is reported, and no other. -/
theorem toInt32_eq_error_iff {name : String} {value : Int} {error : LoweringError} :
    toInt32 name value = .error error ↔
      (value < -2 ^ 31 ∨ 2 ^ 31 ≤ value) ∧ error = .outOfRange name value := by
  rw [toInt32]
  cases stored : int32? value with
  | some word =>
      have fits := int32?_eq_some_iff.mp stored
      have least := word.le_toInt
      have greatest := word.toInt_lt
      simp only [reduceCtorEq, false_iff, not_and]
      rintro (low | high) <;> omega
  | none =>
      have wide : value < -2 ^ 31 ∨ 2 ^ 31 ≤ value := by
        by_contra narrow
        rw [not_or, Int.not_lt, Int.not_le] at narrow
        have fits := int32?_eq_some_iff.mpr (Int32.toInt_ofInt_of_le narrow.1 narrow.2)
        rw [stored] at fits
        cases fits
      simp only [Except.error.injEq, wide, true_and, eq_comm]

theorem exists_toInt_eq_iff {value : Int} :
    (∃ word : Int32, word.toInt = value) ↔ -2 ^ 31 ≤ value ∧ value < 2 ^ 31 := by
  constructor
  · rintro ⟨word, rfl⟩
    exact ⟨word.le_toInt, word.toInt_lt⟩
  · rintro ⟨low, high⟩
    exact ⟨Int32.ofInt value, Int32.toInt_ofInt_of_le low high⟩

theorem exists_toInt_eq_natCast_iff {count : Nat} :
    (∃ word : Int32, word.toInt = count) ↔ count < 2 ^ 31 := by
  rw [exists_toInt_eq_iff]
  omega

theorem toInt32s_eq_ok_iff {name : String} {values : List Int64} {words : List Int32} :
    toInt32s name values = .ok words ↔ words.map Int32.toInt = values.map Int64.toInt := by
  rw [toInt32s, mapM_eq_ok_iff, eq_comm, ← List.forall₂_eq_eq_eq, List.forall₂_map_left_iff,
    List.forall₂_map_right_iff]
  simp only [toInt32_eq_ok_iff]
  simp only [eq_comm]

theorem exists_toInt32s_iff {name : String} {values : List Int64} :
    (∃ words, toInt32s name values = .ok words) ↔
      ∀ value ∈ values, -2 ^ 31 ≤ value.toInt ∧ value.toInt < 2 ^ 31 := by
  simp only [toInt32s_eq_ok_iff]
  constructor
  · rintro ⟨words, same⟩ value member
    have held : value.toInt ∈ words.map Int32.toInt := by
      rw [same]
      exact List.mem_map_of_mem member
    obtain ⟨word, _, equal⟩ := List.mem_map.mp held
    rw [← equal]
    exact ⟨word.le_toInt, word.toInt_lt⟩
  · intro narrow
    refine ⟨values.map fun value => Int32.ofInt value.toInt, ?_⟩
    rw [List.map_map]
    apply List.map_congr_left
    intro value member
    exact Int32.toInt_ofInt_of_le (narrow value member).1 (narrow value member).2

/-- Words of different widths that have one value are both one, or neither is. -/
theorem eq_one_iff_of_toInt_eq {word : Int32} {size : Int64}
    (same : word.toInt = size.toInt) : word = 1 ↔ size = 1 := by
  rw [← Int32.toInt_inj, ← Int64.toInt_inj, same]
  rfl

theorem toNat_of_toUInt32 {name : String} {value : Int} {word : UInt32}
    (stored : toUInt32 name value = .ok word) : (word.toNat : Int) = value := by
  simp only [toUInt32, uint32?] at stored
  split at stored
  · rename_i found
    split at found
    · rename_i fits
      cases found
      cases stored
      exact fits
    · cases found
  · cases stored

end Tilework.Number
