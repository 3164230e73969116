/-!
# Integers that fit a word

Shapes and coordinates are exact integers until they are stored.  The functions
here store an integer in a word exactly when the word can hold it, and multiply
a list of 64-bit integers without ever wrapping around.
-/

namespace Tilework.Number

/-- The 32-bit signed word that holds `n`. -/
def int32? (n : Int) : Option Int32 :=
  if (Int32.ofInt n).toInt = n then some (Int32.ofInt n) else none

/-- The 64-bit signed word that holds `n`. -/
def int64? (n : Int) : Option Int64 :=
  if (Int64.ofInt n).toInt = n then some (Int64.ofInt n) else none

/-- The 32-bit unsigned word that holds `n`. -/
def uint32? (n : Int) : Option UInt32 :=
  if (UInt32.ofNat n.toNat).toNat = n then some (UInt32.ofNat n.toNat) else none

/-- The product of `sizes`, taken from left to right.  There is none when some
product along the way does not fit in 64 bits, even if a later zero would bring
it back into range. -/
def product? (sizes : List Int64) : Option Int64 :=
  sizes.foldlM (fun volume size => int64? (volume.toInt * size.toInt)) 1

theorem int32?_eq_some_iff {n : Int} {word : Int32} :
    int32? n = some word ↔ word.toInt = n := by
  unfold int32?
  constructor
  · intro stored
    split at stored
    · rename_i fits
      cases stored
      exact fits
    · cases stored
  · rintro rfl
    simp

theorem int64?_eq_some_iff {n : Int} {word : Int64} :
    int64? n = some word ↔ word.toInt = n := by
  unfold int64?
  constructor
  · intro stored
    split at stored
    · rename_i fits
      cases stored
      exact fits
    · cases stored
  · rintro rfl
    simp

end Tilework.Number
