/-!
# Byte strings

Binary artifacts are lists of bytes.  A fixed number of bytes holds a number
with its least significant byte first.
-/

namespace Tilework

/-- A byte string. -/
abbrev Bytes := List UInt8

namespace Bytes

/-- The lowest `width` bytes of `n`, least significant first. -/
def littleEndian : (width : Nat) → (n : Nat) → Bytes
  | 0, _ => []
  | width + 1, n => n.toUInt8 :: littleEndian width (n / 256)

/-- How many numbers `width` bytes can hold. -/
def capacity : (width : Nat) → Nat
  | 0 => 1
  | width + 1 => 256 * capacity width

/-- The number that `bytes` holds, least significant byte first. -/
def toNat : Bytes → Nat
  | [] => 0
  | byte :: rest => byte.toNat + 256 * toNat rest

/-- The first `count` bytes and the bytes after them, when there are that many. -/
def split? (count : Nat) (bytes : Bytes) : Option (Bytes × Bytes) :=
  let (front, rest) := bytes.splitAt count
  if front.length = count then some (front, rest) else none

/-- The text that `bytes` spell in UTF-8. -/
def text? (bytes : Bytes) : Option String :=
  String.fromUTF8? ⟨bytes.toArray⟩

/-- The UTF-8 spelling of `text`. -/
def ofText (text : String) : Bytes :=
  text.toUTF8.data.toList

@[simp]
theorem length_littleEndian (width n : Nat) : (littleEndian width n).length = width := by
  induction width generalizing n with
  | zero => rfl
  | succ width ih => simp [littleEndian, ih]

/-- A number that fits in `width` bytes is read back from them. -/
theorem toNat_littleEndian {width n : Nat} (fits : n < capacity width) :
    toNat (littleEndian width n) = n := by
  induction width generalizing n with
  | zero => simp only [capacity] at fits; simp only [littleEndian, toNat]; omega
  | succ width ih =>
      have quotient : n / 256 < capacity width := by
        simp only [capacity] at fits
        omega
      simp only [littleEndian, toNat, ih quotient, Nat.toUInt8, UInt8.toNat_ofNat']
      omega

theorem toNat_lt_capacity (bytes : Bytes) : toNat bytes < capacity bytes.length := by
  induction bytes with
  | nil => exact Nat.zero_lt_one
  | cons byte rest ih =>
      have least := byte.toNat_lt
      simp only [toNat, List.length_cons, capacity]
      omega

/-- Each number is held by no other bytes of the same width. -/
theorem littleEndian_toNat (bytes : Bytes) : littleEndian bytes.length (toNat bytes) = bytes := by
  induction bytes with
  | nil => rfl
  | cons byte rest ih =>
      have least := byte.toNat_lt
      have quotient : (byte.toNat + 256 * toNat rest) / 256 = toNat rest := by omega
      have lowest : (byte.toNat + 256 * toNat rest).toUInt8 = byte := by
        apply UInt8.toNat_inj.mp
        simp only [Nat.toUInt8, UInt8.toNat_ofNat']
        omega
      simp only [toNat, List.length_cons, littleEndian, quotient, lowest, ih]

/-- Splitting succeeds exactly when the bytes are the two parts in order. -/
theorem split?_eq_some_iff {count : Nat} {bytes front rest : Bytes} :
    split? count bytes = some (front, rest) ↔
      bytes = front ++ rest ∧ front.length = count := by
  simp only [split?, List.splitAt_eq]
  constructor
  · intro found
    split at found
    · rename_i enough
      simp only [Option.some.injEq, Prod.mk.injEq] at found
      obtain ⟨rfl, rfl⟩ := found
      exact ⟨(List.take_append_drop count bytes).symm, enough⟩
    · cases found
  · rintro ⟨rfl, rfl⟩
    simp

@[simp]
theorem text?_ofText (text : String) : text? (ofText text) = some text := by
  have whole : (⟨text.toUTF8.data.toList.toArray⟩ : ByteArray) = text.toByteArray := by
    simp
  simp only [text?, ofText, whole, String.fromUTF8?]
  rw [dif_pos text.isValidUTF8]
  rfl

end Bytes

end Tilework
