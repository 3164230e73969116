import Tilework.Bytes

/-!
# Base-128 numbers

A 64-bit word is written in at most ten groups of seven bits, least significant
first; every group but the last has the high bit of its byte set.  A reader also
accepts a number in more groups than it needs, as long as there are at most ten
and the tenth, which has a single bit to give, is at most one.
-/

namespace Tilework.Wire.Varint

/-- Write `n` in at most `more + 1` groups. -/
def groups : (more : Nat) → (n : Nat) → Bytes
  | 0, n => [n.toUInt8]
  | more + 1, n =>
      if n < 128 then [n.toUInt8] else (n % 128 + 128).toUInt8 :: groups more (n / 128)

/-- How many numbers fit in `more + 1` groups, the last of which is bounded by
one. -/
def capacity : (more : Nat) → Nat
  | 0 => 2
  | more + 1 => 128 * capacity more

/-- The written form of a word. -/
def encode (word : UInt64) : Bytes :=
  groups 9 word.toNat

/-- Read a number of at most `more + 1` groups.  The last possible group is
bounded by one. -/
def readGroups : (more : Nat) → Bytes → Option (Nat × Bytes)
  | _, [] => none
  | 0, byte :: rest => if byte.toNat ≤ 1 then some (byte.toNat, rest) else none
  | more + 1, byte :: rest =>
      if byte.toNat < 128 then some (byte.toNat, rest)
      else
        (readGroups more rest).map fun (high, rest) =>
          (byte.toNat - 128 + 128 * high, rest)

/-- Read a word, and return the bytes after it. -/
def read (bytes : Bytes) : Option (UInt64 × Bytes) :=
  (readGroups 9 bytes).map fun (n, rest) => (UInt64.ofNat n, rest)

/-! ## Laws -/

/-- What is written in groups is read back, whatever follows it. -/
theorem readGroups_groups {more n : Nat} (rest : Bytes) (fits : n < capacity more) :
    readGroups more (groups more n ++ rest) = some (n, rest) := by
  induction more generalizing n with
  | zero =>
      simp only [capacity] at fits
      have small : n ≤ 1 := by omega
      have byte : n.toUInt8.toNat = n := by simp [Nat.toUInt8]; omega
      simp [groups, readGroups, byte, small]
  | succ more ih =>
      unfold groups
      split
      · rename_i small
        have byte : n.toUInt8.toNat = n := by simp [Nat.toUInt8]; omega
        simp [readGroups, byte, small]
      · rename_i large
        have byte : (n % 128 + 128).toUInt8.toNat = n % 128 + 128 := by
          simp [Nat.toUInt8]; omega
        have high : n / 128 < capacity more := by
          simp only [capacity] at fits
          omega
        have notLast : ¬ n % 128 + 128 < 128 := by omega
        simp only [List.cons_append, readGroups, byte, notLast, if_false, ih high,
          Option.map_some, Option.some.injEq, Prod.mk.injEq, and_true]
        omega

/-- A written word is read back, whatever follows it. -/
theorem read_encode (word : UInt64) (rest : Bytes) :
    read (encode word ++ rest) = some (word, rest) := by
  have fits : word.toNat < capacity 9 := word.toNat_lt
  simp [read, encode, readGroups_groups rest fits]

/-- Reading in groups takes at least one byte. -/
theorem length_lt_of_readGroups {more n : Nat} {bytes rest : Bytes}
    (found : readGroups more bytes = some (n, rest)) : rest.length < bytes.length := by
  induction more generalizing n bytes rest with
  | zero =>
      cases bytes with
      | nil => simp [readGroups] at found
      | cons byte tail =>
          simp only [readGroups] at found
          split at found
          · simp only [Option.some.injEq, Prod.mk.injEq] at found
            simp [found.2]
          · cases found
  | succ more ih =>
      cases bytes with
      | nil => simp [readGroups] at found
      | cons byte tail =>
          simp only [readGroups] at found
          split at found
          · simp only [Option.some.injEq, Prod.mk.injEq] at found
            simp [found.2]
          · simp only [Option.map_eq_some_iff, Prod.exists, Prod.mk.injEq] at found
            obtain ⟨high, later, foundHigh, _, rfl⟩ := found
            have shorter := ih foundHigh
            simp only [List.length_cons]
            omega

/-- Reading a word takes at least one byte. -/
theorem length_lt_of_read {word : UInt64} {bytes rest : Bytes}
    (found : read bytes = some (word, rest)) : rest.length < bytes.length := by
  simp only [read, Option.map_eq_some_iff, Prod.exists, Prod.mk.injEq] at found
  obtain ⟨n, later, foundGroups, _, rfl⟩ := found
  exact length_lt_of_readGroups foundGroups

end Tilework.Wire.Varint
