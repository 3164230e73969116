/-!
# Binary32 numbers

A single precision number is kept as its 32 bits, so that equality is equality
of bits: payloads of not-a-number values and the sign of zero are never lost.
The only arithmetic needed is the rounding of an integer.
-/

namespace Tilework

/-- A binary32 number, given by its bits. -/
structure Single where
  bits : UInt32
  deriving DecidableEq, Inhabited

namespace Single

/-- The weight of the sign bit, which is the highest of the 32. -/
def signWeight : Nat := 0x80000000

/-- The weight of the lowest exponent bit, which is also the number of fractions
that share an exponent. -/
def exponentWeight : Nat := 0x800000

/-- Positive zero. -/
def zero : Single := ⟨0⟩

/-- Whether the number is zero, of either sign. -/
def isZero (x : Single) : Bool :=
  x.bits.toNat % signWeight == 0

/-- Whether the sign bit is set. -/
def isNegative (x : Single) : Bool :=
  signWeight ≤ x.bits.toNat

/-- The biased exponent, from 0 to 255. -/
def exponentField (x : Single) : Nat :=
  x.bits.toNat / exponentWeight % 256

/-- The 23 stored bits of the significand. -/
def fractionField (x : Single) : Nat :=
  x.bits.toNat % exponentWeight

/-- The magnitude bits of the binary32 number nearest to `n`; of two equally
near numbers, the one with an even significand.  A significand that rounds up
to a power of two carries into the exponent, as it should. -/
def magnitudeBits (n : Nat) : Nat :=
  if n = 0 then 0
  else
    let top := n.log2
    if top ≤ 23 then (top + 126) * exponentWeight + n <<< (23 - top)
    else
      let unit := 1 <<< (top - 23)
      let floor := n / unit
      let remainder := 2 * (n % unit)
      let up := unit < remainder ∨ (remainder = unit ∧ floor % 2 = 1)
      (top + 126) * exponentWeight + (if up then floor + 1 else floor)

/-- The binary32 number nearest to the integer `n`. -/
def ofInt (n : Int) : Single :=
  ⟨UInt32.ofNat ((if n < 0 then signWeight else 0) + magnitudeBits n.natAbs)⟩

end Single

end Tilework
