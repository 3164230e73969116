import Tilework.Number.Single

/-!
# Shortest decimal text

A binary32 number is written with the fewest decimal digits that read back as
the same number, and always in positional notation.  The reals that round to a
number form an interval around it, closed exactly when the significand is even.
Grids of multiples of a power of ten are tried from the coarsest to the finest;
the first grid with a point in the interval gives the digits.  Of two such
points the nearer one is taken, and of two equally near ones the greater.
-/

namespace Tilework.Single

/-- A magnitude together with the interval of reals that round to it, all three
counted in units of `2 ^ scale`. -/
structure Magnitude where
  center : Nat
  lower : Nat
  upper : Nat
  closed : Bool
  scale : Int

/-- The magnitude of a finite number.  Below a power of two the neighbouring
numbers are twice as dense, so the lower half of the interval shrinks. -/
def magnitude (x : Single) : Magnitude :=
  let exponent := x.exponentField
  let fraction := x.fractionField
  let significand := if exponent = 0 then fraction else fraction + exponentWeight
  let tight := fraction = 0 ∧ 1 < exponent
  { center := 4 * significand
    lower := 4 * significand - (if tight then 1 else 2)
    upper := 4 * significand + 2
    closed := significand % 2 == 0
    scale := (max exponent 1 : Nat) - 152 }

/-- The ratio between a power of ten and a power of two, as numerator and
denominator. -/
def stepRatio (decimal binary : Int) : Nat × Nat :=
  (Nat.pow 10 decimal.toNat <<< (-binary).toNat, Nat.pow 10 (-decimal).toNat <<< binary.toNat)

/-- Whether `count` steps of the ratio `step` lie in the interval of `m`. -/
def Magnitude.contains (m : Magnitude) (step : Nat × Nat) (count : Nat) : Bool :=
  let point := count * step.1
  if m.closed then m.lower * step.2 ≤ point && point ≤ m.upper * step.2
  else m.lower * step.2 < point && point < m.upper * step.2

/-- The multiple of `10 ^ decimal` in the interval of `m` that is nearest to its
center, when there is one.  A tie goes to the greater multiple. -/
def Magnitude.nearest? (m : Magnitude) (decimal : Int) : Option Nat :=
  let step := stepRatio decimal m.scale
  let below := m.center * step.2 / step.1
  let offset := m.center * step.2 % step.1
  match m.contains step below, m.contains step (below + 1) with
  | true, true => some (if 2 * offset < step.1 then below else below + 1)
  | true, false => some below
  | false, true => some (below + 1)
  | false, false => none

/-- The decimal exponents of the grids, from the coarsest to the finest that a
binary32 number can need. -/
def gridExponents : List Int :=
  (List.range 84).map fun (index : Nat) => 38 - (index : Int)

/-- The shortest digits of a finite nonzero magnitude, and the decimal exponent
of their last place. -/
def Magnitude.shortest (m : Magnitude) : Nat × Int :=
  (gridExponents.findSome? fun exponent =>
    (m.nearest? exponent).map fun digits => (digits, exponent)).getD (0, 0)

/-- `digits` times a power of ten, without an exponent. -/
def positional (digits : Nat) (exponent : Int) : String :=
  if 0 ≤ exponent then toString (digits * Nat.pow 10 exponent.toNat)
  else
    let places := (-exponent).toNat
    let unit := Nat.pow 10 places
    let fraction := toString (digits % unit)
    let zeros := String.ofList (List.replicate (places - fraction.length) '0')
    toString (digits / unit) ++ "." ++ zeros ++ fraction

/-- The shortest text of a number. -/
def text (x : Single) : String :=
  if x.exponentField = 255 ∧ x.fractionField ≠ 0 then "NaN"
  else
    let sign := if x.isNegative then "-" else ""
    if x.exponentField = 255 then sign ++ "inf"
    else if x.isZero then sign ++ "0"
    else
      let (digits, exponent) := x.magnitude.shortest
      sign ++ positional digits exponent

end Tilework.Single
