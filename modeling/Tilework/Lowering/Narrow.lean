import Tilework.Lowering.Error
import Tilework.Number.Checked

/-!
# Numbers of an artifact

Artifacts hold most sizes and coordinates in 32 bits.  A number that does not
fit is reported together with the name of what it measures.
-/

namespace Tilework.Number

/-- Store a number in 32 bits. -/
def toInt32 (name : String) (value : Int) : Except LoweringError Int32 :=
  match int32? value with
  | some word => .ok word
  | none => .error (.outOfRange name value)

/-- Store the sizes of a shape in 32 bits. -/
def toInt32s (name : String) (values : List Int64) : Except LoweringError (List Int32) :=
  values.mapM fun value => toInt32 name value.toInt

/-- Store a number in 32 bits without a sign. -/
def toUInt32 (name : String) (value : Int) : Except LoweringError UInt32 :=
  match uint32? value with
  | some word => .ok word
  | none => .error (.outOfRange name value)

end Tilework.Number
