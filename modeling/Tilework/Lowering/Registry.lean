import Tilework.Artifact.Enumeration
import Tilework.Artifact.OperationRecord
import Tilework.Lowering.Error

/-!
# The registry of encodings

The records of two kinds of operations differ in their tags, or, within a
family, in the number of the member.  The registry check confirms this for every
kind.
-/

namespace Tilework

open Artifact

namespace OperationKind

/-- The tag of the records of a kind. -/
def tag : OperationKind → Nat
  | getDevice => 1
  | toMemoryConfig => 2
  | toLayout => 3
  | toDType => 4
  | typecast => 5
  | toDevice => 6
  | fromDevice => 7
  | empty => 8
  | full => 9
  | arange => 10
  | zeros => 11
  | ones => 12
  | elementwise _ => 13
  | linear => 14
  | matmul => 15
  | cumulativeSum => 16
  | reduction _ => 17
  | product => 18
  | embedding => 19
  | embeddingBackward => 20
  | repeatInterleave => 21
  | softmax => 22
  | transpose => 23
  | convolution => 24
  | transposedConvolution => 25
  | allGather => 26
  | reduceScatter => 27
  | meshShard => 28
  | concat => 29
  | reshape => 30
  | repeatTensor => 31
  | pad => 32
  | slice => 33
  | maxPool => 34
  | deallocate => 35
  | updateCache => 36
  | fillCache => 37
  | permute => 38
  | upsample => 39

/-- The number of a kind within its family. -/
def member? : OperationKind → Option Int32
  | elementwise kind => some (Coded.of kind).number
  | reduction kind => some (Coded.of kind).number
  | _ => none

/-- What tells the records of a kind from all others. -/
def code (kind : OperationKind) : Nat × Option Int32 :=
  (kind.tag, kind.member?)

/-- Add the code of a kind to the codes of others.  It has to be a new one with
the tag of some record. -/
def addCode (codes : List (Nat × Option Int32)) (kind : OperationKind) :
    Except LoweringError (List (Nat × Option Int32)) :=
  if kind.tag ∈ OperationRecord.tags ∧ kind.code ∉ codes then .ok (kind.code :: codes)
  else .error (.missingEncoder kind.title)

end OperationKind

/-- Check that every kind of operation has an encoding of its own. -/
def checkRegistry : Except LoweringError Unit :=
  (OperationKind.all.foldlM OperationKind.addCode []).map fun _ => ()

end Tilework
