import Tilework.Artifact.Record
import Tilework.Lowering.Narrow

/-!
# Meshes of devices

The mesh of a device decides which mesh the program opens, and how tensors are
distributed over it.  On a single device nothing is distributed; on a line of
devices tensors are cut along their last dimension, and on a proper mesh across
both of its dimensions.
-/

namespace Tilework

open Artifact

namespace DeviceType

/-- The number of devices in the mesh. -/
def meshVolume (type : DeviceType) : Except LoweringError Int64 :=
  match type.meshVolume? with
  | some volume => .ok volume
  | none => .error (.meshTooLarge type.mesh)

/-- The mesh that a program opens for a device. -/
def openedMesh (type : DeviceType) : Except LoweringError Extent := do
  let volume ← type.meshVolume
  if volume.toInt ≤ 1 then pure { y := 1, x := 1 }
  else
    match type.mesh with
    | [columns] => do
        let x ← Number.toInt32 "mesh columns" columns.toInt
        pure { y := 1, x }
    | [rows, columns] => do
        let y ← Number.toInt32 "mesh rows" rows.toInt
        let x ← Number.toInt32 "mesh columns" columns.toInt
        pure { y, x }
    | mesh => throw (.unsupportedMeshRank mesh)

end DeviceType

namespace TensorType

/-- Cut a tensor along its last dimension. -/
def cutLast (type : TensorType) : Except LoweringError Distribution :=
  if type.rank = 0 then .error .scalarTensorSharding
  else .ok (.line { dimension := UInt32.ofNat (type.rank - 1) })

/-- How a tensor is distributed over a mesh of more than one device. -/
def distribution (type : TensorType) (mesh : List Int64) :
    Except LoweringError Distribution :=
  match mesh with
  | [_] => type.cutLast
  | [rows, columns] =>
      if rows = 1 ∨ columns = 1 then type.cutLast
      else do
        let y ← Number.toInt32 "mesh rows" rows.toInt
        let x ← Number.toInt32 "mesh columns" columns.toInt
        pure (.mesh { mesh := some { y, x } })
  | mesh => .error (.unsupportedMeshRank mesh)

/-- How a tensor is distributed over a device, and the number of its shards. -/
def strategy (type : TensorType) (device : Option DeviceType) :
    Except LoweringError (Strategy × UInt32) :=
  match device with
  | none => .ok ({}, 1)
  | some device => do
      let volume ← device.meshVolume
      let shards ← Number.toUInt32 "mesh volume" volume.toInt
      if shards = 1 then pure ({}, shards)
      else do
        let distribution ← type.distribution device.mesh
        pure ({ distribution := some distribution }, shards)

end TensorType

end Tilework
