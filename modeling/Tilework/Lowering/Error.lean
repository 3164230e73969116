import Tilework.Artifact.Error
import Tilework.Module.Basic

/-!
# Failures of lowering

The reasons why a module, or a part of one, cannot be turned into an artifact.
-/

namespace Tilework

open Artifact

/-- Why lowering fails. -/
inductive LoweringError
  /-- A value is missing or of the wrong sort. -/
  | program (error : ModuleError)
  | unsupportedBuffer (buffer : Buffer)
  | unsupportedMeshRank (mesh : List Int64)
  | meshTooLarge (mesh : List Int64)
  | scalarTensorSharding
  | gridOutOfBounds (rows columns workerRows workerColumns : UInt32)
  | blockFloatScalar (dataType : DataType)
  /-- A number does not fit in the word that artifacts have for it. -/
  | outOfRange (name : String) (value : Int)
  | emptyDevice
  | unsupportedShardKind (kind : ShardKind)
  | missingDestination (operation : String)
  | missingEncoder (kind : String)
  | unhandledOperation (name : String)
  | notBuilt (key table : String)
  | invalidGolden (name : String) (shape : List Int64) (length expected : Nat)
  /-- The finished artifact does not pass verification. -/
  | verification (error : ArtifactError)
  deriving DecidableEq

namespace LoweringError

/-- The message of an error. -/
def message : LoweringError → String
  | program error => error.message
  | unsupportedBuffer buffer =>
      "buffer type '" ++ buffer.text ++ "' has no corresponding memory space"
  | unsupportedMeshRank mesh =>
      "only 1-D and 2-D device meshes are supported, but got mesh shape " ++ Text.sizes mesh
  | meshTooLarge mesh =>
      "device mesh " ++ Text.sizes mesh ++ " has more devices than can be represented"
  | scalarTensorSharding => "cannot shard a rank-0 tensor across a device mesh"
  | gridOutOfBounds rows columns workerRows workerColumns =>
      "tensor grid of " ++ toString rows ++ "x" ++ toString columns ++
        " cores does not fit in the " ++ toString workerRows ++ "x" ++
        toString workerColumns ++ " worker grid"
  | blockFloatScalar dataType =>
      "block floating-point data type '" ++ dataType.text ++ "' can only be stored in tiles"
  | outOfRange name value =>
      "value " ++ toString value ++ " of '" ++ name ++ "' does not fit in the binary schema"
  | emptyDevice => "device type does not list any chips"
  | unsupportedShardKind kind =>
      "mesh shard operations only support 'replicate' and 'devices' shardings, but got '" ++
        kind.text ++ "'"
  | missingDestination operation =>
      "operation '" ++ operation ++ "' requires a destination operand"
  | missingEncoder kind =>
      "no unique encoder is registered for operation kind '" ++ kind ++ "'"
  | unhandledOperation name => "operation '" ++ name ++ "' cannot be lowered"
  | notBuilt key table =>
      "object " ++ key ++ " has not been added to the '" ++ table ++ "' table"
  | invalidGolden name shape length expected =>
      "golden tensor '" ++ name ++ "' has " ++ toString length ++
        " element(s) but its shape " ++ Text.sizes shape ++ " requires " ++
        toString expected
  | verification error => "produced binary failed verification: " ++ error.message

end LoweringError

end Tilework
