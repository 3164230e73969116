import Tilework.Artifact.Binary
import Tilework.Artifact.Enumeration
import Tilework.Artifact.Error
import Tilework.Artifact.Frame
import Tilework.Artifact.OperationRecord
import Tilework.Artifact.Record
import Tilework.Artifact.RecordSchema
import Tilework.Artifact.Schema
import Tilework.Artifact.Verification
import Tilework.Bytes
import Tilework.Device.MemoryConfig
import Tilework.Device.System
import Tilework.Device.Target
import Tilework.Digest.Sha256
import Tilework.Lowering.Cores
import Tilework.Lowering.Descriptor
import Tilework.Lowering.Encoding
import Tilework.Lowering.Error
import Tilework.Lowering.Golden
import Tilework.Lowering.Interner
import Tilework.Lowering.Linking
import Tilework.Lowering.Mesh
import Tilework.Lowering.Narrow
import Tilework.Lowering.Options
import Tilework.Lowering.Program
import Tilework.Lowering.Reference
import Tilework.Lowering.Registry
import Tilework.Module.Basic
import Tilework.Module.Build
import Tilework.Module.Printer
import Tilework.Number.Checked
import Tilework.Number.Shortest
import Tilework.Number.Single
import Tilework.Operation.Basic
import Tilework.Operation.Kind
import Tilework.Operation.Signature
import Tilework.Proofs.Artifact.Checks
import Tilework.Proofs.Artifact.Codec
import Tilework.Proofs.Artifact.Concatenation
import Tilework.Proofs.Artifact.Extension
import Tilework.Proofs.Artifact.Framing
import Tilework.Proofs.Artifact.Merge
import Tilework.Proofs.Artifact.RecordCodec
import Tilework.Proofs.Artifact.RoundTrip
import Tilework.Proofs.Artifact.Slots
import Tilework.Proofs.Artifact.Stream
import Tilework.Proofs.Artifact.Tampering
import Tilework.Proofs.Artifact.WellFormed
import Tilework.Proofs.Lowering.Aliases
import Tilework.Proofs.Lowering.Attributes
import Tilework.Proofs.Lowering.BlockFloat
import Tilework.Proofs.Lowering.Buffers
import Tilework.Proofs.Lowering.Chains
import Tilework.Proofs.Lowering.Closure
import Tilework.Proofs.Lowering.Completeness
import Tilework.Proofs.Lowering.Cores
import Tilework.Proofs.Lowering.Descriptions
import Tilework.Proofs.Lowering.Destinations
import Tilework.Proofs.Lowering.Errors
import Tilework.Proofs.Lowering.Extension
import Tilework.Proofs.Lowering.Golden
import Tilework.Proofs.Lowering.GoldenOrder
import Tilework.Proofs.Lowering.Handles
import Tilework.Proofs.Lowering.Interner
import Tilework.Proofs.Lowering.Linking
import Tilework.Proofs.Lowering.Locality
import Tilework.Proofs.Lowering.Memory
import Tilework.Proofs.Lowering.Mesh
import Tilework.Proofs.Lowering.Nesting
import Tilework.Proofs.Lowering.Numbering
import Tilework.Proofs.Lowering.Parameters
import Tilework.Proofs.Lowering.Presence
import Tilework.Proofs.Lowering.Program
import Tilework.Proofs.Lowering.References
import Tilework.Proofs.Lowering.Renaming
import Tilework.Proofs.Lowering.Repetition
import Tilework.Proofs.Lowering.Requests
import Tilework.Proofs.Lowering.Scoping
import Tilework.Proofs.Lowering.Sharing
import Tilework.Proofs.Lowering.Structure
import Tilework.Proofs.Lowering.Success
import Tilework.Proofs.Lowering.Tables
import Tilework.Proofs.Lowering.Tags
import Tilework.Proofs.Lowering.Tasks
import Tilework.Proofs.Lowering.Verification
import Tilework.Proofs.Module.Acceptance
import Tilework.Proofs.Module.Growth
import Tilework.Proofs.Module.Printing
import Tilework.Proofs.Module.Root
import Tilework.Proofs.Module.WellFormed
import Tilework.Proofs.Number
import Tilework.Proofs.Run
import Tilework.Proofs.Sharding.Annotation
import Tilework.Proofs.Sharding.Assignment
import Tilework.Proofs.Sharding.Completion
import Tilework.Proofs.Sharding.Failure
import Tilework.Proofs.Sharding.Grammar
import Tilework.Proofs.Sharding.Inference
import Tilework.Proofs.Sharding.Reading
import Tilework.Proofs.Sharding.Rules
import Tilework.Proofs.Sharding.Turns
import Tilework.Proofs.Sharding.WholeTensor
import Tilework.Proofs.Sharding.Writing
import Tilework.Proofs.Text
import Tilework.Proofs.Wire.Concatenation
import Tilework.Proofs.Wire.Message
import Tilework.Proofs.Wire.Token
import Tilework.Sharding.Annotation
import Tilework.Sharding.Basic
import Tilework.Sharding.Dimensions
import Tilework.Tensor.DataType
import Tilework.Tensor.Placement
import Tilework.Tensor.ValueType
import Tilework.Text
import Tilework.Wire.Message
import Tilework.Wire.Token
import Tilework.Wire.Varint
