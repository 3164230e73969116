import Tilework.Artifact.Schema
import Tilework.Artifact.Verification
import Tilework.Digest.Sha256

/-!
# Frames

A framed artifact is the length of what follows in four bytes, least significant
byte first, the identifier `TTNB`, the digest of the payload, and the payload: the
artifact in its wire format.  The digest exposes a damaged payload before it is
decoded.
-/

namespace Tilework.Artifact

/-- The identifier at the start of every frame. -/
def identifier : Bytes :=
  [0x54, 0x54, 0x4e, 0x42]

/-- The bytes of the length itself. -/
def lengthBytes : Nat := 4

/-- The bytes of a digest. -/
def digestBytes : Nat := 32

/-- The bytes before the payload: length, identifier and digest. -/
def headerBytes : Nat :=
  lengthBytes + identifier.length + digestBytes

/-- A payload in its frame. -/
def frame (payload : Bytes) : Bytes :=
  Bytes.littleEndian lengthBytes (headerBytes - lengthBytes + payload.length) ++
    identifier ++ Sha256.digest payload ++ payload

/-- The framed form of an artifact, unless its length does not fit in 32 bits. -/
def Binary.toFrame (binary : Binary) : Except ArtifactError Bytes :=
  let payload := Wire.Message.encode binary
  if headerBytes - lengthBytes + payload.length < UInt32.size then .ok (frame payload)
  else .error (.payloadTooLarge payload.length)

/-- The length of the frame that `buffer` starts with, its length field
included. -/
def frameLength (buffer : Bytes) : Except ArtifactError Nat :=
  match Bytes.split? lengthBytes buffer with
  | some (length, _) => .ok (Bytes.toNat length + lengthBytes)
  | none => .error (.truncatedBuffer buffer.length)

/-- Decode the payload of a frame. -/
def Binary.ofPayload (payload : Bytes) : Except ArtifactError Binary :=
  match Wire.Message.decode? payload with
  | some binary => .ok binary
  | none => .error .undecodable

/-- Check the frame of `buffer`, decode its payload, and verify the result. -/
def Binary.ofFrame (buffer : Bytes) : Except ArtifactError Binary := do
  if buffer.length < headerBytes then throw (.truncatedBuffer buffer.length)
  let length ← frameLength buffer
  if length ≠ buffer.length then
    throw (.lengthMismatch (length - lengthBytes) (buffer.length - lengthBytes))
  let (found, rest) := (buffer.drop lengthBytes).splitAt identifier.length
  if found ≠ identifier then throw (.unknownIdentifier found)
  let (digest, payload) := rest.splitAt digestBytes
  if Sha256.digest payload ≠ digest then throw .digestMismatch
  let binary ← Binary.ofPayload payload
  binary.verify
  pure binary

end Tilework.Artifact
