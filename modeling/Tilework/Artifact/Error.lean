import Tilework.Bytes
import Tilework.Text

/-!
# Rejected artifacts

The reasons why a byte string is not accepted as an artifact.
-/

namespace Tilework.Artifact

/-- Why a byte string is rejected. -/
inductive ArtifactError
  | truncatedBuffer (length : Nat)
  | payloadTooLarge (length : Nat)
  | lengthMismatch (declared actual : Nat)
  | unknownIdentifier (found : Bytes)
  | digestMismatch
  /-- The payload does not follow the wire format. -/
  | undecodable
  | missingField (record field : String)
  | invalidHandle (table : String) (handle : UInt32) (length : Nat)
  | unknownMember (enumeration : String) (number : Int32)
  deriving DecidableEq

namespace ArtifactError

/-- The message of an error. -/
def message : ArtifactError → String
  | truncatedBuffer length =>
      "buffer of " ++ toString length ++
        " byte(s) is too short to hold a size-prefixed binary"
  | payloadTooLarge length =>
      "payload of " ++ toString length ++
        " byte(s) is too large to be framed with a 32-bit size prefix"
  | lengthMismatch declared actual =>
      "size prefix declares " ++ toString declared ++ " byte(s) but " ++ toString actual ++
        " byte(s) follow it"
  | unknownIdentifier found =>
      "unknown binary identifier " ++ Text.bracketed (found.map toString)
  | digestMismatch => "payload digest does not match the digest stored in the binary header"
  | undecodable => "failed to decode binary payload"
  | missingField record field =>
      "required field '" ++ field ++ "' of '" ++ record ++ "' is missing"
  | invalidHandle table handle length =>
      "handle " ++ toString handle ++ " is out of bounds for the '" ++ table ++
        "' table, which holds " ++ toString length ++ " record(s)"
  | unknownMember enumeration number =>
      "value " ++ toString number ++ " is not a valid '" ++ enumeration ++ "'"

end ArtifactError

end Tilework.Artifact
