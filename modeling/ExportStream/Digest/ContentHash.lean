import ExportStream.Digest.Sha256
import ExportStream.Digest.Base64
import ExportStream.Text.Utf8
/-!
# Content hashes

The name of a payload by its content: its SHA-256 digest in base64. A payload that arrives in parts
is hashed as the parts joined.
-/

namespace ExportStream.Digest

/-- The content hash of a payload. -/
def contentHash (payload : List UInt8) : String :=
  Text.Utf8.lossy (Base64.encode (sha256 payload))

/-- The content hash of a payload that arrives in parts. -/
def contentHashOfParts (parts : List (List UInt8)) : String := contentHash parts.flatten

end ExportStream.Digest
