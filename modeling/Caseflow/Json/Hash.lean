import Caseflow.Digest.Sha256
import Caseflow.Json.Text

/-!
# Content hashes

The hash of a document is the SHA-256 digest of its canonical text.
-/
namespace Caseflow.Json

def contentHash (v : Json) : String := Digest.Sha256.hex v.canonicalText

/-- The text is hashed character by character. -/
theorem contentHash_eq (v : Json) : v.contentHash =
    Digest.hexOfBytes (Digest.Sha256.digest (v.chars.flatMap String.utf8EncodeChar)) := by
  rw [contentHash, Digest.Sha256.hex, canonicalText, text, Digest.utf8_ofList]

end Caseflow.Json
