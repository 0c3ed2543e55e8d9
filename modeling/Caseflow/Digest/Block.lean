import Caseflow.Json.Text

/-!
# Blocks of bytes

What the digests share: the bytes of a text, padding with the message length at the end, cutting
into chunks, and hexadecimal text.
-/
namespace Caseflow.Digest

def utf8 (text : String) : List UInt8 := text.toUTF8.data.toList

theorem utf8_ofList (cs : List Char) :
    utf8 (String.ofList cs) = cs.flatMap String.utf8EncodeChar := by
  rw [utf8, String.toUTF8, String.toByteArray_ofList, List.utf8Encode, List.data_toByteArray]

/-- The low bytes of a number, most significant first. -/
def bytesOfNat : Nat → Nat → List UInt8
  | 0, _ => []
  | count + 1, n => bytesOfNat count (n / 256) ++ [UInt8.ofNat (n % 256)]

@[simp] theorem bytesOfNat_length (count n : Nat) : (bytesOfNat count n).length = count := by
  induction count generalizing n with
  | zero => rfl
  | succ count ih => simp [bytesOfNat, ih]

/-- A message followed by a one bit, zeros, and its length in bits in `lengthBytes` bytes, as many
zeros as fill the last block. -/
def padded (blockBytes lengthBytes : Nat) (message : List UInt8) : List UInt8 :=
  let used := (message.length + 1 + lengthBytes) % blockBytes
  let zeros := (blockBytes - used) % blockBytes
  message ++ 0x80 :: (List.replicate zeros 0 ++ bytesOfNat lengthBytes (8 * message.length))

def chunksFrom {α : Type} (size : Nat) : Nat → List α → List (List α)
  | 0, _ => []
  | fuel + 1, xs => if xs.isEmpty then [] else xs.take size :: chunksFrom size fuel (xs.drop size)

/-- Consecutive pieces of a list, all of the given size but perhaps the last. -/
def chunks {α : Type} (size : Nat) (xs : List α) : List (List α) := chunksFrom size xs.length xs

def hexOfBytes (bytes : List UInt8) : String :=
  String.ofList (bytes.flatMap fun b => [hexDigit (b.toNat / 16), hexDigit (b.toNat % 16)])

end Caseflow.Digest
