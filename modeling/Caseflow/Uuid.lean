import Caseflow.Digest.Sha1
import Caseflow.Json.Reading

/-!
# Universally unique identifiers

An identifier is a 128-bit number. It prints as hyphenated lower-case hexadecimal and reads from the
hyphenated and the plain form in any case, the hyphenated one also in braces or after `urn:uuid:`.
-/
namespace Caseflow

structure Uuid where
  value : BitVec 128
deriving DecidableEq, Repr

namespace Uuid

def bytes (u : Uuid) : List UInt8 := Digest.bytesOfNat 16 u.value.toNat

def ofBytes (bs : List UInt8) : Uuid := ⟨.ofNat 128 (bs.foldl (fun n b => n * 256 + b.toNat) 0)⟩

def groups : List Nat := [8, 4, 4, 4, 12]

def hyphenate : List Nat → List Char → List Char
  | [], _ => []
  | [n], cs => cs.take n
  | n :: ns, cs => cs.take n ++ '-' :: hyphenate ns (cs.drop n)

def text (u : Uuid) : String :=
  String.ofList (hyphenate groups (Digest.hexOfBytes u.bytes).toList)

/-- The characters of a hyphenated form without its hyphens, if the hyphens stand right. -/
def unhyphenate? : List Nat → List Char → Option (List Char)
  | [], _ => none
  | [n], cs => if cs.length = n then some cs else none
  | n :: ns, cs =>
    match cs.drop n with
    | '-' :: rest => (unhyphenate? ns rest).map (cs.take n ++ ·)
    | _ => none

def ofHexDigits? (cs : List Char) : Option Uuid := do
  guard (cs.length = 32)
  let ds ← cs.mapM Json.hexValue?
  return ⟨.ofNat 128 (ds.foldl (fun n d => n * 16 + d) 0)⟩

def unbrace? : List Char → Option (List Char)
  | '\x7b' :: rest => if rest.getLast? = some '\x7d' then some rest.dropLast else none
  | _ => none

def afterUrn? : List Char → Option (List Char)
  | 'u' :: 'r' :: 'n' :: ':' :: 'u' :: 'u' :: 'i' :: 'd' :: ':' :: rest => some rest
  | _ => none

def parse? (text : String) : Option Uuid :=
  let cs := text.toList
  match cs.length with
  | 32 => ofHexDigits? cs
  | 36 => (unhyphenate? groups cs).bind ofHexDigits?
  | 38 => ((unbrace? cs).bind (unhyphenate? groups)).bind ofHexDigits?
  | 45 => ((afterUrn? cs).bind (unhyphenate? groups)).bind ofHexDigits?
  | _ => none

/-- The identifier of a name in a namespace: a digest of both with the version and variant bits. -/
def ofName (space : Uuid) (name : List UInt8) : Uuid :=
  let name := (ofBytes ((Digest.Sha1.digest (space.bytes ++ name)).take 16)).value
  let kept := name &&& ~~~((0xF#128 <<< 76) ||| (0x3#128 <<< 62))
  ⟨kept ||| (0x5#128 <<< 76) ||| (0x2#128 <<< 62)⟩

def urlNamespace : Uuid := ⟨0x6ba7b8119dad11d180b400c04fd430c8#128⟩

end Uuid
end Caseflow
