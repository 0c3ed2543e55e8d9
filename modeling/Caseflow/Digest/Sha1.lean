import Caseflow.Digest.Block

/-!
# SHA-1

The digest behind name-based identifiers: five chaining words and eighty rounds in four groups.
-/
namespace Caseflow.Digest.Sha1

abbrev Word := UInt32

structure Chain where
  a : Word
  b : Word
  c : Word
  d : Word
  e : Word

def initial : Chain := ⟨0x67452301, 0xefcdab89, 0x98badcfe, 0x10325476, 0xc3d2e1f0⟩

def rotateLeft (x : Word) (n : Word) : Word := (x <<< n) ||| (x >>> (32 - n))

/-- The next schedule word, from the last sixteen with the latest first. -/
def nextWord (recent : List Word) : Word :=
  rotateLeft (recent.getD 2 0 ^^^ recent.getD 7 0 ^^^ recent.getD 13 0 ^^^ recent.getD 15 0) 1

def extend : Nat → List Word → List Word
  | 0, ws => ws
  | n + 1, ws => extend n (nextWord (ws.take 16) :: ws)

def schedule (block : List Word) : List Word := (extend 64 block.reverse).reverse

def mix (i : Nat) (b c d : Word) : Word × Word :=
  if i < 20 then ((b &&& c) ||| ((~~~b) &&& d), 0x5a827999)
  else if i < 40 then (b ^^^ c ^^^ d, 0x6ed9eba1)
  else if i < 60 then ((b &&& c) ||| (b &&& d) ||| (c &&& d), 0x8f1bbcdc)
  else (b ^^^ c ^^^ d, 0xca62c1d6)

def round (s : Chain) (w : Word × Nat) : Chain :=
  let (f, k) := mix w.2 s.b s.c s.d
  ⟨rotateLeft s.a 5 + f + s.e + k + w.1, s.a, rotateLeft s.b 30, s.c, s.d⟩

def compress (s : Chain) (block : List Word) : Chain :=
  let r := (schedule block).zipIdx.foldl round s
  ⟨s.a + r.a, s.b + r.b, s.c + r.c, s.d + r.d, s.e + r.e⟩

def word (bytes : List UInt8) : Word := bytes.foldl (fun w b => (w <<< 8) ||| b.toUInt32) 0

def digest (message : List UInt8) : List UInt8 :=
  let words := (chunks 4 (padded 64 8 message)).map word
  let s := (chunks 16 words).foldl compress initial
  [s.a, s.b, s.c, s.d, s.e].flatMap fun w => bytesOfNat 4 w.toNat

end Caseflow.Digest.Sha1
