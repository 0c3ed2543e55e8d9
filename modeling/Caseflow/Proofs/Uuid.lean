import Caseflow.Proofs.Json.Text
import Caseflow.Uuid

/-!
# Identifiers read back

The hyphenated text of an identifier reads back as the identifier.
-/
namespace Caseflow.Uuid

open Digest Json

theorem foldl_bytesOfNat (count n : Nat) :
    (bytesOfNat count n).foldl (fun m b => m * 256 + b.toNat) 0 = n % Nat.pow 256 count := by
  induction count generalizing n with
  | zero => exact (Nat.mod_one n).symm
  | succ count ih =>
    have hbyte : (UInt8.ofNat (n % 256)).toNat = n % 256 := by
      rw [UInt8.toNat_ofNat']
      omega
    rw [bytesOfNat, List.foldl_append, ih, List.foldl_cons, List.foldl_nil, hbyte, Nat.pow_eq,
      Nat.pow_eq, Nat.pow_succ', Nat.mod_mul, Nat.mul_comm, Nat.add_comm]

def nibbles (b : UInt8) : List Nat := [b.toNat / 16, b.toNat % 16]

theorem mapM_hexValue? (bs : List UInt8) :
    (hexOfBytes bs).toList.mapM hexValue? = some (bs.flatMap nibbles) := by
  rw [hexOfBytes, String.toList_ofList]
  induction bs with
  | nil => rfl
  | cons b bs ih =>
    have hlt := b.toNat_lt
    have hhigh := hexValue?_hexDigit (b.toNat / 16) (by omega)
    have hlow := hexValue?_hexDigit (b.toNat % 16) (by omega)
    rw [List.flatMap_cons, List.mapM_append, ih]
    simp [hhigh, hlow, nibbles]

theorem foldl_nibbles (bs : List UInt8) (n : Nat) :
    (bs.flatMap nibbles).foldl (fun n d => n * 16 + d) n =
      bs.foldl (fun n b => n * 256 + b.toNat) n := by
  induction bs generalizing n with
  | nil => rfl
  | cons b bs ih =>
    have hbyte : (n * 16 + b.toNat / 16) * 16 + b.toNat % 16 = n * 256 + b.toNat := by omega
    rw [List.flatMap_cons, List.foldl_append, ih, List.foldl_cons]
    simp [nibbles, hbyte]

theorem length_hexOfBytes (bs : List UInt8) : (hexOfBytes bs).toList.length = 2 * bs.length := by
  rw [hexOfBytes, String.toList_ofList]
  induction bs with
  | nil => rfl
  | cons b bs ih =>
    rw [List.flatMap_cons, List.length_append, ih]
    simp
    omega

theorem ofHexDigits?_bytes (u : Uuid) : ofHexDigits? (hexOfBytes u.bytes).toList = some u := by
  have hlength : (hexOfBytes u.bytes).toList.length = 32 := by
    rw [length_hexOfBytes, bytes, bytesOfNat_length]
  have hvalue : (u.bytes.flatMap nibbles).foldl (fun n d => n * 16 + d) 0 = u.value.toNat := by
    rw [foldl_nibbles, bytes, foldl_bytesOfNat]
    exact Nat.mod_eq_of_lt u.value.isLt
  have hguard : (guard ((hexOfBytes u.bytes).toList.length = 32) : Option Unit) = some () :=
    if_pos hlength
  rw [ofHexDigits?, mapM_hexValue?, hguard]
  simp [hvalue]

def size (ns : List Nat) : Nat := ns.foldr (fun n total => n + total) 0

theorem size_cons (n : Nat) (ns : List Nat) : size (n :: ns) = n + size ns := rfl

theorem unhyphenate?_hyphenate {ns : List Nat} {cs : List Char} (hne : ns ≠ [])
    (h : cs.length = size ns) : unhyphenate? ns (hyphenate ns cs) = some cs := by
  induction ns generalizing cs with
  | nil => exact absurd rfl hne
  | cons n ns ih =>
    rw [size_cons] at h
    cases ns with
    | nil =>
      have hlength : cs.length = n := h
      rw [hyphenate, List.take_of_length_le (Nat.le_of_eq hlength), unhyphenate?, if_pos hlength]
    | cons m ns =>
      have htake : (cs.take n).length = n := by
        rw [List.length_take]
        omega
      have hrest : (cs.drop n).length = size (m :: ns) := by
        rw [List.length_drop]
        omega
      have hread := ih (List.cons_ne_nil m ns) hrest
      simp only [hyphenate, unhyphenate?, List.drop_left' htake, List.take_left' htake] at hread ⊢
      rw [hread, Option.map_some, List.take_append_drop]

theorem length_hyphenate {ns : List Nat} {cs : List Char} (hne : ns ≠ [])
    (h : cs.length = size ns) : (hyphenate ns cs).length = size ns + (ns.length - 1) := by
  induction ns generalizing cs with
  | nil => exact absurd rfl hne
  | cons n ns ih =>
    rw [size_cons] at h ⊢
    cases ns with
    | nil =>
      have hlength : cs.length = n := h
      rw [hyphenate, List.take_of_length_le (Nat.le_of_eq hlength), hlength]
      rfl
    | cons m ns =>
      have hrest : (cs.drop n).length = size (m :: ns) := by
        rw [List.length_drop]
        omega
      rw [hyphenate, List.length_append, List.length_take, List.length_cons,
        ih (List.cons_ne_nil m ns) hrest]
      · simp only [List.length_cons]
        omega
      · simp

/-- The text of an identifier reads back as the identifier. -/
theorem parse?_text (u : Uuid) : parse? u.text = some u := by
  have hlength : (hexOfBytes u.bytes).toList.length = size groups := by
    rw [length_hexOfBytes, bytes, bytesOfNat_length]
    rfl
  have hne : groups ≠ [] := List.cons_ne_nil _ _
  have htext : u.text.toList.length = 36 := by
    rw [text, String.toList_ofList, length_hyphenate hne hlength]
    rfl
  simp only [parse?, htext]
  rw [text, String.toList_ofList, unhyphenate?_hyphenate hne hlength, Option.bind_some,
    ofHexDigits?_bytes]

theorem text_injective {u v : Uuid} (h : u.text = v.text) : u = v := by
  have hread := parse?_text u
  rw [h, parse?_text, Option.some.injEq] at hread
  exact hread.symm

end Caseflow.Uuid
