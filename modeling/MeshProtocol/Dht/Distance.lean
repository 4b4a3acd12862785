import MeshProtocol.Core.Hash
import MeshProtocol.Library.Fallible

/-!
# XOR distance (`mesh-dht/src/distance.rs`)

Node IDs and routing keys live in a 256-bit key space, and the distance of two keys is their bitwise
XOR.  The source indexes the first 32 bytes of both digests and panics where one is missing, so the
functions that index are `Option`-valued here, with `none` for the panic.  The two `debug_assert`s
are not part of a release build and are left out.
-/

namespace MeshProtocol

/-! ## The distance -/

/-- Byte `i` of the XOR of two digests; an index out of bounds panics. -/
def xorByte (a b : Hash) (i : ℕ) : Option UInt8 := do
  let x ← a.digest[i]?
  let y ← b.digest[i]?
  return x ^^^ y

/-- XOR two 256-bit hashes, as 32 bytes. -/
def xorDistance (a b : Hash) : Option (List UInt8) := (List.range 32).mapM (xorByte a b)

/-- `u8::leading_zeros` of a byte that is not zero. -/
def byteLeadingZeros (b : UInt8) : ℕ := 7 - b.toNat.log2

/-- Count the number of leading zero bits of a distance. -/
def leadingZeros : List UInt8 → ℕ
  | [] => 0
  | b :: rest => if b = 0 then 8 + leadingZeros rest else byteLeadingZeros b

/-- The k-bucket of a node at the given distance; `none` for distance zero. -/
def bucketIndex (distance : List UInt8) : Option (Fin 256) :=
  if leadingZeros distance ≥ 256 then none
  else some ⟨255 - leadingZeros distance, by omega⟩

/-- Compare which of two nodes is closer to a target, their distances as big-endian integers. -/
def distanceCmp (target a b : Hash) : Option Ordering := do
  let distA ← xorDistance target a
  let distB ← xorDistance target b
  return compare distA distB

/-! ## When it is defined -/

lemma xorByte_isSome_iff {a b : Hash} {i : ℕ} :
    (xorByte a b i).isSome ↔ i < a.digest.length ∧ i < b.digest.length := by
  unfold xorByte
  by_cases ha : i < a.digest.length
  · by_cases hb : i < b.digest.length
    · simp [ha, hb]
    · simp [ha, hb]
  · simp [ha]

/-- The distance exists exactly when both digests have the 32 bytes it reads. -/
theorem xorDistance_isSome_iff {a b : Hash} :
    (xorDistance a b).isSome ↔ 32 ≤ a.digest.length ∧ 32 ≤ b.digest.length := by
  rw [xorDistance, Fallible.mapM_isSome_iff]
  simp only [List.mem_range, xorByte_isSome_iff]
  constructor
  · intro h
    have h31 := h 31 (by decide)
    exact ⟨by omega, by omega⟩
  · rintro ⟨ha, hb⟩ i hi
    exact ⟨by omega, by omega⟩

lemma xorDistance_eq {a b : Hash} (ha : 32 ≤ a.digest.length) (hb : 32 ≤ b.digest.length) :
    xorDistance a b =
      some ((a.digest.take 32).zipWith (· ^^^ ·) (b.digest.take 32)) := by
  have hbyte : ∀ i ∈ List.range 32, xorByte a b i =
      some (a.digest.getD i 0 ^^^ b.digest.getD i 0) := by
    intro i hi
    rw [List.mem_range] at hi
    simp [xorByte, show i < a.digest.length by omega, show i < b.digest.length by omega]
  rw [xorDistance, Fallible.mapM_of_total hbyte]
  congr 1
  refine List.ext_getElem (by simp [ha, hb]) ?_
  intro i hi _
  have hi : i < 32 := by simpa using hi
  simp [show i < a.digest.length by omega, show i < b.digest.length by omega]

/-! ## Leading zeros -/

lemma leadingZeros_le (d : List UInt8) : leadingZeros d ≤ 8 * d.length := by
  induction d with
  | nil => exact le_rfl
  | cons b rest ih =>
    rw [leadingZeros, List.length_cons]
    split_ifs
    · omega
    · unfold byteLeadingZeros
      omega

/-- Only zero bytes have nothing but leading zeros. -/
lemma leadingZeros_eq_iff {d : List UInt8} :
    leadingZeros d = 8 * d.length ↔ ∀ b ∈ d, b = 0 := by
  induction d with
  | nil => simp [leadingZeros]
  | cons b rest ih =>
    rw [leadingZeros, List.length_cons, List.forall_mem_cons]
    split_ifs with hb
    · rw [← ih]
      simp only [hb, true_and]
      omega
    · simp only [hb, false_and, iff_false]
      unfold byteLeadingZeros
      omega

lemma zipWith_xor_eq_zero_iff {x y : List UInt8} (h : x.length = y.length) :
    (∀ b ∈ x.zipWith (· ^^^ ·) y, b = 0) ↔ x = y := by
  induction x generalizing y with
  | nil =>
    obtain rfl := List.eq_nil_of_length_eq_zero h.symm
    simp
  | cons a x ih =>
    match y, h with
    | b :: y, h =>
      have hlen : x.length = y.length := by simpa using h
      rw [List.zipWith_cons_cons, List.forall_mem_cons, ih hlen, List.cons.injEq,
        UInt8.xor_eq_zero_iff]

/-- Two keys have no bucket exactly when the bytes compared are the same. -/
theorem bucketIndex_eq_none_iff {a b : Hash} {d : List UInt8} (h : xorDistance a b = some d) :
    bucketIndex d = none ↔ a.digest.take 32 = b.digest.take 32 := by
  obtain ⟨ha, hb⟩ := xorDistance_isSome_iff.1 (Option.isSome_of_mem h)
  rw [xorDistance_eq ha hb, Option.some.injEq] at h
  have hlen : d.length = 32 := by simp [← h, ha, hb]
  have hle := leadingZeros_le d
  have hzero := leadingZeros_eq_iff (d := d)
  rw [← zipWith_xor_eq_zero_iff (by simp [ha, hb]), h, ← hzero, bucketIndex]
  split_ifs with hge
  · simp only [true_iff]
    omega
  · simp only [false_iff]
    omega

/-! ## Comparisons -/

lemma distanceCmp_eq {target a b : Hash} (ht : 32 ≤ target.digest.length)
    (ha : 32 ≤ a.digest.length) (hb : 32 ≤ b.digest.length) :
    distanceCmp target a b =
      some (compare ((target.digest.take 32).zipWith (· ^^^ ·) (a.digest.take 32))
        ((target.digest.take 32).zipWith (· ^^^ ·) (b.digest.take 32))) := by
  rw [distanceCmp, xorDistance_eq ht ha, xorDistance_eq ht hb]
  rfl

/-- A target that is too short has no distance to any node. -/
lemma distanceCmp_eq_none {target : Hash} (h : target.digest.length < 32) (a b : Hash) :
    distanceCmp target a b = none := by
  have hnone : xorDistance target a = none := by
    rw [← Option.not_isSome_iff_eq_none, xorDistance_isSome_iff]
    omega
  rw [distanceCmp, hnone]
  rfl

end MeshProtocol
