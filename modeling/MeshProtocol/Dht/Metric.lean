import MeshProtocol.Core.Reference
import MeshProtocol.Dht.Routing
import MeshProtocol.Library.XorMetric

/-!
# Buckets and the metric

The bucket of a node counts the leading zeros of a distance, and a comparison of distances reads
them byte by byte.  Both are about the distance as a number: the bucket is the place of its highest
bit (`log2_beNat`), so the nodes of bucket `i` are at distances from `2 ^ i` on and below
`2 ^ (i + 1)`, and bucket 0 is the closest.  The comment of `bucket_index` has it the other way
round.
-/

namespace MeshProtocol

open Bytes XorMetric

/-! ## The highest bit -/

lemma log2_byte_le (b : UInt8) : b.toNat.log2 ≤ 7 := by
  have hlt := b.toNat_lt
  by_cases hb : b.toNat = 0
  · rw [hb]
    decide
  · have hlog := (Nat.log2_lt hb (k := 8)).2 hlt
    omega

/-- A byte string with leading zeros and a bit after them writes a number whose highest bit is where
the zeros end. -/
theorem log2_beNat {d : List UInt8} (h : beNat d ≠ 0) :
    leadingZeros d + (beNat d).log2 + 1 = 8 * d.length := by
  induction d with
  | nil => exact absurd rfl h
  | cons b rest ih =>
    rw [beNat_cons] at h ⊢
    rw [leadingZeros, List.length_cons]
    split_ifs with hb
    · subst hb
      rw [UInt8.toNat_zero, zero_mul, zero_add] at h ⊢
      have hrest := ih h
      omega
    · have hrest := beNat_lt rest
      have hpos : b.toNat ≠ 0 := fun hzero => hb (UInt8.toNat_inj.1 hzero)
      have hwidth : (256 : ℕ) ^ rest.length = 2 ^ (8 * rest.length) := by
        rw [pow_mul]
        rfl
      have hlow := Nat.log2_self_le hpos
      have hhigh := Nat.lt_log2_self (n := b.toNat)
      have hlog : (b.toNat * 256 ^ rest.length + beNat rest).log2 =
          b.toNat.log2 + 8 * rest.length := by
        rw [Nat.log2_eq_iff h, hwidth]
        rw [hwidth] at hrest
        constructor
        · calc 2 ^ (b.toNat.log2 + 8 * rest.length)
              = 2 ^ b.toNat.log2 * 2 ^ (8 * rest.length) := pow_add _ _ _
            _ ≤ b.toNat * 2 ^ (8 * rest.length) := Nat.mul_le_mul_right _ hlow
            _ ≤ _ := Nat.le_add_right _ _
        · calc b.toNat * 2 ^ (8 * rest.length) + beNat rest
              < b.toNat * 2 ^ (8 * rest.length) + 2 ^ (8 * rest.length) := by omega
            _ = (b.toNat + 1) * 2 ^ (8 * rest.length) := by ring
            _ ≤ 2 ^ (b.toNat.log2 + 1) * 2 ^ (8 * rest.length) :=
              Nat.mul_le_mul_right _ hhigh
            _ = _ := by ring
      have hbyte := log2_byte_le b
      rw [hlog, byteLeadingZeros]
      omega

/-- The bucket of a distance is the place of its highest bit. -/
lemma bucketIndex_of_beNat {d : List UInt8} (hlen : d.length = 32) (h : beNat d ≠ 0) :
    ∃ i : Fin 256, bucketIndex d = some i ∧ i.val = (beNat d).log2 := by
  have hlog := log2_beNat h
  rw [hlen] at hlog
  rw [bucketIndex, if_neg (by omega)]
  refine ⟨_, rfl, ?_⟩
  change 255 - leadingZeros d = _
  omega

/-! ## Distances as numbers -/

/-- The distance of two keys, as a number. -/
lemma xorDistance_beNat {a b : Hash} (ha : a.digest.length = 32) (hb : b.digest.length = 32) :
    ∃ d, xorDistance a b = some d ∧ d.length = 32 ∧
      beNat d = beNat a.digest ^^^ beNat b.digest := by
  refine ⟨_, xorDistance_eq ha.ge hb.ge, ?_, ?_⟩
  · simp [ha, hb]
  · rw [List.take_of_length_le ha.le, List.take_of_length_le hb.le,
      beNat_zipWith_xor (ha.trans hb.symm)]

lemma xor_beNat_eq_zero_iff {a b : List UInt8} (h : a.length = b.length) :
    beNat a ^^^ beNat b = 0 ↔ a = b := by
  rw [← xor_beNat_inj h (beNat a), Nat.xor_self, eq_comm]

/-- A node is in bucket `i` exactly if its distance is from `2 ^ i` on and below `2 ^ (i + 1)`. -/
theorem bucket_iff {a b : Hash} (ha : a.digest.length = 32) (hb : b.digest.length = 32) (i : ℕ) :
    (∃ j : Fin 256, j.val = i ∧ bucketFor a b = some (some j)) ↔
      2 ^ i ≤ beNat a.digest ^^^ beNat b.digest ∧
        beNat a.digest ^^^ beNat b.digest < 2 ^ (i + 1) := by
  obtain ⟨d, hd, hlen, hnat⟩ := xorDistance_beNat ha hb
  rw [bucketFor, hd, Option.map_some, ← hnat]
  by_cases hzero : beNat d = 0
  · have hnone : bucketIndex d = none := by
      rw [bucketIndex_eq_none_iff hd, List.take_of_length_le ha.le, List.take_of_length_le hb.le,
        ← xor_beNat_eq_zero_iff (ha.trans hb.symm), ← hnat, hzero]
    rw [hnone, hzero]
    constructor
    · rintro ⟨j, -, hj⟩
      cases hj
    · rintro ⟨hle, -⟩
      exact absurd (Nat.two_pow_pos i) (by omega)
  · obtain ⟨j, hj, hval⟩ := bucketIndex_of_beNat hlen hzero
    rw [hj, ← Nat.log2_eq_iff hzero, ← hval]
    constructor
    · rintro ⟨j', rfl, hj'⟩
      rw [Option.some.inj (Option.some.inj hj')]
    · intro hi
      exact ⟨j, hi, rfl⟩

lemma bucket_none_iff {a b : Hash} (ha : a.digest.length = 32) (hb : b.digest.length = 32) :
    bucketFor a b = some none ↔ a.digest = b.digest := by
  obtain ⟨d, hd, -⟩ := xorDistance_beNat ha hb
  have hnone := bucketIndex_eq_none_iff hd
  rw [List.take_of_length_le ha.le, List.take_of_length_le hb.le] at hnone
  rw [bucketFor, hd, Option.map_some, Option.some.injEq, hnone]

lemma distanceCmp_beNat {t a b : Hash} (ht : t.digest.length = 32) (ha : a.digest.length = 32)
    (hb : b.digest.length = 32) :
    distanceCmp t a b = some (compare (beNat t.digest ^^^ beNat a.digest)
      (beNat t.digest ^^^ beNat b.digest)) := by
  obtain ⟨dA, hdA, hlenA, hnatA⟩ := xorDistance_beNat ht ha
  obtain ⟨dB, hdB, hlenB, hnatB⟩ := xorDistance_beNat ht hb
  rw [← hnatA, ← hnatB, ← compare_beNat (hlenA.trans hlenB.symm), distanceCmp, hdA, hdB]
  rfl

/-- A node in a lower bucket is closer. -/
lemma lt_of_bucket_lt {t a b : Hash} (ht : t.digest.length = 32) (ha : a.digest.length = 32)
    (hb : b.digest.length = 32) {i j : Fin 256} (hi : bucketFor t a = some (some i))
    (hj : bucketFor t b = some (some j)) (hij : i < j) :
    beNat t.digest ^^^ beNat a.digest < beNat t.digest ^^^ beNat b.digest := by
  obtain ⟨-, hbelow⟩ := (bucket_iff ht ha i).1 ⟨i, rfl, hi⟩
  obtain ⟨habove, -⟩ := (bucket_iff ht hb j).1 ⟨j, rfl, hj⟩
  calc beNat t.digest ^^^ beNat a.digest
      < 2 ^ (i.val + 1) := hbelow
    _ ≤ 2 ^ j.val := Nat.pow_le_pow_right two_pos hij
    _ ≤ _ := habove

/-- For digests of 32 bytes, buckets and comparisons are those of the distances as numbers: the
bucket is given by the powers of two around the distance and is missing for equal digests only, the
comparison is that of the numbers and says "equal" for equal digests only, and a lower bucket of a
key is closer to it. -/
theorem buckets_agree_with_metric {t a b : Hash} (ht : t.digest.length = 32)
    (ha : a.digest.length = 32) (hb : b.digest.length = 32) :
    (∀ i : ℕ,
      (∃ j : Fin 256, j.val = i ∧ (xorDistance a b).map bucketIndex = some (some j)) ↔
        2 ^ i ≤ beNat a.digest ^^^ beNat b.digest ∧
          beNat a.digest ^^^ beNat b.digest < 2 ^ (i + 1)) ∧
      ((xorDistance a b).map bucketIndex = some none ↔ a.digest = b.digest) ∧
      distanceCmp t a b = some (compare (beNat t.digest ^^^ beNat a.digest)
        (beNat t.digest ^^^ beNat b.digest)) ∧
      (distanceCmp t a b = some .eq ↔ a.digest = b.digest) ∧
      ∀ i j, bucketFor t a = some (some i) → bucketFor t b = some (some j) → i < j →
        beNat t.digest ^^^ beNat a.digest < beNat t.digest ^^^ beNat b.digest ∧
          distanceCmp t a b = some .lt := by
  have hcmp := distanceCmp_beNat ht ha hb
  refine ⟨bucket_iff ha hb, bucket_none_iff ha hb, hcmp, ?_, fun i j hi hj hij => ?_⟩
  · rw [hcmp, Option.some.injEq, Nat.compare_eq_eq, xor_beNat_inj (ha.trans hb.symm)]
  · have hlt := lt_of_bucket_lt ht ha hb hi hj hij
    rw [hcmp, Nat.compare_eq_lt.2 hlt]
    exact ⟨hlt, rfl⟩

/-- From key 0, key 1 is in bucket 0 and key 4 in bucket 2. -/
theorem key_one_closer : distanceCmp (hashOf 0) (hashOf 1) (hashOf 4) = some .lt := by
  obtain ⟨-, -, -, -, hcloser⟩ := buckets_agree_with_metric (t := hashOf 0) (a := hashOf 1)
    (b := hashOf 4) (length_beBytes 32 0) (length_beBytes 32 1) (length_beBytes 32 4)
  exact (hcloser 0 2 (by decide +kernel) (by decide +kernel) (by decide)).2

end MeshProtocol
