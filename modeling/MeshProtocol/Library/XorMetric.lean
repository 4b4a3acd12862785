import Mathlib.Data.Nat.Bitwise
import Mathlib.Tactic.Ring
import MeshProtocol.Library.Bytes

/-!
# Byte strings under XOR

Keys of one length are numbers written big-endian.  Their lexicographic order is the order of the
numbers (`compare_beNat`) and their bytewise XOR writes the XOR of the numbers
(`beNat_zipWith_xor`), so distances that are compared byte by byte can be reasoned about as numbers.
From a fixed key, keys at the same distance are the same (`xor_beNat_inj`).
-/

namespace XorMetric

open Bytes

lemma beNat_cons (b : UInt8) (bs : List UInt8) :
    beNat (b :: bs) = b.toNat * 256 ^ bs.length + beNat bs := by
  induction bs using List.reverseRecOn with
  | nil => simp [beNat]
  | append_singleton bs c ih =>
    rw [← List.cons_append, beNat_concat, ih, beNat_concat, List.length_append,
      List.length_singleton, pow_succ]
    ring

lemma compare_toNat (a b : UInt8) : compare a b = compare a.toNat b.toNat := by
  change (if a < b then Ordering.lt else if a = b then .eq else .gt) =
    if a.toNat < b.toNat then .lt else if a.toNat = b.toNat then .eq else .gt
  simp only [UInt8.lt_iff_toNat_lt, UInt8.toNat_inj]

/-- In numbers with one digit in front of others, the digit decides first. -/
lemma compare_then_mul_add {a b base : ℕ} (ha : a < base) (hb : b < base) (x y : ℕ) :
    (compare x y).then (compare a b) = compare (x * base + a) (y * base + b) := by
  obtain hlt | rfl | hgt := lt_trichotomy x y
  · have hmul : (x + 1) * base ≤ y * base := Nat.mul_le_mul_right base hlt
    have hfirst : x * base + a < y * base + b := by
      rw [add_mul, one_mul] at hmul
      omega
    rw [Nat.compare_eq_lt.2 hlt, Nat.compare_eq_lt.2 hfirst]
    rfl
  · obtain hab | rfl | hab := lt_trichotomy a b
    · rw [Nat.compare_eq_eq.2 rfl, Nat.compare_eq_lt.2 hab,
        Nat.compare_eq_lt.2 (Nat.add_lt_add_left hab _)]
      rfl
    · rw [Nat.compare_eq_eq.2 rfl, Nat.compare_eq_eq.2 rfl, Nat.compare_eq_eq.2 rfl]
      rfl
    · rw [Nat.compare_eq_eq.2 rfl, Nat.compare_eq_gt.2 hab,
        Nat.compare_eq_gt.2 (Nat.add_lt_add_left hab _)]
      rfl
  · have hmul : (y + 1) * base ≤ x * base := Nat.mul_le_mul_right base hgt
    have hfirst : y * base + b < x * base + a := by
      rw [add_mul, one_mul] at hmul
      omega
    rw [Nat.compare_eq_gt.2 hgt, Nat.compare_eq_gt.2 hfirst]
    rfl

/-- Byte strings of one length compare as the numbers they write. -/
theorem compare_beNat {a b : List UInt8} (h : a.length = b.length) :
    compare a b = compare (beNat a) (beNat b) := by
  induction a generalizing b with
  | nil =>
    obtain rfl := List.eq_nil_of_length_eq_zero h.symm
    rfl
  | cons x a ih =>
    match b, h with
    | y :: b, h =>
      have hlen : a.length = b.length := by simpa using h
      have hcons : compare (x :: a) (y :: b) = (compare x y).then (compare a b) :=
        List.compareLex_cons_cons
      have ha := beNat_lt a
      have hb := beNat_lt b
      rw [hlen] at ha
      rw [hcons, ih hlen, beNat_cons, beNat_cons, hlen, compare_toNat]
      exact compare_then_mul_add ha hb _ _

/-- XOR works digit by digit. -/
lemma xor_digits (m n : ℕ) {x y : ℕ} (hx : x < 256) (hy : y < 256) :
    (m * 256 + x) ^^^ (n * 256 + y) = (m ^^^ n) * 256 + (x ^^^ y) := by
  have hxy : x ^^^ y < 256 := Nat.xor_lt_two_pow (n := 8) hx hy
  have hhigh : ((m * 256 + x) ^^^ (n * 256 + y)) / 256 = m ^^^ n := by
    have hdiv := Nat.xor_div_two_pow (a := m * 256 + x) (b := n * 256 + y) (n := 8)
    rw [show (2 : ℕ) ^ 8 = 256 from rfl] at hdiv
    rw [hdiv]
    congr 1 <;> omega
  have hlow : ((m * 256 + x) ^^^ (n * 256 + y)) % 256 = x ^^^ y := by
    have hmod := Nat.xor_mod_two_pow (a := m * 256 + x) (b := n * 256 + y) (n := 8)
    rw [show (2 : ℕ) ^ 8 = 256 from rfl] at hmod
    rw [hmod]
    congr 1 <;> omega
  omega

/-- The number that the bytewise XOR writes. -/
theorem beNat_zipWith_xor {a b : List UInt8} (h : a.length = b.length) :
    beNat (a.zipWith (· ^^^ ·) b) = beNat a ^^^ beNat b := by
  induction a using List.reverseRecOn generalizing b with
  | nil =>
    obtain rfl := List.eq_nil_of_length_eq_zero h.symm
    rfl
  | append_singleton a x ih =>
    obtain rfl | ⟨b, y, rfl⟩ := b.eq_nil_or_concat
    · simp at h
    rw [List.concat_eq_append] at h ⊢
    have hlen : a.length = b.length := by simpa using h
    rw [List.zipWith_append hlen, List.zipWith_cons_cons, List.zipWith_nil_left, beNat_concat,
      ih hlen, beNat_concat, beNat_concat, UInt8.toNat_xor]
    exact (xor_digits _ _ x.toNat_lt y.toNat_lt).symm

/-- Keys at one distance from a key are the same. -/
theorem xor_beNat_inj {a b : List UInt8} (h : a.length = b.length) (target : ℕ) :
    target ^^^ beNat a = target ^^^ beNat b ↔ a = b := by
  rw [Nat.xor_right_inj]
  constructor
  · intro heq
    rw [← beBytes_beNat a, heq, h, beBytes_beNat]
  · rintro rfl
    rfl

end XorMetric
