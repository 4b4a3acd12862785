import Mathlib.Algebra.Order.Ring.Nat

/-!
# Address blocks

An address of `width` bits is a number, and a block is the addresses that agree with its base in the
first bits, written `base/len`.  Programs test for a block by masking a leading digit of the
address: the mask is a division (`and_highMask_eq_iff`), and the division of the whole address is
that of the digit (`div_leading`).
-/

namespace Cidr

/-- A block `base/len` of addresses of `width` bits. -/
structure Block (width : ℕ) where
  base : ℕ
  len : ℕ

/-- The address agrees with the base in the first `len` bits. -/
def Block.Contains {width : ℕ} (b : Block width) (addr : ℕ) : Prop :=
  addr / 2 ^ (width - b.len) = b.base / 2 ^ (width - b.len)

instance {width : ℕ} (b : Block width) (addr : ℕ) : Decidable (b.Contains addr) :=
  inferInstanceAs (Decidable (_ = _))

/-- Where the bits that a block fixes are in the leading digit, only the digit matters. -/
lemma div_leading {lead rest low : ℕ} (hrest : rest < 2 ^ low) (k : ℕ) :
    (lead * 2 ^ low + rest) / 2 ^ (low + k) = lead / 2 ^ k := by
  have hdiv : (lead * 2 ^ low + rest) / 2 ^ low = lead := by
    rw [Nat.mul_comm, Nat.mul_add_div (Nat.pow_pos (by decide)), Nat.div_eq_of_lt hrest, add_zero]
  rw [pow_add, ← Nat.div_div_eq_div_mul, hdiv]

/-- Masking with all but the lowest `k` of `w` bits clears the lowest. -/
lemma and_highMask {n w k : ℕ} (hn : n < 2 ^ w) (hk : k ≤ w) :
    n &&& (2 ^ w - 2 ^ k) = n / 2 ^ k * 2 ^ k := by
  have hpos : 0 < 2 ^ k := Nat.pow_pos (by decide)
  have hmask : 2 ^ w - 2 ^ k = (2 ^ (w - k) - 1) * 2 ^ k := by
    rw [Nat.sub_mul, ← pow_add, Nat.sub_add_cancel hk, one_mul]
  have hhigh : (n &&& (2 ^ w - 2 ^ k)) / 2 ^ k = n / 2 ^ k := by
    have hlt : n / 2 ^ k < 2 ^ (w - k) := by
      rw [Nat.div_lt_iff_lt_mul hpos, ← pow_add, Nat.sub_add_cancel hk]
      exact hn
    rw [Nat.and_div_two_pow, hmask, Nat.mul_div_cancel _ hpos, Nat.and_two_pow_sub_one_eq_mod,
      Nat.mod_eq_of_lt hlt]
  have hlow : (n &&& (2 ^ w - 2 ^ k)) % 2 ^ k = 0 := by
    rw [Nat.and_mod_two_pow, hmask, Nat.mul_mod_left, Nat.and_zero]
  rw [← Nat.div_add_mod (n &&& (2 ^ w - 2 ^ k)) (2 ^ k), hhigh, hlow, add_zero, Nat.mul_comm]

/-- A masked digit has the given value exactly if its leading bits have. -/
theorem and_highMask_eq_iff {n w k c : ℕ} (hn : n < 2 ^ w) (hk : k ≤ w) :
    n &&& (2 ^ w - 2 ^ k) = c * 2 ^ k ↔ n / 2 ^ k = c := by
  rw [and_highMask hn hk, Nat.mul_left_inj (Nat.pow_pos (by decide)).ne']

end Cidr
