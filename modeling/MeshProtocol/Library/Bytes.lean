import Mathlib.Data.List.Basic
import Mathlib.Data.List.Induction
import Mathlib.Algebra.Order.Ring.Nat

/-!
# Big-endian integers and text as byte strings

Byte strings are `List UInt8`.  This module has the two conversions every binary format here is
built from: a natural number written big-endian into a fixed number of bytes (`beBytes`, read
back by `beNat`), and the UTF-8 bytes of a string (`utf8Bytes`, read back by `textOfUtf8`).
-/

namespace Bytes

/-! ## Fixed-width big-endian numbers -/

/-- The `k` low bytes of `n`, most significant first. -/
def beBytes : ℕ → ℕ → List UInt8
  | 0, _ => []
  | k + 1, n => beBytes k (n / 256) ++ [UInt8.ofNat n]

/-- The number a byte string writes in base 256, most significant byte first. -/
def beNat (bs : List UInt8) : ℕ :=
  bs.foldl (fun acc b => acc * 256 + b.toNat) 0

@[simp] lemma length_beBytes (k n : ℕ) : (beBytes k n).length = k := by
  induction k generalizing n with
  | zero => rfl
  | succ k ih => simp [beBytes, ih]

@[simp] lemma beNat_nil : beNat [] = 0 := rfl

lemma beNat_concat (bs : List UInt8) (b : UInt8) :
    beNat (bs ++ [b]) = beNat bs * 256 + b.toNat := by
  simp [beNat]

lemma beNat_beBytes (k n : ℕ) : beNat (beBytes k n) = n % 256 ^ k := by
  induction k generalizing n with
  | zero => simp [beBytes, Nat.mod_one]
  | succ k ih =>
    have hbyte : (UInt8.ofNat n).toNat = n % 256 := UInt8.toNat_ofNat'
    rw [beBytes, beNat_concat, ih, hbyte, pow_succ', Nat.mod_mul]
    omega

lemma beNat_beBytes_of_lt {k n : ℕ} (h : n < 256 ^ k) : beNat (beBytes k n) = n := by
  rw [beNat_beBytes, Nat.mod_eq_of_lt h]

/-- Writing the number that a byte string writes gives the byte string. -/
lemma beBytes_beNat (bs : List UInt8) : beBytes bs.length (beNat bs) = bs := by
  induction bs using List.reverseRecOn with
  | nil => rfl
  | append_singleton bs b ih =>
    have hlt := b.toNat_lt
    have hhigh : (beNat bs * 256 + b.toNat) / 256 = beNat bs := by omega
    have hlow : UInt8.ofNat (beNat bs * 256 + b.toNat) = b := by
      apply UInt8.toNat_inj.1
      rw [UInt8.toNat_ofNat']
      omega
    rw [List.length_append, List.length_singleton, beBytes, beNat_concat, hhigh, hlow, ih]

lemma beNat_lt (bs : List UInt8) : beNat bs < 256 ^ bs.length := by
  have h := beNat_beBytes bs.length (beNat bs)
  rw [beBytes_beNat] at h
  rw [h]
  exact Nat.mod_lt _ (Nat.pow_pos (by decide))

/-! ## UTF-8 text -/

/-- The UTF-8 bytes of a string. -/
def utf8Bytes (s : String) : List UInt8 := s.toByteArray.data.toList

/-- The string a byte string encodes, when it is valid UTF-8. -/
def textOfUtf8 (bs : List UInt8) : Option String := String.fromUTF8? ⟨bs.toArray⟩

lemma textOfUtf8_utf8Bytes (s : String) : textOfUtf8 (utf8Bytes s) = some s := by
  have hbytes : (⟨(utf8Bytes s).toArray⟩ : ByteArray) = s.toByteArray := by
    simp [utf8Bytes]
  rw [textOfUtf8, hbytes, String.fromUTF8?, dif_pos s.isValidUTF8]
  rfl

lemma utf8Bytes_injective : Function.Injective utf8Bytes := by
  intro s t h
  have htext := congrArg textOfUtf8 h
  rw [textOfUtf8_utf8Bytes, textOfUtf8_utf8Bytes] at htext
  exact Option.some.inj htext

end Bytes
