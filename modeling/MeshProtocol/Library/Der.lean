import MeshProtocol.Library.Bytes
import Mathlib.Data.Nat.Log

/-!
# DER elements

The tag-length-value elements of the Distinguished Encoding Rules, for tags of one byte: what an
element looks like in bytes (`tlv`), and that a sequence of elements can be read back
(`readTlv_tlv`), so that equal bytes mean equal elements (`elements_append_inj`).
-/

namespace Der

open Bytes

/-- The fewest bytes that hold a number. -/
def byteLength (n : ℕ) : ℕ := Nat.log2 n / 8 + 1

/-- The length octets of an element: one byte up to 127, else the number of octets and the
octets. -/
def lengthOctets (n : ℕ) : List UInt8 :=
  if n < 128 then [UInt8.ofNat n]
  else UInt8.ofNat (128 + byteLength n) :: beBytes (byteLength n) n

/-- The bytes in front of a content of the given length. -/
def header (tag : UInt8) (n : ℕ) : List UInt8 := tag :: lengthOctets n

/-- An element: tag, length and content. -/
def tlv (tag : UInt8) (content : List UInt8) : List UInt8 := header tag content.length ++ content

/-- Reads length octets. -/
def readLength : List UInt8 → Option (ℕ × List UInt8)
  | [] => none
  | b :: rest =>
    if b.toNat < 128 then some (b.toNat, rest)
    else some (beNat (rest.take (b.toNat - 128)), rest.drop (b.toNat - 128))

/-- Reads one element. -/
def readTlv : List UInt8 → Option (UInt8 × List UInt8 × List UInt8)
  | [] => none
  | tag :: rest => do
    let (n, rest) ← readLength rest
    return (tag, rest.take n, rest.drop n)

lemma lt_pow_byteLength (n : ℕ) : n < 256 ^ byteLength n := by
  have hlog : Nat.log2 n < 8 * byteLength n := by
    unfold byteLength
    omega
  calc n < 2 ^ (Nat.log2 n + 1) := Nat.lt_log2_self
    _ ≤ 2 ^ (8 * byteLength n) := Nat.pow_le_pow_right two_pos hlog
    _ = (2 ^ 8) ^ byteLength n := pow_mul 2 8 _
    _ = 256 ^ byteLength n := rfl

/-- A length below `2 ^ 64` takes at most eight bytes. -/
lemma byteLength_le {n : ℕ} (h : n < 2 ^ 64) : byteLength n ≤ 8 := by
  have hlog : Nat.log2 n < 64 := by
    by_cases h0 : n = 0
    · subst h0
      decide
    · exact (Nat.log2_lt h0).2 h
  unfold byteLength
  omega

lemma readLength_lengthOctets {n : ℕ} (h : n < 2 ^ 64) (rest : List UInt8) :
    readLength (lengthOctets n ++ rest) = some (n, rest) := by
  unfold lengthOctets
  split_ifs with hshort
  · have hbyte : (UInt8.ofNat n).toNat = n := UInt8.toNat_ofNat_of_lt' (show _ < 256 by omega)
    rw [List.singleton_append, readLength, hbyte, if_pos hshort]
  · have hle := byteLength_le h
    have hbyte : (UInt8.ofNat (128 + byteLength n)).toNat = 128 + byteLength n :=
      UInt8.toNat_ofNat_of_lt' (show _ < 256 by omega)
    have hlen := length_beBytes (byteLength n) n
    rw [List.cons_append, readLength, hbyte, if_neg (by omega), Nat.add_sub_cancel_left,
      List.take_left' hlen, List.drop_left' hlen, beNat_beBytes_of_lt (lt_pow_byteLength n)]

/-- What was written is read back. -/
theorem readTlv_tlv {tag : UInt8} {content : List UInt8} (h : content.length < 2 ^ 64)
    (rest : List UInt8) : readTlv (tlv tag content ++ rest) = some (tag, content, rest) := by
  rw [tlv, header, List.append_assoc, List.cons_append, readTlv, readLength_lengthOctets h]
  simp

lemma length_le_tlv (tag : UInt8) (content rest : List UInt8) :
    content.length + rest.length ≤ (tlv tag content ++ rest).length := by
  rw [tlv, List.length_append, List.length_append]
  omega

/-- Equal bytes start with equal elements. -/
theorem tlv_append_inj {tag tag' : UInt8} {content content' rest rest' : List UInt8}
    (hlen : (tlv tag content ++ rest).length < 2 ^ 64)
    (heq : tlv tag content ++ rest = tlv tag' content' ++ rest') :
    tag = tag' ∧ content = content' ∧ rest = rest' := by
  have h := (length_le_tlv tag content rest).trans_lt hlen
  have h' := (length_le_tlv tag' content' rest').trans_lt (heq ▸ hlen)
  have hread : readTlv (tlv tag content ++ rest) = some (tag, content, rest) :=
    readTlv_tlv (by omega) rest
  rw [heq, readTlv_tlv (by omega)] at hread
  simpa [eq_comm] using hread

/-- Equal elements have equal contents. -/
lemma tlv_inj {tag tag' : UInt8} {content content' : List UInt8}
    (hlen : (tlv tag content).length < 2 ^ 64) (heq : tlv tag content = tlv tag' content') :
    content = content' := by
  rw [← List.append_nil (tlv tag content)] at hlen heq
  exact (tlv_append_inj hlen (heq.trans (List.append_nil _).symm)).2.1

/-- A sequence of elements, given by tag and content. -/
def elements (es : List (UInt8 × List UInt8)) : List UInt8 := es.flatMap fun e => tlv e.1 e.2

@[simp] lemma elements_cons (e : UInt8 × List UInt8) (es : List (UInt8 × List UInt8)) :
    elements (e :: es) = tlv e.1 e.2 ++ elements es := rfl

/-- Equal bytes start with equal sequences of the same number of elements. -/
theorem elements_append_inj {es es' : List (UInt8 × List UInt8)} {rest rest' : List UInt8}
    (hcount : es.length = es'.length) (hlen : (elements es ++ rest).length < 2 ^ 64)
    (heq : elements es ++ rest = elements es' ++ rest') : es = es' ∧ rest = rest' := by
  induction es generalizing es' with
  | nil =>
    obtain rfl := List.eq_nil_of_length_eq_zero hcount.symm
    exact ⟨rfl, heq⟩
  | cons e es ih =>
    match es', hcount with
    | e' :: es', hcount =>
      rw [elements_cons, List.append_assoc] at hlen heq
      rw [elements_cons, List.append_assoc] at heq
      obtain ⟨htag, hcontent, hrest⟩ := tlv_append_inj hlen heq
      have hshort := (length_le_tlv e.1 e.2 (elements es ++ rest)).trans_lt hlen
      obtain ⟨rfl, htail⟩ := ih (by simpa using hcount) (by omega) hrest
      exact ⟨by rw [Prod.ext htag hcontent], htail⟩

end Der
