import MeshProtocol.Library.Cbor

/-!
# Lengths of CBOR items

How many bytes `Cbor.encode` writes: each item is a head, whose length depends on the size of its
argument only, and the bytes of its parts.
-/

namespace Cbor

open Bytes

/-- A text of one-byte characters. -/
lemma length_utf8Bytes_replicate {c : Char} (hc : c.utf8Size = 1) (n : ℕ) :
    (utf8Bytes (String.ofList (List.replicate n c))).length = n := by
  have hbytes : utf8Bytes (String.ofList (List.replicate n c)) =
      (List.replicate n c).flatMap String.utf8EncodeChar :=
    List.toList_data_toByteArray
  rw [hbytes, List.length_flatMap, List.map_replicate, String.length_utf8EncodeChar, hc,
    List.sum_replicate_nat, mul_one]

/-- The length of a head with the given argument. -/
def headLength (n : ℕ) : ℕ :=
  if n < 24 then 1
  else if n < 2 ^ 8 then 2
  else if n < 2 ^ 16 then 3
  else if n < 2 ^ 32 then 5
  else 9

/-- The length of a text item. -/
def textLength (s : String) : ℕ := headLength (utf8Bytes s).length + (utf8Bytes s).length

lemma headLength_of_lt {n : ℕ} (h : n < 24) : headLength n = 1 := if_pos h

lemma length_head (major n : ℕ) : (head major n).length = headLength n := by
  unfold head headLength
  split_ifs <;> simp

@[simp] lemma length_encode_natCast (n : ℕ) : (encode (.integer n)).length = headLength n := by
  rw [encode, if_pos (Int.natCast_nonneg n), length_head, Int.toNat_natCast]

@[simp] lemma length_encode_text (s : String) : (encode (.text s)).length = textLength s := by
  rw [encode, List.length_append, length_head, textLength]

@[simp] lemma length_encode_bool (b : Bool) : (encode (.bool b)).length = 1 := by
  rw [encode]
  rfl

lemma length_encodeAll (vs : List Value) :
    (encodeAll vs).length = (vs.map fun v => (encode v).length).sum := by
  induction vs with
  | nil => rfl
  | cons v vs ih => rw [encodeAll, List.length_append, ih, List.map_cons, List.sum_cons]

lemma length_encodeEntries (es : List (Value × Value)) :
    (encodeEntries es).length =
      (es.map fun e => (encode e.1).length + (encode e.2).length).sum := by
  induction es with
  | nil => rfl
  | cons e es ih =>
    obtain ⟨k, v⟩ := e
    rw [encodeEntries, encodeEntry, List.length_append, List.length_append, ih, List.map_cons,
      List.sum_cons]

/-- An array of items of one kind. -/
lemma length_encode_array {α : Type} {write : α → Value} {size : α → ℕ}
    (h : ∀ a, (encode (write a)).length = size a) (as : List α) :
    (encode (.array (as.map write))).length = headLength as.length + (as.map size).sum := by
  rw [encode, List.length_append, length_head, length_encodeAll, List.length_map, List.map_map]
  congr 2
  exact List.map_congr_left fun a _ => h a

@[simp] lemma length_encode_map (es : List (Value × Value)) :
    (encode (.map es)).length = headLength es.length +
      (es.map fun e => (encode e.1).length + (encode e.2).length).sum := by
  rw [encode, List.length_append, length_head, length_encodeEntries]

end Cbor
