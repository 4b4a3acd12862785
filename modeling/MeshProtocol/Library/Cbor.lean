import MeshProtocol.Library.Bytes
import Mathlib.Data.List.Basic
import Mathlib.Tactic.Linarith

/-!
# CBOR data items (RFC 8949)

The data items of CBOR as a tree (`Cbor.Value`), their encoding with shortest definite-length
heads (`encode`), and a decoder (`decode`) that reads one item off the front of a byte string.

The one fact everything else uses is `decode_encode`: what was encoded is read back, and the bytes
that follow are left alone.  Injectivity and prefix-freeness of the encoding are corollaries.  CBOR
writes every count in at most 64 bits, so the facts are about values all of whose counts fit
(`Fits`).  Floats are written in their 8-byte form only.
-/

namespace Cbor

open Bytes

/-! ## Data items -/

/-- A CBOR data item. -/
inductive Value where
  | integer (n : ℤ)
  | bytes (b : List UInt8)
  | float (bits : UInt64)
  | text (s : String)
  | bool (b : Bool)
  | null
  | tag (t : ℕ) (v : Value)
  | array (vs : List Value)
  | map (entries : List (Value × Value))

namespace Value

/-- The entries of a map item. -/
def asMap : Value → Option (List (Value × Value))
  | .map entries => some entries
  | _ => none

/-- The text of a text item. -/
def asText : Value → Option String
  | .text s => some s
  | _ => none

/-- The bytes of a byte-string item. -/
def asBytes : Value → Option (List UInt8)
  | .bytes b => some b
  | _ => none

/-- The number of an integer item. -/
def asInteger : Value → Option ℤ
  | .integer n => some n
  | _ => none

/-- The items of an array item. -/
def asArray : Value → Option (List Value)
  | .array vs => some vs
  | _ => none

/-- The number of an integer item, where it is a natural number below a bound. -/
def asNat (bound : ℕ) (v : Value) : Option ℕ :=
  v.asInteger.bind fun i => if 0 ≤ i ∧ i < bound then some i.toNat else none

lemma asNat_integer {bound n : ℕ} (hn : n < bound) : asNat bound (.integer n) = some n := by
  simp [asNat, asInteger, hn]

end Value

/-- The first entry of a map whose key is the given text and whose value reads. -/
def findField {α : Type} (entries : List (Value × Value)) (name : String)
    (read : Value → Option α) : Option α :=
  entries.findSome? fun (k, v) => if k.asText = some name then read v else none

lemma findField_self {α : Type} {name : String} {v : Value} {read : Value → Option α} {a : α}
    (h : read v = some a) (entries : List (Value × Value)) :
    findField ((.text name, v) :: entries) name read = some a := by
  simp [findField, Value.asText, h]

lemma findField_of_ne {α : Type} {key name : String} (h : key ≠ name) {v : Value}
    {read : Value → Option α} (entries : List (Value × Value)) :
    findField ((.text key, v) :: entries) name read = findField entries name read := by
  simp [findField, Value.asText, h]

/-! ## Heads -/

/-- The head of an item: major type and argument, the argument in the shortest of the five forms. -/
def head (major n : ℕ) : List UInt8 :=
  if n < 24 then [UInt8.ofNat (major * 32 + n)]
  else if n < 2 ^ 8 then UInt8.ofNat (major * 32 + 24) :: beBytes 1 n
  else if n < 2 ^ 16 then UInt8.ofNat (major * 32 + 25) :: beBytes 2 n
  else if n < 2 ^ 32 then UInt8.ofNat (major * 32 + 26) :: beBytes 4 n
  else UInt8.ofNat (major * 32 + 27) :: beBytes 8 n

/-- Splits `n` bytes off the front, when there are that many. -/
def splitBytes (n : ℕ) (bs : List UInt8) : Option (List UInt8 × List UInt8) :=
  if n ≤ bs.length then some (bs.splitAt n) else none

/-- How many bytes of argument follow an initial byte with this additional information. -/
def argWidth : ℕ → Option ℕ
  | 24 => some 1
  | 25 => some 2
  | 26 => some 4
  | 27 => some 8
  | _ => none

/-- Reads a head: the major type, the additional information, the argument, and what follows. -/
def readHead : List UInt8 → Option (ℕ × ℕ × ℕ × List UInt8)
  | [] => none
  | b :: rest =>
    let major := b.toNat / 32
    let info := b.toNat % 32
    if info < 24 then some (major, info, info, rest)
    else do
      let k ← argWidth info
      let (arg, rest) ← splitBytes k rest
      return (major, info, beNat arg, rest)

lemma splitBytes_append (front rest : List UInt8) :
    splitBytes front.length (front ++ rest) = some (front, rest) := by
  simp [splitBytes, List.splitAt_eq]

lemma splitBytes_beBytes (k n : ℕ) (rest : List UInt8) :
    splitBytes k (beBytes k n ++ rest) = some (beBytes k n, rest) := by
  simpa using splitBytes_append (beBytes k n) rest

lemma toNat_initialByte {major info : ℕ} (hm : major < 8) (hi : info < 32) :
    (UInt8.ofNat (major * 32 + info)).toNat = major * 32 + info := by
  rw [UInt8.toNat_ofNat', Nat.mod_eq_of_lt (by omega)]

lemma readHead_short {major n : ℕ} (hm : major < 8) (hn : n < 24) (rest : List UInt8) :
    readHead (UInt8.ofNat (major * 32 + n) :: rest) = some (major, n, n, rest) := by
  have hb := toNat_initialByte hm (show n < 32 by omega)
  have hdiv : (major * 32 + n) / 32 = major := by omega
  have hmod : (major * 32 + n) % 32 = n := by omega
  simp only [readHead, hb, hdiv, hmod, if_pos hn]

lemma readHead_long {major info k n : ℕ} (hm : major < 8) (hlo : 24 ≤ info) (hhi : info < 32)
    (hk : argWidth info = some k) (hn : n < 256 ^ k) (rest : List UInt8) :
    readHead (UInt8.ofNat (major * 32 + info) :: (beBytes k n ++ rest)) =
      some (major, info, n, rest) := by
  have hdiv : (major * 32 + info) / 32 = major := by omega
  have hmod : (major * 32 + info) % 32 = info := by omega
  have hshort : ¬ info < 24 := by omega
  simp only [readHead, toNat_initialByte hm hhi, hdiv, hmod, if_neg hshort, hk,
    splitBytes_beBytes, Option.bind_eq_bind, Option.bind_some, beNat_beBytes_of_lt hn,
    Option.pure_def]

/-- Reading back a head gives its major type and argument. -/
lemma readHead_head {major n : ℕ} (hm : major < 8) (hn : n < 2 ^ 64) (rest : List UInt8) :
    ∃ info, readHead (head major n ++ rest) = some (major, info, n, rest) := by
  unfold head
  split_ifs with h1 h2 h3 h4
  · exact ⟨n, readHead_short hm h1 rest⟩
  · exact ⟨24, readHead_long hm (by omega) (by omega) rfl (by simpa using h2) rest⟩
  · exact ⟨25, readHead_long hm (by omega) (by omega) rfl (by simpa using h3) rest⟩
  · exact ⟨26, readHead_long hm (by omega) (by omega) rfl (by simpa using h4) rest⟩
  · exact ⟨27, readHead_long hm (by omega) (by omega) rfl (by simpa using hn) rest⟩

/-! ## Encoding -/

mutual

/-- The bytes of a data item. -/
def encode : Value → List UInt8
  | .integer n => if 0 ≤ n then head 0 n.toNat else head 1 (-1 - n).toNat
  | .bytes b => head 2 b.length ++ b
  | .text s => head 3 (utf8Bytes s).length ++ utf8Bytes s
  | .array vs => head 4 vs.length ++ encodeAll vs
  | .map entries => head 5 entries.length ++ encodeEntries entries
  | .tag t v => head 6 t ++ encode v
  | .bool b => [if b then 0xf5 else 0xf4]
  | .null => [0xf6]
  | .float bits => 0xfb :: beBytes 8 bits.toNat
termination_by structural v => v

/-- The items of an array, one after the other. -/
def encodeAll : List Value → List UInt8
  | [] => []
  | v :: vs => encode v ++ encodeAll vs
termination_by structural vs => vs

/-- The entries of a map, one after the other. -/
def encodeEntries : List (Value × Value) → List UInt8
  | [] => []
  | e :: es => encodeEntry e ++ encodeEntries es
termination_by structural es => es

/-- One entry of a map: its key, then its value. -/
def encodeEntry : Value × Value → List UInt8
  | (k, v) => encode k ++ encode v
termination_by structural e => e

end

/-! ## Decoding -/

/-- Reads `n` things off the front with the given reader. -/
def readMany {α : Type} (read : List UInt8 → Option (α × List UInt8)) :
    ℕ → List UInt8 → Option (List α × List UInt8)
  | 0, bs => some ([], bs)
  | n + 1, bs => do
    let (a, rest) ← read bs
    let (as, rest) ← readMany read n rest
    return (a :: as, rest)

/-- Reads a map entry off the front: a key, then a value. -/
def readEntry (read : List UInt8 → Option (Value × List UInt8)) (bs : List UInt8) :
    Option ((Value × Value) × List UInt8) := do
  let (k, rest) ← read bs
  let (v, rest) ← read rest
  return ((k, v), rest)

/-- Reads one data item off the front; the fuel bounds how deep items nest. -/
def decode : ℕ → List UInt8 → Option (Value × List UInt8)
  | 0, _ => none
  | fuel + 1, bs => do
    let (major, info, n, rest) ← readHead bs
    match major with
    | 0 => some (.integer n, rest)
    | 1 => some (.integer (-1 - n), rest)
    | 2 => (splitBytes n rest).map fun (b, rest) => (.bytes b, rest)
    | 3 => do
      let (b, rest) ← splitBytes n rest
      let s ← textOfUtf8 b
      return (.text s, rest)
    | 4 => (readMany (decode fuel) n rest).map fun (vs, rest) => (.array vs, rest)
    | 5 => (readMany (readEntry (decode fuel)) n rest).map fun (es, rest) => (.map es, rest)
    | 6 => (decode fuel rest).map fun (v, rest) => (.tag n v, rest)
    | _ =>
      match info with
      | 20 => some (.bool false, rest)
      | 21 => some (.bool true, rest)
      | 22 => some (.null, rest)
      | 27 => some (.float (UInt64.ofNat n), rest)
      | _ => none

/-- Reads one data item off the front of a byte string, dropping what follows it. -/
def fromBytes (bs : List UInt8) : Option Value := (decode bs.length bs).map Prod.fst

/-! ## Values that fit, and how deep they nest -/

mutual

/-- Every integer and every count of the item fits the 64 bits CBOR has for it. -/
def Fits : Value → Prop
  | .integer n => -2 ^ 64 ≤ n ∧ n < 2 ^ 64
  | .bytes b => b.length < 2 ^ 64
  | .text s => (utf8Bytes s).length < 2 ^ 64
  | .array vs => vs.length < 2 ^ 64 ∧ FitsAll vs
  | .map entries => entries.length < 2 ^ 64 ∧ FitsEntries entries
  | .tag t v => t < 2 ^ 64 ∧ Fits v
  | .bool _ => True
  | .null => True
  | .float _ => True
termination_by structural v => v

/-- Every item of the list fits. -/
def FitsAll : List Value → Prop
  | [] => True
  | v :: vs => Fits v ∧ FitsAll vs
termination_by structural vs => vs

/-- Every entry of the list fits. -/
def FitsEntries : List (Value × Value) → Prop
  | [] => True
  | e :: es => FitsEntry e ∧ FitsEntries es
termination_by structural es => es

/-- Key and value fit. -/
def FitsEntry : Value × Value → Prop
  | (k, v) => Fits k ∧ Fits v
termination_by structural e => e

end

mutual

/-- How deep items nest in an item, itself included. -/
def depth : Value → ℕ
  | .array vs => depthAll vs + 1
  | .map entries => depthEntries entries + 1
  | .tag _ v => depth v + 1
  | .integer _ => 1
  | .bytes _ => 1
  | .text _ => 1
  | .bool _ => 1
  | .null => 1
  | .float _ => 1
termination_by structural v => v

/-- The deepest nesting among the items of a list. -/
def depthAll : List Value → ℕ
  | [] => 0
  | v :: vs => max (depth v) (depthAll vs)
termination_by structural vs => vs

/-- The deepest nesting among the entries of a list. -/
def depthEntries : List (Value × Value) → ℕ
  | [] => 0
  | e :: es => max (depthEntry e) (depthEntries es)
termination_by structural es => es

/-- The deeper of key and value. -/
def depthEntry : Value × Value → ℕ
  | (k, v) => max (depth k) (depth v)
termination_by structural e => e

end

lemma fitsAll_iff {vs : List Value} : FitsAll vs ↔ ∀ v ∈ vs, Fits v := by
  induction vs with
  | nil => simp [FitsAll]
  | cons v vs ih => simp [FitsAll, ih]

/-! ## Reading back what was written -/

mutual

/-- A written item is read back, and what follows it is left alone. -/
theorem decode_encode (v : Value) (hv : Fits v) {fuel : ℕ} (hfuel : depth v ≤ fuel)
    (rest : List UInt8) : decode fuel (encode v ++ rest) = some (v, rest) := by
  obtain _ | fuel := fuel
  · cases v <;> simp [depth] at hfuel
  cases v with
  | integer n =>
    obtain ⟨hlo, hhi⟩ := hv
    by_cases hn : 0 ≤ n
    · obtain ⟨info, hread⟩ := readHead_head (show 0 < 8 by omega)
        (show n.toNat < 2 ^ 64 by omega) rest
      simp [encode, decode, hn, hread]
    · obtain ⟨info, hread⟩ := readHead_head (show 1 < 8 by omega)
        (show (-1 - n).toNat < 2 ^ 64 by omega) rest
      have hback : -1 - max (-1 - n) 0 = n := by omega
      simp [encode, decode, hn, hread, hback]
  | bytes b =>
    obtain ⟨info, hread⟩ := readHead_head (show 2 < 8 by omega) hv (b ++ rest)
    simp [encode, decode, hread, splitBytes_append]
  | text s =>
    obtain ⟨info, hread⟩ := readHead_head (show 3 < 8 by omega) hv (utf8Bytes s ++ rest)
    simp [encode, decode, hread, splitBytes_append, textOfUtf8_utf8Bytes]
  | array vs =>
    obtain ⟨hlen, hvs⟩ := hv
    obtain ⟨info, hread⟩ := readHead_head (show 4 < 8 by omega) hlen (encodeAll vs ++ rest)
    have hall := decodeAll_encodeAll vs hvs
      (show depthAll vs ≤ fuel by simpa [depth] using hfuel) rest
    simp [encode, decode, hread, hall]
  | map entries =>
    obtain ⟨hlen, hes⟩ := hv
    obtain ⟨info, hread⟩ := readHead_head (show 5 < 8 by omega) hlen
      (encodeEntries entries ++ rest)
    have hall := decodeEntries_encodeEntries entries hes
      (show depthEntries entries ≤ fuel by simpa [depth] using hfuel) rest
    simp [encode, decode, hread, hall]
  | tag t v =>
    obtain ⟨ht, hfits⟩ := hv
    obtain ⟨info, hread⟩ := readHead_head (show 6 < 8 by omega) ht (encode v ++ rest)
    have hinner := decode_encode v hfits
      (show depth v ≤ fuel by simpa [depth] using hfuel) rest
    simp [encode, decode, hread, hinner]
  | bool b => cases b <;> simp [encode, decode, readHead]
  | null => simp [encode, decode, readHead]
  | float bits =>
    have hbits : bits.toNat < 256 ^ 8 := by simpa using bits.toNat_lt
    have hread : readHead (0xfb :: (beBytes 8 bits.toNat ++ rest)) =
        some (7, 27, bits.toNat, rest) :=
      readHead_long (show 7 < 8 by omega) (show 24 ≤ 27 by omega) (show 27 < 32 by omega) rfl
        hbits rest
    simp [encode, decode, hread]
termination_by structural v

/-- Written items are read back in order. -/
theorem decodeAll_encodeAll (vs : List Value) (hvs : FitsAll vs) {fuel : ℕ}
    (hfuel : depthAll vs ≤ fuel) (rest : List UInt8) :
    readMany (decode fuel) vs.length (encodeAll vs ++ rest) = some (vs, rest) := by
  cases vs with
  | nil => simp [encodeAll, readMany]
  | cons v vs =>
    obtain ⟨hv, hvs⟩ := hvs
    rw [depthAll, max_le_iff] at hfuel
    have hfirst := decode_encode v hv hfuel.1 (encodeAll vs ++ rest)
    have hothers := decodeAll_encodeAll vs hvs hfuel.2 rest
    simp [encodeAll, readMany, hfirst, hothers]
termination_by structural vs

/-- Written entries are read back in order. -/
theorem decodeEntries_encodeEntries (es : List (Value × Value)) (hes : FitsEntries es) {fuel : ℕ}
    (hfuel : depthEntries es ≤ fuel) (rest : List UInt8) :
    readMany (readEntry (decode fuel)) es.length (encodeEntries es ++ rest) = some (es, rest) := by
  cases es with
  | nil => simp [encodeEntries, readMany]
  | cons e es =>
    obtain ⟨he, hes⟩ := hes
    rw [depthEntries, max_le_iff] at hfuel
    have hfirst := decodeEntry_encodeEntry e he hfuel.1 (encodeEntries es ++ rest)
    have hothers := decodeEntries_encodeEntries es hes hfuel.2 rest
    simp [encodeEntries, readMany, hfirst, hothers]
termination_by structural es

/-- A written entry is read back. -/
theorem decodeEntry_encodeEntry (e : Value × Value) (he : FitsEntry e) {fuel : ℕ}
    (hfuel : depthEntry e ≤ fuel) (rest : List UInt8) :
    readEntry (decode fuel) (encodeEntry e ++ rest) = some (e, rest) := by
  obtain ⟨k, v⟩ := e
  obtain ⟨hk, hv⟩ := he
  rw [depthEntry, max_le_iff] at hfuel
  have hkey := decode_encode k hk hfuel.1 (encode v ++ rest)
  have hvalue := decode_encode v hv hfuel.2 rest
  simp [encodeEntry, readEntry, hkey, hvalue]
termination_by structural e

end

/-- The encoding is prefix-free: two items followed by equal bytes are equal, and so are the bytes
after them. -/
theorem encode_append_inj {v w : Value} (hv : Fits v) (hw : Fits w) {r s : List UInt8}
    (h : encode v ++ r = encode w ++ s) : v = w ∧ r = s := by
  have hread := decode_encode v hv (le_max_left (depth v) (depth w)) r
  rw [h, decode_encode w hw (le_max_right (depth v) (depth w)) s] at hread
  simpa [eq_comm] using hread

/-- Different items have different encodings. -/
theorem encode_injOn : Set.InjOn encode {v | Fits v} := by
  intro v hv w hw h
  exact (encode_append_inj hv hw (congrArg (· ++ []) h)).1

lemma length_head_pos (major n : ℕ) : 0 < (head major n).length := by
  unfold head
  split_ifs <;> simp

mutual

lemma depth_le_length : ∀ v : Value, depth v ≤ (encode v).length
  | .integer n => by
    have h0 := length_head_pos 0 n.toNat
    have h1 := length_head_pos 1 (-1 - n).toNat
    simp only [depth, encode]
    split <;> omega
  | .bytes b => by
    have := length_head_pos 2 b.length
    simp only [depth, encode, List.length_append]
    omega
  | .text s => by
    have := length_head_pos 3 (utf8Bytes s).length
    simp only [depth, encode, List.length_append]
    omega
  | .array vs => by
    have := length_head_pos 4 vs.length
    have := depthAll_le_length vs
    simp only [depth, encode, List.length_append]
    omega
  | .map entries => by
    have := length_head_pos 5 entries.length
    have := depthEntries_le_length entries
    simp only [depth, encode, List.length_append]
    omega
  | .tag t v => by
    have := length_head_pos 6 t
    have := depth_le_length v
    simp only [depth, encode, List.length_append]
    omega
  | .bool _ => by simp [depth, encode]
  | .null => by simp [depth, encode]
  | .float _ => by simp [depth, encode]

lemma depthAll_le_length : ∀ vs : List Value, depthAll vs ≤ (encodeAll vs).length
  | [] => le_rfl
  | v :: vs => by
    have := depth_le_length v
    have := depthAll_le_length vs
    simp only [depthAll, encodeAll, List.length_append]
    omega

lemma depthEntries_le_length : ∀ es : List (Value × Value),
    depthEntries es ≤ (encodeEntries es).length
  | [] => le_rfl
  | e :: es => by
    have := depthEntry_le_length e
    have := depthEntries_le_length es
    simp only [depthEntries, encodeEntries, List.length_append]
    omega

lemma depthEntry_le_length : ∀ e : Value × Value, depthEntry e ≤ (encodeEntry e).length
  | (k, v) => by
    have := depth_le_length k
    have := depth_le_length v
    simp only [depthEntry, encodeEntry, List.length_append]
    omega

end

/-- Reading one item off a written item gives it back. -/
theorem fromBytes_encode {v : Value} (hv : Fits v) : fromBytes (encode v) = some v := by
  have h := decode_encode v hv (depth_le_length v) []
  rw [List.append_nil] at h
  rw [fromBytes, h]
  rfl

end Cbor
