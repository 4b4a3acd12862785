import MeshProtocol.Library.Cbor

/-!
# Truncated CBOR items

The decoder of `Cbor` reads no further than it needs: what it reads off the front of a byte string
it reads off every longer one.  An item that was cut short is therefore no item at all.

The counts of an item are bounded by the length of its encoding, so that only its integers and tags
have to fit (`NumbersFit`) where the encoding is known to be short.
-/

namespace Cbor

open Bytes

/-! ## Readers that read no further than they need -/

section Extends

variable {α β : Type}

/-- What one reader reads off the front, the other reads with any bytes behind it. -/
def Extends (read read' : List UInt8 → Option (α × List UInt8)) : Prop :=
  ∀ ⦃bs a rest⦄, read bs = some (a, rest) → ∀ more, read' (bs ++ more) = some (a, rest ++ more)

variable {read read' : List UInt8 → Option (α × List UInt8)}

lemma Extends.bind (h : Extends read read') {next next' : α → List UInt8 → Option (β × List UInt8)}
    (hnext : ∀ a, Extends (next a) (next' a)) :
    Extends (fun bs => (read bs).bind fun p => next p.1 p.2)
      (fun bs => (read' bs).bind fun p => next' p.1 p.2) := by
  intro bs b rest hread more
  obtain ⟨⟨a, rest₁⟩, hfirst, hsecond⟩ := Option.bind_eq_some_iff.1 hread
  show (read' (bs ++ more)).bind _ = _
  rw [h hfirst more]
  exact hnext a hsecond more

lemma Extends.map (h : Extends read read') (f : α → β) :
    Extends (fun bs => (read bs).map fun p => (f p.1, p.2))
      (fun bs => (read' bs).map fun p => (f p.1, p.2)) := by
  intro bs b rest hread more
  obtain ⟨⟨a, rest₁⟩, hfirst, hsecond⟩ := Option.map_eq_some_iff.1 hread
  obtain ⟨rfl, rfl⟩ := Prod.mk.inj hsecond
  show (read' (bs ++ more)).map _ = _
  rw [h hfirst more]
  rfl

lemma extends_some (a : α) : Extends (fun bs => some (a, bs)) (fun bs => some (a, bs)) := by
  intro bs a' rest hread more
  obtain ⟨rfl, rfl⟩ := Prod.mk.inj (Option.some.inj hread)
  rfl

lemma extends_splitBytes (n : ℕ) : Extends (splitBytes n) (splitBytes n) := by
  intro bs front rest hread more
  have hlong : n ≤ bs.length := by
    by_contra hshort
    rw [splitBytes, if_neg hshort] at hread
    cases hread
  have hlonger : n ≤ (bs ++ more).length := by
    rw [List.length_append]
    omega
  rw [splitBytes, if_pos hlong, List.splitAt_eq] at hread
  obtain ⟨rfl, rfl⟩ := Prod.mk.inj (Option.some.inj hread)
  rw [splitBytes, if_pos hlonger, List.splitAt_eq, List.take_append_of_le_length hlong,
    List.drop_append_of_le_length hlong]

lemma Extends.readMany (h : Extends read read') :
    ∀ n, Extends (Cbor.readMany read n) (Cbor.readMany read' n)
  | 0 => extends_some []
  | n + 1 => h.bind fun a => (readMany h n).bind fun as => extends_some (a :: as)

end Extends

lemma Extends.readEntry {read read' : List UInt8 → Option (Value × List UInt8)}
    (h : Extends read read') : Extends (Cbor.readEntry read) (Cbor.readEntry read') :=
  h.bind fun k => h.bind fun v => extends_some (k, v)

/-- A head is read whatever follows it. -/
lemma readHead_append {bs rest : List UInt8} {major info n : ℕ}
    (h : readHead bs = some (major, info, n, rest)) (more : List UInt8) :
    readHead (bs ++ more) = some (major, info, n, rest ++ more) := by
  match bs with
  | [] => cases h
  | b :: bs =>
    rw [readHead] at h
    rw [List.cons_append, readHead]
    dsimp only at h ⊢
    by_cases hshort : b.toNat % 32 < 24
    · rw [if_pos hshort] at h ⊢
      obtain ⟨rfl, rfl, rfl, rfl⟩ : _ ∧ _ ∧ _ ∧ _ := by simpa using h
      rfl
    · rw [if_neg hshort] at h ⊢
      obtain ⟨k, hk, h⟩ := Option.bind_eq_some_iff.1 h
      obtain ⟨⟨arg, rest₁⟩, hsplit, h⟩ := Option.bind_eq_some_iff.1 h
      obtain ⟨rfl, rfl, rfl, rfl⟩ : _ ∧ _ ∧ _ ∧ _ := by simpa using h
      rw [hk, Option.bind_eq_bind, Option.bind_some, extends_splitBytes k hsplit more]
      rfl

/-- So is an item, with at least the fuel it took. -/
theorem extends_decode {fuel : ℕ} : ∀ {fuel' : ℕ}, fuel ≤ fuel' →
    Extends (decode fuel) (decode fuel') := by
  induction fuel with
  | zero =>
    intro fuel' _ bs v rest h
    cases h
  | succ fuel ih =>
    intro fuel' hfuel bs v rest h more
    obtain ⟨fuel', rfl⟩ : ∃ k, fuel' = k + 1 := ⟨fuel' - 1, by omega⟩
    have hless : Extends (decode fuel) (decode fuel') := ih (Nat.le_of_succ_le_succ hfuel)
    obtain ⟨⟨major, info, n, tail⟩, hhead, h⟩ := Option.bind_eq_some_iff.1 h
    rw [decode, readHead_append hhead more, Option.bind_eq_bind, Option.bind_some]
    dsimp only at h ⊢
    -- one case for each major type
    split at h
    · exact extends_some _ h more
    · exact extends_some _ h more
    · exact (extends_splitBytes n).map Value.bytes h more
    · obtain ⟨⟨b, tail₁⟩, hsplit, h⟩ := Option.bind_eq_some_iff.1 h
      obtain ⟨s, htext, h⟩ := Option.bind_eq_some_iff.1 h
      rw [extends_splitBytes n hsplit more, Option.bind_eq_bind, Option.bind_some]
      dsimp only
      rw [htext]
      exact extends_some _ h more
    · exact (hless.readMany n).map Value.array h more
    · exact (hless.readEntry.readMany n).map Value.map h more
    · exact hless.map (Value.tag n) h more
    · split at h
      · exact extends_some _ h more
      · exact extends_some _ h more
      · exact extends_some _ h more
      · exact extends_some _ h more
      · cases h

/-- A written item that was cut short is no item. -/
theorem fromBytes_cut {v : Value} (hv : Fits v) {front rest : List UInt8}
    (h : encode v = front ++ rest) (hrest : rest ≠ []) : fromBytes front = none := by
  by_contra hsome
  obtain ⟨w, hw⟩ := Option.ne_none_iff_exists'.1 hsome
  obtain ⟨⟨w', tail⟩, hread, -⟩ := Option.map_eq_some_iff.1 hw
  have hwhole := extends_decode (le_max_right (depth v) front.length) hread rest
  rw [← h] at hwhole
  have hagain := decode_encode v hv (le_max_left (depth v) front.length) []
  rw [List.append_nil, hwhole] at hagain
  obtain ⟨-, hnil⟩ := Prod.mk.inj (Option.some.inj hagain)
  exact hrest (List.append_eq_nil_iff.1 hnil).2

/-! ## Short items fit -/

mutual

/-- Every integer and every tag of the item fits the 64 bits CBOR has for it. -/
def NumbersFit : Value → Prop
  | .integer n => -2 ^ 64 ≤ n ∧ n < 2 ^ 64
  | .bytes _ => True
  | .text _ => True
  | .array vs => NumbersFitAll vs
  | .map entries => NumbersFitEntries entries
  | .tag t v => t < 2 ^ 64 ∧ NumbersFit v
  | .bool _ => True
  | .null => True
  | .float _ => True
termination_by structural v => v

/-- Those of every item of the list do. -/
def NumbersFitAll : List Value → Prop
  | [] => True
  | v :: vs => NumbersFit v ∧ NumbersFitAll vs
termination_by structural vs => vs

/-- Those of every entry of the list do. -/
def NumbersFitEntries : List (Value × Value) → Prop
  | [] => True
  | e :: es => NumbersFitEntry e ∧ NumbersFitEntries es
termination_by structural es => es

/-- Those of key and value do. -/
def NumbersFitEntry : Value × Value → Prop
  | (k, v) => NumbersFit k ∧ NumbersFit v
termination_by structural e => e

end

lemma numbersFitAll_iff {vs : List Value} : NumbersFitAll vs ↔ ∀ v ∈ vs, NumbersFit v := by
  induction vs with
  | nil => simp [NumbersFitAll]
  | cons v vs ih => simp [NumbersFitAll, ih]

lemma numbersFitEntries_append {es es' : List (Value × Value)} :
    NumbersFitEntries (es ++ es') ↔ NumbersFitEntries es ∧ NumbersFitEntries es' := by
  induction es with
  | nil => simp [NumbersFitEntries]
  | cons e es ih => simp [NumbersFitEntries, ih, and_assoc]

lemma length_encode_pos (v : Value) : 0 < (encode v).length := by
  have hdepth : 0 < depth v := by cases v <;> simp [depth]
  exact hdepth.trans_le (depth_le_length v)

lemma length_le_encodeAll (vs : List Value) : vs.length ≤ (encodeAll vs).length := by
  induction vs with
  | nil => exact le_rfl
  | cons v vs ih =>
    have hfirst := length_encode_pos v
    rw [encodeAll, List.length_append, List.length_cons]
    omega

lemma length_le_encodeEntries (es : List (Value × Value)) :
    es.length ≤ (encodeEntries es).length := by
  induction es with
  | nil => exact le_rfl
  | cons e es ih =>
    obtain ⟨k, v⟩ := e
    have hkey := length_encode_pos k
    rw [encodeEntries, encodeEntry, List.length_append, List.length_append, List.length_cons]
    omega

mutual

/-- The counts of an item with a short encoding are small. -/
theorem fits_of_length : ∀ v : Value, NumbersFit v → (encode v).length < 2 ^ 64 → Fits v
  | .integer _, h, _ => h
  | .bytes b, _, hlen => by
    rw [encode, List.length_append] at hlen
    show b.length < 2 ^ 64
    omega
  | .text s, _, hlen => by
    rw [encode, List.length_append] at hlen
    show (utf8Bytes s).length < 2 ^ 64
    omega
  | .array vs, h, hlen => by
    rw [encode, List.length_append] at hlen
    have hcount := length_le_encodeAll vs
    exact ⟨by omega, fitsAll_of_length vs h (by omega)⟩
  | .map entries, h, hlen => by
    rw [encode, List.length_append] at hlen
    have hcount := length_le_encodeEntries entries
    exact ⟨by omega, fitsEntries_of_length entries h (by omega)⟩
  | .tag t v, h, hlen => by
    rw [encode, List.length_append] at hlen
    exact ⟨h.1, fits_of_length v h.2 (by omega)⟩
  | .bool _, _, _ => trivial
  | .null, _, _ => trivial
  | .float _, _, _ => trivial
termination_by structural v => v

lemma fitsAll_of_length : ∀ vs : List Value, NumbersFitAll vs → (encodeAll vs).length < 2 ^ 64 →
    FitsAll vs
  | [], _, _ => trivial
  | v :: vs, h, hlen => by
    rw [encodeAll, List.length_append] at hlen
    exact ⟨fits_of_length v h.1 (by omega), fitsAll_of_length vs h.2 (by omega)⟩
termination_by structural vs => vs

lemma fitsEntries_of_length : ∀ es : List (Value × Value), NumbersFitEntries es →
    (encodeEntries es).length < 2 ^ 64 → FitsEntries es
  | [], _, _ => trivial
  | e :: es, h, hlen => by
    rw [encodeEntries, List.length_append] at hlen
    exact ⟨fitsEntry_of_length e h.1 (by omega), fitsEntries_of_length es h.2 (by omega)⟩
termination_by structural es => es

lemma fitsEntry_of_length : ∀ e : Value × Value, NumbersFitEntry e →
    (encodeEntry e).length < 2 ^ 64 → FitsEntry e
  | (k, v), h, hlen => by
    rw [encodeEntry, List.length_append] at hlen
    exact ⟨fits_of_length k h.1 (by omega), fits_of_length v h.2 (by omega)⟩
termination_by structural e => e

end

end Cbor
