import MeshProtocol.Core.Reference
import MeshProtocol.Hub.Redb
import MeshProtocol.Library.Watermark

/-!
# Replicas of the disk-backed store

Gossip delivers descriptors in any order and many times.  With the rate limit skipped, a slot of the
disk-backed store takes a valid descriptor unless its sequence is below that of the descriptor there
(`Watermark.offer`), so it ends with one of greatest sequence among those delivered.

`replicas_converge`: two stores that were delivered the same descriptors, no two of which with
different ids tie for a slot, show the same content at every routing key.  A publisher can give one
content two valid signatures, so which signature comes with it may depend on the order.
-/

namespace MeshProtocol

open Bytes

namespace RedbStorage

section Crypto

variable [Crypto] [DescriptorCodec]

/-- Stores some descriptors one after the other, all at one time. -/
def deliver (s : RedbStorage) (ds : List Descriptor) (now : UInt64) : RedbStorage :=
  (storageMachine RedbStorage).run s (ds.map fun d => .storeDescriptorAt d now)

omit [Crypto] [DescriptorCodec] in
/-- A store with empty tables that skips the rate limit. -/
def emptyReplica : RedbStorage := { new with skipRateLimit := true }

/-- Sequences as the ranks of the slots. -/
abbrev rank (d : Descriptor) : ℕ := d.sequence.toNat

/-- A valid descriptor is offered to its slot. -/
lemma Stocks.offer {P : Set Descriptor} (hP : Descriptor.NoCollision P) {s : RedbStorage}
    {slots : List UInt8 → Option Descriptor} (h : Stocks P s slots) (hskip : s.skipRateLimit = true)
    {d : Descriptor} (hd : d ∈ P) {now : UInt64} (hvalid : d.ValidAt now) :
    Stocks P (s.storeDescriptorAt d now).2 (Watermark.offer dedupKey rank slots d) ∧
      (s.storeDescriptorAt d now).2.skipRateLimit = true := by
  have hallows : s.allows d.publisher now = true := by
    rw [allows, if_pos hskip]
  have hmark : (∀ seq, s.sequences[dedupKey d]? = some seq → seq ≤ d.sequence) ↔
      Watermark.Passes (fun k => (slots k).map rank) (dedupKey d) (rank d) := by
    rw [h.represents.sequences, Watermark.Passes]
    cases slots (dedupKey d) with
    | none => simp
    | some e => simp [UInt64.le_iff_toNat_le]
  cases s.storeDescriptorAt_cases d now with
  | inl hrefused =>
    obtain ⟨e, windows, heq, hcheck⟩ := hrefused
    have hstale : ¬ Watermark.Passes (fun k => (slots k).map rank) (dedupKey d) (rank d) := by
      intro hpasses
      have hok := checkStore_ok_iff.2 ⟨hvalid, hallows, hmark.2 hpasses⟩
      rw [hok] at hcheck
      cases hcheck
    rw [Watermark.offer, if_neg hstale, heq]
    exact ⟨h.of_windows windows s.skipRateLimit, hskip⟩
  | inr hwritten =>
    obtain ⟨windows, heq, hcheck⟩ := hwritten
    have hpasses := hmark.1 (checkStore_ok_iff.1 hcheck).2.2
    rw [Watermark.offer, if_pos hpasses, heq]
    refine ⟨(h.of_windows windows s.skipRateLimit).write hP hd hvalid.authentic, ?_⟩
    rw [← hskip, insertNew, removeOld]
    split <;> rfl

/-- What a replica holds after a delivery. -/
lemma stocks_deliver {P : Set Descriptor} (hP : Descriptor.NoCollision P) {now : UInt64}
    {ds : List Descriptor} (hds : ∀ d ∈ ds, d ∈ P ∧ d.ValidAt now) :
    Stocks P (emptyReplica.deliver ds now)
        (ds.foldl (Watermark.offer dedupKey rank) fun _ => none) ∧
      (emptyReplica.deliver ds now).skipRateLimit = true := by
  induction ds using List.reverseRecOn with
  | nil => exact ⟨(stocks_new P).of_windows _ _, rfl⟩
  | append_singleton ds d ih =>
    obtain ⟨hstocks, hskip⟩ := ih fun e he => hds e (List.mem_append_left _ he)
    obtain ⟨hd, hvalid⟩ := hds d (by simp)
    have hstep := hstocks.offer hP hskip hd hvalid
    rw [List.foldl_append, deliver, List.map_append, Machine.run_append]
    exact hstep

/-- The content a routing key shows in one store is shown in another, signatures aside. -/
def ShowsContentOf (s s' : RedbStorage) : Prop :=
  ∀ rk filters t, ∀ d ∈ s.getDescriptorsAt rk filters t,
    ∃ e ∈ s'.getDescriptorsAt rk filters t, e.id = d.id ∧ e.SameContent d

/-- No two of the descriptors with different ids have one slot and one sequence. -/
def NoTies (D : Set Descriptor) : Prop :=
  ∀ d ∈ D, ∀ e ∈ D, d.id ≠ e.id → dedupKey d = dedupKey e → d.sequence ≠ e.sequence

omit [Crypto] [DescriptorCodec] in
lemma admitted_of_sameContent {d e : Descriptor} (h : e.SameContent d)
    (filters : Option FilterSet) :
    admitted filters e = admitted filters d := by
  simp only [admitted, FilterSet.admits, h.schemaHash, h.timestamp, h.publisher]

omit [Crypto] [DescriptorCodec] in
lemma expiredAt_of_sameContent {d e : Descriptor} (h : e.SameContent d) (t : UInt64) :
    e.expiredAt t = d.expiredAt t := by
  simp only [Descriptor.expiredAt, h.timestamp, h.ttl]

/-- What one delivery leaves in a slot, another delivery of the same descriptors leaves there too,
up to the signature. -/
lemma showsContentOf_deliver {D : Set Descriptor} {now : UInt64}
    (hvalid : ∀ d ∈ D, d.ValidAt now) (hties : NoTies D) (hcollision : Descriptor.NoCollision D)
    {ds es : List Descriptor} (hds : ∀ d, d ∈ ds ↔ d ∈ D) (hes : ∀ d, d ∈ es ↔ d ∈ D) :
    ShowsContentOf (emptyReplica.deliver ds now) (emptyReplica.deliver es now) := by
  intro rk filters t d hd
  have hstocks := (stocks_deliver hcollision fun d hd => ⟨(hds d).1 hd, hvalid d ((hds d).1 hd)⟩).1
  have hstocks' := (stocks_deliver hcollision fun d hd => ⟨(hes d).1 hd, hvalid d ((hes d).1 hd)⟩).1
  obtain ⟨hslot, hrk, hfresh, hadmitted⟩ := hstocks.represents.mem_getDescriptorsAt.1 hd
  obtain ⟨hmem, -, hgreatest⟩ := Watermark.greatest_of_offers hslot
  have hmem' : d ∈ es := (hes d).2 ((hds d).1 hmem)
  obtain ⟨e, hslot'⟩ := Option.ne_none_iff_exists'.1
    (Watermark.offers_ne_none hmem' : es.foldl (Watermark.offer dedupKey rank) _ _ ≠ none)
  obtain ⟨hmem_e, hkey, hgreatest'⟩ := Watermark.greatest_of_offers hslot'
  have hD : d ∈ D := (hds d).1 hmem
  have hDe : e ∈ D := (hes e).1 hmem_e
  have hseq : e.sequence = d.sequence := by
    refine UInt64.toNat_inj.1 (le_antisymm ?_ ?_)
    · exact hgreatest e ((hds e).2 hDe) hkey
    · exact hgreatest' d hmem' rfl
  have hid : e.id = d.id := by
    by_contra hne
    exact hties e hDe d hD hne hkey hseq
  have hsame := hcollision.sameContent hDe hD (hvalid e hDe).authentic (hvalid d hD).authentic hid
  refine ⟨e, hstocks'.represents.mem_getDescriptorsAt.2 ?_, hid, hsame⟩
  rw [hkey, hsame.routingKeys, expiredAt_of_sameContent hsame, admitted_of_sameContent hsame]
  exact ⟨hslot', hrk, hfresh, hadmitted⟩

lemma mem_of_read {D : Set Descriptor} {now : UInt64} (hvalid : ∀ d ∈ D, d.ValidAt now)
    (hcollision : Descriptor.NoCollision D) {ds : List Descriptor} (hds : ∀ d, d ∈ ds ↔ d ∈ D)
    {rk : Hash} {filters : Option FilterSet} {t : UInt64} {d : Descriptor}
    (hd : d ∈ (emptyReplica.deliver ds now).getDescriptorsAt rk filters t) : d ∈ D := by
  have hstocks := (stocks_deliver hcollision fun d hd => ⟨(hds d).1 hd, hvalid d ((hds d).1 hd)⟩).1
  exact hstocks.mem (hstocks.represents.mem_getDescriptorsAt.1 hd).1

/-- Two stores that were delivered the same descriptors, in any order and with any repetitions, show
the same content at every routing key, and the same descriptors if no two of them differ in their
signatures only. -/
theorem replicas_converge (D : Set Descriptor) (now : UInt64) (hvalid : ∀ d ∈ D, d.ValidAt now)
    (hties : NoTies D) (hcollision : Descriptor.NoCollision D) (ds es : List Descriptor)
    (hds : ∀ d, d ∈ ds ↔ d ∈ D) (hes : ∀ d, d ∈ es ↔ d ∈ D) :
    ShowsContentOf (emptyReplica.deliver ds now) (emptyReplica.deliver es now) ∧
      ShowsContentOf (emptyReplica.deliver es now) (emptyReplica.deliver ds now) ∧
      (Set.InjOn Descriptor.id D → ∀ rk filters t d,
        d ∈ (emptyReplica.deliver ds now).getDescriptorsAt rk filters t ↔
          d ∈ (emptyReplica.deliver es now).getDescriptorsAt rk filters t) := by
  have hshows := showsContentOf_deliver hvalid hties hcollision hds hes
  have hshows' := showsContentOf_deliver hvalid hties hcollision hes hds
  refine ⟨hshows, hshows', fun hids rk filters t d => ⟨fun hd => ?_, fun hd => ?_⟩⟩
  · obtain ⟨e, he, hid, -⟩ := hshows rk filters t d hd
    rwa [← hids (mem_of_read hvalid hcollision hes he) (mem_of_read hvalid hcollision hds hd) hid]
  · obtain ⟨e, he, hid, -⟩ := hshows' rk filters t d hd
    rwa [← hids (mem_of_read hvalid hcollision hds he) (mem_of_read hvalid hcollision hes hd) hid]

end Crypto

/-! A capability and a revocation in two orders, and a capability with two signatures. -/

/-- `target` signed again, with another nonce. -/
def resigned : Descriptor where
  schemaHash := target.schemaHash
  topic := target.topic
  payload := target.payload
  publisher := target.publisher
  timestamp := target.timestamp
  sequence := target.sequence
  ttl := target.ttl
  routingKeys := target.routingKeys
  id := target.id
  signature := beBytes 64
    0x156066fae0212dbd64f85f330238e93fc600324b4b2f16a8a21ca59aeede783c15079daebb92089384c398ae4d1914927e5f0a8030b1015f0f1c14e9ee0eb206

theorem reordered_replicas_converge :
    letI : Crypto := cryptoOf [target, ownRevocation]
    letI : DescriptorCodec := wireCodec
    ShowsContentOf (emptyReplica.deliver [target, ownRevocation] 1700000000000000)
      (emptyReplica.deliver [ownRevocation, target, target] 1700000000000000) := by
  let _ : Crypto := cryptoOf [target, ownRevocation]
  let _ : DescriptorCodec := wireCodec
  have hvalid : ∀ d ∈ [target, ownRevocation], d.ValidAt 1700000000000000 := by
    intro d hd
    rw [← Descriptor.validate_eq_ok_iff]
    revert d
    decide +kernel
  have hties : NoTies {d | d ∈ [target, ownRevocation]} := by
    have hkeys : ∀ d ∈ [target, ownRevocation], ∀ e ∈ [target, ownRevocation],
        d.id ≠ e.id → dedupKey d ≠ dedupKey e := by decide +kernel
    intro d hd e he hid hkey
    exact absurd hkey (hkeys d hd e he hid)
  refine (replicas_converge {d | d ∈ [target, ownRevocation]} 1700000000000000 hvalid hties
    (Descriptor.noCollision_of_list (by decide +kernel)) [target, ownRevocation]
    [ownRevocation, target, target] (fun d => Iff.rfl) ?_).1
  intro d
  simp [or_comm]

/-- Which of two signatures of one content is shown depends on the order. -/
theorem resigned_order_matters :
    letI : Crypto := cryptoOf [target, resigned]
    letI : DescriptorCodec := wireCodec
    (∀ d ∈ [target, resigned], d.ValidAt 1700000000000000) ∧
      NoTies {d | d ∈ [target, resigned]} ∧
      target ∈ (emptyReplica.deliver [resigned, target] 1700000000000000).getDescriptorsAt
        computeKey none 1700000000000000 ∧
      target ∉ (emptyReplica.deliver [target, resigned] 1700000000000000).getDescriptorsAt
        computeKey none 1700000000000000 := by
  let _ : Crypto := cryptoOf [target, resigned]
  let _ : DescriptorCodec := wireCodec
  refine ⟨?_, ?_, by decide +kernel, by decide +kernel⟩
  · intro d hd
    rw [← Descriptor.validate_eq_ok_iff]
    revert d
    decide +kernel
  · have hids : ∀ d ∈ [target, resigned], ∀ e ∈ [target, resigned], d.id = e.id := by
      decide +kernel
    intro d hd e he hid
    exact absurd (hids d hd e he) hid

end RedbStorage

end MeshProtocol
