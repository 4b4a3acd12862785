import MeshProtocol.Dht.Offers
import MeshProtocol.Dht.Settled

/-!
# The contents of a store

What a store serves, and what it makes of an offer, depends on its contents only: the lists under
the routing keys, the watermarks, the revocations and the successions.  An offer that is made again
changes nothing in them.
-/

namespace MeshProtocol

open Std

/-- To insert what a map has already does nothing. -/
lemma insert_eq_self_of_getElem?_eq {κ α : Type} {cmp : κ → κ → Ordering} [TransCmp cmp]
    [LawfulEqCmp cmp] {m : ExtTreeMap κ α cmp} {k : κ} {v : α} (h : m[k]? = some v) :
    m.insert k v = m := by
  refine ExtTreeMap.ext_getElem? fun {k'} => ?_
  rw [ExtTreeMap.getElem?_insert]
  split_ifs with heq
  · rw [← LawfulEqCmp.eq_of_compare heq, h]
  · rfl

namespace DescriptorStore

/-- Two stores have the same contents: they differ in the rate-limit windows at most, and in routing
keys that have nothing under them. -/
structure SameContents (s u : DescriptorStore) : Prop where
  held : ∀ rk, u.store.held rk = s.store.held rk
  sequences : u.sequences = s.sequences
  revoked : u.revoked = s.revoked
  rotations : u.rotations = s.rotations

namespace SameContents

variable {s u v : DescriptorStore}

lemma refl (s : DescriptorStore) : s.SameContents s := ⟨fun _ => rfl, rfl, rfl, rfl⟩

lemma symm (h : s.SameContents u) : u.SameContents s :=
  ⟨fun rk => (h.held rk).symm, h.sequences.symm, h.revoked.symm, h.rotations.symm⟩

lemma trans (h : s.SameContents u) (h' : u.SameContents v) : s.SameContents v :=
  ⟨fun rk => (h'.held rk).trans (h.held rk), h'.sequences.trans h.sequences,
    h'.revoked.trans h.revoked, h'.rotations.trans h.rotations⟩

lemma withWindows (h : s.SameContents u) (w : ExtTreeMap Identity (List UInt64)) :
    s.SameContents (u.withWindows w) := ⟨h.held, h.sequences, h.revoked, h.rotations⟩

/-- Stores with the same contents serve the same. -/
lemma getDescriptorsAt (h : s.SameContents u) (rk : Hash) (filters : Option FilterSet)
    (now : UInt64) : u.getDescriptorsAt rk filters now = s.getDescriptorsAt rk filters now := by
  rw [DescriptorStore.getDescriptorsAt, DescriptorStore.getDescriptorsAt, h.held, h.revoked]

end SameContents

/-- Stores that agree on the descriptors with an ID find the same one. -/
lemma findById_congr {s u : DescriptorStore} {id : Hash}
    (h : ∀ rk, (u.store.held rk).filter (fun e => e.id = id) =
      (s.store.held rk).filter fun e => e.id = id) : u.findById id = s.findById id :=
  Buckets.find?_entries_congr h

section Crypto

variable [Crypto] [Ciborium] {s u : DescriptorStore} {d : Descriptor}

/-! ## Stores with the same contents -/

omit [Crypto] [Ciborium] in
lemma SameContents.replace (h : s.SameContents u) (d : Descriptor) :
    (s.replace d).SameContents (u.replace d) where
  held rk := by rw [held_replace, held_replace, h.held]
  sequences := by
    show u.sequences.insert _ _ = s.sequences.insert _ _
    rw [h.sequences]
  revoked := h.revoked
  rotations := h.rotations

omit [Crypto] [Ciborium] in
lemma SameContents.retain (h : s.SameContents u) (p : Descriptor → Bool) :
    (s.retain p).SameContents (u.retain p) where
  held rk := by
    show Buckets.held (u.store.retain p) rk = Buckets.held (s.store.retain p) rk
    rw [Buckets.held_retain, Buckets.held_retain, h.held]
  sequences := h.sequences
  revoked := h.revoked
  rotations := h.rotations

omit [Crypto] in
lemma SameContents.processRevocation (h : s.SameContents u) (d : Descriptor) :
    (u.processRevocation d).1 = (s.processRevocation d).1 ∧
      (s.processRevocation d).2.SameContents (u.processRevocation d).2 := by
  rw [DescriptorStore.processRevocation, DescriptorStore.processRevocation]
  cases revocationTarget d.payload with
  | error e => exact ⟨rfl, h⟩
  | ok target =>
    have hfind : u.findById target = s.findById target :=
      findById_congr fun rk => by rw [h.held]
    dsimp only
    rw [hfind, h.revoked]
    cases s.findById target with
    | none => exact ⟨rfl, h.held, h.sequences, rfl, h.rotations⟩
    | some found =>
      dsimp only
      split_ifs
      · exact ⟨rfl, h.retain _⟩
      · refine ⟨rfl, fun rk => ?_, h.sequences, rfl, h.rotations⟩
        dsimp only
        rw [Buckets.held_dropEmpty, Buckets.held_dropEmpty, Buckets.held_retain,
          Buckets.held_retain, h.held]

omit [Crypto] in
lemma SameContents.processKeyRotation (h : s.SameContents u) (d : Descriptor) :
    (u.processKeyRotation d).1 = (s.processKeyRotation d).1 ∧
      (s.processKeyRotation d).2.SameContents (u.processKeyRotation d).2 := by
  rw [DescriptorStore.processKeyRotation, DescriptorStore.processKeyRotation]
  cases keyRotation d.payload with
  | error e => exact ⟨rfl, h⟩
  | ok rot =>
    dsimp only
    rw [h.rotations]
    rcases s.rotations[rot.oldIdentity]? with _ | ⟨existingIdentity, existingSeq⟩
    · exact ⟨rfl, h.held, h.sequences, h.revoked, rfl⟩
    · dsimp only
      split_ifs
      · exact ⟨rfl, h.retain _⟩
      · exact ⟨rfl, h.retain _⟩
      · exact ⟨rfl, h.held, h.sequences, h.revoked, rfl⟩

/-- The first part of processing. -/
def revocationPart (s : DescriptorStore) (d : Descriptor) : StoreResult × DescriptorStore :=
  if d.schemaHash = SCHEMA_HASH_CORE_REVOCATION then s.processRevocation d else (.ok (), s)

/-- The second part. -/
def rotationPart (s : DescriptorStore) (d : Descriptor) : StoreResult × DescriptorStore :=
  if d.schemaHash = SCHEMA_HASH_CORE_KEY_ROTATION then s.processKeyRotation d else (.ok (), s)

/-- The second part comes after the first if that succeeds. -/
lemma process_eq (s : DescriptorStore) (d : Descriptor) : s.process d =
    if (s.revocationPart d).1 = .ok () then (s.revocationPart d).2.rotationPart d
    else s.revocationPart d := by
  rw [DescriptorStore.process, ← revocationPart]
  rcases s.revocationPart d with ⟨e | ⟨⟩, s₁⟩
  · rfl
  · rfl

lemma SameContents.process (h : s.SameContents u) (d : Descriptor) :
    (u.process d).1 = (s.process d).1 ∧ (s.process d).2.SameContents (u.process d).2 := by
  obtain ⟨hfirst, hsame⟩ : (u.revocationPart d).1 = (s.revocationPart d).1 ∧
      (s.revocationPart d).2.SameContents (u.revocationPart d).2 := by
    rw [revocationPart, revocationPart]
    split_ifs
    · exact h.processRevocation d
    · exact ⟨rfl, h⟩
  rw [process_eq, process_eq, hfirst]
  split_ifs
  · rw [rotationPart, rotationPart]
    split_ifs
    · exact hsame.processKeyRotation d
    · exact ⟨rfl, hsame⟩
  · exact ⟨hfirst, hsame⟩

/-- An offer does the same to stores with the same contents. -/
lemma SameContents.offered (h : s.SameContents u) (d : Descriptor) :
    (s.offered d).SameContents (u.offered d) := by
  have hstale : u.notStale d = s.notStale d := by
    rw [notStale, notStale, h.sequences]
  rw [DescriptorStore.offered, DescriptorStore.offered, hstale]
  split_ifs
  · exact ((h.replace d).process d).2
  · exact h

/-! ## Offers made again -/

/-- The stores agree, but for descriptors with an ID. -/
def AgreeApart (id : Hash) (s u : DescriptorStore) : Prop :=
  ∀ rk, (u.store.held rk).filter (fun e => e.id ≠ id) =
    (s.store.held rk).filter fun e => e.id ≠ id

omit [Crypto] [Ciborium] in
lemma AgreeApart.findById {id target : Hash} (h : AgreeApart id s u) (hne : target ≠ id) :
    u.findById target = s.findById target := by
  refine findById_congr fun rk => ?_
  have hother (l : List Descriptor) : l.filter (fun e => e.id = target) =
      (l.filter fun e => e.id ≠ id).filter fun e => e.id = target := by
    rw [List.filter_filter]
    refine List.filter_congr fun e _ => ?_
    by_cases he : e.id = target
    · simp [he, hne]
    · simp [he]
  rw [hother, h rk, ← hother]

/-- A part of processing that keeps some of the descriptors. -/
structure Thins (keep : Descriptor → Bool) (s s' : DescriptorStore) : Prop where
  held : ∀ rk, s'.store.held rk = (s.store.held rk).filter keep
  sequences : s'.sequences = s.sequences

omit [Crypto] [Ciborium] in
lemma Thins.all (hstore : u.store = s.store) (hsequences : u.sequences = s.sequences) :
    Thins (fun _ => true) s u :=
  ⟨fun rk => by rw [hstore]; simp, hsequences⟩

omit [Crypto] [Ciborium] in
lemma Thins.retain (keep : Descriptor → Bool) (s : DescriptorStore) :
    Thins keep s (s.retain keep) :=
  ⟨fun _ => Buckets.held_retain _ _ _, rfl⟩

omit [Crypto] [Ciborium] in
lemma Thins.trans {keep keep' : Descriptor → Bool} {s₁ s₂ : DescriptorStore} (h : Thins keep s s₁)
    (h' : Thins keep' s₁ s₂) : Thins (fun e => keep' e && keep e) s s₂ :=
  ⟨fun rk => by rw [h'.held, h.held, List.filter_filter], h'.sequences.trans h.sequences⟩

/-- A part of processing that has been done before: it returns the same, keeps the same
descriptors, and changes nothing else. -/
structure Repeats (result : StoreResult) (keep : Descriptor → Bool) (u : DescriptorStore)
    (out : StoreResult × DescriptorStore) : Prop where
  result : out.1 = result
  thins : Thins keep u out.2
  revoked : out.2.revoked = u.revoked
  rotations : out.2.rotations = u.rotations

omit [Crypto] in
/-- A revocation that is processed again keeps the same descriptors, and revokes nothing more. -/
lemma processRevocation_again (hself : revocationTarget d.payload ≠ .ok d.id)
    (s : DescriptorStore) :
    ∃ keep, Thins keep s (s.processRevocation d).2 ∧
      (s.processRevocation d).2.rotations = s.rotations ∧
      ∀ u, u.revoked = (s.processRevocation d).2.revoked →
        AgreeApart d.id (s.processRevocation d).2 u →
        Repeats (s.processRevocation d).1 keep u (u.processRevocation d) := by
  rw [processRevocation]
  cases htarget : revocationTarget d.payload with
  | error e =>
    refine ⟨fun _ => true, .all rfl rfl, rfl, fun u hrevoked happart => ?_⟩
    rw [processRevocation, htarget]
    exact ⟨rfl, .all rfl rfl, rfl, rfl⟩
  | ok target =>
    have hne : target ≠ d.id := by
      rintro rfl
      exact hself htarget
    have hinsert (r : ExtTreeSet Hash) : (r.insert target).insert target = r.insert target := by
      refine ExtTreeSet.ext_mem fun k => ?_
      simp
    dsimp only
    cases hfind : s.findById target with
    | none =>
      refine ⟨fun _ => true, .all rfl rfl, rfl, fun u hrevoked happart => ?_⟩
      dsimp only at hrevoked happart
      have hagain : u.findById target = none := (AgreeApart.findById happart hne).trans hfind
      rw [processRevocation, htarget]
      dsimp only
      rw [hagain, hrevoked]
      exact ⟨rfl, .all rfl rfl, (hinsert _).trans hrevoked.symm, rfl⟩
    | some found =>
      dsimp only
      by_cases hforeign : d.publisher ≠ found.publisher
      · rw [if_pos hforeign]
        refine ⟨fun e => e.id ≠ d.id, .retain _ s, rfl, fun u hrevoked happart => ?_⟩
        dsimp only at hrevoked happart
        have hagree : AgreeApart d.id s u := by
          intro rk
          rw [happart rk]
          show ((s.store.retain _).held rk).filter _ = _
          rw [Buckets.held_retain, List.filter_filter]
          exact List.filter_congr fun e _ => by simp
        have hagain : u.findById target = some found := (hagree.findById hne).trans hfind
        rw [processRevocation, htarget]
        dsimp only
        rw [hagain]
        dsimp only
        rw [if_pos hforeign]
        exact ⟨rfl, .retain _ u, rfl, rfl⟩
      · rw [if_neg hforeign]
        refine ⟨fun e => e.id ≠ target, ⟨fun rk => ?_, rfl⟩, rfl, fun u hrevoked happart => ?_⟩
        · exact (Buckets.held_dropEmpty _ _).trans (Buckets.held_retain _ _ _)
        · dsimp only at hrevoked
          -- the target is gone, so the second time finds none
          have hgone : ∀ rk, ∀ e ∈ u.store.held rk, e.id ≠ target := by
            intro rk e he heq
            have hmem : e ∈ (u.store.held rk).filter fun e => e.id ≠ d.id :=
              List.mem_filter.2 ⟨he, by simpa [heq] using hne⟩
            rw [happart rk] at hmem
            have hkept : e ∈ ((s.store.retain fun e => e.id ≠ target).dropEmpty).held rk :=
              (List.mem_filter.1 hmem).1
            rw [Buckets.held_dropEmpty, Buckets.held_retain] at hkept
            simp [heq] at hkept
          have hagain : u.findById target = none := by
            rw [findById, List.find?_eq_none]
            intro e he
            obtain ⟨rk, hrk⟩ := Buckets.mem_entries.1 he
            simpa using hgone rk e hrk
          rw [processRevocation, htarget]
          dsimp only
          rw [hagain, hrevoked]
          exact ⟨rfl, ⟨fun rk =>
            (List.filter_eq_self.2 fun e he => by simpa using hgone rk e he).symm, rfl⟩,
            (hinsert _).trans hrevoked.symm, rfl⟩

omit [Crypto] in
/-- Nor does a key rotation. -/
lemma processKeyRotation_again (s : DescriptorStore) (d : Descriptor) :
    ∃ keep, Thins keep s (s.processKeyRotation d).2 ∧ (∀ e, e.id ≠ d.id → keep e = true) ∧
      (s.processKeyRotation d).2.revoked = s.revoked ∧
      ∀ u, u.rotations = (s.processKeyRotation d).2.rotations →
        Repeats (s.processKeyRotation d).1 keep u (u.processKeyRotation d) := by
  rw [processKeyRotation]
  cases hrot : keyRotation d.payload with
  | error e =>
    refine ⟨fun _ => true, .all rfl rfl, fun _ _ => rfl, rfl, fun u hrotations => ?_⟩
    rw [processKeyRotation, hrot]
    exact ⟨rfl, .all rfl rfl, rfl, rfl⟩
  | ok rot =>
    dsimp only
    -- what is recorded the first time is recorded again
    have hrecord (u : DescriptorStore) (hrotations : u.rotations =
        s.rotations.insert rot.oldIdentity (rot.newIdentity, rot.rotationSeq)) :
        Repeats (.ok ()) (fun _ => true) u (u.processKeyRotation d) := by
      have hrecorded : u.rotations[rot.oldIdentity]? = some (rot.newIdentity, rot.rotationSeq) := by
        rw [hrotations]
        exact ExtTreeMap.getElem?_insert_self
      have hfollows : rot.Follows u.rotations[rot.oldIdentity]? := by
        intro identity seq hsome
        rw [hrecorded] at hsome
        obtain ⟨rfl, rfl⟩ := Prod.mk.inj (Option.some.inj hsome)
        exact ⟨UInt64.le_refl _, fun _ => rfl⟩
      rw [processKeyRotation_of_follows hrot hfollows]
      exact ⟨rfl, .all rfl rfl, rfl, insert_eq_self_of_getElem?_eq hrecorded⟩
    rcases hexisting : s.rotations[rot.oldIdentity]? with _ | ⟨existingIdentity, existingSeq⟩
    · exact ⟨fun _ => true, .all rfl rfl, fun _ _ => rfl, rfl, hrecord⟩
    · dsimp only
      split_ifs with hfork hstale
      · refine ⟨fun e => e.id ≠ d.id, .retain _ s, fun e he => decide_eq_true he, rfl,
          fun u hrotations => ?_⟩
        rw [processKeyRotation, hrot]
        dsimp only
        rw [show u.rotations = s.rotations from hrotations, hexisting]
        dsimp only
        rw [if_pos hfork]
        exact ⟨rfl, .retain _ u, rfl, rfl⟩
      · refine ⟨fun e => e.id ≠ d.id, .retain _ s, fun e he => decide_eq_true he, rfl,
          fun u hrotations => ?_⟩
        rw [processKeyRotation, hrot]
        dsimp only
        rw [show u.rotations = s.rotations from hrotations, hexisting]
        dsimp only
        rw [if_neg hfork, if_pos hstale]
        exact ⟨rfl, .retain _ u, rfl, rfl⟩
      · exact ⟨fun _ => true, .all rfl rfl, fun _ _ => rfl, rfl, hrecord⟩

/-- Processing a descriptor again does nothing more. -/
lemma process_again (hself : d.schemaHash = SCHEMA_HASH_CORE_REVOCATION →
      revocationTarget d.payload ≠ .ok d.id) (s : DescriptorStore) :
    ∃ keep, Thins keep s (s.process d).2 ∧
      ∀ u, u.revoked = (s.process d).2.revoked → u.rotations = (s.process d).2.rotations →
        AgreeApart d.id (s.process d).2 u → Repeats (s.process d).1 keep u (u.process d) := by
  obtain ⟨keep₁, hkeeps₁, hrotations₁, hagain₁⟩ : ∃ keep, Thins keep s (s.revocationPart d).2 ∧
      (s.revocationPart d).2.rotations = s.rotations ∧
      ∀ u, u.revoked = (s.revocationPart d).2.revoked →
        AgreeApart d.id (s.revocationPart d).2 u →
        Repeats (s.revocationPart d).1 keep u (u.revocationPart d) := by
    simp only [revocationPart]
    split_ifs with hschema
    · exact processRevocation_again (hself hschema) s
    · exact ⟨fun _ => true, .all rfl rfl, rfl, fun u _ _ => ⟨rfl, .all rfl rfl, rfl, rfl⟩⟩
  rw [process_eq]
  by_cases hok : (s.revocationPart d).1 = .ok ()
  · rw [if_pos hok]
    generalize (s.revocationPart d).2 = s₁ at hkeeps₁ hrotations₁ hagain₁ ⊢
    obtain ⟨keep₂, hkeeps₂, hothers₂, hrevoked₂, hagain₂⟩ : ∃ keep,
        Thins keep s₁ (s₁.rotationPart d).2 ∧ (∀ e, e.id ≠ d.id → keep e = true) ∧
        (s₁.rotationPart d).2.revoked = s₁.revoked ∧
        ∀ u, u.rotations = (s₁.rotationPart d).2.rotations →
          Repeats (s₁.rotationPart d).1 keep u (u.rotationPart d) := by
      simp only [rotationPart]
      split_ifs
      · exact processKeyRotation_again s₁ d
      · exact ⟨fun _ => true, .all rfl rfl, fun _ _ => rfl, rfl,
          fun u _ => ⟨rfl, .all rfl rfl, rfl, rfl⟩⟩
    refine ⟨fun e => keep₂ e && keep₁ e, hkeeps₁.trans hkeeps₂,
      fun u hrevoked hrotations happart => ?_⟩
    have happart₁ : AgreeApart d.id s₁ u := by
      intro rk
      rw [happart rk, hkeeps₂.held, List.filter_filter]
      refine List.filter_congr fun e _ => ?_
      by_cases he : e.id = d.id
      · simp [he]
      · simp [hothers₂ e he]
    have hfirst := hagain₁ u (hrevoked.trans hrevoked₂) happart₁
    have hsecond := hagain₂ (u.revocationPart d).2 (hfirst.rotations.trans hrotations)
    rw [process_eq, hfirst.result, if_pos hok]
    exact ⟨hsecond.result, hfirst.thins.trans hsecond.thins,
      hsecond.revoked.trans hfirst.revoked, hsecond.rotations.trans hfirst.rotations⟩
  · rw [if_neg hok]
    refine ⟨keep₁, hkeeps₁, fun u hrevoked _ happart => ?_⟩
    have hfirst := hagain₁ u hrevoked happart
    rw [process_eq, hfirst.result, if_neg hok]
    exact hfirst

/-- A descriptor that does not revoke itself: its ID is a digest of its payload. -/
def NotSelfRevoking (d : Descriptor) : Prop :=
  d.schemaHash = SCHEMA_HASH_CORE_REVOCATION → revocationTarget d.payload ≠ .ok d.id

/-- An offer that is made again changes nothing, and is welcome only if it was the first time. -/
theorem offered_again (hself : NotSelfRevoking d) (s : DescriptorStore) :
    (s.offered d).SameContents ((s.offered d).offered d) ∧
      ((s.offered d).Welcomes d → s.Welcomes d) := by
  by_cases hstale : s.notStale d = true
  · obtain ⟨keep, hkeeps, hagain⟩ := process_again hself (s.replace d)
    have hwelcome (hresult : ((s.replace d).process d).1 = .ok ()) : s.Welcomes d :=
      ⟨hstale, hresult⟩
    rw [offered, if_pos hstale]
    generalize ((s.replace d).process d).2 = out at hkeeps hagain ⊢
    have hwatermark : out.sequences[DedupKey.fromDescriptor d]? = some d.sequence := by
      rw [hkeeps.sequences]
      exact ExtTreeMap.getElem?_insert_self
    have hnotStale : out.notStale d = true := by
      rw [notStale, hwatermark]
      simp
    -- the lists of other slots, and the descriptor where it is kept
    let others (rk : Hash) : List Descriptor := ((s.store.held rk).filter fun e =>
      DedupKey.fromDescriptor e ≠ DedupKey.fromDescriptor d).filter keep
    let own (rk : Hash) : List Descriptor := List.replicate (d.routingKeys.count rk) d
    have hheld (rk : Hash) : out.store.held rk = others rk ++ (own rk).filter keep := by
      rw [hkeeps.held, held_replace, List.filter_append]
    have hagainHeld (rk : Hash) : (out.replace d).store.held rk = others rk ++ own rk := by
      have hothers : (others rk).filter (fun e =>
          DedupKey.fromDescriptor e ≠ DedupKey.fromDescriptor d) = others rk :=
        List.filter_eq_self.2 fun e he => (List.mem_filter.1 (List.mem_of_mem_filter he)).2
      have hown : ((own rk).filter keep).filter (fun e =>
          DedupKey.fromDescriptor e ≠ DedupKey.fromDescriptor d) = [] := by
        refine List.filter_eq_nil_iff.2 fun e he => ?_
        rw [List.eq_of_mem_replicate (List.mem_of_mem_filter he)]
        simp
      rw [held_replace, hheld, List.filter_append, hothers, hown, List.append_nil]
    have happart : AgreeApart d.id out (out.replace d) := by
      intro rk
      have hown (l : List Descriptor) (hl : l ⊆ own rk) : l.filter (fun e => e.id ≠ d.id) = [] := by
        refine List.filter_eq_nil_iff.2 fun e he => ?_
        rw [List.eq_of_mem_replicate (hl he)]
        simp
      rw [hagainHeld, hheld, List.filter_append, List.filter_append,
        hown (own rk) (List.Subset.refl _),
        hown ((own rk).filter keep) fun e he => List.mem_of_mem_filter he]
    obtain ⟨hsame, hkeeps', hrevoked, hrotations⟩ := hagain (out.replace d) rfl rfl happart
    rw [offered, if_pos hnotStale]
    refine ⟨⟨fun rk => ?_, ?_, hrevoked, hrotations⟩, fun h => hwelcome (hsame ▸ h.processed)⟩
    · have hothers : (others rk).filter keep = others rk :=
        List.filter_eq_self.2 fun e he => (List.mem_filter.1 he).2
      rw [hkeeps'.held, hagainHeld, hheld, List.filter_append, hothers]
    · rw [hkeeps'.sequences]
      exact insert_eq_self_of_getElem?_eq hwatermark
  · have hsame : s.offered d = s := if_neg hstale
    rw [hsame, hsame]
    exact ⟨.refl s, id⟩

lemma SameContents.welcomes_iff (h : s.SameContents u) (d : Descriptor) :
    u.Welcomes d ↔ s.Welcomes d := by
  have hstale : u.notStale d = s.notStale d := by
    rw [notStale, notStale, h.sequences]
  have hprocess := ((h.replace d).process d).1
  exact ⟨fun hu => ⟨hstale ▸ hu.notStale, hprocess ▸ hu.processed⟩,
    fun hs => ⟨hstale ▸ hs.notStale, hprocess ▸ hs.processed⟩⟩

/-! ## Stores that are offered one descriptor -/

/-- A store refuses what is not valid, and is left alone. -/
lemma storeDescriptorAt_of_invalid {now : UInt64} (hinvalid : ¬ d.ValidAt now)
    (s : DescriptorStore) :
    (s.storeDescriptorAt d now).1 ≠ .ok () ∧ (s.storeDescriptorAt d now).2 = s := by
  rw [storeDescriptorAt, checkStore]
  cases hvalidate : d.validate now with
  | error e =>
    refine ⟨fun h => ?_, rfl⟩
    cases h
  | ok => exact absurd (Descriptor.validate_eq_ok_iff.1 hvalidate) hinvalid

/-- A store without rate limits: it has heard of no publisher. -/
def unlimited (s : DescriptorStore) : DescriptorStore := s.withWindows ∅

omit [Crypto] [Ciborium] in
lemma sameContents_unlimited (s : DescriptorStore) : s.SameContents s.unlimited :=
  (SameContents.refl s).withWindows ∅

lemma storeDescriptorAt_unlimited {now : UInt64} (hvalid : d.ValidAt now) (s : DescriptorStore) :
    ((s.unlimited.storeDescriptorAt d now).1 = .ok () ↔ s.Welcomes d) ∧
      (s.offered d).SameContents (s.unlimited.storeDescriptorAt d now).2 := by
  have hallows : s.unlimited.allows d.publisher now = true := by
    have hwindow : s.unlimited.window d.publisher = [] := ExtTreeMap.getD_empty
    rw [allows_iff, hwindow]
    show 0 < RATE_LIMIT_PER_MINUTE
    decide
  obtain ⟨hstored, w, hstore⟩ := storeDescriptorAt_of_valid (s := s.unlimited) hvalid
  rw [hstored, hstore, if_pos hallows]
  refine ⟨?_, ((sameContents_unlimited s).offered d).withWindows w⟩
  rw [and_iff_right hallows]
  exact (sameContents_unlimited s).welcomes_iff d

/-- A store with room for a publisher takes the first offer of a descriptor. -/
lemma SameContents.storeDescriptorAt_first (h : s.SameContents u) {now : UInt64}
    (hvalid : d.ValidAt now) (hroom : u.allows d.publisher now = true) :
    ((u.storeDescriptorAt d now).1 = .ok () ↔ s.Welcomes d) ∧
      (s.offered d).SameContents (u.storeDescriptorAt d now).2 := by
  obtain ⟨hstored, w, hstore⟩ := storeDescriptorAt_of_valid (s := u) hvalid
  rw [hstored, hstore, if_pos hroom]
  refine ⟨?_, (h.offered d).withWindows w⟩
  rw [and_iff_right hroom]
  exact h.welcomes_iff d

/-- and the offers after it change nothing. -/
lemma SameContents.storeDescriptorAt_again (hself : NotSelfRevoking d)
    (h : (s.offered d).SameContents u) {now : UInt64} (hvalid : d.ValidAt now) :
    ((u.storeDescriptorAt d now).1 = .ok () → s.Welcomes d) ∧
      (s.offered d).SameContents (u.storeDescriptorAt d now).2 := by
  obtain ⟨hstored, w, hstore⟩ := storeDescriptorAt_of_valid (s := u) hvalid
  obtain ⟨hsame, hwelcome⟩ := offered_again hself s
  rw [hstored, hstore]
  refine ⟨fun hok => hwelcome ((h.welcomes_iff d).1 hok.2), ?_⟩
  split_ifs
  · exact (hsame.trans (h.offered d)).withWindows w
  · exact h.withWindows w

end Crypto

end DescriptorStore

end MeshProtocol
