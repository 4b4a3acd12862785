import MeshProtocol.Dht.Authority
import MeshProtocol.Dht.RateWindow
import MeshProtocol.Dht.Revocations
import Mathlib.Data.List.MinMax

/-!
# Which succession is recorded

A store records one succession for each old identity.  It gives it up only for one with a greater
sequence (`rotations_forward`).  Of several with the greatest sequence it keeps the one that arrived
first: stores that were sent the same key rotations in different orders agree, and a fork leaves no
successor at its sequence, exactly if every fork is superseded by a rotation with a greater
sequence.
-/

namespace MeshProtocol

open Std Bytes

namespace DescriptorStore

section Storing

variable [Crypto] [Ciborium]

/-! ## Only forward -/

/-- Every recorded succession is still recorded, or one with a greater sequence is in its place. -/
def MovesForward (s s' : DescriptorStore) : Prop :=
  ∀ (old : List UInt8) (identity : Identity) (seq : UInt64),
    s.rotations[old]? = some (identity, seq) →
      ∃ identity' seq', s'.rotations[old]? = some (identity', seq') ∧
      seq ≤ seq' ∧ (seq' = seq → identity' = identity)

omit [Crypto] [Ciborium] in
lemma MovesForward.refl (s : DescriptorStore) : s.MovesForward s :=
  fun _ identity seq h => ⟨identity, seq, h, UInt64.le_refl seq, fun _ => rfl⟩

omit [Crypto] [Ciborium] in
lemma MovesForward.trans {s s' s'' : DescriptorStore} (h : s.MovesForward s')
    (h' : s'.MovesForward s'') : s.MovesForward s'' := by
  intro old identity seq hs
  obtain ⟨identity', seq', hs', hle, hsame⟩ := h old identity seq hs
  obtain ⟨identity'', seq'', hs'', hle', hsame'⟩ := h' old identity' seq' hs'
  refine ⟨identity'', seq'', hs'', UInt64.le_trans hle hle', ?_⟩
  rintro rfl
  obtain rfl := UInt64.le_antisymm hle hle'
  exact (hsame' rfl).trans (hsame rfl)

/-- One call moves the recorded successions forward. -/
lemma movesForward_step (s : DescriptorStore) (c : StorageCall DescriptorStore) :
    s.MovesForward ((storageMachine DescriptorStore).step s c).2 := by
  rcases rotations_step s c with ⟨hsame, -⟩ | ⟨r, now, rot, -, hrecords, -, hinsert⟩
  · intro old identity seq h
    exact ⟨identity, seq, by rw [hsame]; exact h, UInt64.le_refl seq, fun _ => rfl⟩
  · intro old identity seq h
    rw [hinsert, ExtTreeMap.getElem?_insert]
    by_cases hold : rot.oldIdentity = old
    · subst hold
      obtain ⟨hle, hsame⟩ := hrecords.follows identity seq h
      rw [if_pos compare_self]
      exact ⟨rot.newIdentity, rot.rotationSeq, rfl, hle, fun heq => (hsame heq).symm⟩
    · rw [if_neg fun hcmp => hold (LawfulEqCmp.eq_of_compare hcmp)]
      exact ⟨identity, seq, h, UInt64.le_refl seq, fun _ => rfl⟩

/-- Recorded successions only move forward, whatever a store is sent. -/
theorem rotations_forward (s : DescriptorStore) (calls : List (StorageCall DescriptorStore)) :
    s.MovesForward ((storageMachine DescriptorStore).run s calls) := by
  apply Machine.run_invariant (P := fun s' => s.MovesForward s') (.refl s)
  intro s' c h
  exact h.trans (movesForward_step s' c)

/-! ## In any order -/

/-- A valid key rotation with a well-formed payload. -/
structure Declares (d : Descriptor) (now : UInt64) : Prop where
  valid : d.ValidAt now
  schema : d.schemaHash = SCHEMA_HASH_CORE_KEY_ROTATION
  payload : ∃ rot, keyRotation d.payload = .ok rot

omit [Crypto] in
/-- The successions of an old identity that some descriptors declare, in their order. -/
def declared (ds : List Descriptor) (old : List UInt8) : List KeyRotation :=
  (ds.filterMap fun d => (keyRotation d.payload).toOption).filter (·.oldIdentity = old)

omit [Crypto] in
lemma mem_declared {ds : List Descriptor} {old : List UInt8} {rot : KeyRotation} :
    rot ∈ declared ds old ↔
      (∃ d ∈ ds, keyRotation d.payload = .ok rot) ∧ rot.oldIdentity = old := by
  simp only [declared, List.mem_filter, List.mem_filterMap, decide_eq_true_eq]
  refine and_congr_left fun _ => exists_congr fun d => and_congr_right fun _ => ?_
  cases keyRotation d.payload with
  | error e => simp [Except.toOption]
  | ok r => simp [Except.toOption]

omit [Crypto] in
/-- The first of the successions with the greatest sequence. -/
def foremost (ds : List Descriptor) (old : List UInt8) : Option KeyRotation :=
  (declared ds old).argmax fun rot => rot.rotationSeq.toNat

/-- What storing a key rotation does to the recorded successions. -/
lemma rotations_storeDescriptorAt
    (hdistinct : SCHEMA_HASH_CORE_REVOCATION ≠ SCHEMA_HASH_CORE_KEY_ROTATION)
    {s : DescriptorStore} {d : Descriptor} {now : UInt64} {rot : KeyRotation}
    (hschema : d.schemaHash = SCHEMA_HASH_CORE_KEY_ROTATION)
    (hrot : keyRotation d.payload = .ok rot)
    (hcheck : (s.checkStore d now).1 = .ok ()) :
    (rot.Follows s.rotations[rot.oldIdentity]? ∧ (s.storeDescriptorAt d now).2.rotations =
        s.rotations.insert rot.oldIdentity (rot.newIdentity, rot.rotationSeq)) ∨
      (¬ rot.Follows s.rotations[rot.oldIdentity]? ∧
        (s.storeDescriptorAt d now).2.rotations = s.rotations) := by
  by_cases hfollows : rot.Follows s.rotations[rot.oldIdentity]?
  · have hrecords : s.RecordsRotation d now rot := ⟨hschema, hrot, hcheck, hfollows⟩
    exact .inl ⟨hfollows, (hrecords.step hdistinct (c := .storeDescriptorAt d now) rfl).2⟩
  · refine .inr ⟨hfollows, ?_⟩
    rcases rotations_step s (.storeDescriptorAt d now) with
      ⟨hsame, -⟩ | ⟨r, now', rot', hstores, hrecords, -⟩
    · exact hsame
    · obtain ⟨rfl, rfl⟩ := Prod.mk.inj (Option.some.inj hstores)
      obtain rfl := Except.ok.inj (hrot.symm.trans hrecords.payload)
      exact absurd hrecords.follows hfollows

/-! ### The rate limit -/

lemma unlimited_concat {s : DescriptorStore} {ds : List Descriptor} {d : Descriptor}
    {now : UInt64} : s.Unlimited (ds ++ [d]) now ↔
      s.Unlimited ds now ∧ (s.storeAll ds now).allows d.publisher now = true := by
  refine ⟨fun h => ⟨h.of_concat, h ds d List.prefix_rfl⟩, fun ⟨hbefore, hlast⟩ pre e hpre => ?_⟩
  rcases List.prefix_concat_iff.1 hpre with heq | hpre
  · obtain ⟨rfl, hlasts⟩ := List.append_inj' heq rfl
    obtain rfl := List.singleton_inj.1 hlasts
    exact hlast
  · exact hbefore pre e hpre

/-- At one time, a new store remembers one time for each store of the publisher. -/
lemma window_storeAll {ds : List Descriptor} {now : UInt64} (hvalid : ∀ d ∈ ds, d.ValidAt now)
    (hlimit : new.Unlimited ds now) (publisher : Identity) :
    (new.storeAll ds now).window publisher =
      List.replicate (ds.countP (·.publisher = publisher)) now := by
  induction ds using List.reverseRecOn with
  | nil => simp [storeAll]
  | append_singleton ds d ih =>
    obtain ⟨hbefore, hlast⟩ := unlimited_concat.1 hlimit
    have hwindow := ih (fun e he => hvalid e (List.mem_append_left _ he)) hbefore
    have hok : d.validate now = .ok () := Descriptor.validate_eq_ok_iff.2 (hvalid d (by simp))
    rw [storeAll_concat, window_storeDescriptorAt, List.countP_append, List.countP_singleton]
    by_cases hpublisher : d.publisher = publisher
    · rw [hpublisher, allows_iff, hwindow] at hlast
      rw [if_pos ⟨hok, hpublisher⟩, checkWindow_eq, hwindow, if_pos hlast, recent_replicate,
        if_pos (decide_eq_true hpublisher), List.replicate_succ']
    · rw [if_neg fun hcharged => hpublisher hcharged.2, hwindow,
        if_neg fun h => hpublisher (of_decide_eq_true h), Nat.add_zero]

/-- Stores at one time are not limited if no publisher has more than a window has room for. -/
theorem unlimited_iff_count {ds : List Descriptor} {now : UInt64}
    (hvalid : ∀ d ∈ ds, d.ValidAt now) : new.Unlimited ds now ↔
      ∀ publisher, ds.countP (·.publisher = publisher) ≤ RATE_LIMIT_PER_MINUTE := by
  induction ds using List.reverseRecOn with
  | nil => simp [Unlimited]
  | append_singleton ds d ih =>
    have hvalid' : ∀ e ∈ ds, e.ValidAt now := fun e he => hvalid e (List.mem_append_left _ he)
    rw [unlimited_concat, ih hvalid']
    have hallows (hfew : ∀ publisher, ds.countP (·.publisher = publisher) ≤ RATE_LIMIT_PER_MINUTE) :
        (new.storeAll ds now).allows d.publisher now = true ↔
          ds.countP (·.publisher = d.publisher) < RATE_LIMIT_PER_MINUTE := by
      rw [allows_iff, window_storeAll hvalid' ((ih hvalid').2 hfew), recent_replicate,
        List.length_replicate]
    simp only [List.countP_append, List.countP_singleton]
    constructor
    · rintro ⟨hfew, hlast⟩ publisher
      rw [hallows hfew] at hlast
      by_cases hpublisher : d.publisher = publisher
      · subst hpublisher
        rw [if_pos (decide_eq_true rfl)]
        exact hlast
      · simpa [hpublisher] using hfew publisher
    · intro hfew
      have hfew' : ∀ publisher, ds.countP (·.publisher = publisher) ≤ RATE_LIMIT_PER_MINUTE :=
        fun publisher => (Nat.le_add_right _ _).trans (hfew publisher)
      have hlast := hfew d.publisher
      rw [if_pos (decide_eq_true rfl)] at hlast
      exact ⟨hfew', (hallows hfew').2 hlast⟩

/-! ### Key rotations of different slots -/

/-- Key rotations of different slots that do not hit the rate limit. -/
structure Apart (ds : List Descriptor) (now : UInt64) : Prop where
  declares : ∀ d ∈ ds, Declares d now
  slots : (ds.map DedupKey.fromDescriptor).Nodup
  unlimited : new.Unlimited ds now

lemma Apart.perm {ds es : List Descriptor} {now : UInt64} (h : Apart ds now) (hperm : es.Perm ds) :
    Apart es now where
  declares d hd := h.declares d (hperm.mem_iff.1 hd)
  slots := (hperm.map _).nodup_iff.2 h.slots
  unlimited := by
    have hfew := (unlimited_iff_count fun d hd => (h.declares d hd).valid).1 h.unlimited
    refine (unlimited_iff_count fun d hd => (h.declares d (hperm.mem_iff.1 hd)).valid).2 ?_
    intro publisher
    rw [hperm.countP_eq]
    exact hfew publisher

lemma Apart.of_concat {ds : List Descriptor} {d : Descriptor} {now : UInt64}
    (h : Apart (ds ++ [d]) now) : Apart ds now where
  declares e he := h.declares e (List.mem_append_left _ he)
  slots := by
    have hslots := h.slots
    rw [List.map_append] at hslots
    exact hslots.of_append_left
  unlimited := h.unlimited.of_concat

/-- Each of them passes the checks when its turn comes. -/
lemma Apart.checkStore {ds : List Descriptor} {d : Descriptor} {now : UInt64}
    (h : Apart (ds ++ [d]) now) : ((new.storeAll ds now).checkStore d now).1 = .ok () := by
  refine checkStore_ok_iff.2
    ⟨(h.declares d (by simp)).valid, h.unlimited ds d List.prefix_rfl, ?_⟩
  rw [← passes_marks, marks_storeAll (fun e he => (h.of_concat.declares e he).valid)
    h.of_concat.unlimited, Watermark.passes_foldl_raise]
  refine ⟨by simp [Watermark.Passes, marks, new], ?_⟩
  -- no earlier one has its slot
  intro offer hoffer hslot
  obtain ⟨e, he, rfl⟩ := List.mem_map.1 hoffer
  have hslots := h.slots
  rw [List.map_append, List.nodup_append] at hslots
  exact absurd hslot (hslots.2.2 _ (List.mem_map_of_mem he) _ (by simp))

/-- The recorded successions after key rotations are the foremost of those declared. -/
theorem rotations_storeAll
    (hdistinct : SCHEMA_HASH_CORE_REVOCATION ≠ SCHEMA_HASH_CORE_KEY_ROTATION)
    {ds : List Descriptor} {now : UInt64} (h : Apart ds now) (old : List UInt8) :
    (new.storeAll ds now).rotations[old]? =
      (foremost ds old).map fun rot => (rot.newIdentity, rot.rotationSeq) := by
  induction ds using List.reverseRecOn generalizing old with
  | nil => simp [storeAll, new, foremost, declared]
  | append_singleton ds d ih =>
    obtain ⟨-, hschema, rot, hrot⟩ := h.declares d (by simp)
    have hbefore := ih h.of_concat
    have hdeclared : declared (ds ++ [d]) old =
        declared ds old ++ if rot.oldIdentity = old then [rot] else [] := by
      simp only [declared, List.filterMap_append, List.filter_append]
      congr 1
      by_cases hold : rot.oldIdentity = old
      · simp [hrot, Except.toOption, hold]
      · simp [hrot, Except.toOption, hold]
    rw [storeAll_concat]
    have hstored := rotations_storeDescriptorAt hdistinct hschema hrot h.checkStore
    by_cases hold : rot.oldIdentity = old
    · subst hold
      have hcurrent := hbefore rot.oldIdentity
      rw [foremost, hdeclared, if_pos rfl, List.argmax_concat, ← foremost]
      cases hfirst : foremost ds rot.oldIdentity with
      | none =>
        rw [hfirst, Option.map_none] at hcurrent
        rcases hstored with ⟨-, hinsert⟩ | ⟨hnot, -⟩
        · rw [hinsert, ExtTreeMap.getElem?_insert_self]
          rfl
        · refine absurd ?_ hnot
          rw [hcurrent]
          rintro identity seq ⟨⟩
      | some first =>
        rw [hfirst, Option.map_some] at hcurrent
        dsimp only
        by_cases hlater : first.rotationSeq.toNat < rot.rotationSeq.toNat
        · rw [if_pos hlater]
          rcases hstored with ⟨-, hinsert⟩ | ⟨hnot, -⟩
          · rw [hinsert, ExtTreeMap.getElem?_insert_self]
            rfl
          · refine absurd ?_ hnot
            intro identity seq hrecorded
            rw [hcurrent] at hrecorded
            obtain ⟨rfl, rfl⟩ := Prod.mk.inj (Option.some.inj hrecorded)
            refine ⟨UInt64.le_iff_toNat_le.2 hlater.le, fun heq => ?_⟩
            rw [heq] at hlater
            exact absurd hlater (lt_irrefl _)
        · rw [if_neg hlater, Option.map_some]
          rcases hstored with ⟨hfollows, hinsert⟩ | ⟨-, hsame⟩
          · -- a rotation that follows one it is not later than repeats it
            obtain ⟨hle, hrepeats⟩ := hfollows _ _ hcurrent
            have heq : rot.rotationSeq = first.rotationSeq :=
              UInt64.le_antisymm (UInt64.le_iff_toNat_le.2 (Nat.le_of_not_lt hlater)) hle
            rw [hinsert, ExtTreeMap.getElem?_insert_self, hrepeats heq, heq]
          · rw [hsame, hcurrent]
    · rw [foremost, hdeclared, if_neg hold, List.append_nil, ← foremost, ← hbefore old]
      rcases hstored with ⟨-, hinsert⟩ | ⟨-, hsame⟩
      · rw [hinsert, ExtTreeMap.getElem?_insert,
          if_neg fun hcmp => hold (LawfulEqCmp.eq_of_compare hcmp)]
      · rw [hsame]

/-! ### Forks -/

/-- The descriptors declare different successors of one identity at one sequence. -/
structure Fork (ds : List Descriptor) (rot rot' : KeyRotation) : Prop where
  left : rot ∈ declared ds rot.oldIdentity
  right : rot' ∈ declared ds rot.oldIdentity
  seq_eq : rot'.rotationSeq = rot.rotationSeq
  identity_ne : rot'.newIdentity ≠ rot.newIdentity

/-- Stores that were sent the descriptors in different orders recorded the same successions. -/
def OrderIndependent (ds : List Descriptor) (now : UInt64) : Prop :=
  ∀ es fs, es.Perm ds → fs.Perm ds →
    (new.storeAll es now).rotations = (new.storeAll fs now).rotations

/-- A fork leaves no successor at its sequence, in whatever order it arrives. -/
def ForksRejected (ds : List Descriptor) (now : UInt64) : Prop :=
  ∀ es, es.Perm ds → ∀ rot rot', Fork ds rot rot' →
    ∀ identity, (new.storeAll es now).rotations[rot.oldIdentity]? ≠
      some (identity, rot.rotationSeq)

omit [Crypto] in
/-- Every fork is superseded by a rotation with a greater sequence. -/
def ForksSuperseded (ds : List Descriptor) : Prop :=
  ∀ rot rot', Fork ds rot rot' →
    ∃ later ∈ declared ds rot.oldIdentity, rot.rotationSeq < later.rotationSeq

omit [Crypto] in
lemma foremost_spec {ds : List Descriptor} {old : List UInt8} {rot : KeyRotation}
    (h : foremost ds old = some rot) :
    rot ∈ declared ds old ∧ ∀ rot' ∈ declared ds old, rot'.rotationSeq ≤ rot.rotationSeq := by
  refine ⟨List.argmax_mem h, fun rot' hrot' => ?_⟩
  exact UInt64.le_iff_toNat_le.2
    (List.le_of_mem_argmax (f := fun r : KeyRotation => r.rotationSeq.toNat) hrot' h)

omit [Crypto] in
lemma exists_foremost {ds : List Descriptor} {old : List UInt8} {rot : KeyRotation}
    (h : rot ∈ declared ds old) : ∃ first, foremost ds old = some first := by
  rw [← Option.ne_none_iff_exists']
  intro hnone
  rw [foremost, List.argmax_eq_none] at hnone
  rw [hnone] at h
  cases h

omit [Crypto] in
/-- A rotation that arrives first and is not superseded is the foremost one. -/
lemma foremost_cons {ds : List Descriptor} {d : Descriptor} {rot : KeyRotation}
    (hrot : keyRotation d.payload = .ok rot)
    (hmax : ∀ rot' ∈ declared (d :: ds) rot.oldIdentity, rot'.rotationSeq ≤ rot.rotationSeq) :
    foremost (d :: ds) rot.oldIdentity = some rot := by
  have hdeclared : declared (d :: ds) rot.oldIdentity = rot :: declared ds rot.oldIdentity := by
    simp [declared, hrot, Except.toOption]
  rw [foremost, hdeclared, List.argmax_cons, ← foremost]
  cases hfirst : foremost ds rot.oldIdentity with
  | none => rfl
  | some first =>
    have hmem : first ∈ declared (d :: ds) rot.oldIdentity := by
      rw [hdeclared]
      exact List.mem_cons_of_mem _ (foremost_spec hfirst).1
    have hle := UInt64.le_iff_toNat_le.1 (hmax first hmem)
    exact if_neg (Nat.not_lt.2 hle)

omit [Crypto] in
lemma mem_declared_perm {ds es : List Descriptor} (h : es.Perm ds) {old : List UInt8}
    {rot : KeyRotation} : rot ∈ declared es old ↔ rot ∈ declared ds old := by
  simp only [mem_declared, h.mem_iff]

section Forks

variable {ds : List Descriptor} {now : UInt64}

omit [Crypto] in
/-- Where every fork is superseded, the foremost successions of an identity all have
one successor. -/
lemma ForksSuperseded.foremost_eq (h : ForksSuperseded ds) {es fs : List Descriptor}
    (hes : es.Perm ds) (hfs : fs.Perm ds) (old : List UInt8) :
    (foremost es old).map (fun rot => (rot.newIdentity, rot.rotationSeq)) =
      (foremost fs old).map fun rot => (rot.newIdentity, rot.rotationSeq) := by
  cases hfirst : foremost es old with
  | none =>
    cases hother : foremost fs old with
    | none => rfl
    | some rot =>
      have hmem := (mem_declared_perm (hfs.trans hes.symm)).1 (foremost_spec hother).1
      obtain ⟨first, hsome⟩ := exists_foremost hmem
      rw [hfirst] at hsome
      cases hsome
  | some rot =>
    obtain ⟨hmem, hmax⟩ := foremost_spec hfirst
    have hperm : es.Perm fs := hes.trans hfs.symm
    obtain ⟨rot', hother⟩ := exists_foremost ((mem_declared_perm hperm).1 hmem)
    obtain ⟨hmem', hmax'⟩ := foremost_spec hother
    have hseq : rot'.rotationSeq = rot.rotationSeq :=
      UInt64.le_antisymm (hmax _ ((mem_declared_perm hperm).2 hmem'))
        (hmax' _ ((mem_declared_perm hperm).1 hmem))
    have hold : rot.oldIdentity = old := (mem_declared.1 hmem).2
    have hidentity : rot'.newIdentity = rot.newIdentity := by
      by_contra hne
      have hfork : Fork ds rot rot' := by
        rw [← hold] at hmem hmem'
        exact ⟨(mem_declared_perm hes).1 hmem, (mem_declared_perm hfs).1 hmem', hseq, hne⟩
      obtain ⟨later, hlater, hlt⟩ := h rot rot' hfork
      rw [hold] at hlater
      exact UInt64.not_lt.2 (hmax later ((mem_declared_perm hes).2 hlater)) hlt
    rw [hother, Option.map_some, Option.map_some, hseq, hidentity]

/-- Replicas agree on the successors, and forks leave none at their sequence, exactly if every fork
is superseded. -/
theorem forks_decided
    (hdistinct : SCHEMA_HASH_CORE_REVOCATION ≠ SCHEMA_HASH_CORE_KEY_ROTATION) (h : Apart ds now) :
    (OrderIndependent ds now ↔ ForksSuperseded ds) ∧
      (ForksRejected ds now ↔ ForksSuperseded ds) := by
  refine ⟨⟨fun hsame rot rot' hfork => ?_, fun hsuperseded es fs hes hfs => ?_⟩,
    fun hrejected rot rot' hfork => ?_,
      fun hsuperseded es hes rot rot' hfork identity hrecorded => ?_⟩
  · by_contra hnone
    have hmax : ∀ r ∈ declared ds rot.oldIdentity, r.rotationSeq ≤ rot.rotationSeq := by
      intro r hr
      by_contra hlt
      exact hnone ⟨r, hr, UInt64.not_le.1 hlt⟩
    obtain ⟨⟨d, hd, hrot⟩, -⟩ := mem_declared.1 hfork.left
    obtain ⟨⟨d', hd', hrot'⟩, hold⟩ := mem_declared.1 hfork.right
    -- each of the two can be the first to arrive
    have hfirst : (d :: ds.erase d).Perm ds := (List.perm_cons_erase hd).symm
    have hsecond : (d' :: ds.erase d').Perm ds := (List.perm_cons_erase hd').symm
    have hmaps := congrArg (fun m => m[rot.oldIdentity]?) (hsame _ _ hfirst hsecond)
    have hleft := foremost_cons hrot fun r hr => hmax r ((mem_declared_perm hfirst).1 hr)
    have hmax' : ∀ r ∈ declared (d' :: ds.erase d') rot'.oldIdentity,
        r.rotationSeq ≤ rot'.rotationSeq := by
      intro r hr
      rw [hold] at hr
      rw [hfork.seq_eq]
      exact hmax r ((mem_declared_perm hsecond).1 hr)
    have hright := foremost_cons hrot' hmax'
    rw [hold] at hright
    rw [rotations_storeAll hdistinct (h.perm hfirst), rotations_storeAll hdistinct (h.perm hsecond),
      hleft, hright, Option.map_some, Option.map_some, Option.some.injEq, Prod.mk.injEq] at hmaps
    exact hfork.identity_ne hmaps.1.symm
  · apply ExtTreeMap.ext_getElem?
    intro old
    rw [rotations_storeAll hdistinct (h.perm hes), rotations_storeAll hdistinct (h.perm hfs)]
    exact hsuperseded.foremost_eq hes hfs old
  · obtain ⟨first, hfirst⟩ := exists_foremost hfork.left
    obtain ⟨hmem, hmax⟩ := foremost_spec hfirst
    refine ⟨first, hmem, UInt64.lt_of_le_of_ne (hmax rot hfork.left) fun heq => ?_⟩
    refine hrejected ds (.refl _) rot rot' hfork first.newIdentity ?_
    rw [rotations_storeAll hdistinct h, hfirst, Option.map_some, heq]
  · obtain ⟨later, hlater, hlt⟩ := hsuperseded rot rot' hfork
    rw [rotations_storeAll hdistinct (h.perm hes), Option.map_eq_some_iff] at hrecorded
    obtain ⟨first, hfirst, heq⟩ := hrecorded
    have hle := (foremost_spec hfirst).2 later ((mem_declared_perm hes).2 hlater)
    rw [(Prod.mk.inj heq).2] at hle
    exact UInt64.not_lt.2 hle hlt

end Forks

end Storing

/-- The second publisher's rotation to the third one's key. -/
def rivalPayload (seq : ℕ) : List UInt8 :=
  Cbor.encode (.map [(.text "old_identity", .bytes (identityBytes secondPublisher)),
    (.text "new_identity", .bytes (identityBytes thirdPublisher)),
    (.text "rotation_seq", .integer seq)])

/-- Another successor than `ownRotation` declares, at its sequence. -/
def rivalRotation : Descriptor where
  schemaHash := keyRotationSchema
  topic := "rotation-2"
  payload := rivalPayload 1
  publisher := secondPublisher
  timestamp := 1700000000000000
  sequence := 2
  ttl := 3600
  routingKeys := [computeKey]
  id := hashOf 0x9f1d97e6681bab7c1f73ef5672ca00f2717385d751da4858d7d1b25b17ef90f0
  signature := beBytes 64
    0x41076e857703918138a6442b7f07d8053a50400126b6d0b30492bcb4b38e324b2a4abe8395cdb0f09226c31a647d949c9cdb2e5ded926581e60a9e936767270e

/-- Two stores adopt different successors of one identity. -/
theorem rivalRotation_splits :
    letI : Crypto := cryptoOf [ownRotation, rivalRotation]
    letI : Ciborium := referenceCiborium
    ∃ ds now, Apart ds now ∧ ¬ OrderIndependent ds now ∧ ¬ ForksRejected ds now := by
  let _ : Crypto := cryptoOf [ownRotation, rivalRotation]
  let _ : Ciborium := referenceCiborium
  have hown : keyRotation ownRotation.payload =
      .ok ⟨identityBytes secondPublisher, firstPublisher, 1⟩ := by decide +kernel
  have hrival : keyRotation rivalRotation.payload =
      .ok ⟨identityBytes secondPublisher, thirdPublisher, 1⟩ := by decide +kernel
  have hleft : (new.storeAll [ownRotation, rivalRotation] 1700000000000000).rotations[
      identityBytes secondPublisher]? = some (firstPublisher, 1) := by decide +kernel
  have hright : (new.storeAll [rivalRotation, ownRotation] 1700000000000000).rotations[
      identityBytes secondPublisher]? = some (thirdPublisher, 1) := by decide +kernel
  have hdeclares : ∀ d ∈ [ownRotation, rivalRotation], Declares d 1700000000000000 := by
    intro d hd
    rcases List.mem_pair.1 hd with rfl | rfl
    · exact ⟨Descriptor.validate_eq_ok_iff.1 (by decide +kernel), rfl, _, hown⟩
    · exact ⟨Descriptor.validate_eq_ok_iff.1 (by decide +kernel), rfl, _, hrival⟩
  refine ⟨[ownRotation, rivalRotation], 1700000000000000,
    ⟨hdeclares, by decide +kernel, ?_⟩, ?_, ?_⟩
  · exact (unlimited_iff_count fun d hd => (hdeclares d hd).valid).2
      fun _ => List.countP_le_length.trans (by decide)
  · intro hsame
    have hmaps := congrArg (fun m => m[identityBytes secondPublisher]?)
      (hsame _ _ (.refl _) (.swap _ _ _))
    rw [hleft, hright] at hmaps
    exact absurd hmaps (by decide +kernel)
  · intro hrejected
    refine hrejected _ (.refl _) ⟨identityBytes secondPublisher, firstPublisher, 1⟩
      ⟨identityBytes secondPublisher, thirdPublisher, 1⟩ ⟨?_, ?_, rfl, by decide +kernel⟩ _ hleft
    · exact mem_declared.2 ⟨⟨ownRotation, by simp, hown⟩, rfl⟩
    · exact mem_declared.2 ⟨⟨rivalRotation, by simp, hrival⟩, rfl⟩

/-- The rival again, with a greater sequence. -/
def laterRotation : Descriptor where
  schemaHash := keyRotationSchema
  topic := "rotation-2"
  payload := rivalPayload 2
  publisher := secondPublisher
  timestamp := 1700000000000000
  sequence := 2
  ttl := 3600
  routingKeys := [computeKey]
  id := hashOf 0x0d4fd566ed7ebba62215c6b194625d2618991a9a9bf0977c73fee88e995436ac
  signature := beBytes 64
    0xd6eb1125f4b15fb231f11d25b661237363dffdcf0d84c20da0fb442339b565388b42bbf896d805fbd8eb349298d63083c7463be2ac9e26e543a22e3be642710e

/-- Two successions of one key that are no fork. -/
theorem laterRotation_decided :
    letI : Crypto := cryptoOf [ownRotation, laterRotation]
    letI : Ciborium := referenceCiborium
    OrderIndependent [ownRotation, laterRotation] 1700000000000000 ∧
      ForksRejected [ownRotation, laterRotation] 1700000000000000 := by
  let _ : Crypto := cryptoOf [ownRotation, laterRotation]
  let _ : Ciborium := referenceCiborium
  have hown : keyRotation ownRotation.payload =
      .ok ⟨identityBytes secondPublisher, firstPublisher, 1⟩ := by decide +kernel
  have hlater : keyRotation laterRotation.payload =
      .ok ⟨identityBytes secondPublisher, thirdPublisher, 2⟩ := by decide +kernel
  have hdeclares : ∀ d ∈ [ownRotation, laterRotation], Declares d 1700000000000000 := by
    intro d hd
    rcases List.mem_pair.1 hd with rfl | rfl
    · exact ⟨Descriptor.validate_eq_ok_iff.1 (by decide +kernel), rfl, _, hown⟩
    · exact ⟨Descriptor.validate_eq_ok_iff.1 (by decide +kernel), rfl, _, hlater⟩
  have hlimit : new.Unlimited [ownRotation, laterRotation] 1700000000000000 :=
    (unlimited_iff_count fun d hd => (hdeclares d hd).valid).2
      fun _ => List.countP_le_length.trans (by decide)
  have hsuperseded : ForksSuperseded [ownRotation, laterRotation] := by
    rintro rot rot' ⟨hleft, hright, hseq, hne⟩
    simp only [declared, List.filterMap_cons, hown, hlater, Except.toOption, List.filterMap_nil,
      List.mem_filter, List.mem_pair] at hleft hright
    rcases hleft.1 with rfl | rfl <;> rcases hright.1 with rfl | rfl
    · exact absurd rfl hne
    · exact absurd hseq (by decide)
    · exact absurd hseq (by decide)
    · exact absurd rfl hne
  obtain ⟨hsame, hrejected⟩ := forks_decided (by decide +kernel)
    ⟨hdeclares, by decide +kernel, hlimit⟩
  exact ⟨hsame.2 hsuperseded, hrejected.2 hsuperseded⟩

end DescriptorStore

end MeshProtocol
