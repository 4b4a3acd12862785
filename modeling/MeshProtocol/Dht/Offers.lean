import MeshProtocol.Dht.RateWindow

/-!
# Offers to the in-memory store

A publisher's descriptors are offered to a store one after the other, some of them more than once.
Each offer of a valid descriptor is charged to the publisher's window, so that within a minute only
the first ten can be accepted; of these the store accepts what it has nothing else against.
-/

namespace MeshProtocol

open Std

namespace DescriptorStore

section Crypto

variable [Crypto] [Ciborium]

/-- The slot of a descriptor has no newer version. -/
def notStale (s : DescriptorStore) (d : Descriptor) : Bool :=
  s.sequences[DedupKey.fromDescriptor d]?.all (· ≤ d.sequence)

omit [Crypto] [Ciborium] in
lemma notStale_iff {s : DescriptorStore} {d : Descriptor} : s.notStale d = true ↔
    ∀ seq, s.sequences[DedupKey.fromDescriptor d]? = some seq → seq ≤ d.sequence := by
  simp [notStale, Option.all_eq_true]

/-- The store has nothing against a descriptor, the rate limit aside. -/
structure Welcomes (s : DescriptorStore) (d : Descriptor) : Prop where
  notStale : s.notStale d = true
  processed : ((s.replace d).process d).1 = .ok ()

/-- The store after an offer that the rate limit lets pass. -/
def offered (s : DescriptorStore) (d : Descriptor) : DescriptorStore :=
  if s.notStale d then ((s.replace d).process d).2 else s

/-- The store after some offers that the rate limit lets pass. -/
def offeredAll (s : DescriptorStore) (ds : List Descriptor) : DescriptorStore :=
  ds.foldl offered s

lemma offeredAll_concat (s : DescriptorStore) (ds : List Descriptor) (d : Descriptor) :
    s.offeredAll (ds ++ [d]) = (s.offeredAll ds).offered d := by
  rw [offeredAll, List.foldl_append, ← offeredAll]
  rfl

/-! ## The windows aside -/

/-- The store with other rate-limit windows. -/
def withWindows (s : DescriptorStore) (w : ExtTreeMap Identity (List UInt64)) : DescriptorStore :=
  { s with rateLimiter := w }

variable (s : DescriptorStore) (d : Descriptor) (w : ExtTreeMap Identity (List UInt64))

omit [Crypto] in
lemma processRevocation_withWindows : (s.withWindows w).processRevocation d =
    ((s.processRevocation d).1, (s.processRevocation d).2.withWindows w) := by
  rw [processRevocation, processRevocation]
  cases revocationTarget d.payload with
  | error e => rfl
  | ok target =>
    have hfind : (s.withWindows w).findById target = s.findById target := rfl
    dsimp only
    rw [hfind]
    cases s.findById target with
    | none => rfl
    | some t =>
      dsimp only
      split_ifs <;> rfl

omit [Crypto] in
lemma processKeyRotation_withWindows : (s.withWindows w).processKeyRotation d =
    ((s.processKeyRotation d).1, (s.processKeyRotation d).2.withWindows w) := by
  rw [processKeyRotation, processKeyRotation]
  cases keyRotation d.payload with
  | error e => rfl
  | ok rot =>
    dsimp only [withWindows]
    rcases s.rotations[rot.oldIdentity]? with _ | ⟨existingIdentity, existingSeq⟩
    · rfl
    · dsimp only
      split_ifs <;> rfl

/-- Processing does not look at the windows. -/
lemma process_withWindows : (s.withWindows w).process d =
    ((s.process d).1, (s.process d).2.withWindows w) := by
  have hfirst : (if d.schemaHash = SCHEMA_HASH_CORE_REVOCATION then
        (s.withWindows w).processRevocation d else (.ok (), s.withWindows w)) =
      let out := if d.schemaHash = SCHEMA_HASH_CORE_REVOCATION then s.processRevocation d
        else (.ok (), s)
      (out.1, out.2.withWindows w) := by
    split_ifs
    · exact processRevocation_withWindows s d w
    · rfl
  rw [process, process, hfirst]
  rcases (if d.schemaHash = SCHEMA_HASH_CORE_REVOCATION then s.processRevocation d
    else (.ok (), s)) with ⟨e | ⟨⟩, s₁⟩
  · rfl
  · dsimp only
    split_ifs
    · exact processKeyRotation_withWindows s₁ d w
    · rfl

lemma process_replace_withWindows : ((s.withWindows w).replace d).process d =
    (((s.replace d).process d).1, ((s.replace d).process d).2.withWindows w) :=
  process_withWindows (s.replace d) d w

lemma offered_withWindows : (s.withWindows w).offered d = (s.offered d).withWindows w := by
  have hstale : (s.withWindows w).notStale d = s.notStale d := rfl
  rw [offered, offered, hstale, process_replace_withWindows]
  split_ifs <;> rfl

lemma welcomes_withWindows : (s.withWindows w).Welcomes d ↔ s.Welcomes d := by
  have hprocess : (((s.withWindows w).replace d).process d).1 = ((s.replace d).process d).1 := by
    rw [process_replace_withWindows]
  exact ⟨fun h => ⟨h.notStale, hprocess.symm.trans h.processed⟩,
    fun h => ⟨h.notStale, hprocess.trans h.processed⟩⟩

variable {s d}

/-- An offer of a valid descriptor is refused by the rate limit, or meets what the store has against
it. -/
theorem storeDescriptorAt_of_valid {now : UInt64} (hvalid : d.ValidAt now) :
    ((s.storeDescriptorAt d now).1 = .ok () ↔ s.allows d.publisher now = true ∧ s.Welcomes d) ∧
      ∃ w, (s.storeDescriptorAt d now).2 =
        (if s.allows d.publisher now = true then s.offered d else s).withWindows w := by
  have hok : (s.checkStore d now).1 = .ok () ↔ _ := checkStore_ok_iff
  rw [← notStale_iff] at hok
  rcases s.storeDescriptorAt_cases d now with ⟨e, w, heq, hcheck⟩ | ⟨w, heq, hcheck⟩
  · have hrefused : ¬ (s.allows d.publisher now = true ∧ s.notStale d = true) := by
      rintro ⟨hallows, hseq⟩
      cases hcheck.symm.trans (hok.2 ⟨hvalid, hallows, hseq⟩)
    rw [heq]
    refine ⟨iff_of_false (fun h => by cases h) fun h => hrefused ⟨h.1, h.2.notStale⟩, w, ?_⟩
    split_ifs with hallows
    · rw [offered, if_neg fun hseq => hrefused ⟨hallows, hseq⟩]
      rfl
    · rfl
  · obtain ⟨-, hallows, hseq⟩ := hok.1 hcheck
    have hprocess : s.storeDescriptorAt d now = (((s.replace d).process d).1, _) :=
      heq.trans (process_replace_withWindows s d w)
    rw [hprocess, if_pos hallows, offered, if_pos hseq]
    exact ⟨⟨fun h => ⟨hallows, hseq, h⟩, fun h => h.2.processed⟩, w, rfl⟩

/-! ## A minute of offers -/

/-- Store calls for some descriptors, each at its time. -/
def stores (calls : List (Descriptor × UInt64)) : List (StorageCall DescriptorStore) :=
  calls.map fun call => .storeDescriptorAt call.1 call.2

/-- The offers that a publisher makes within a minute, to a store that has not heard of it in the
minute before. -/
structure Minute (s : DescriptorStore) (publisher : Identity) (calls : List (Descriptor × UInt64)) :
    Prop where
  publisher_eq : ∀ call ∈ calls, call.1.publisher = publisher
  valid : ∀ call ∈ calls, call.1.ValidAt call.2
  unseen : ∀ call ∈ calls, recent (s.window publisher) call.2 = []
  close : ∀ call ∈ calls, ∀ call' ∈ calls,
    saturatingSub call.2 call'.2 < RATE_LIMIT_WINDOW_MICROS

omit [Ciborium] in
lemma Minute.mono {s : DescriptorStore} {publisher : Identity}
    {pre calls : List (Descriptor × UInt64)}
    (h : s.Minute publisher calls) (hpre : pre ⊆ calls) : s.Minute publisher pre where
  publisher_eq call hcall := h.publisher_eq call (hpre hcall)
  valid call hcall := h.valid call (hpre hcall)
  unseen call hcall := h.unseen call (hpre hcall)
  close call hcall call' hcall' := h.close call (hpre hcall) call' (hpre hcall')

variable {publisher : Identity} {calls : List (Descriptor × UInt64)}

/-- The store remembers the times of the first ten offers. -/
lemma Minute.recent_window (h : s.Minute publisher calls) {pre post : List (Descriptor × UInt64)}
    (hsplit : calls = pre ++ post) : ∀ call ∈ calls,
      recent (((storageMachine DescriptorStore).run s (stores pre)).window publisher) call.2 =
        (pre.map Prod.snd).take RATE_LIMIT_PER_MINUTE := by
  induction pre using List.reverseRecOn generalizing post with
  | nil => exact h.unseen
  | append_singleton pre last ih =>
    intro call hcall
    have hsplit' : calls = pre ++ (last :: post) := by
      rw [hsplit, List.append_assoc]
      rfl
    have hlast : last ∈ calls := by
      rw [hsplit']
      exact List.mem_append_right _ List.mem_cons_self
    have hvalid : last.1.validate last.2 = .ok () :=
      Descriptor.validate_eq_ok_iff.2 (h.valid last hlast)
    have hwindow :
        ((storageMachine DescriptorStore).run s (stores (pre ++ [last]))).window publisher =
        ((pre ++ [last]).map Prod.snd).take RATE_LIMIT_PER_MINUTE := by
      rw [stores, List.map_append, ← stores, List.map_singleton, Machine.run_concat]
      change (((storageMachine DescriptorStore).run s (stores pre)).storeDescriptorAt last.1
        last.2).2.window publisher = _
      rw [window_storeDescriptorAt, if_pos ⟨hvalid, h.publisher_eq last hlast⟩, checkWindow_eq,
        ih hsplit' last hlast, List.length_take, List.length_map, List.map_append,
        List.map_singleton]
      split_ifs with hroom
      · have hfew : pre.length < RATE_LIMIT_PER_MINUTE := by omega
        rw [List.take_of_length_le (by rw [List.length_map]; exact hfew.le),
          List.take_of_length_le (by simpa using Nat.succ_le_of_lt hfew)]
      · have hmany : RATE_LIMIT_PER_MINUTE ≤ pre.length := by omega
        rw [List.take_append_of_le_length (by rwa [List.length_map])]
    rw [hwindow]
    refine List.filter_eq_self.2 fun time htime => ?_
    obtain ⟨call', hcall', rfl⟩ := List.mem_map.1 (List.mem_of_mem_take htime)
    refine decide_eq_true (h.close call hcall call' ?_)
    rw [hsplit]
    exact List.mem_append_left _ hcall'

/-- An offer is let pass exactly if it is one of the first ten. -/
lemma Minute.allows_iff (h : s.Minute publisher calls) {pre post : List (Descriptor × UInt64)}
    {call : Descriptor × UInt64} (hsplit : calls = pre ++ call :: post) :
    ((storageMachine DescriptorStore).run s (stores pre)).allows call.1.publisher call.2 = true ↔
      pre.length < RATE_LIMIT_PER_MINUTE := by
  have hcall : call ∈ calls := by
    rw [hsplit]
    exact List.mem_append_right _ List.mem_cons_self
  rw [h.publisher_eq call hcall, DescriptorStore.allows_iff, h.recent_window hsplit call hcall,
    List.length_take, List.length_map]
  omega

/-- Only the first ten offers matter to the store, its windows aside. -/
lemma Minute.run_eq (h : s.Minute publisher calls) {pre post : List (Descriptor × UInt64)}
    (hsplit : calls = pre ++ post) : ∃ w, (storageMachine DescriptorStore).run s (stores pre) =
      (s.offeredAll ((pre.map Prod.fst).take RATE_LIMIT_PER_MINUTE)).withWindows w := by
  induction pre using List.reverseRecOn generalizing post with
  | nil => exact ⟨s.rateLimiter, rfl⟩
  | append_singleton pre last ih =>
    have hsplit' : calls = pre ++ last :: post := by
      rw [hsplit, List.append_assoc]
      rfl
    have hlast : last ∈ calls := by
      rw [hsplit']
      exact List.mem_append_right _ List.mem_cons_self
    obtain ⟨w, hrun⟩ := ih hsplit'
    obtain ⟨-, w', hstore⟩ := storeDescriptorAt_of_valid
      (s := (storageMachine DescriptorStore).run s (stores pre)) (h.valid last hlast)
    refine ⟨w', ?_⟩
    rw [stores, List.map_append, ← stores, List.map_singleton, Machine.run_concat]
    refine hstore.trans ?_
    rw [List.map_append, List.map_singleton]
    split_ifs with hallows
    · have hfew := (h.allows_iff hsplit').1 hallows
      rw [List.take_of_length_le (by rw [List.length_map]; exact hfew.le)] at hrun
      rw [hrun, offered_withWindows, List.take_of_length_le (by simpa using Nat.succ_le_of_lt hfew),
        offeredAll_concat]
      rfl
    · have hmany : RATE_LIMIT_PER_MINUTE ≤ pre.length :=
        Nat.le_of_not_lt fun hfew => hallows ((h.allows_iff hsplit').2 hfew)
      rw [hrun, List.take_append_of_le_length (by rwa [List.length_map])]
      rfl

/-- Of a minute's offers, the store accepts those among the first ten that it has nothing else
against. -/
theorem Minute.mem_accepted_iff (h : s.Minute publisher calls) :
    d ∈ accepted s (stores calls) ↔ ∃ pre, pre ++ [d] <+: calls.map Prod.fst ∧
      pre.length < RATE_LIMIT_PER_MINUTE ∧ (s.offeredAll pre).Welcomes d := by
  induction calls using List.reverseRecOn with
  | nil => simp [accepted, stores]
  | append_singleton calls last ih =>
    have hlast : last ∈ calls ++ [last] := by simp
    have hbefore := ih (h.mono (List.subset_append_left _ _))
    obtain ⟨w, hrun⟩ := h.run_eq (rfl : calls ++ [last] = calls ++ [last])
    obtain ⟨hstore, -⟩ := storeDescriptorAt_of_valid
      (s := (storageMachine DescriptorStore).run s (stores calls)) (h.valid last hlast)
    have hallows := h.allows_iff (rfl : calls ++ [last] = calls ++ last :: [])
    -- the last offer is accepted if it is among the first ten and welcome
    have hlastIff : acceptedBy (S := DescriptorStore) (.storeDescriptorAt last.1 last.2,
        ((storageMachine DescriptorStore).step
          ((storageMachine DescriptorStore).run s (stores calls))
          (.storeDescriptorAt last.1 last.2)).1) = some d ↔
        last.1 = d ∧ calls.length < RATE_LIMIT_PER_MINUTE ∧
          (s.offeredAll (calls.map Prod.fst)).Welcomes last.1 := by
      change (if StorageAnswer.stored (((storageMachine DescriptorStore).run s
        (stores calls)).storeDescriptorAt last.1 last.2).1 = .stored (.ok ()) then some last.1
          else none) = some d ↔ _
      rw [Option.ite_none_right_eq_some, StorageAnswer.stored.injEq, hstore, hallows,
        Option.some.injEq, and_comm]
      refine and_congr_right fun _ => and_congr_right fun hfew => ?_
      rw [hrun, welcomes_withWindows,
        List.take_of_length_le (by rw [List.length_map]; exact hfew.le)]
    rw [stores, List.map_append, ← stores, List.map_singleton, accepted_concat, List.mem_append,
      Option.mem_toList, hlastIff, hbefore, List.map_append, List.map_singleton]
    constructor
    · rintro (⟨pre, hpre, hrest⟩ | ⟨rfl, hfew, hwelcome⟩)
      · exact ⟨pre, hpre.trans (List.prefix_append _ _), hrest⟩
      · exact ⟨calls.map Prod.fst, List.prefix_rfl, by rwa [List.length_map], hwelcome⟩
    · rintro ⟨pre, hpre, hfew, hwelcome⟩
      rcases List.prefix_concat_iff.1 hpre with heq | hpre
      · obtain ⟨rfl, hlasts⟩ := List.append_inj' heq rfl
        obtain rfl := List.singleton_inj.1 hlasts
        rw [List.length_map] at hfew
        exact .inr ⟨rfl, hfew, hwelcome⟩
      · exact .inl ⟨pre, hpre, hfew, hwelcome⟩

end Crypto

end DescriptorStore

end MeshProtocol
