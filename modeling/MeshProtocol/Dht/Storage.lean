import MeshProtocol.Core.Message
import MeshProtocol.Library.Machine

/-!
# Descriptor storage: the backend interface (`mesh-dht/src/storage.rs`)

The trait every storage backend implements, its errors, and the sliding rate-limit window both
backends keep for each publisher.

A backend is used through calls of the trait, so a run of a backend is a list of calls, and what
clients see of it is the history of calls and answers.  What may happen to a backend between calls
(a restart, a dropped cache entry) is a call of its own, `background`.
-/

namespace MeshProtocol

/-! ## Errors -/

/-- Errors from descriptor storage operations. -/
inductive StoreError where
  | validationFailed (reason : String)
  | staleDescriptor (received current : UInt64)
  | rateLimited (limit : ℕ)
  | revocationPublisherMismatch
  | staleRotation (received current : UInt64)
  | rotationForkDetected
deriving DecidableEq, Repr

/-- The `#[error(...)]` texts. -/
def StoreError.message : StoreError → String
  | .validationFailed reason => "descriptor validation failed: " ++ reason
  | .staleDescriptor received current =>
    "stale descriptor: sequence " ++ toString received ++ " < current " ++ toString current
  | .rateLimited limit =>
    "rate limited: publisher exceeded " ++ toString limit ++ " stores per minute"
  | .revocationPublisherMismatch => "revocation rejected: publisher mismatch"
  | .staleRotation received current =>
    "stale key rotation: seq " ++ toString received ++ " <= current " ++ toString current
  | .rotationForkDetected => "key rotation fork detected: conflicting new_identity for same seq"

/-! ## The rate-limit window -/

/-- Maximum STORE operations per publisher per minute. -/
def RATE_LIMIT_PER_MINUTE : ℕ := 10

/-- Rate limit window in microseconds (60 seconds). -/
def RATE_LIMIT_WINDOW_MICROS : UInt64 := 60000000

/-- `u64::saturating_sub`. -/
def saturatingSub (a b : UInt64) : UInt64 := if b ≤ a then a - b else 0

/-- One step of a publisher's window: prunes old timestamps, and records the attempt if fewer than
the limit remain.  Both backends make this step on their own map of windows. -/
def checkWindow (entries : List UInt64) (nowMicros : UInt64) : Bool × List UInt64 :=
  let entries := entries.filter fun ts => saturatingSub nowMicros ts < RATE_LIMIT_WINDOW_MICROS
  if entries.length ≥ RATE_LIMIT_PER_MINUTE then (false, entries)
  else (true, entries ++ [nowMicros])

/-! ## The trait -/

/-- The outcome of a store. -/
abbrev StoreResult := Except StoreError Unit

/-- A storage backend with states `S`.  The methods without a time argument read the system clock;
the model passes its reading. -/
class DescriptorStorage (S : Type) where
  /-- What can happen to the backend between calls. -/
  Event : Type
  storeDescriptor : S → Descriptor → (clock : UInt64) → StoreResult × S
  storeDescriptorAt : S → Descriptor → (nowMicros : UInt64) → StoreResult × S
  getDescriptors : S → Hash → Option FilterSet → (clock : UInt64) → List Descriptor × S
  getDescriptorsAt : S → Hash → Option FilterSet → (nowMicros : UInt64) → List Descriptor × S
  evictExpired : S → (clock : UInt64) → S
  evictExpiredAt : S → (nowMicros : UInt64) → S
  hasDescriptors : S → Hash → Bool
  descriptorCount : S → ℕ
  routingKeyCount : S → ℕ
  background : S → Event → S

/-- A call of the trait, or something happening in the background. -/
inductive StorageCall (S : Type) [DescriptorStorage S] where
  | storeDescriptor (d : Descriptor) (clock : UInt64)
  | storeDescriptorAt (d : Descriptor) (nowMicros : UInt64)
  | getDescriptors (rk : Hash) (filters : Option FilterSet) (clock : UInt64)
  | getDescriptorsAt (rk : Hash) (filters : Option FilterSet) (nowMicros : UInt64)
  | evictExpired (clock : UInt64)
  | evictExpiredAt (nowMicros : UInt64)
  | background (e : DescriptorStorage.Event S)

/-- The answer to a call. -/
inductive StorageAnswer where
  | stored (result : StoreResult)
  | found (descriptors : List Descriptor)
  | done
deriving DecidableEq

section Runs

variable {S : Type} [DescriptorStorage S]

open DescriptorStorage

/-- A backend as a machine that takes calls. -/
def storageMachine (S : Type) [DescriptorStorage S] :
    Machine S (StorageCall S) StorageAnswer where
  step s
    | .storeDescriptor d clock =>
      let (result, s) := storeDescriptor s d clock
      (.stored result, s)
    | .storeDescriptorAt d now =>
      let (result, s) := storeDescriptorAt s d now
      (.stored result, s)
    | .getDescriptors rk filters clock =>
      let (ds, s) := getDescriptors s rk filters clock
      (.found ds, s)
    | .getDescriptorsAt rk filters now =>
      let (ds, s) := getDescriptorsAt s rk filters now
      (.found ds, s)
    | .evictExpired clock => (.done, evictExpired s clock)
    | .evictExpiredAt now => (.done, evictExpiredAt s now)
    | .background e => (.done, background s e)

namespace StorageCall

/-- The descriptor a call asks to store, and the time it is stored at. -/
def stores : StorageCall S → Option (Descriptor × UInt64)
  | .storeDescriptor d clock => some (d, clock)
  | .storeDescriptorAt d now => some (d, now)
  | _ => none

/-- What a read asks for: the routing key, the filters and the time. -/
def reads : StorageCall S → Option (Hash × Option FilterSet × UInt64)
  | .getDescriptors rk filters clock => some (rk, filters, clock)
  | .getDescriptorsAt rk filters now => some (rk, filters, now)
  | _ => none

/-- The time at which a call changes the backend. -/
def time : StorageCall S → Option UInt64
  | .storeDescriptor _ clock => some clock
  | .storeDescriptorAt _ now => some now
  | .evictExpired clock => some clock
  | .evictExpiredAt now => some now
  | _ => none

variable {c : StorageCall S} {P : Descriptor → UInt64 → Prop}

/-- A call stores at most one descriptor. -/
lemma forall_stores_iff {d : Descriptor} {now : UInt64} (h : c.stores = some (d, now)) :
    (∀ d now, c.stores = some (d, now) → P d now) ↔ P d now := by
  constructor
  · intro hall
    exact hall d now h
  · intro hd d' now' h'
    rw [h, Option.some.injEq, Prod.mk.injEq] at h'
    obtain ⟨rfl, rfl⟩ := h'
    exact hd

lemma forall_stores_of_none (h : c.stores = none) :
    ∀ d now, c.stores = some (d, now) → P d now := by
  intro d now hstores
  rw [h] at hstores
  cases hstores

end StorageCall

/-- The descriptors a run asks to store. -/
def submitted (calls : List (StorageCall S)) : List Descriptor :=
  calls.filterMap fun c => c.stores.map Prod.fst

/-- The descriptor an entry of a history stored. -/
def acceptedBy (entry : StorageCall S × StorageAnswer) : Option Descriptor :=
  if entry.2 = .stored (.ok ()) then entry.1.stores.map Prod.fst else none

/-- The descriptors a run stored, in order. -/
def accepted (s : S) (calls : List (StorageCall S)) : List Descriptor :=
  ((storageMachine S).trace s calls).filterMap acceptedBy

/-- The times of a run's stores and evictions do not decrease. -/
def TimesOrdered (calls : List (StorageCall S)) : Prop :=
  (calls.filterMap (·.time)).Pairwise (· ≤ ·)

lemma mem_submitted {calls : List (StorageCall S)} {d : Descriptor} :
    d ∈ submitted calls ↔ ∃ c ∈ calls, ∃ now, c.stores = some (d, now) := by
  simp [submitted, Option.map_eq_some_iff]

lemma submitted_concat (calls : List (StorageCall S)) (c : StorageCall S) :
    submitted (calls ++ [c]) = submitted calls ++ (c.stores.map Prod.fst).toList := by
  rw [submitted, List.filterMap_append, ← submitted]
  cases h : c.stores.map Prod.fst <;> simp [h]

lemma submitted_mono {pre calls : List (StorageCall S)} (h : pre <+: calls) :
    submitted pre ⊆ submitted calls :=
  (h.filterMap _).subset

lemma accepted_concat (s : S) (calls : List (StorageCall S)) (c : StorageCall S) :
    accepted s (calls ++ [c]) = accepted s calls ++
      (acceptedBy (c, ((storageMachine S).step ((storageMachine S).run s calls) c).1)).toList := by
  rw [accepted, Machine.trace_concat, List.filterMap_append, ← accepted]
  cases h : acceptedBy (c, ((storageMachine S).step ((storageMachine S).run s calls) c).1) <;>
    simp [h]

lemma accepted_mono (s : S) {pre calls : List (StorageCall S)} (h : pre <+: calls) :
    accepted s pre ⊆ accepted s calls := by
  obtain ⟨post, rfl⟩ := h
  rw [accepted, accepted, Machine.trace_append, List.filterMap_append]
  exact List.subset_append_left _ _

/-- What was stored was submitted. -/
lemma accepted_subset_submitted (s : S) (calls : List (StorageCall S)) :
    accepted s calls ⊆ submitted calls := by
  intro d hd
  obtain ⟨entry, hentry, hacc⟩ := List.mem_filterMap.1 hd
  have hcall := (storageMachine S).mem_of_mem_trace hentry
  unfold acceptedBy at hacc
  split_ifs at hacc
  obtain ⟨⟨d', now⟩, hstores, rfl⟩ := Option.map_eq_some_iff.1 hacc
  exact mem_submitted.2 ⟨entry.1, hcall, now, hstores⟩

/-! ## Time along a run -/

/-- The time of the last store or eviction of a run. -/
def lastTime (calls : List (StorageCall S)) : UInt64 :=
  ((calls.filterMap (·.time)).getLast?).getD 0

lemma time_of_stores {c : StorageCall S} {d : Descriptor} {now : UInt64}
    (h : c.stores = some (d, now)) : c.time = some now := by
  cases c <;> simp_all [StorageCall.stores, StorageCall.time]

lemma lastTime_concat {calls : List (StorageCall S)} {c : StorageCall S} {now : UInt64}
    (h : c.time = some now) : lastTime (calls ++ [c]) = now := by
  simp [lastTime, h]

lemma lastTime_concat_of_none {calls : List (StorageCall S)} {c : StorageCall S}
    (h : c.time = none) : lastTime (calls ++ [c]) = lastTime calls := by
  simp [lastTime, h]

lemma TimesOrdered.of_concat {calls : List (StorageCall S)} {c : StorageCall S}
    (h : TimesOrdered (calls ++ [c])) : TimesOrdered calls := by
  rw [TimesOrdered, List.filterMap_append] at h
  exact (List.pairwise_append.1 h).1

lemma TimesOrdered.lastTime_le {calls : List (StorageCall S)} {c : StorageCall S}
    (h : TimesOrdered (calls ++ [c])) {now : UInt64} (hc : c.time = some now) :
    lastTime calls ≤ now := by
  rw [TimesOrdered, List.filterMap_append, List.pairwise_append] at h
  rcases hlast : (calls.filterMap (·.time)).getLast? with _ | t
  · simp [lastTime, hlast]
  · have hmem := List.mem_of_getLast? hlast
    simpa [lastTime, hlast, hc] using h.2.2 t hmem now (by simp [hc])

end Runs

end MeshProtocol
