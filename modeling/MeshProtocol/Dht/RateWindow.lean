import MeshProtocol.Dht.DescriptorStore

/-!
# The rate-limit windows of the in-memory store

A store call of a valid descriptor is charged to its publisher's window unless the window is full,
whatever becomes of the descriptor afterwards.  No other call touches a window.
-/

namespace MeshProtocol

/-- The times of a window that have not been pruned at a time. -/
def recent (entries : List UInt64) (now : UInt64) : List UInt64 :=
  entries.filter fun ts => saturatingSub now ts < RATE_LIMIT_WINDOW_MICROS

lemma checkWindow_eq (entries : List UInt64) (now : UInt64) :
    checkWindow entries now =
      if (recent entries now).length < RATE_LIMIT_PER_MINUTE then
        (true, recent entries now ++ [now])
      else (false, recent entries now) := by
  rw [checkWindow, ← recent]
  by_cases hroom : (recent entries now).length < RATE_LIMIT_PER_MINUTE
  · rw [if_pos hroom, if_neg (not_le.2 hroom)]
  · rw [if_neg hroom, if_pos (not_lt.1 hroom)]

lemma recent_replicate (n : ℕ) (now : UInt64) :
    recent (List.replicate n now) now = List.replicate n now := by
  refine List.filter_eq_self.2 fun ts hts => ?_
  rw [List.eq_of_mem_replicate hts]
  simp [saturatingSub, RATE_LIMIT_WINDOW_MICROS]

open Std

namespace DescriptorStore

/-- The times of a publisher's stores that the rate limiter remembers. -/
def window (s : DescriptorStore) (publisher : Identity) : List UInt64 :=
  s.rateLimiter.getD publisher []

lemma allows_iff {s : DescriptorStore} {publisher : Identity} {now : UInt64} :
    s.allows publisher now = true ↔
      (recent (s.window publisher) now).length < RATE_LIMIT_PER_MINUTE := by
  rw [allows, ← window, checkWindow_eq]
  split_ifs with hroom
  · simp [hroom]
  · simp [hroom]

@[simp] lemma window_new (publisher : Identity) : new.window publisher = [] := by
  simp [window, new]

section Crypto

variable [Crypto] [Ciborium]

/-- Processing has nothing to do with the windows. -/
lemma rateLimiter_process (s : DescriptorStore) (d : Descriptor) :
    (s.process d).2.rateLimiter = s.rateLimiter := by
  have hrevocation : (s.processRevocation d).2.rateLimiter = s.rateLimiter := by
    rcases s.processRevocation_cases d with ⟨e, kept, -, heq⟩ | ⟨id, kept, -, -, -, heq⟩ <;>
      rw [heq]
  have hrotation :
      ∀ t : DescriptorStore, (t.processKeyRotation d).2.rateLimiter = t.rateLimiter := by
    intro t
    rcases t.processKeyRotation_cases d with ⟨e, kept, -, heq⟩ | ⟨rot, -, -, heq⟩ <;> rw [heq]
  have hfirst : (if d.schemaHash = SCHEMA_HASH_CORE_REVOCATION then s.processRevocation d
      else (.ok (), s)).2.rateLimiter = s.rateLimiter := by
    split_ifs
    · exact hrevocation
    · rfl
  unfold process
  split
  case h_1 e s₁ heq =>
    rw [heq] at hfirst
    exact hfirst
  case h_2 s₁ heq =>
    rw [heq] at hfirst
    split_ifs
    · exact (hrotation s₁).trans hfirst
    · exact hfirst

omit [Ciborium] in
/-- The checks charge a valid descriptor to its publisher's window. -/
lemma rateLimiter_checkStore (s : DescriptorStore) (d : Descriptor) (now : UInt64) :
    (s.checkStore d now).2.rateLimiter =
      if d.validate now = .ok () then
        s.rateLimiter.insert d.publisher (checkWindow (s.window d.publisher) now).2
      else s.rateLimiter := by
  unfold checkStore
  cases d.validate now with
  | error e => simp
  | ok =>
    rw [if_pos rfl, ← window]
    dsimp only
    split_ifs
    · rfl
    · cases s.sequences[DedupKey.fromDescriptor d]? with
      | none => rfl
      | some currentSeq =>
        dsimp only
        split_ifs <;> rfl

/-- What a store call does to the windows. -/
theorem window_storeDescriptorAt (s : DescriptorStore) (d : Descriptor) (now : UInt64)
    (publisher : Identity) :
    (s.storeDescriptorAt d now).2.window publisher =
      if d.validate now = .ok () ∧ d.publisher = publisher then
        (checkWindow (s.window publisher) now).2
      else s.window publisher := by
  have hcheck : (s.storeDescriptorAt d now).2.rateLimiter = (s.checkStore d now).2.rateLimiter := by
    unfold storeDescriptorAt
    split
    case h_1 e s₁ heq => rw [heq]
    case h_2 s₁ heq =>
      rw [heq, rateLimiter_process]
      rfl
  rw [window, hcheck, rateLimiter_checkStore]
  by_cases hvalid : d.validate now = .ok ()
  · rw [if_pos hvalid, ExtTreeMap.getD_insert]
    by_cases hpublisher : d.publisher = publisher
    · rw [if_pos (by rw [hpublisher]; exact compare_self), if_pos ⟨hvalid, hpublisher⟩, hpublisher]
    · rw [if_neg fun hcmp => hpublisher (LawfulEqCmp.eq_of_compare hcmp),
        if_neg fun h => hpublisher h.2, window]
  · rw [if_neg hvalid, if_neg fun h => hvalid h.1, window]

end Crypto

end DescriptorStore

end MeshProtocol
