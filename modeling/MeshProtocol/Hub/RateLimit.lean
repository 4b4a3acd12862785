import MeshProtocol.Hub.Network
import MeshProtocol.Hub.Policy
import MeshProtocol.Library.Machine
import MeshProtocol.Library.SlidingWindow

/-!
# The rate limiter of a hub (`mesh-hub/src/rate_limit.rs`)

`HubRateLimiter` in full: windows for each IP and each identity, nested by operation, the two checks
and the cleanup.  `Policy` has the part of it that the hook of a DHT node uses, the check of an
identity, over flat windows; `checkIdentity_refines` connects the two.

Each check and each cleanup holds its lock throughout and is one step.
-/

namespace MeshProtocol

namespace RateLimit

open Std SlidingWindow

/-! ## Keys -/

instance : Ord Operation := ⟨compareOn Operation.ctorIdx⟩

instance : TransOrd Operation := inferInstanceAs (TransCmp (compareOn Operation.ctorIdx))

instance : LawfulEqOrd Operation := KeyOrder.lawfulEqCmp_compareOn fun a b h => by
  cases a <;> cases b <;> first | rfl | cases h

/-- The version of an address, and its octets or segments. -/
def addrKey : IpAddr → List ℕ
  | .v4 a => 4 :: (List.ofFn a.octets).map UInt8.toNat
  | .v6 a => 6 :: (List.ofFn a.segments).map UInt16.toNat

lemma addrKey_injective : Function.Injective addrKey := by
  intro a b h
  cases a with
  | v4 a =>
    cases b with
    | v4 b =>
      have hlist := List.map_injective_iff.2 (fun x y => UInt8.toNat_inj.1) (List.cons.inj h).2
      rw [show a = b from congrArg Ipv4Addr.mk (List.ofFn_injective hlist)]
    | v6 b => cases (List.cons.inj h).1
  | v6 a =>
    cases b with
    | v4 b => cases (List.cons.inj h).1
    | v6 b =>
      have hlist := List.map_injective_iff.2 (fun x y => UInt16.toNat_inj.1) (List.cons.inj h).2
      rw [show a = b from congrArg Ipv6Addr.mk (List.ofFn_injective hlist)]

instance : Ord IpAddr := ⟨compareOn addrKey⟩

instance : TransOrd IpAddr := inferInstanceAs (TransCmp (compareOn addrKey))

instance : LawfulEqOrd IpAddr := KeyOrder.lawfulEqCmp_compareOn addrKey_injective

/-! ## Windows -/

/-- `Duration::from_secs`, in nanoseconds. -/
def fromSecs (secs : UInt64) : ℕ := secs.toNat * 1000000000

/-- Pops the times at the front that are older than a duration. -/
def popExpired (duration now : ℕ) (deque : List ℕ) : List ℕ :=
  deque.dropWhile fun front => duration < now - front

/-- Sliding windows for each key, by operation. -/
abbrev Windows (κ : Type) [Ord κ] := ExtTreeMap κ (ExtTreeMap Operation (List ℕ))

namespace Windows

variable {κ : Type} [Ord κ] [TransOrd κ]

/-- The recorded times of a key's operations. -/
def deque (w : Windows κ) (key : κ) (op : Operation) : List ℕ :=
  (w.getD key ∅).getD op []

/-- Sets the recorded times of a key's operations, entering the key if it is new. -/
def setDeque (w : Windows κ) (key : κ) (op : Operation) (deque : List ℕ) : Windows κ :=
  w.insert key ((w.getD key ∅).insert op deque)

/-- Checks a key's operation against its limit, and records it if it is within. -/
def check (w : Windows κ) (limit : UInt32) (window now : ℕ) (key : κ) (op : Operation) :
    Bool × Windows κ :=
  let deque := popExpired window now (w.deque key op)
  if limit ≤ deque.length.toUInt32 then (false, w.setDeque key op deque)
  else (true, w.setDeque key op (deque ++ [now]))

/-- Pops the times of a key that are older than the cutoff, and drops the operations without any. -/
def cleanupOps (opMap : ExtTreeMap Operation (List ℕ)) (cutoff now : ℕ) :
    ExtTreeMap Operation (List ℕ) :=
  opMap.filterMap fun _ deque =>
    if (popExpired cutoff now deque).isEmpty then none else some (popExpired cutoff now deque)

/-- Does so for each key, and drops the keys without operations. -/
def cleanup (w : Windows κ) (cutoff now : ℕ) : Windows κ :=
  w.filterMap fun _ opMap =>
    if (cleanupOps opMap cutoff now).isEmpty then none else some (cleanupOps opMap cutoff now)

variable [LawfulEqOrd κ]

lemma deque_setDeque [DecidableEq κ] (w : Windows κ) (key key' : κ) (op op' : Operation)
    (deque : List ℕ) :
    (w.setDeque key op deque).deque key' op' =
      if key = key' ∧ op = op' then deque else w.deque key' op' := by
  simp only [Windows.deque, setDeque, ExtTreeMap.getD_insert, LawfulEqCmp.compare_eq_iff_eq]
  by_cases hkey : key = key'
  · subst hkey
    by_cases hop : op = op'
    · simp [hop]
    · simp [hop, ExtTreeMap.getD_insert, LawfulEqCmp.compare_eq_iff_eq]
  · simp [hkey]

omit [LawfulEqOrd κ] in
/-- A check is refused if what is left of the deque has reached the limit. -/
lemma check_fst (w : Windows κ) (limit : UInt32) (window now : ℕ) (key : κ) (op : Operation) :
    (w.check limit window now key op).1 =
      !decide (limit ≤ (popExpired window now (w.deque key op)).length.toUInt32) := by
  unfold check
  dsimp only
  split_ifs with hfull
  · simp [hfull]
  · simp [hfull]

/-- A check prunes the deque of its key and operation, and records the time if it is accepted. -/
lemma deque_check [DecidableEq κ] (w : Windows κ) (limit : UInt32) (window now : ℕ) (key key' : κ)
    (op op' : Operation) : (w.check limit window now key op).2.deque key' op' =
      if key = key' ∧ op = op' then
        if limit ≤ (popExpired window now (w.deque key op)).length.toUInt32 then
          popExpired window now (w.deque key op)
        else popExpired window now (w.deque key op) ++ [now]
      else w.deque key' op' := by
  unfold check
  dsimp only
  by_cases hfull : limit ≤ (popExpired window now (w.deque key op)).length.toUInt32
  · rw [if_pos hfull, if_pos hfull, deque_setDeque]
  · rw [if_neg hfull, if_neg hfull, deque_setDeque]

lemma getD_cleanupOps (opMap : ExtTreeMap Operation (List ℕ)) (cutoff now : ℕ) (op : Operation) :
    (cleanupOps opMap cutoff now).getD op [] = popExpired cutoff now (opMap.getD op []) := by
  rw [cleanupOps, ExtTreeMap.getD_eq_getD_getElem?, ExtTreeMap.getElem?_filterMap',
    ExtTreeMap.getD_eq_getD_getElem?]
  cases opMap[op]? with
  | none => rfl
  | some deque =>
    rw [Option.bind_some, Option.getD_some]
    split_ifs with hempty
    · exact (List.isEmpty_iff.1 hempty).symm
    · rfl

/-- Dropping what is empty does not show. -/
lemma deque_cleanup (w : Windows κ) (cutoff now : ℕ) (key : κ) (op : Operation) :
    (w.cleanup cutoff now).deque key op = popExpired cutoff now (w.deque key op) := by
  have hkey : (w.cleanup cutoff now).getD key ∅ = cleanupOps (w.getD key ∅) cutoff now := by
    rw [cleanup, ExtTreeMap.getD_eq_getD_getElem?, ExtTreeMap.getElem?_filterMap',
      ExtTreeMap.getD_eq_getD_getElem?]
    cases w[key]? with
    | none => exact (ExtTreeMap.filterMap_eq_empty_iff.2 fun op hop => by simp at hop).symm
    | some opMap =>
      rw [Option.bind_some, Option.getD_some]
      split_ifs with hempty
      · rw [ExtTreeMap.isEmpty_iff.1 hempty]
        rfl
      · rfl
  rw [Windows.deque, hkey, getD_cleanupOps, Windows.deque]

end Windows

/-! ## The limiter -/

/-- Per-operation rate limits, those for each IP included. -/
structure Config extends RateLimitConfig where
  /-- Operations per window; no limit where there is none. -/
  ipLimits : Operation → Option UInt32 := fun
    | .connect => some 60
    | .store => some 30
    | .query => some 300

/-- Rate limiting errors. -/
inductive RateLimitError where
  | ipRateLimited (ip : IpAddr) (operation : Operation) (limit : UInt32)
  | identityRateLimited (did : String) (operation : Operation) (limit : UInt32)
deriving DecidableEq

/-- Sliding windows for each IP, and for each identity by its bytes. -/
structure HubRateLimiter where
  config : Config
  ipWindows : Windows IpAddr
  identityWindows : Windows (List UInt8)

namespace HubRateLimiter

/-- A rate limiter that has seen nothing. -/
def new (config : Config) : HubRateLimiter := ⟨config, ∅, ∅⟩

/-- Checks whether an IP is within its limit for an operation. -/
def checkIp (l : HubRateLimiter) (ip : IpAddr) (op : Operation) (now : ℕ) :
    Except RateLimitError Unit × HubRateLimiter :=
  match l.config.ipLimits op with
  | none => (.ok (), l)
  | some limit =>
    let (allowed, ipWindows) := l.ipWindows.check limit (fromSecs l.config.windowSecs) now ip op
    (if allowed then .ok () else .error (.ipRateLimited ip op limit), { l with ipWindows })

/-- Checks whether an identity is within its limit for an operation. -/
def checkIdentity [Crypto] (l : HubRateLimiter) (identity : Identity) (op : Operation) (now : ℕ) :
    Except RateLimitError Unit × HubRateLimiter :=
  match l.config.identityLimits op with
  | none => (.ok (), l)
  | some limit =>
    let (allowed, identityWindows) :=
      l.identityWindows.check limit (fromSecs l.config.windowSecs) now (identityBytes identity) op
    (if allowed then .ok () else .error (.identityRateLimited identity.did op limit),
      { l with identityWindows })

/-- Removes the entries older than twice the window; the product wraps. -/
def cleanup (l : HubRateLimiter) (now : ℕ) : HubRateLimiter :=
  let cutoff := fromSecs (l.config.windowSecs * 2)
  { l with
    ipWindows := l.ipWindows.cleanup cutoff now
    identityWindows := l.identityWindows.cleanup cutoff now }

/-! ## The check of an identity in `Policy` -/

/-- An error of the check in `Policy`. -/
def ofPolicy : MeshProtocol.RateLimitError → RateLimitError
  | .identityRateLimited did op limit => .identityRateLimited did op limit

/-- The limiter of `Policy` has the same limits, and in its flat windows the same times. -/
structure Refines (l : HubRateLimiter) (p : MeshProtocol.HubRateLimiter) : Prop where
  config : p.config = l.config.toRateLimitConfig
  windows : ∀ key op, (p.identityWindows op).getD key [] = l.identityWindows.deque key op

/-- The times it keeps are the same. -/
lemma Refines.recent {l : HubRateLimiter} {p : MeshProtocol.HubRateLimiter} (h : l.Refines p)
    (key : List UInt8) (op : Operation) (now : ℕ) :
    p.recent key op now =
      popExpired (fromSecs l.config.windowSecs) now (l.identityWindows.deque key op) := by
  rw [MeshProtocol.HubRateLimiter.recent, h.windows, h.config]
  rfl

/-- The check of an identity answers as that of `Policy` does, and leaves the same times. -/
theorem checkIdentity_refines [Crypto] {l : HubRateLimiter} {p : MeshProtocol.HubRateLimiter}
    (h : l.Refines p) (identity : Identity) (op : Operation) (now : ℕ) :
    (l.checkIdentity identity op now).1 =
        (p.checkIdentity identity op now).1.mapError ofPolicy ∧
      (l.checkIdentity identity op now).2.Refines (p.checkIdentity identity op now).2 := by
  have hrecent := h.recent (identityBytes identity) op now
  have hlimits : l.config.identityLimits op = p.config.identityLimits op := by rw [h.config]
  rw [checkIdentity, MeshProtocol.HubRateLimiter.checkIdentity, hlimits]
  cases p.config.identityLimits op with
  | none => exact ⟨rfl, h⟩
  | some limit =>
    -- the windows after the check, whatever of the key's times is kept
    have hset : ∀ deque : List ℕ,
        ({ l with
          identityWindows := l.identityWindows.setDeque (identityBytes identity) op deque } :
            HubRateLimiter).Refines
        { p with
          identityWindows := Function.update p.identityWindows op
            ((p.identityWindows op).insert (identityBytes identity) deque) } := by
      intro deque
      refine ⟨h.config, fun key op' => ?_⟩
      dsimp only
      rw [Windows.deque_setDeque, ← h.windows]
      by_cases hop : op = op'
      · subst hop
        rw [Function.update_self, ExtTreeMap.getD_insert]
        by_cases hkey : identityBytes identity = key
        · rw [if_pos (by rw [hkey, compare_self]), if_pos ⟨hkey, rfl⟩]
        · rw [if_neg fun hcmp => hkey (LawfulEqCmp.eq_of_compare hcmp), if_neg fun hc => hkey hc.1]
      · rw [Function.update_of_ne (Ne.symm hop), if_neg fun hc => hop hc.2]
    dsimp only
    rw [Windows.check, ← hrecent]
    by_cases hfull : limit ≤ (p.recent (identityBytes identity) op now).length.toUInt32
    · rw [if_pos hfull, if_pos hfull]
      exact ⟨rfl, hset _⟩
    · rw [if_neg hfull, if_neg hfull]
      exact ⟨rfl, hset _⟩

end HubRateLimiter

end RateLimit

end MeshProtocol
