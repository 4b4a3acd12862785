import MeshProtocol.Core.Reference
import MeshProtocol.Hub.PeerManager

/-!
# The health of a peer

The documentation counts the health checks in a row that a peer has not answered: after three the
peer is unhealthy, after five it is disconnected.  The peer manager counts failures instead, in one
32-bit counter for health checks and for the STOREs of gossip rounds, and a PONG whose body does not
decode is neither an answer nor a failure.

A round changes each peer by itself (`getElem?_rounds_run`), so a run of rounds is one of events at
each peer.  `health_documented_iff`: the peer follows the documentation exactly as long as the
checks it has missed and the failures, as far as 32 bits show them, are on the same side of the
thresholds where they matter.
-/

namespace MeshProtocol

open Std

variable {κ : Type}

/-! ## A peer through the rounds -/

/-- What a round is to one peer: a gossip round in which some STOREs fail, or a health check. -/
inductive PeerEvent where
  | gossip (failures : ℕ)
  | check (outcome : PingOutcome)
deriving DecidableEq

/-- The peer after a round. -/
def PeerState.next (p : PeerState κ) : PeerEvent → PeerState κ
  | .gossip failures =>
    if p.status = .connected ∧ p.connection.isSome then
      { p with consecutiveFailures := p.consecutiveFailures + failures.toUInt32 }
    else p
  | .check outcome => if p.status = .disconnected then p else PeerManager.pinged p outcome

/-- A call of `gossip_round` or of `health_check`. -/
inductive RoundCall where
  | gossip (descriptors : List Descriptor) (answered : String → ℕ → Bool)
  | healthCheck (outcomes : String → PingOutcome)

/-- What a round is to the peer of a DID. -/
def RoundCall.event (did : String) : RoundCall → PeerEvent
  | .gossip descriptors answered => .gossip (PeerManager.unanswered descriptors answered did)
  | .healthCheck outcomes => .check (outcomes did)

namespace PeerManager

/-- The peer manager as a machine that makes rounds. -/
def rounds : Machine (PeerManager κ) RoundCall (List (String × κ × Store)) where
  step pm
    | .gossip descriptors answered => pm.gossipRound descriptors answered
    | .healthCheck outcomes => ([], pm.healthCheck outcomes)

lemma getElem?_rounds_step (pm : PeerManager κ) (call : RoundCall) (did : String) :
    (rounds.step pm call).2.peers[did]? = pm.peers[did]?.map (·.next (call.event did)) := by
  cases call with
  | gossip descriptors answered => exact pm.getElem?_gossipRound descriptors answered did
  | healthCheck outcomes => exact pm.getElem?_healthCheck outcomes did

/-- A run of rounds is a run of events at each peer. -/
lemma getElem?_rounds_run (pm : PeerManager κ) (calls : List RoundCall) (did : String) :
    (rounds.run pm calls).peers[did]? =
      pm.peers[did]?.map fun p => (calls.map (·.event did)).foldl PeerState.next p := by
  induction calls generalizing pm with
  | nil => simp
  | cons call calls ih =>
    rw [Machine.run, ih, getElem?_rounds_step, Option.map_map]
    rfl

end PeerManager

/-! ## What is counted -/

/-- What a peer has met since its last PONG that decodes, or since it was registered. -/
structure Tally where
  /-- The health checks that got no PONG. -/
  unanswered : ℕ
  /-- The health checks that got a PONG whose body does not decode. -/
  undecodable : ℕ
  /-- The STOREs of gossip rounds that failed. -/
  failedStores : ℕ

/-- The health checks in a row without a PONG that decodes. -/
def Tally.missed (t : Tally) : ℕ := t.unanswered + t.undecodable

/-- The tally after a round.  A gossip round sends STOREs to a peer that is connected by the
documentation and that the hub has a connection to; without a connection no request is sent. -/
def Tally.add (reachable : Bool) (t : Tally) : PeerEvent → Tally
  | .gossip failures =>
    if reachable ∧ t.missed < UNHEALTHY_THRESHOLD.toNat then
      { t with failedStores := t.failedStores + failures }
    else t
  | .check outcome =>
    if reachable ∧ outcome = .pong then ⟨0, 0, 0⟩
    else if reachable ∧ outcome = .malformedPong then { t with undecodable := t.undecodable + 1 }
    else { t with unanswered := t.unanswered + 1 }

def tally (reachable : Bool) (events : List PeerEvent) : Tally :=
  events.foldl (Tally.add reachable) ⟨0, 0, 0⟩

lemma tally_concat (reachable : Bool) (events : List PeerEvent) (e : PeerEvent) :
    tally reachable (events ++ [e]) = (tally reachable events).add reachable e := by
  rw [tally, List.foldl_append]
  rfl

/-! ## The documented machine -/

/-- The documented status of a peer that has missed fewer than five checks in a row. -/
def documentedStatus (missed : ℕ) : PeerStatus :=
  if missed < UNHEALTHY_THRESHOLD.toNat then .connected else .unhealthy

/-- The peer has missed five checks in a row at some time. -/
def Abandoned (reachable : Bool) (events : List PeerEvent) : Prop :=
  ∃ pre, pre <+: events ∧ (tally reachable pre).missed = DISCONNECT_THRESHOLD.toNat

/-- The peer is as documented after some rounds: disconnected and without a connection once it has
missed five checks in a row, and until then connected or, from three on, unhealthy. -/
structure AsDocumented (connection : Option κ) (events : List PeerEvent) (p : PeerState κ) :
    Prop where
  abandoned : Abandoned connection.isSome events → p.status = .disconnected ∧ p.connection = none
  kept : ¬ Abandoned connection.isSome events →
    p.status = documentedStatus (tally connection.isSome events).missed ∧ p.connection = connection

/-- A round keeps a peer as documented: a PONG that does not decode is not the check that makes the
peer unhealthy or disconnects it, and with a check that gets no PONG the missed checks are past the
same thresholds as the failures, the failed STOREs included, taken modulo `2 ^ 32`. -/
def Tally.Agrees (reachable : Bool) (t : Tally) : PeerEvent → Prop
  | .gossip _ => True
  | .check outcome =>
    if reachable ∧ outcome = .pong then True
    else if reachable ∧ outcome = .malformedPong then
      t.missed + 1 ≠ UNHEALTHY_THRESHOLD.toNat ∧ t.missed + 1 ≠ DISCONNECT_THRESHOLD.toNat
    else
      let failures := (t.unanswered + 1 + t.failedStores) % 2 ^ 32
      (t.missed + 1 < UNHEALTHY_THRESHOLD.toNat ↔ failures < UNHEALTHY_THRESHOLD.toNat) ∧
        (t.missed + 1 < DISCONNECT_THRESHOLD.toNat ↔ failures < DISCONNECT_THRESHOLD.toNat)

lemma documentedStatus_eq_connected_iff {missed : ℕ} :
    documentedStatus missed = .connected ↔ missed < UNHEALTHY_THRESHOLD.toNat := by
  unfold documentedStatus
  split_ifs with h <;> simp [h]

lemma documentedStatus_eq_unhealthy_iff {missed : ℕ} :
    documentedStatus missed = .unhealthy ↔ UNHEALTHY_THRESHOLD.toNat ≤ missed := by
  unfold documentedStatus
  split_ifs with h
  · simpa using h
  · simpa using h

lemma documentedStatus_ne_disconnected (missed : ℕ) : documentedStatus missed ≠ .disconnected := by
  unfold documentedStatus
  split_ifs <;> simp

lemma not_abandoned_nil (reachable : Bool) : ¬ Abandoned reachable [] := by
  rintro ⟨pre, hpre, hmissed⟩
  rw [List.prefix_nil.1 hpre] at hmissed
  cases hmissed

lemma abandoned_concat_iff {reachable : Bool} {events : List PeerEvent} {e : PeerEvent} :
    Abandoned reachable (events ++ [e]) ↔ Abandoned reachable events ∨
      ((tally reachable events).add reachable e).missed = DISCONNECT_THRESHOLD.toNat := by
  rw [← tally_concat]
  constructor
  · rintro ⟨pre, hpre, hmissed⟩
    cases List.prefix_concat_iff.1 hpre with
    | inl hall => exact .inr (hall ▸ hmissed)
    | inr hearlier => exact .inl ⟨pre, hearlier, hmissed⟩
  · rintro (⟨pre, hpre, hmissed⟩ | hmissed)
    · exact ⟨pre, hpre.trans (List.prefix_append events [e]), hmissed⟩
    · exact ⟨events ++ [e], List.prefix_rfl, hmissed⟩

/-! ## The peer manager's count -/

/-- What the peer manager's counter shows. -/
def Tally.counter (t : Tally) : UInt32 := (t.unanswered + t.failedStores).toUInt32

lemma Tally.counter_unanswered (t : Tally) :
    ({ t with unanswered := t.unanswered + 1 } : Tally).counter = t.counter + 1 := by
  have hsum : t.unanswered + 1 + t.failedStores = t.unanswered + t.failedStores + 1 := by omega
  dsimp only [Tally.counter]
  rw [hsum]
  exact UInt32.ofNat_add _ _

lemma Tally.counter_failedStores (t : Tally) (failures : ℕ) :
    ({ t with failedStores := t.failedStores + failures } : Tally).counter =
      t.counter + failures.toUInt32 := by
  dsimp only [Tally.counter]
  rw [← Nat.add_assoc]
  exact UInt32.ofNat_add _ _

/-- The counter after a failed check. -/
lemma Tally.toNat_counter_add_one (t : Tally) :
    (t.counter + 1).toNat = (t.unanswered + 1 + t.failedStores) % 2 ^ 32 := by
  rw [← Tally.counter_unanswered]
  exact UInt32.toNat_ofNat'

/-- The counter has reached a threshold after a failed check. -/
lemma Tally.le_counter_add_one_iff (t : Tally) (n : UInt32) :
    n ≤ t.counter + 1 ↔ n.toNat ≤ (t.unanswered + 1 + t.failedStores) % 2 ^ 32 := by
  rw [UInt32.le_iff_toNat_le, t.toNat_counter_add_one]

/-- The tally of a peer that is as documented and not disconnected.  The counter of an unhealthy
peer is between the thresholds, so it does not wrap around. -/
structure Tally.Fits (t : Tally) : Prop where
  few : t.missed < DISCONNECT_THRESHOLD.toNat
  counted : UNHEALTHY_THRESHOLD.toNat ≤ t.missed →
    UNHEALTHY_THRESHOLD.toNat ≤ t.counter.toNat ∧ t.counter.toNat < DISCONNECT_THRESHOLD.toNat

lemma Tally.fits_zero : Tally.Fits ⟨0, 0, 0⟩ := ⟨by decide, fun h => absurd h (by decide)⟩

/-- An unhealthy peer's counter does not come below the first threshold with another failure. -/
lemma Tally.Fits.missed_lt {t : Tally} (h : t.Fits)
    (hfailures : (t.unanswered + 1 + t.failedStores) % 2 ^ 32 < UNHEALTHY_THRESHOLD.toNat) :
    t.missed < UNHEALTHY_THRESHOLD.toNat := by
  by_contra hnot
  obtain ⟨hlow, hhigh⟩ := h.counted (Nat.not_lt.1 hnot)
  have hbound := DISCONNECT_THRESHOLD.toNat_lt
  rw [← t.toNat_counter_add_one, UInt32.toNat_add] at hfailures
  -- the sum is below `2 ^ 32`, so it does not wrap around
  have hsum : (t.counter.toNat + (1 : UInt32).toNat) % 2 ^ 32 = t.counter.toNat + 1 :=
    Nat.mod_eq_of_lt (by change t.counter.toNat + 1 < 2 ^ 32; omega)
  omega

/-- The peer after rounds in which it has been as documented: its counter shows the failures. -/
structure Tracks (connection : Option κ) (events : List PeerEvent) (p : PeerState κ) : Prop where
  abandoned : Abandoned connection.isSome events → p.status = .disconnected ∧ p.connection = none
  kept : ¬ Abandoned connection.isSome events →
    p = ⟨connection, documentedStatus (tally connection.isSome events).missed,
      (tally connection.isSome events).counter⟩
  fits : ¬ Abandoned connection.isSome events → (tally connection.isSome events).Fits

lemma tracks_nil (connection : Option κ) : Tracks connection [] ⟨connection, .connected, 0⟩ where
  abandoned h := absurd h (not_abandoned_nil _)
  kept _ := rfl
  fits _ := Tally.fits_zero

lemma Tracks.asDocumented {connection : Option κ} {events : List PeerEvent} {p : PeerState κ}
    (h : Tracks connection events p) : AsDocumented connection events p where
  abandoned := h.abandoned
  kept hkept := by
    rw [h.kept hkept]
    exact ⟨rfl, rfl⟩

/-- A peer that is disconnected stays so. -/
lemma next_of_disconnected {p : PeerState κ} (h : p.status = .disconnected) (e : PeerEvent) :
    p.next e = p := by
  cases e with
  | gossip failures => simp [PeerState.next, h]
  | check outcome => simp [PeerState.next, h]

lemma Tracks.of_abandoned {connection : Option κ} {events : List PeerEvent} {p : PeerState κ}
    (h : Tracks connection events p) (habandoned : Abandoned connection.isSome events)
    (e : PeerEvent) : Tracks connection (events ++ [e]) (p.next e) := by
  have hafter : Abandoned connection.isSome (events ++ [e]) :=
    abandoned_concat_iff.2 (.inl habandoned)
  rw [next_of_disconnected (h.abandoned habandoned).1]
  exact ⟨fun _ => h.abandoned habandoned, fun hnot => absurd hafter hnot,
    fun hnot => absurd hafter hnot⟩

/-- A round from which the peer is as documented again: what is left to show of the tally. -/
lemma tracks_concat {connection : Option κ} {events : List PeerEvent} {e : PeerEvent}
    (hkept : ¬ Abandoned connection.isSome events) {t : Tally}
    (ht : (tally connection.isSome events).add connection.isSome e = t) (hfits : t.Fits) :
    Tracks connection (events ++ [e]) ⟨connection, documentedStatus t.missed, t.counter⟩ := by
  have hafter : ¬ Abandoned connection.isSome (events ++ [e]) := by
    rw [abandoned_concat_iff, ht]
    rintro (habandoned | hmissed)
    · exact hkept habandoned
    · exact absurd hmissed hfits.few.ne
  refine ⟨fun habandoned => absurd habandoned hafter, fun _ => ?_, fun _ => ?_⟩
  · rw [tally_concat, ht]
  · rw [tally_concat, ht]
    exact hfits

/-- Whether the peer is as documented after one more round. -/
lemma asDocumented_concat_iff {connection : Option κ} {events : List PeerEvent} {e : PeerEvent}
    (hkept : ¬ Abandoned connection.isSome events) {t : Tally}
    (ht : (tally connection.isSome events).add connection.isSome e = t) {p : PeerState κ} :
    AsDocumented connection (events ++ [e]) p ↔
      if t.missed = DISCONNECT_THRESHOLD.toNat then p.status = .disconnected ∧ p.connection = none
      else p.status = documentedStatus t.missed ∧ p.connection = connection := by
  have hafter : Abandoned connection.isSome (events ++ [e]) ↔
      t.missed = DISCONNECT_THRESHOLD.toNat := by
    rw [abandoned_concat_iff, ht, or_iff_right hkept]
  have htally : tally connection.isSome (events ++ [e]) = t := by rw [tally_concat, ht]
  split_ifs with hmissed
  · exact ⟨fun h => h.abandoned (hafter.2 hmissed),
      fun h => ⟨fun _ => h, fun hnot => absurd (hafter.2 hmissed) hnot⟩⟩
  · have hstill : ¬ Abandoned connection.isSome (events ++ [e]) := fun h => hmissed (hafter.1 h)
    constructor
    · intro h
      rw [← htally]
      exact h.kept hstill
    · intro h
      refine ⟨fun habandoned => absurd habandoned hstill, fun _ => ?_⟩
      rw [htally]
      exact h

/-- A peer that a round disconnects is as documented if it has missed five checks. -/
lemma asDocumented_disconnected_iff {connection : Option κ} {events : List PeerEvent}
    {e : PeerEvent} (hkept : ¬ Abandoned connection.isSome events) {t : Tally}
    (ht : (tally connection.isSome events).add connection.isSome e = t) {count : UInt32} :
    AsDocumented connection (events ++ [e]) ⟨none, .disconnected, count⟩ ↔
      t.missed = DISCONNECT_THRESHOLD.toNat := by
  rw [asDocumented_concat_iff hkept ht]
  split_ifs with hmissed
  · exact iff_of_true ⟨rfl, rfl⟩ hmissed
  · exact iff_of_false (fun h => documentedStatus_ne_disconnected _ h.1.symm) hmissed

/-- A peer that a round keeps is as documented if it has missed less and its status fits. -/
lemma asDocumented_kept_iff {connection : Option κ} {events : List PeerEvent} {e : PeerEvent}
    (hkept : ¬ Abandoned connection.isSome events) {t : Tally}
    (ht : (tally connection.isSome events).add connection.isSome e = t) {status : PeerStatus}
    (hstatus : status ≠ .disconnected) {count : UInt32} :
    AsDocumented connection (events ++ [e]) ⟨connection, status, count⟩ ↔
      t.missed ≠ DISCONNECT_THRESHOLD.toNat ∧ status = documentedStatus t.missed := by
  rw [asDocumented_concat_iff hkept ht]
  split_ifs with hmissed
  · exact iff_of_false (fun h => hstatus h.1) fun h => h.1 hmissed
  · exact ⟨fun h => ⟨hmissed, h.1⟩, fun h => ⟨h.2, rfl⟩⟩

/-- Once a peer has missed five checks, what it tracks is that it is disconnected. -/
lemma tracks_disconnected {connection : Option κ} {events : List PeerEvent} {e : PeerEvent}
    {t : Tally} (ht : (tally connection.isSome events).add connection.isSome e = t)
    (hmissed : t.missed = DISCONNECT_THRESHOLD.toNat) {count : UInt32} :
    Tracks connection (events ++ [e]) ⟨none, .disconnected, count⟩ := by
  have habandoned : Abandoned connection.isSome (events ++ [e]) :=
    abandoned_concat_iff.2 (.inr (ht ▸ hmissed))
  exact ⟨fun _ => ⟨rfl, rfl⟩, fun hnot => absurd habandoned hnot,
    fun hnot => absurd habandoned hnot⟩

section Rounds

variable {connection : Option κ} {events : List PeerEvent} {t : Tally}

/-- A gossip round adds to the counter of a connected peer. -/
lemma tracks_gossip (hkept : ¬ Abandoned connection.isSome events)
    (htally : tally connection.isSome events = t) (hfits : t.Fits) (failures : ℕ) :
    Tracks connection (events ++ [.gossip failures])
      (PeerState.next ⟨connection, documentedStatus t.missed, t.counter⟩ (.gossip failures)) := by
  by_cases hsent : connection.isSome ∧ t.missed < UNHEALTHY_THRESHOLD.toNat
  · have hadd : (tally connection.isSome events).add connection.isSome (.gossip failures) =
        { t with failedStores := t.failedStores + failures } := by
      rw [htally]
      exact if_pos hsent
    have hnext : PeerState.next ⟨connection, documentedStatus t.missed, t.counter⟩
        (.gossip failures) =
          ⟨connection, documentedStatus t.missed, t.counter + failures.toUInt32⟩ :=
      if_pos ⟨documentedStatus_eq_connected_iff.2 hsent.2, hsent.1⟩
    rw [hnext, ← Tally.counter_failedStores]
    exact tracks_concat hkept hadd ⟨hfits.few, fun hmissed => absurd hmissed (Nat.not_le.2 hsent.2)⟩
  · have hadd : (tally connection.isSome events).add connection.isSome (.gossip failures) = t := by
      rw [htally]
      exact if_neg hsent
    have hnext : PeerState.next ⟨connection, documentedStatus t.missed, t.counter⟩
        (.gossip failures) = ⟨connection, documentedStatus t.missed, t.counter⟩ :=
      if_neg fun h => hsent ⟨h.2, documentedStatus_eq_connected_iff.1 h.1⟩
    rw [hnext]
    exact tracks_concat hkept hadd hfits

lemma next_check (outcome : PingOutcome) :
    PeerState.next ⟨connection, documentedStatus t.missed, t.counter⟩ (.check outcome) =
      PeerManager.pinged ⟨connection, documentedStatus t.missed, t.counter⟩ outcome :=
  if_neg (documentedStatus_ne_disconnected t.missed)

/-- A PONG that decodes resets the counter. -/
lemma tracks_pong (hkept : ¬ Abandoned connection.isSome events) (hreachable : connection.isSome) :
    Tracks connection (events ++ [.check .pong])
      (PeerState.next ⟨connection, documentedStatus t.missed, t.counter⟩ (.check .pong)) := by
  obtain ⟨c, rfl⟩ := Option.isSome_iff_exists.1 hreachable
  have hadd : (tally (some c).isSome events).add (some c).isSome (.check .pong) = ⟨0, 0, 0⟩ := by
    simp [Tally.add]
  rw [next_check]
  exact tracks_concat hkept hadd Tally.fits_zero

/-- A PONG that does not decode leaves the peer as it is. -/
lemma malformed_iff (hkept : ¬ Abandoned connection.isSome events)
    (htally : tally connection.isSome events = t) (hfits : t.Fits)
    (hreachable : connection.isSome) :
    (AsDocumented connection (events ++ [.check .malformedPong])
        (PeerState.next ⟨connection, documentedStatus t.missed, t.counter⟩
          (.check .malformedPong)) →
      t.missed + 1 ≠ UNHEALTHY_THRESHOLD.toNat ∧ t.missed + 1 ≠ DISCONNECT_THRESHOLD.toNat) ∧
    (t.missed + 1 ≠ UNHEALTHY_THRESHOLD.toNat ∧ t.missed + 1 ≠ DISCONNECT_THRESHOLD.toNat →
      Tracks connection (events ++ [.check .malformedPong])
        (PeerState.next ⟨connection, documentedStatus t.missed, t.counter⟩
          (.check .malformedPong))) := by
  obtain ⟨c, rfl⟩ := Option.isSome_iff_exists.1 hreachable
  let t' : Tally := { t with undecodable := t.undecodable + 1 }
  have hadd : (tally (some c).isSome events).add (some c).isSome (.check .malformedPong) = t' := by
    rw [htally]
    rfl
  have hmissed' : t'.missed = t.missed + 1 := rfl
  have hnext : PeerManager.pinged ⟨some c, documentedStatus t.missed, t.counter⟩ .malformedPong =
      ⟨some c, documentedStatus t.missed, t'.counter⟩ := rfl
  have hsame : documentedStatus t.missed = documentedStatus (t.missed + 1) ↔
      t.missed + 1 ≠ UNHEALTHY_THRESHOLD.toNat := by
    unfold documentedStatus
    split_ifs with hbefore hafter hafter
    · simpa using hafter.ne
    · simpa using Nat.le_antisymm hbefore (Nat.not_lt.1 hafter)
    · exact absurd (Nat.lt_of_succ_lt hafter) hbefore
    · have hne : t.missed + 1 ≠ UNHEALTHY_THRESHOLD.toNat := by omega
      simpa using hne
  rw [next_check, hnext]
  constructor
  · intro hdocumented
    rw [asDocumented_kept_iff hkept hadd (documentedStatus_ne_disconnected _), hmissed']
      at hdocumented
    exact ⟨hsame.1 hdocumented.2, hdocumented.1⟩
  · rintro ⟨hunhealthy, hdisconnect⟩
    rw [hsame.2 hunhealthy, ← hmissed']
    refine tracks_concat hkept hadd ⟨?_, fun hmissed => hfits.counted ?_⟩
    · exact Nat.lt_of_le_of_ne hfits.few hdisconnect
    · exact Nat.le_of_lt_succ (Nat.lt_of_le_of_ne hmissed (Ne.symm hunhealthy))

/-- A check without a PONG takes the counter one up. -/
lemma failed_iff (hkept : ¬ Abandoned connection.isSome events) (hfits : t.Fits)
    {outcome : PingOutcome}
    (hadd : (tally connection.isSome events).add connection.isSome (.check outcome) =
      { t with unanswered := t.unanswered + 1 })
    (hfailed : PeerManager.pinged ⟨connection, documentedStatus t.missed, t.counter⟩ outcome =
      PeerState.afterFailure ⟨connection, documentedStatus t.missed, t.counter⟩) :
    let failures := (t.unanswered + 1 + t.failedStores) % 2 ^ 32
    let agree : Prop :=
      (t.missed + 1 < UNHEALTHY_THRESHOLD.toNat ↔ failures < UNHEALTHY_THRESHOLD.toNat) ∧
        (t.missed + 1 < DISCONNECT_THRESHOLD.toNat ↔ failures < DISCONNECT_THRESHOLD.toNat)
    (AsDocumented connection (events ++ [.check outcome])
        (PeerState.next ⟨connection, documentedStatus t.missed, t.counter⟩ (.check outcome)) →
      agree) ∧
    (agree → Tracks connection (events ++ [.check outcome])
        (PeerState.next ⟨connection, documentedStatus t.missed, t.counter⟩ (.check outcome))) := by
  intro failures agree
  let t' : Tally := { t with unanswered := t.unanswered + 1 }
  have hmissed' : t'.missed = t.missed + 1 := Nat.add_right_comm _ _ _
  have hcounter' : t.counter + 1 = t'.counter := t.counter_unanswered.symm
  have hfailures : t'.counter.toNat = failures := hcounter' ▸ t.toNat_counter_add_one
  have hthresholds : UNHEALTHY_THRESHOLD.toNat < DISCONNECT_THRESHOLD.toNat := by decide
  have hfew := hfits.few
  rw [next_check, hfailed]
  unfold PeerState.afterFailure
  dsimp only
  by_cases hdisconnect : DISCONNECT_THRESHOLD.toNat ≤ failures
  · rw [if_pos ((t.le_counter_add_one_iff _).2 hdisconnect),
      asDocumented_disconnected_iff hkept hadd]
    change (t'.missed = _ → _) ∧ _
    rw [hmissed']
    constructor
    · intro hmissed
      constructor <;> omega
    · intro hagree
      refine tracks_disconnected hadd ?_
      change t'.missed = _
      have hpast := hagree.2
      omega
  rw [if_neg (mt (t.le_counter_add_one_iff _).1 hdisconnect), hcounter']
  have hfits' (hfew' : t.missed + 1 < DISCONNECT_THRESHOLD.toNat)
      (hcounted : UNHEALTHY_THRESHOLD.toNat ≤ t.missed + 1 →
        UNHEALTHY_THRESHOLD.toNat ≤ failures) : t'.Fits := by
    refine ⟨hmissed' ▸ hfew', fun hmissed => ?_⟩
    rw [hfailures]
    exact ⟨hcounted (hmissed' ▸ hmissed), Nat.not_le.1 hdisconnect⟩
  by_cases hunhealthy : UNHEALTHY_THRESHOLD.toNat ≤ failures
  · rw [if_pos (hcounter' ▸ (t.le_counter_add_one_iff _).2 hunhealthy),
      asDocumented_kept_iff hkept hadd (by simp), eq_comm, documentedStatus_eq_unhealthy_iff]
    change (t'.missed ≠ _ ∧ _ ≤ t'.missed → _) ∧ _
    rw [hmissed']
    constructor
    · rintro ⟨hmissed, hstatus⟩
      constructor <;> omega
    · rintro ⟨hstatus, hpast⟩
      have hstatus' : documentedStatus t'.missed = .unhealthy :=
        documentedStatus_eq_unhealthy_iff.2 (by omega)
      rw [← hstatus']
      exact tracks_concat hkept hadd (hfits' (by omega) fun _ => hunhealthy)
  · have hbefore := documentedStatus_eq_connected_iff.2 (hfits.missed_lt (Nat.not_le.1 hunhealthy))
    rw [if_neg (hcounter' ▸ mt (t.le_counter_add_one_iff _).1 hunhealthy), hbefore,
      asDocumented_kept_iff hkept hadd (by simp), eq_comm, documentedStatus_eq_connected_iff]
    change (t'.missed ≠ _ ∧ t'.missed < _ → _) ∧ _
    rw [hmissed']
    constructor
    · rintro ⟨hmissed, hstatus⟩
      constructor <;> omega
    · rintro ⟨hstatus, hpast⟩
      have hstatus' : documentedStatus t'.missed = .connected :=
        documentedStatus_eq_connected_iff.2 (by omega)
      rw [← hstatus']
      exact tracks_concat hkept hadd (hfits' (by omega) fun hmissed => by omega)

end Rounds

/-- The peer is as documented after one more round exactly if the round agrees, and then its counter
shows the failures again. -/
lemma Tracks.next_iff {connection : Option κ} {events : List PeerEvent} {p : PeerState κ}
    (h : Tracks connection events p) (hkept : ¬ Abandoned connection.isSome events)
    (e : PeerEvent) :
    (AsDocumented connection (events ++ [e]) (p.next e) →
        (tally connection.isSome events).Agrees connection.isSome e) ∧
      ((tally connection.isSome events).Agrees connection.isSome e →
        Tracks connection (events ++ [e]) (p.next e)) := by
  obtain rfl := h.kept hkept
  have hfits := h.fits hkept
  generalize htally : tally connection.isSome events = t at hfits ⊢
  cases e with
  | gossip failures =>
    exact ⟨fun _ => trivial, fun _ => tracks_gossip hkept htally hfits failures⟩
  | check outcome =>
    unfold Tally.Agrees
    dsimp only
    by_cases hpong : connection.isSome ∧ outcome = .pong
    · obtain ⟨hreachable, rfl⟩ := hpong
      rw [if_pos ⟨hreachable, rfl⟩]
      exact ⟨fun _ => trivial, fun _ => tracks_pong hkept hreachable⟩
    rw [if_neg hpong]
    by_cases hmalformed : connection.isSome ∧ outcome = .malformedPong
    · obtain ⟨hreachable, rfl⟩ := hmalformed
      rw [if_pos ⟨hreachable, rfl⟩]
      exact malformed_iff hkept htally hfits hreachable
    rw [if_neg hmalformed]
    refine failed_iff hkept hfits ?_ ?_
    · rw [htally]
      simp only [Tally.add, if_neg hpong, if_neg hmalformed]
    · cases connection with
      | none => rfl
      | some c =>
        cases outcome with
        | pong => exact absurd ⟨rfl, rfl⟩ hpong
        | malformedPong => exact absurd ⟨rfl, rfl⟩ hmalformed
        | failed => rfl

/-- A peer is as documented throughout some rounds exactly if each of them agrees, up to its
disconnection. -/
theorem asDocumented_run_iff (connection : Option κ) (events : List PeerEvent) :
    (∀ pre, pre <+: events →
        AsDocumented connection pre (pre.foldl PeerState.next ⟨connection, .connected, 0⟩)) ↔
      ∀ pre e, pre ++ [e] <+: events → ¬ Abandoned connection.isSome pre →
        (tally connection.isSome pre).Agrees connection.isSome e := by
  have hstep : ∀ pre e, (pre ++ [e]).foldl PeerState.next
      (⟨connection, .connected, 0⟩ : PeerState κ) =
        (pre.foldl PeerState.next ⟨connection, .connected, 0⟩).next e := by
    intro pre e
    rw [List.foldl_append]
    rfl
  constructor
  · intro hdocumented
    -- as long as the peer is as documented, its counter shows the failures
    have htracks : ∀ pre, pre <+: events →
        Tracks connection pre (pre.foldl PeerState.next ⟨connection, .connected, 0⟩) := by
      intro pre hpre
      refine Machine.prefix_induction (P := fun pre =>
        Tracks connection pre (pre.foldl PeerState.next ⟨connection, .connected, 0⟩))
        (tracks_nil connection) ?_
      intro pre' e hpre' ih
      by_cases habandoned : Abandoned connection.isSome pre'
      · rw [hstep]
        exact ih.of_abandoned habandoned e
      · have hafter := hdocumented (pre' ++ [e]) (hpre'.trans hpre)
        rw [hstep] at hafter ⊢
        exact (ih.next_iff habandoned e).2 ((ih.next_iff habandoned e).1 hafter)
    intro pre e hpre hkept
    have hbefore := htracks pre ((List.prefix_append pre [e]).trans hpre)
    have hafter := hdocumented (pre ++ [e]) hpre
    rw [hstep] at hafter
    exact (hbefore.next_iff hkept e).1 hafter
  · intro hagree pre hpre
    refine Tracks.asDocumented (Machine.prefix_induction (P := fun pre =>
      Tracks connection pre (pre.foldl PeerState.next ⟨connection, .connected, 0⟩))
      (tracks_nil connection) ?_)
    intro pre' e hpre' ih
    rw [hstep]
    by_cases habandoned : Abandoned connection.isSome pre'
    · exact ih.of_abandoned habandoned e
    · exact (ih.next_iff habandoned e).2 (hagree pre' e (hpre'.trans hpre) habandoned)

/-! ## Runs of the peer manager -/

namespace PeerManager

/-- The peer manager once it has registered a peer as connected, with the hub's connection to it if
it has one. -/
def registered (pm : PeerManager κ) (did : String) (connection : Option κ) : PeerManager κ :=
  { pm with peers := pm.peers.insert did ⟨connection, .connected, 0⟩ }

/-- The peer's health is as documented after every round of a run exactly if, up to its
disconnection, the health checks it has missed and the failures modulo `2 ^ 32` are past the same
thresholds at each round that makes a difference. -/
theorem health_documented_iff (pm : PeerManager κ) (did : String) (connection : Option κ)
    (calls : List RoundCall) :
    (∀ pre, pre <+: calls →
      ∃ p, (rounds.run (pm.registered did connection) pre).peers[did]? = some p ∧
        AsDocumented connection (pre.map (·.event did)) p) ↔
      ∀ pre call, pre ++ [call] <+: calls →
        ¬ Abandoned connection.isSome (pre.map (·.event did)) →
        (tally connection.isSome (pre.map (·.event did))).Agrees connection.isSome
          (call.event did) := by
  have hpeer : ∀ pre : List RoundCall, (rounds.run (pm.registered did connection) pre).peers[did]? =
      some ((pre.map (·.event did)).foldl PeerState.next ⟨connection, .connected, 0⟩) := by
    intro pre
    rw [getElem?_rounds_run, registered, ExtTreeMap.getElem?_insert_self, Option.map_some]
  have hrun := asDocumented_run_iff connection (calls.map (·.event did))
  constructor
  · intro hdocumented pre call hpre
    refine hrun.1 ?_ _ _ (by simpa using hpre.map (·.event did))
    intro events hevents
    obtain ⟨pre', hpre', rfl⟩ := List.prefix_map_iff.1 hevents
    obtain ⟨p, hp, hdoc⟩ := hdocumented pre' hpre'
    rw [hpeer, Option.some.injEq] at hp
    exact hp ▸ hdoc
  · intro hagree pre hpre
    refine ⟨_, hpeer pre, hrun.2 ?_ _ (hpre.map _)⟩
    intro events e hevents
    obtain ⟨pre', hpre', heq⟩ := List.prefix_map_iff.1 hevents
    obtain ⟨pre'', last, rfl, rfl, hlast⟩ := List.map_eq_append_iff.1 heq.symm
    obtain ⟨call, rfl, rfl⟩ := List.map_eq_singleton_iff.1 hlast
    exact hagree pre'' call hpre'

/-! ## Answers that do not count -/

/-- A hub without peers. -/
def emptyManager : PeerManager Unit :=
  .new firstPublisher (.quic "198.51.100.1:4433") 8 []

/-- A gossip round of one descriptor, whose STORE fails. -/
def failedGossip : RoundCall := .gossip [target] fun _ _ => false

/-- A health check that every peer answers in the same way. -/
def checked (outcome : PingOutcome) : RoundCall := .healthCheck fun _ => outcome

/-- The peer is unhealthy after one missed check, because two STOREs have failed before; and it is
connected after three, because their PONGs have bodies that do not decode. -/
theorem health_not_documented :
    ((rounds.run (emptyManager.registered "peer" (some ())) [failedGossip, failedGossip,
        checked .failed]).peers["peer"]?.map PeerState.status = some .unhealthy ∧
      (tally true [.gossip 1, .gossip 1, .check .failed]).missed = 1) ∧
    (rounds.run (emptyManager.registered "peer" (some ())) [checked .malformedPong,
        checked .malformedPong, checked .malformedPong]).peers["peer"]?.map PeerState.status =
      some .connected ∧
    (tally true
      [.check .malformedPong, .check .malformedPong, .check .malformedPong]).missed = 3 := by
  refine ⟨⟨?_, rfl⟩, ?_, rfl⟩ <;> decide +kernel

end PeerManager

end MeshProtocol
