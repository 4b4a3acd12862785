import MeshProtocol.Hub.Peering
import MeshProtocol.Library.Machine
import MeshProtocol.Library.WaitGraph
import Mathlib.Logic.Function.Basic

/-!
# Hubs that wait for each other (`mesh-hub/src/peering.rs`, `lib.rs`)

Any number of hubs with their peer-manager locks, their rounds and their request handlers, in any
interleaving.  A round takes its hub's lock and keeps it while it waits for each answer
(`run_health_check`, `run_gossip_round`); a handler takes its hub's lock before it looks at the
request (`handle_protocol_request`).  Requests have no timeout.

A hub waits for another when its round has sent a request whose handler has not got the other hub's
lock yet.  `run_not_deadlocked_iff`: a run reaches no deadlock exactly when no round sends a request
to a hub that waits, directly or through other hubs, for the sender.  Nothing in the code prevents
this, and a deadlock lasts until a connection fails (`deadlock_persists`).

Bootstrapping holds the lock in the same way, but before its hub listens, so that no hub can wait
for it; it is left out.
-/

namespace MeshProtocol

open Relation WaitGraph

/-! ## The system -/

/-- Who holds a hub's peer-manager lock: nobody, a round that waits for the answer to a request, or
the handler of a request. -/
inductive Lock (κ : Type) where
  | free
  | round (wait : Wait κ) (request : ℕ)
  | handler (request : ℕ)

/-- The hub and the request whose answer the holder of a lock waits for. -/
def Lock.awaits {κ : Type} : Lock κ → Option (κ × ℕ)
  | .round w request => some (w.peer, request)
  | _ => none

/-- The request whose handler holds a lock. -/
def Lock.handles {κ : Type} : Lock κ → Option ℕ
  | .handler request => some request
  | _ => none

/-- A hub: its peers, their lock, and the requests whose handlers wait for the lock. -/
structure HubState (κ : Type) where
  peers : Peers κ
  lock : Lock κ
  waiting : List ℕ

/-- All hubs, and the number of the next request. -/
structure Net (κ : Type) where
  hub : κ → HubState κ
  next : ℕ

/-- What can happen next. -/
inductive Action (κ : Type) where
  /-- A discovered hub is connected to and becomes a peer. -/
  | connect (h : κ) (did : String) (peer : κ)
  /-- A round takes the lock; it visits its peers in some order. -/
  | startRound (h : κ) (r : Round) (dids : List String)
  /-- A client, or a hub that is no peer, sends a request. -/
  | clientRequest (h : κ)
  /-- The handler of a request gets the lock. -/
  | takeLock (h : κ) (request : ℕ)
  /-- The handler lets go of the lock and answers; it may have registered the sender as a peer. -/
  | answer (h : κ) (registered : Option String)
  /-- The round gets the answer it waits for. -/
  | receive (h : κ)
  /-- The connection fails on which the round waits. -/
  | lose (h : κ)

namespace Net

variable {κ : Type} [DecidableEq κ]

/-- The hubs before they know each other. -/
def initial : Net κ where
  hub _ := ⟨∅, .free, []⟩
  next := 0

/-- Replaces the state of a hub. -/
def setHub (s : Net κ) (h : κ) (st : HubState κ) : Net κ :=
  { s with hub := Function.update s.hub h st }

/-- A new request arrives at a hub. -/
def enqueue (s : Net κ) (h : κ) : Net κ :=
  { s.setHub h { s.hub h with waiting := (s.hub h).waiting ++ [s.next] } with next := s.next + 1 }

/-- A round of a hub goes on: it lets go of the lock, or sends a request and waits. -/
def perform (s : Net κ) (h : κ) : Progress κ → Net κ
  | .finished peers => s.setHub h { s.hub h with peers, lock := .free }
  | .sends w peers =>
    (s.setHub h { s.hub h with peers, lock := .round w s.next }).enqueue w.peer

/-- The handler of a request has had its hub's lock and has let go of it, so the answer is on its
way. -/
def Answered (s : Net κ) (peer : κ) (request : ℕ) : Prop :=
  request ∉ (s.hub peer).waiting ∧ (s.hub peer).lock.handles ≠ some request

instance (s : Net κ) (peer : κ) (request : ℕ) : Decidable (s.Answered peer request) :=
  inferInstanceAs (Decidable (_ ∧ _))

/-- How the round that an action starts or continues goes on. -/
def progress (s : Net κ) : Action κ → Option (κ × Progress κ)
  | .startRound h r dids =>
    match (s.hub h).lock with
    | .free =>
      if dids.isPerm (r.targets (s.hub h).peers) ∧ 0 < r.requests ∧
        r.requests ≤ MAX_GOSSIP_BATCH then
        some (h, r.go (s.hub h).peers dids)
      else none
    | _ => none
  | .receive h =>
    match (s.hub h).lock with
    | .round w request =>
      if s.Answered w.peer request then some (h, w.resume (s.hub h).peers true) else none
    | _ => none
  | .lose h =>
    match (s.hub h).lock with
    | .round w _ => some (h, w.resume (s.hub h).peers false)
    | _ => none
  | _ => none

/-- What the other actions do.  An action that is not enabled changes nothing. -/
def handle (s : Net κ) : Action κ → Net κ
  | .connect h did peer =>
    match (s.hub h).lock with
    | .free => s.setHub h { s.hub h with peers := (s.hub h).peers.insert did (.outgoing peer) }
    | _ => s
  | .clientRequest h => s.enqueue h
  | .takeLock h request =>
    match (s.hub h).lock with
    | .free =>
      if request ∈ (s.hub h).waiting then
        s.setHub h { s.hub h with
          lock := .handler request
          waiting := (s.hub h).waiting.filter (· ≠ request) }
      else s
    | _ => s
  | .answer h registered =>
    match (s.hub h).lock with
    | .handler _ =>
      s.setHub h { s.hub h with
        lock := .free
        peers := registered.elim (s.hub h).peers (s.hub h).peers.register }
    | _ => s
  | _ => s

/-- One step of the system. -/
def step (s : Net κ) (a : Action κ) : Net κ :=
  match s.progress a with
  | some (h, p) => s.perform h p
  | none => s.handle a

/-- The system as a machine. -/
def machine (κ : Type) [DecidableEq κ] : Machine (Net κ) (Action κ) Unit where
  step s a := ((), s.step a)

/-! ## Deadlock -/

/-- The lock of `a` is kept for an answer that `b` can only give after taking its own lock. -/
def WaitsFor (s : Net κ) (a b : κ) : Prop :=
  ∃ request ∈ (s.hub b).waiting, (s.hub a).lock.awaits = some (b, request)

instance (s : Net κ) (a b : κ) : Decidable (s.WaitsFor a b) :=
  inferInstanceAs (Decidable (∃ request ∈ _, _))

/-- Hubs wait for each other in a cycle. -/
def Deadlocked (s : Net κ) : Prop := Cyclic s.WaitsFor

/-- If the action makes a round send a request, it goes to a hub that does not wait, directly or
through other hubs, for the sender. -/
def SendsSafely (s : Net κ) (a : Action κ) : Prop :=
  ∀ h w peers, s.progress a = some (h, .sends w peers) → ¬ ReflTransGen s.WaitsFor w.peer h

/-! ## What a step does to the waiting -/

/-- The request that a hub waits for has a number that was given out. -/
def Fresh (s : Net κ) : Prop :=
  ∀ a b request, (s.hub a).lock.awaits = some (b, request) → request < s.next

@[simp] lemma setHub_hub (s : Net κ) (h : κ) (st : HubState κ) (x : κ) :
    (s.setHub h st).hub x = if x = h then st else s.hub x :=
  Function.update_apply s.hub h st x

@[simp] lemma setHub_next (s : Net κ) (h : κ) (st : HubState κ) :
    (s.setHub h st).next = s.next := rfl

@[simp] lemma enqueue_next (s : Net κ) (h : κ) : (s.enqueue h).next = s.next + 1 := rfl

lemma enqueue_lock (s : Net κ) (h x : κ) : ((s.enqueue h).hub x).lock = (s.hub x).lock := by
  by_cases hx : x = h
  · subst hx
    simp [enqueue]
  · simp [enqueue, hx]

lemma mem_enqueue_waiting {s : Net κ} {h x : κ} {request : ℕ} :
    request ∈ ((s.enqueue h).hub x).waiting ↔
      request ∈ (s.hub x).waiting ∨ (x = h ∧ request = s.next) := by
  by_cases hx : x = h
  · subst hx
    simp [enqueue]
  · simp [enqueue, hx]

/-- A new state of a hub in which it waits for nothing new and no new handlers wait for its lock. -/
structure Quiet (s : Net κ) (h : κ) (st : HubState κ) : Prop where
  lock : ∀ v, st.lock.awaits = some v → (s.hub h).lock.awaits = some v
  waiting : st.waiting ⊆ (s.hub h).waiting

omit [DecidableEq κ] in
lemma quiet_self (s : Net κ) (h : κ) : s.Quiet h (s.hub h) := ⟨fun _ hv => hv, List.Subset.refl _⟩

omit [DecidableEq κ] in
lemma quiet_of_none {s : Net κ} {h : κ} {st : HubState κ} (hlock : st.lock.awaits = none)
    (hwaiting : st.waiting ⊆ (s.hub h).waiting) : s.Quiet h st := by
  refine ⟨fun v hv => ?_, hwaiting⟩
  rw [hlock] at hv
  cases hv

/-- A quiet change makes nobody wait. -/
lemma waitsFor_of_quiet {s : Net κ} {h : κ} {st : HubState κ} (hquiet : s.Quiet h st) {x y : κ}
    (hxy : (s.setHub h st).WaitsFor x y) : s.WaitsFor x y := by
  obtain ⟨request, hmem, hawaits⟩ := hxy
  rw [setHub_hub] at hmem hawaits
  refine ⟨request, ?_, ?_⟩
  · split_ifs at hmem with hy
    · rw [hy]
      exact hquiet.waiting hmem
    · exact hmem
  · split_ifs at hawaits with hx
    · rw [hx]
      exact hquiet.lock _ hawaits
    · exact hawaits

/-- A request that no round has sent makes nobody wait. -/
lemma waitsFor_of_enqueue {s : Net κ} (hfresh : s.Fresh) {h x y : κ}
    (hxy : (s.enqueue h).WaitsFor x y) : s.WaitsFor x y := by
  obtain ⟨request, hmem, hawaits⟩ := hxy
  rw [enqueue_lock] at hawaits
  obtain hold | ⟨-, rfl⟩ := mem_enqueue_waiting.1 hmem
  · exact ⟨request, hold, hawaits⟩
  · exact absurd (hfresh x y s.next hawaits) (lt_irrefl _)

/-- When a round sends a request, its hub waits for the peer and for nobody else, and the other hubs
wait as before. -/
lemma waitsFor_sends {s : Net κ} (hfresh : s.Fresh) {h : κ} {w : Wait κ} {peers : Peers κ}
    {x y : κ} :
    (s.perform h (.sends w peers)).WaitsFor x y ↔
      (x = h ∧ y = w.peer) ∨ (x ≠ h ∧ s.WaitsFor x y) := by
  have hlock : ((s.perform h (.sends w peers)).hub x).lock =
      if x = h then .round w s.next else (s.hub x).lock := by
    rw [perform, enqueue_lock, setHub_hub]
    split_ifs <;> rfl
  have hwaiting : ∀ request, request ∈ ((s.perform h (.sends w peers)).hub y).waiting ↔
      request ∈ (s.hub y).waiting ∨ (y = w.peer ∧ request = s.next) := by
    intro request
    rw [perform, mem_enqueue_waiting, setHub_hub, setHub_next]
    split_ifs with hy
    · rw [hy]
    · rfl
  unfold WaitsFor
  simp only [hwaiting, hlock]
  by_cases hx : x = h
  · simp only [hx, if_true, Lock.awaits, Option.some.injEq, Prod.mk.injEq, true_and, ne_eq,
      not_true_eq_false, false_and, or_false]
    constructor
    · rintro ⟨request, -, hpeer, -⟩
      exact hpeer.symm
    · intro hpeer
      exact ⟨s.next, .inr ⟨hpeer, rfl⟩, hpeer.symm, rfl⟩
  · simp only [hx, if_false, false_and, false_or, ne_eq, not_false_eq_true, true_and]
    constructor
    · rintro ⟨request, hold | ⟨-, rfl⟩, hawaits⟩
      · exact ⟨request, hold, hawaits⟩
      · exact absurd (hfresh x y s.next hawaits) (lt_irrefl _)
    · rintro ⟨request, hold, hawaits⟩
      exact ⟨request, .inl hold, hawaits⟩

/-- Every other change is the arrival of a request, or a quiet change at one hub. -/
lemma handle_cases (s : Net κ) (a : Action κ) :
    (∃ h, s.handle a = s.enqueue h) ∨
      ∃ h st, s.Quiet h st ∧ (s.handle a).hub = (s.setHub h st).hub ∧
        (s.handle a).next = s.next := by
  have hsame : ∀ h : κ, s.hub = (s.setHub h (s.hub h)).hub := by
    intro h
    exact (Function.update_eq_self h s.hub).symm
  cases a with
  | connect h did peer =>
    right
    simp only [handle]
    split
    · refine ⟨h, _, ?_, rfl, rfl⟩
      exact ⟨fun v hv => hv, List.Subset.refl _⟩
    · exact ⟨h, _, s.quiet_self h, hsame h, rfl⟩
  | startRound h r dids => exact .inr ⟨h, _, s.quiet_self h, hsame h, rfl⟩
  | clientRequest h => exact .inl ⟨h, rfl⟩
  | takeLock h request =>
    right
    simp only [handle]
    split
    · split_ifs
      · refine ⟨h, _, ?_, rfl, rfl⟩
        exact quiet_of_none rfl fun r hr => (List.mem_filter.1 hr).1
      · exact ⟨h, _, s.quiet_self h, hsame h, rfl⟩
    · exact ⟨h, _, s.quiet_self h, hsame h, rfl⟩
  | answer h registered =>
    right
    simp only [handle]
    split
    · refine ⟨h, _, ?_, rfl, rfl⟩
      exact quiet_of_none rfl (List.Subset.refl _)
    · exact ⟨h, _, s.quiet_self h, hsame h, rfl⟩
  | receive h => exact .inr ⟨h, _, s.quiet_self h, hsame h, rfl⟩
  | lose h => exact .inr ⟨h, _, s.quiet_self h, hsame h, rfl⟩

/-- A step that sends no request makes nobody wait. -/
lemma waitsFor_of_step {s : Net κ} (hfresh : s.Fresh) {a : Action κ}
    (hsends : ∀ h w peers, s.progress a ≠ some (h, .sends w peers)) {x y : κ}
    (hxy : (s.step a).WaitsFor x y) : s.WaitsFor x y := by
  unfold step at hxy
  split at hxy
  case h_1 h p hp =>
    cases p with
    | finished peers =>
      refine waitsFor_of_quiet ?_ hxy
      exact quiet_of_none rfl (List.Subset.refl _)
    | sends w peers => exact absurd hp (hsends h w peers)
  case h_2 =>
    obtain ⟨h, heq⟩ | ⟨h, st, hquiet, hhub, -⟩ := s.handle_cases a
    · rw [heq] at hxy
      exact waitsFor_of_enqueue hfresh hxy
    · unfold WaitsFor at hxy
      rw [hhub] at hxy
      exact waitsFor_of_quiet hquiet hxy

/-- Numbers stay fresh. -/
lemma Fresh.step {s : Net κ} (hfresh : s.Fresh) (a : Action κ) : (s.step a).Fresh := by
  have hquietFresh : ∀ {s' : Net κ} {h st}, s.Quiet h st → s'.hub = (s.setHub h st).hub →
      s'.next = s.next → s'.Fresh := by
    intro s' h st hquiet hhub hnext x y request hawaits
    rw [hhub, setHub_hub] at hawaits
    rw [hnext]
    split_ifs at hawaits
    · exact hfresh h y request (hquiet.lock _ hawaits)
    · exact hfresh x y request hawaits
  unfold Net.step
  split
  case h_1 h p _ =>
    cases p with
    | finished peers =>
      refine hquietFresh ?_ rfl rfl
      exact quiet_of_none rfl (List.Subset.refl _)
    | sends w peers =>
      intro x y request hawaits
      rw [perform, enqueue_lock, setHub_hub] at hawaits
      rw [perform, enqueue_next, setHub_next]
      split_ifs at hawaits
      · obtain ⟨-, rfl⟩ := Prod.mk.inj (Option.some.inj hawaits)
        exact Nat.lt_succ_self _
      · exact (hfresh x y request hawaits).trans (Nat.lt_succ_self _)
  case h_2 =>
    obtain ⟨h, heq⟩ | ⟨h, st, hquiet, hhub, hnext⟩ := s.handle_cases a
    · rw [heq]
      intro x y request hawaits
      rw [enqueue_lock] at hawaits
      exact (hfresh x y request hawaits).trans (Nat.lt_succ_self _)
    · exact hquietFresh hquiet hhub hnext

/-! ## Runs -/

lemma fresh_run (actions : List (Action κ)) : ((machine κ).run initial actions).Fresh := by
  induction actions using List.reverseRecOn with
  | nil =>
    intro a b request h
    cases h
  | append_singleton actions a ih =>
    rw [Machine.run_concat]
    exact ih.step a

omit [DecidableEq κ] in
lemma not_deadlocked_initial : ¬ (initial : Net κ).Deadlocked := by
  rintro ⟨a, ha⟩
  obtain ⟨b, ⟨request, hmem, -⟩, -⟩ := exists_next ha
  cases hmem

/-- One step from a state without a deadlock makes a deadlock exactly if it sends a request to a hub
that waits for the sender. -/
theorem step_deadlocked_iff {s : Net κ} (hfresh : s.Fresh) (hs : ¬ s.Deadlocked) (a : Action κ) :
    (s.step a).Deadlocked ↔ ¬ s.SendsSafely a := by
  by_cases hex : ∃ h w peers, s.progress a = some (h, .sends w peers)
  · obtain ⟨h, w, peers, hp⟩ := hex
    have hstep : s.step a = s.perform h (.sends w peers) := by
      unfold step
      rw [hp]
    have hsafe : s.SendsSafely a ↔ ¬ ReflTransGen s.WaitsFor w.peer h := by
      constructor
      · intro hsafe
        exact hsafe h w peers hp
      · intro hnot h' w' peers' hp'
        rw [hp, Option.some.injEq, Prod.mk.injEq, Progress.sends.injEq] at hp'
        obtain ⟨rfl, rfl, -⟩ := hp'
        exact hnot
    rw [hstep, hsafe, not_not]
    constructor
    · intro hdead
      by_contra hpath
      refine not_cyclic_of_add hs (fun x y hxy => ?_) hpath hdead
      obtain hnew | ⟨-, hold⟩ := (waitsFor_sends hfresh).1 hxy
      · exact .inr hnew
      · exact .inl hold
    · intro hpath
      refine cyclic_of_add hpath ((waitsFor_sends hfresh).2 (.inl ⟨rfl, rfl⟩)) ?_
      intro x y hx hxy
      exact (waitsFor_sends hfresh).2 (.inr ⟨hx, hxy⟩)
  · have hsends : ∀ h w peers, s.progress a ≠ some (h, .sends w peers) := by
      intro h w peers hp
      exact hex ⟨h, w, peers, hp⟩
    have hsafe : s.SendsSafely a := fun h w peers hp => absurd hp (hsends h w peers)
    have hdead : ¬ (s.step a).Deadlocked := by
      intro hdead
      exact hs (hdead.mono fun x y hxy => waitsFor_of_step hfresh hsends hxy)
    simp [hsafe, hdead]

/-- A run gets into no deadlock exactly when none of its steps sends a request to a hub that waits,
directly or through other hubs, for the sender. -/
theorem run_not_deadlocked_iff (actions : List (Action κ)) :
    (∀ pre, pre <+: actions → ¬ ((machine κ).run initial pre).Deadlocked) ↔
      ∀ pre a, pre ++ [a] <+: actions → ((machine κ).run initial pre).SendsSafely a := by
  refine Machine.always_iff (P := fun pre => ¬ ((machine κ).run initial pre).Deadlocked)
    not_deadlocked_initial fun pre a _ hbefore => ?_
  rw [Machine.run_concat]
  exact (not_congr (step_deadlocked_iff (fresh_run pre) hbefore a)).trans not_not

/-! ## A deadlock lasts -/

omit [DecidableEq κ] in
/-- A hub in a deadlock has its lock taken by a round that gets no answer. -/
lemma lock_of_deadlocked {s : Net κ} {x : κ} (hx : TransGen s.WaitsFor x x) :
    ∃ w request, (s.hub x).lock = .round w request ∧ request ∈ (s.hub w.peer).waiting := by
  obtain ⟨y, ⟨request, hmem, hawaits⟩, -⟩ := exists_next hx
  cases hlock : (s.hub x).lock with
  | round w request' =>
    rw [hlock] at hawaits
    obtain ⟨rfl, rfl⟩ := Prod.mk.inj (Option.some.inj hawaits)
    exact ⟨w, request', rfl, hmem⟩
  | free =>
    rw [hlock] at hawaits
    cases hawaits
  | handler request' =>
    rw [hlock] at hawaits
    cases hawaits

omit [DecidableEq κ] in
/-- A round starts when the lock is free, and goes on when its request is answered or its connection
fails. -/
lemma progress_cases {s : Net κ} {a : Action κ} {h : κ} {p : Progress κ}
    (hp : s.progress a = some (h, p)) :
    (s.hub h).lock = .free ∨
      (∃ w request, (s.hub h).lock = .round w request ∧ s.Answered w.peer request) ∨
        a = .lose h := by
  cases a with
  | startRound h' r dids =>
    simp only [progress] at hp
    split at hp
    case h_1 hlock =>
      split_ifs at hp
      obtain ⟨rfl, -⟩ := Prod.mk.inj (Option.some.inj hp)
      exact .inl hlock
    case h_2 => cases hp
  | receive h' =>
    simp only [progress] at hp
    split at hp
    case h_1 w request hlock =>
      split_ifs at hp with hanswered
      obtain ⟨rfl, -⟩ := Prod.mk.inj (Option.some.inj hp)
      exact .inr (.inl ⟨w, request, hlock, hanswered⟩)
    case h_2 => cases hp
  | lose h' =>
    simp only [progress] at hp
    split at hp
    case h_1 =>
      obtain ⟨rfl, -⟩ := Prod.mk.inj (Option.some.inj hp)
      exact .inr (.inr rfl)
    case h_2 => cases hp
  | connect h' did peer => cases hp
  | clientRequest h' => cases hp
  | takeLock h' request => cases hp
  | answer h' registered => cases hp

/-- Nothing but the arrival of requests changes a hub in a deadlock. -/
lemma hub_step_of_deadlocked {s : Net κ} {a : Action κ} (hlose : ∀ h, a ≠ .lose h) {x : κ}
    (hx : TransGen s.WaitsFor x x) :
    ((s.step a).hub x).lock = (s.hub x).lock ∧
      (s.hub x).waiting ⊆ ((s.step a).hub x).waiting := by
  obtain ⟨w, request, hlock, hmem⟩ := lock_of_deadlocked hx
  have hother : ∀ {h st}, h ≠ x → (s.setHub h st).hub x = s.hub x := by
    intro h st hne
    rw [setHub_hub, if_neg hne.symm]
  have hsame : ∀ {s' : Net κ}, s'.hub x = s.hub x →
      (s'.hub x).lock = (s.hub x).lock ∧ (s.hub x).waiting ⊆ (s'.hub x).waiting := by
    intro s' heq
    rw [heq]
    exact ⟨rfl, List.Subset.refl _⟩
  have hfree : ∀ {h}, (s.hub h).lock = .free → h ≠ x := by
    rintro h hl rfl
    rw [hl] at hlock
    cases hlock
  have hhandler : ∀ {h r}, (s.hub h).lock = .handler r → h ≠ x := by
    rintro h r hl rfl
    rw [hl] at hlock
    cases hlock
  unfold step
  split
  case h_1 h p hp =>
    have hne : h ≠ x := by
      obtain hl | ⟨w', request', hl, hanswered⟩ | rfl := progress_cases hp
      · exact hfree hl
      · rintro rfl
        rw [hl] at hlock
        obtain ⟨rfl, rfl⟩ := Lock.round.inj hlock
        exact hanswered.1 hmem
      · exact absurd rfl (hlose h)
    cases p with
    | finished peers => exact hsame (hother hne)
    | sends w' peers =>
      rw [perform, enqueue_lock, hother hne]
      refine ⟨rfl, fun r hr => ?_⟩
      rw [mem_enqueue_waiting, hother hne]
      exact .inl hr
  case h_2 =>
    cases a with
    | connect h did peer =>
      simp only [handle]
      split
      case h_1 hl => exact hsame (hother (hfree hl))
      case h_2 => exact hsame rfl
    | clientRequest h =>
      rw [handle, enqueue_lock]
      exact ⟨rfl, fun r hr => mem_enqueue_waiting.2 (.inl hr)⟩
    | takeLock h request' =>
      simp only [handle]
      split
      case h_1 hl =>
        split_ifs
        · exact hsame (hother (hfree hl))
        · exact hsame rfl
      case h_2 => exact hsame rfl
    | answer h registered =>
      simp only [handle]
      split
      case h_1 hl => exact hsame (hother (hhandler hl))
      case h_2 => exact hsame rfl
    | startRound h r dids => exact hsame rfl
    | receive h => exact hsame rfl
    | lose h => exact hsame rfl

/-- Without a failing connection, hubs that wait for each other wait forever. -/
theorem deadlock_persists {s : Net κ} {a : Action κ} (hlose : ∀ h, a ≠ .lose h)
    (hs : s.Deadlocked) : (s.step a).Deadlocked := by
  refine hs.of_kept ?_
  rintro x y ⟨request, hmem, hawaits⟩ hx hy
  refine ⟨request, (hub_step_of_deadlocked hlose hy).2 hmem, ?_⟩
  rw [(hub_step_of_deadlocked hlose hx).1]
  exact hawaits

/-! ## Two hubs that check each other -/

/-- Each of two hubs becomes a peer of the other, and both start a health check. -/
def crossedHealthChecks : List (Action Bool) := [
  .connect false "did:mesh:zB" true,
  .connect true "did:mesh:zA" false,
  .startRound false .healthCheck ["did:mesh:zB"],
  .startRound true .healthCheck ["did:mesh:zA"]]

/-- Both wait for the other's answer. -/
theorem crossedHealthChecks_deadlocked :
    ((machine Bool).run initial crossedHealthChecks).Deadlocked := by
  have hfirst : ((machine Bool).run initial crossedHealthChecks).WaitsFor false true := by
    decide +kernel
  have hsecond : ((machine Bool).run initial crossedHealthChecks).WaitsFor true false := by
    decide +kernel
  exact ⟨false, (TransGen.single hfirst).tail hsecond⟩

end Net

end MeshProtocol
