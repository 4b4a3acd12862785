import MeshProtocol.Core.Reference
import MeshProtocol.Hub.RateLimit

/-!
# The rate limiter against its history

What a limit is about is which calls of an IP or identity were accepted in the last window.  The
limiter keeps a deque that is pruned at the front only, by the window at a check and by twice the
window at a cleanup.  Time does not go back, so the deques stay ordered, and what they show in a
window is the history (`InStep`).  The answers depend on the history alone; so cleanups do not
change them (`limiter_exact`).
-/

namespace MeshProtocol

namespace RateLimit

open SlidingWindow

/-! ## Calls -/

/-- Whose rate is limited. -/
inductive Subject where
  | ip (addr : IpAddr)
  | identity (id : Identity)
deriving DecidableEq

/-- A call of the limiter, with its reading of the clock. -/
inductive Call where
  | checkIp (ip : IpAddr) (op : Operation) (now : ℕ)
  | checkIdentity (identity : Identity) (op : Operation) (now : ℕ)
  | cleanup (now : ℕ)
deriving DecidableEq

namespace Call

/-- When a call is made. -/
def now : Call → ℕ
  | checkIp _ _ now => now
  | checkIdentity _ _ now => now
  | cleanup now => now

/-- What a check asks for. -/
def asks : Call → Option (Subject × Operation)
  | checkIp ip op _ => some (.ip ip, op)
  | checkIdentity identity op _ => some (.identity identity, op)
  | cleanup _ => none

end Call

/-- The answer to a check; a cleanup has none. -/
abbrev Answer := Option (Except RateLimitError Unit)

/-- The limit of a subject's operation. -/
def Config.limit (config : Config) : Subject → Operation → Option UInt32
  | .ip _, op => config.ipLimits op
  | .identity _, op => config.identityLimits op

variable [Crypto]

/-- The error of a subject that has used up its limit. -/
def refusal (op : Operation) (limit : UInt32) : Subject → RateLimitError
  | .ip ip => .ipRateLimited ip op limit
  | .identity identity => .identityRateLimited identity.did op limit

/-- The limiter as a machine that takes calls. -/
def limiter : Machine HubRateLimiter Call Answer where
  step l
    | .checkIp ip op now => ((l.checkIp ip op now).map some id)
    | .checkIdentity identity op now => ((l.checkIdentity identity op now).map some id)
    | .cleanup now => (none, l.cleanup now)

/-- The limiter after a run of calls. -/
def after (config : Config) (calls : List Call) : HubRateLimiter :=
  limiter.run (.new config) calls

/-- The time of a check of the subject's operation that was accepted. -/
def acceptedAt (subject : Subject) (op : Operation) (entry : Call × Answer) : Option ℕ :=
  if entry.1.asks = some (subject, op) ∧ entry.2 = some (.ok ()) then some entry.1.now else none

/-- The times at which a run accepted a check of the subject's operation. -/
def accepted (config : Config) (subject : Subject) (op : Operation) (calls : List Call) : List ℕ :=
  (limiter.trace (.new config) calls).filterMap (acceptedAt subject op)

/-- At a time `t`, the closed window `[t - duration, t]` still contains `a`. -/
def alive (duration a t : ℕ) : Bool := t - a ≤ duration

/-- The calls of a run do not go back in time. -/
def Ordered (calls : List Call) : Prop := (calls.map Call.now).Pairwise (· ≤ ·)

omit [Crypto] in
lemma isWindow_alive (duration : ℕ) : IsWindow (alive duration) where
  earlier := by
    intro a t t' ht h
    simp only [alive, decide_eq_true_eq] at h ⊢
    omega
  later := by
    intro a a' t ha h
    simp only [alive, decide_eq_true_eq] at h ⊢
    omega

omit [Crypto] in
lemma popExpired_eq_dropWhile (duration now : ℕ) (deque : List ℕ) :
    popExpired duration now deque = deque.dropWhile fun a => !alive duration a now := by
  rw [popExpired]
  congr 1
  funext front
  rw [alive, ← decide_not, decide_eq_decide]
  omega

/-! ## What a call does -/

namespace HubRateLimiter

omit [Crypto] in
/-- The recorded times of a subject's operation. -/
def deque (l : HubRateLimiter) : Subject → Operation → List ℕ
  | .ip ip, op => l.ipWindows.deque ip op
  | .identity identity, op => l.identityWindows.deque (identityBytes identity) op

omit [Crypto] in
/-- Those that a check keeps. -/
def recent (l : HubRateLimiter) (subject : Subject) (op : Operation) (now : ℕ) : List ℕ :=
  popExpired (fromSecs l.config.windowSecs) now (l.deque subject op)

omit [Crypto] in
/-- The recorded times after a check. -/
def charged (l : HubRateLimiter) (subject : Subject) (op : Operation) (now : ℕ) : List ℕ :=
  match l.config.limit subject op with
  | none => l.deque subject op
  | some limit =>
    if limit ≤ (l.recent subject op now).length.toUInt32 then l.recent subject op now
    else l.recent subject op now ++ [now]

/-- The answer to a check. -/
def verdict (l : HubRateLimiter) (subject : Subject) (op : Operation) (now : ℕ) :
    Except RateLimitError Unit :=
  match l.config.limit subject op with
  | none => .ok ()
  | some limit =>
    if limit ≤ (l.recent subject op now).length.toUInt32 then .error (refusal op limit subject)
    else .ok ()

/-- A check of an IP answers for it, and records for it only. -/
lemma step_checkIp (l : HubRateLimiter) (ip : IpAddr) (op : Operation) (now : ℕ) :
    (l.checkIp ip op now).1 = l.verdict (.ip ip) op now ∧
      (l.checkIp ip op now).2.config = l.config ∧
      ∀ subject op', (l.checkIp ip op now).2.deque subject op' =
        if .ip ip = subject ∧ op = op' then l.charged (.ip ip) op now else l.deque subject op' := by
  rw [checkIp, verdict, charged, Config.limit]
  cases l.config.ipLimits op with
  | none =>
    refine ⟨rfl, rfl, fun subject op' => ?_⟩
    dsimp only
    split_ifs with hsame
    · rw [hsame.1, hsame.2]
    · rfl
  | some limit =>
    dsimp only
    refine ⟨?_, rfl, fun subject op' => ?_⟩
    · rw [Windows.check_fst, recent, deque]
      by_cases hfull : limit ≤ (popExpired (fromSecs l.config.windowSecs) now
          (l.ipWindows.deque ip op)).length.toUInt32
      · simp [hfull, refusal]
      · simp [hfull]
    · cases subject with
      | ip ip' =>
        rw [deque, Windows.deque_check]
        exact if_congr (by rw [Subject.ip.injEq]) rfl rfl
      | identity identity =>
        rw [if_neg fun hsame => by cases hsame.1]
        rfl

/-- So does a check of an identity. -/
lemma step_checkIdentity (l : HubRateLimiter) (identity : Identity) (op : Operation) (now : ℕ) :
    (l.checkIdentity identity op now).1 = l.verdict (.identity identity) op now ∧
      (l.checkIdentity identity op now).2.config = l.config ∧
      ∀ subject op', (l.checkIdentity identity op now).2.deque subject op' =
        if .identity identity = subject ∧ op = op' then l.charged (.identity identity) op now
        else l.deque subject op' := by
  rw [checkIdentity, verdict, charged, Config.limit]
  cases l.config.identityLimits op with
  | none =>
    refine ⟨rfl, rfl, fun subject op' => ?_⟩
    dsimp only
    split_ifs with hsame
    · rw [hsame.1, hsame.2]
    · rfl
  | some limit =>
    dsimp only
    refine ⟨?_, rfl, fun subject op' => ?_⟩
    · rw [Windows.check_fst, recent, deque]
      by_cases hfull : limit ≤ (popExpired (fromSecs l.config.windowSecs) now
          (l.identityWindows.deque (identityBytes identity) op)).length.toUInt32
      · simp [hfull, refusal]
      · simp [hfull]
    · cases subject with
      | ip ip =>
        rw [if_neg fun hsame => by cases hsame.1]
        rfl
      | identity identity' =>
        rw [deque, Windows.deque_check]
        exact if_congr (by rw [Subject.identity.injEq, identityBytes_inj]) rfl rfl

/-- A check answers for its subject, and records for it only. -/
lemma step_check {l : HubRateLimiter} {c : Call} {subject : Subject} {op : Operation}
    (h : c.asks = some (subject, op)) :
    (limiter.step l c).1 = some (l.verdict subject op c.now) ∧
      (limiter.step l c).2.config = l.config ∧
      ∀ subject' op', (limiter.step l c).2.deque subject' op' =
        if subject = subject' ∧ op = op' then l.charged subject op c.now
        else l.deque subject' op' := by
  cases c with
  | cleanup now => cases h
  | checkIp ip op' now =>
    obtain ⟨rfl, rfl⟩ := Prod.mk.inj (Option.some.inj h)
    obtain ⟨hverdict, hrest⟩ := l.step_checkIp ip op' now
    exact ⟨congrArg some hverdict, hrest⟩
  | checkIdentity identity op' now =>
    obtain ⟨rfl, rfl⟩ := Prod.mk.inj (Option.some.inj h)
    obtain ⟨hverdict, hrest⟩ := l.step_checkIdentity identity op' now
    exact ⟨congrArg some hverdict, hrest⟩

/-- A cleanup answers nothing, and prunes every deque. -/
lemma step_cleanup {l : HubRateLimiter} {c : Call} (h : c.asks = none) :
    (limiter.step l c).1 = none ∧ (limiter.step l c).2.config = l.config ∧
      ∀ subject op, (limiter.step l c).2.deque subject op =
        popExpired (fromSecs (l.config.windowSecs * 2)) c.now (l.deque subject op) := by
  cases c with
  | checkIp => cases h
  | checkIdentity => cases h
  | cleanup now =>
    refine ⟨rfl, rfl, fun subject op => ?_⟩
    cases subject with
    | ip ip => exact l.ipWindows.deque_cleanup _ now ip op
    | identity identity => exact l.identityWindows.deque_cleanup _ now (identityBytes identity) op

/-! ## Along a run -/

/-- A subject's deque and the times at which its checks were accepted have in common, by a time,
what they show in the window. -/
structure InStep (l : HubRateLimiter) (subject : Subject) (op : Operation) (limit : UInt32)
    (last : ℕ) (times : List ℕ) : Prop where
  sorted : (l.deque subject op).Pairwise (· ≤ ·)
  deque_le : ∀ a ∈ l.deque subject op, a ≤ last
  shows : Shows (alive (fromSecs l.config.windowSecs)) last (l.deque subject op) times
  times_le : ∀ a ∈ times, a ≤ last
  bounded : Bounded (alive (fromSecs l.config.windowSecs)) limit.toNat times

namespace InStep

variable {l : HubRateLimiter} {subject : Subject} {op : Operation} {limit : UInt32} {last now : ℕ}
  {times : List ℕ}

omit [Crypto] in
/-- What a check keeps is what the window still contains of the history. -/
lemma recent_eq (h : l.InStep subject op limit last times) (hnow : last ≤ now) :
    l.recent subject op now = active (alive (fromSecs l.config.windowSecs)) times now := by
  rw [recent, popExpired_eq_dropWhile, dropWhile_eq_active (isWindow_alive _) h.sorted,
    h.shows now hnow]

omit [Crypto] in
/-- Its length fits into the 32 bits it is cast to. -/
lemma full_iff (h : l.InStep subject op limit last times) (hnow : last ≤ now) :
    limit ≤ (l.recent subject op now).length.toUInt32 ↔
      ¬ (active (alive (fromSecs l.config.windowSecs)) times now).length < limit.toNat := by
  have hbound := h.bounded now
  rw [within_eq_active fun a ha => le_trans (h.times_le a ha) hnow] at hbound
  have hlimit := limit.toNat_lt
  rw [h.recent_eq hnow, UInt32.le_iff_toNat_le, not_lt, UInt32.toNat_ofNat_of_lt']
  exact lt_of_le_of_lt hbound hlimit

/-- A check is refused just when the window that ends with it contains as many accepted ones as the
limit allows. -/
lemma verdict_eq (h : l.InStep subject op limit last times)
    (hlimit : l.config.limit subject op = some limit) (hnow : last ≤ now) :
    l.verdict subject op now =
      if (within (alive (fromSecs l.config.windowSecs)) times now).length = limit.toNat then
        .error (refusal op limit subject)
      else .ok () := by
  rw [verdict, hlimit]
  refine if_congr ?_ rfl rfl
  rw [h.full_iff hnow]
  exact refused_iff h.bounded fun a ha => le_trans (h.times_le a ha) hnow

omit [Crypto] in
/-- Time passing keeps them in step. -/
lemma mono (h : l.InStep subject op limit last times) (hnow : last ≤ now) :
    l.InStep subject op limit now times :=
  ⟨h.sorted, fun a ha => le_trans (h.deque_le a ha) hnow, h.shows.mono hnow,
    fun a ha => le_trans (h.times_le a ha) hnow, h.bounded⟩

omit [Crypto] in
/-- So does a change that leaves the subject's deque alone. -/
lemma of_deque_eq {l' : HubRateLimiter} (h : l.InStep subject op limit last times)
    (hconfig : l'.config = l.config) (hdeque : l'.deque subject op = l.deque subject op) :
    l'.InStep subject op limit last times := by
  refine ⟨?_, ?_, ?_, h.times_le, ?_⟩
  · rw [hdeque]
    exact h.sorted
  · rw [hdeque]
    exact h.deque_le
  · rw [hconfig, hdeque]
    exact h.shows
  · rw [hconfig]
    exact h.bounded

omit [Crypto] in
/-- And popping times that have left a window at least as long. -/
lemma pop {l' : HubRateLimiter} (h : l.InStep subject op limit last times) (hnow : last ≤ now)
    (hconfig : l'.config = l.config) {duration : ℕ}
    (hlonger : fromSecs l.config.windowSecs ≤ duration)
    (hdeque : l'.deque subject op = popExpired duration now (l.deque subject op)) :
    l'.InStep subject op limit now times := by
  rw [popExpired_eq_dropWhile] at hdeque
  have hsub := List.dropWhile_sublist (fun a => !alive duration a now) (l := l.deque subject op)
  rw [← hdeque] at hsub
  refine ⟨h.sorted.sublist hsub, fun a ha => le_trans (h.deque_le a (hsub.subset ha)) hnow, ?_,
    fun a ha => le_trans (h.times_le a ha) hnow, ?_⟩
  · rw [hconfig, hdeque]
    refine h.shows.dropFront (isWindow_alive _) (fun a t halive => ?_) hnow
    simp only [alive, decide_eq_true_eq] at halive ⊢
    exact le_trans halive hlonger
  · rw [hconfig]
    exact h.bounded

omit [Crypto] in
/-- And a check, which grants to the deque what the limit allows. -/
lemma check {l' : HubRateLimiter} (h : l.InStep subject op limit last times) (hnow : last ≤ now)
    (hlimit : l.config.limit subject op = some limit) (hconfig : l'.config = l.config)
    (hdeque : l'.deque subject op = l.charged subject op now) :
    l'.InStep subject op limit now
      (grant (alive (fromSecs l.config.windowSecs)) limit.toNat times now) := by
  have hrecent : (l.recent subject op now).Pairwise (· ≤ ·) ∧
      (∀ a ∈ l.recent subject op now, a ≤ now) ∧
      Shows (alive (fromSecs l.config.windowSecs)) now (l.recent subject op now) times := by
    have hsub : (l.recent subject op now).Sublist (l.deque subject op) := by
      rw [recent, popExpired]
      exact List.dropWhile_sublist _
    refine ⟨h.sorted.sublist hsub, fun a ha => le_trans (h.deque_le a (hsub.subset ha)) hnow, ?_⟩
    rw [h.recent_eq hnow]
    exact (Shows.refl last times).prune (isWindow_alive _) hnow
  obtain ⟨hsorted, hle, hshows⟩ := hrecent
  rw [charged, hlimit] at hdeque
  dsimp only at hdeque
  refine ⟨?_, ?_, ?_, le_of_mem_grant hnow h.times_le, ?_⟩
  · rw [hdeque]
    split_ifs
    · exact hsorted
    · refine List.pairwise_append.2 ⟨hsorted, List.pairwise_singleton _ _, fun a ha b hb => ?_⟩
      rw [List.mem_singleton.1 hb]
      exact hle a ha
  · rw [hdeque]
    intro a ha
    split_ifs at ha
    · exact hle a ha
    · rcases List.mem_append.1 ha with ha | ha
      · exact hle a ha
      · exact le_of_eq (List.mem_singleton.1 ha)
  · rw [hconfig, hdeque, grant]
    by_cases hfull : limit ≤ (l.recent subject op now).length.toUInt32
    · rw [if_pos hfull, if_neg ((h.full_iff hnow).1 hfull)]
      exact hshows
    · rw [if_neg hfull, if_pos (not_not.1 fun hnot => hfull ((h.full_iff hnow).2 hnot))]
      exact hshows.append [now]
  · rw [hconfig]
    exact bounded_grant (isWindow_alive _) h.bounded now

end InStep

end HubRateLimiter

/-! ## Runs -/

lemma accepted_concat (config : Config) (subject : Subject) (op : Operation) (calls : List Call)
    (c : Call) : accepted config subject op (calls ++ [c]) = accepted config subject op calls ++
      (acceptedAt subject op (c, (limiter.step (after config calls) c).1)).toList := by
  rw [accepted, Machine.trace_concat, List.filterMap_append, ← accepted, ← after]
  cases h : acceptedAt subject op (c, (limiter.step (after config calls) c).1) <;> simp [h]

lemma config_after (config : Config) (calls : List Call) :
    (after config calls).config = config := by
  refine Machine.run_invariant (P := fun l : HubRateLimiter => l.config = config) rfl
    (fun l c h => ?_) calls
  rw [← h]
  cases hasks : c.asks with
  | none => exact (HubRateLimiter.step_cleanup hasks).2.1
  | some asked => exact (HubRateLimiter.step_check hasks).2.1

omit [Crypto] in
lemma Ordered.of_concat {calls : List Call} {c : Call} (h : Ordered (calls ++ [c])) :
    Ordered calls ∧ ∀ e ∈ calls, e.now ≤ c.now := by
  rw [Ordered, List.map_append, List.pairwise_append] at h
  exact ⟨h.1, fun e he => h.2.2 e.now (List.mem_map_of_mem he) c.now (by simp)⟩

omit [Crypto] in
/-- The cutoff of a cleanup is no shorter than the window. -/
lemma fromSecs_le_cutoff {secs : UInt64} (h : secs.toNat < 2 ^ 63) :
    fromSecs secs ≤ fromSecs (secs * 2) := by
  have htwo : (2 : UInt64).toNat = 2 := rfl
  rw [fromSecs, fromSecs, UInt64.toNat_mul, htwo, Nat.mod_eq_of_lt (by omega)]
  omega

variable {config : Config}

/-- Along every run the deques show the history. -/
lemma inStep_after (hwindow : config.windowSecs.toNat < 2 ^ 63) {calls : List Call}
    (hordered : Ordered calls) {subject : Subject} {op : Operation} {limit : UInt32}
    (hlimit : config.limit subject op = some limit) {last : ℕ} (hlast : ∀ c ∈ calls, c.now ≤ last) :
    (after config calls).InStep subject op limit last (accepted config subject op calls) := by
  induction calls using List.reverseRecOn generalizing last with
  | nil =>
    have hempty : (after config []).deque subject op = [] := by
      cases subject <;> simp [after, HubRateLimiter.new, HubRateLimiter.deque, Windows.deque]
    refine ⟨by simp [hempty], by simp [hempty], ?_, by simp [accepted], bounded_nil _ _⟩
    rw [hempty]
    exact .refl _ _
  | append_singleton calls c ih =>
    obtain ⟨hbefore, hearlier⟩ := hordered.of_concat
    have hin := ih hbefore hearlier
    have hconfig := config_after config calls
    refine HubRateLimiter.InStep.mono ?_ (hlast c (by simp))
    rw [accepted_concat, after, Machine.run_concat, ← after]
    cases hasks : c.asks with
    | none =>
      obtain ⟨hanswer, hsame, hdeque⟩ := HubRateLimiter.step_cleanup (l := after config calls) hasks
      rw [acceptedAt, hasks, if_neg (by simp), Option.toList_none, List.append_nil]
      refine hin.pop (le_refl _) hsame ?_ (hdeque subject op)
      rw [hconfig]
      exact fromSecs_le_cutoff hwindow
    | some asked =>
      obtain ⟨subject', op'⟩ := asked
      obtain ⟨hanswer, hsame, hdeque⟩ := HubRateLimiter.step_check (l := after config calls) hasks
      have hlimit' : (after config calls).config.limit subject op = some limit := by
        rw [hconfig]
        exact hlimit
      by_cases hown : subject' = subject ∧ op' = op
      · obtain ⟨rfl, rfl⟩ := hown
        have hrecorded : accepted config subject' op' calls ++
            (acceptedAt subject' op' (c, (limiter.step (after config calls) c).1)).toList =
              grant (alive (fromSecs (after config calls).config.windowSecs)) limit.toNat
                (accepted config subject' op' calls) c.now := by
          rw [acceptedAt, hanswer, hin.verdict_eq hlimit' (le_refl _), grant]
          have hrefused := refused_iff hin.bounded hin.times_le
          by_cases hfull : (within (alive (fromSecs (after config calls).config.windowSecs))
              (accepted config subject' op' calls) c.now).length = limit.toNat
          · rw [if_pos hfull, if_neg (hrefused.2 hfull), if_neg (by simp), Option.toList_none,
              List.append_nil]
          · rw [if_neg hfull, if_pos (not_not.1 fun hnot => hfull (hrefused.1 hnot)),
              if_pos ⟨hasks, rfl⟩, Option.toList_some]
        rw [hrecorded]
        refine hin.check (le_refl _) hlimit' hsame ?_
        rw [hdeque, if_pos ⟨rfl, rfl⟩]
      · rw [acceptedAt, hasks, if_neg (fun h => hown (Prod.mk.inj (Option.some.inj h.1))),
          Option.toList_none, List.append_nil]
        refine hin.of_deque_eq hsame ?_
        rw [hdeque, if_neg hown]

/-- What a check is answered, by the history. -/
lemma step_eq (hwindow : config.windowSecs.toNat < 2 ^ 63) {calls : List Call} {c : Call}
    (hordered : Ordered (calls ++ [c])) {subject : Subject} {op : Operation}
    (hasks : c.asks = some (subject, op)) :
    (limiter.step (after config calls) c).1 = some (match config.limit subject op with
      | none => .ok ()
      | some limit =>
        if (within (alive (fromSecs config.windowSecs)) (accepted config subject op calls)
          c.now).length = limit.toNat then .error (refusal op limit subject) else .ok ()) := by
  obtain ⟨hbefore, hearlier⟩ := hordered.of_concat
  have hconfig := config_after config calls
  rw [(HubRateLimiter.step_check hasks).1]
  cases hlimit : config.limit subject op with
  | none => rw [HubRateLimiter.verdict, hconfig, hlimit]
  | some limit =>
    have hin := inStep_after hwindow hbefore hlimit hearlier
    rw [hin.verdict_eq (by rw [hconfig]; exact hlimit) (le_refl _), hconfig]

/-- The answers to the checks of a run are those of the run without its cleanups. -/
lemma trace_filter (hwindow : config.windowSecs.toNat < 2 ^ 63) {calls : List Call}
    (hordered : Ordered calls) :
    (limiter.trace (.new config) calls).filter (fun entry => entry.1.asks.isSome) =
      limiter.trace (.new config) (calls.filter fun c => c.asks.isSome) := by
  induction calls using List.reverseRecOn with
  | nil => rfl
  | append_singleton calls c ih =>
    obtain ⟨hbefore, hearlier⟩ := hordered.of_concat
    have htrace := ih hbefore
    rw [Machine.trace_concat, List.filter_append, htrace, List.filter_append]
    cases hasks : c.asks with
    | none => simp [hasks]
    | some asked =>
      obtain ⟨subject, op⟩ := asked
      have hsame : accepted config subject op calls =
          accepted config subject op (calls.filter fun c => c.asks.isSome) := by
        rw [accepted, accepted, ← htrace, List.filterMap_filter]
        refine List.filterMap_congr fun entry _ => ?_
        cases hentry : entry.1.asks with
        | none => simp [acceptedAt, hentry]
        | some asked => simp
      have hkept : Ordered (calls.filter (fun c => c.asks.isSome) ++ [c]) := by
        refine List.Pairwise.sublist ?_ hordered
        exact (List.Sublist.append_right List.filter_sublist [c]).map _
      have hanswer : (limiter.step (after config calls) c).1 =
          (limiter.step (after config (calls.filter fun c => c.asks.isSome)) c).1 := by
        rw [step_eq hwindow hordered hasks, step_eq hwindow hkept hasks, hsame]
      rw [List.filter_cons_of_pos (by simp [hasks]), List.filter_cons_of_pos (by simp [hasks]),
        List.filter_nil, List.filter_nil, Machine.trace_concat]
      exact congrArg (fun answer => _ ++ [(c, answer)]) hanswer

/-- The limiter is exact, and its cleanups do not show.  Of the checks of a subject's operation with
a limit, no closed window contains more accepted ones than the limit, and a check is refused just
when the window that ends with it contains as many; and runs that differ in their cleanups only
answer their checks alike. -/
theorem limiter_exact (config : Config) (hwindow : config.windowSecs.toNat < 2 ^ 63)
    (calls : List Call) (hordered : Ordered calls) :
    (∀ subject op limit, config.limit subject op = some limit →
      (∀ t, (within (alive (fromSecs config.windowSecs))
        (accepted config subject op calls) t).length ≤
        limit.toNat) ∧
      ∀ pre c post, calls = pre ++ c :: post → c.asks = some (subject, op) →
        ((limiter.step (after config pre) c).1 = some (.error (refusal op limit subject)) ↔
          (within (alive (fromSecs config.windowSecs)) (accepted config subject op pre)
            c.now).length = limit.toNat) ∧
        ((limiter.step (after config pre) c).1 = some (.ok ()) ↔
          (within (alive (fromSecs config.windowSecs)) (accepted config subject op pre)
            c.now).length ≠ limit.toNat)) ∧
    ∀ calls', Ordered calls' →
      calls'.filter (fun c => c.asks.isSome) = calls.filter (fun c => c.asks.isSome) →
        (limiter.trace (.new config) calls').filter (fun entry => entry.1.asks.isSome) =
          (limiter.trace (.new config) calls).filter fun entry => entry.1.asks.isSome := by
  refine ⟨fun subject op limit hlimit => ⟨?_, ?_⟩, ?_⟩
  · obtain ⟨last, hlast⟩ : ∃ last, ∀ c ∈ calls, c.now ≤ last := by
      rcases List.eq_nil_or_concat' calls with rfl | ⟨earlier, c, rfl⟩
      · exact ⟨0, by simp⟩
      · refine ⟨c.now, fun e he => ?_⟩
        rcases List.mem_append.1 he with he | he
        · exact hordered.of_concat.2 e he
        · rw [List.mem_singleton.1 he]
    have hbounded := (inStep_after hwindow hordered hlimit hlast).bounded
    rwa [config_after] at hbounded
  · rintro pre c post rfl hasks
    have hpre : Ordered (pre ++ [c]) := by
      rw [← List.singleton_append, ← List.append_assoc, Ordered, List.map_append] at hordered
      exact (List.pairwise_append.1 hordered).1
    rw [step_eq hwindow hpre hasks, hlimit]
    dsimp only
    split_ifs with hfull
    · simp [hfull]
    · simp [hfull]
  · intro calls' hordered' hsame
    rw [trace_filter hwindow hordered', trace_filter hwindow hordered, hsame]

omit [Crypto]

/-- Two stores for each IP in 60 seconds. -/
def twoStores : Config := { ipLimits := fun _ => some 2 }

/-- Two stores of one IP, a cleanup, and stores just at and after the end of the window. -/
def storesOf (ip : IpAddr) : List Call := [.checkIp ip .store 0, .checkIp ip .store 1, .cleanup 5,
  .checkIp ip .store 60000000000, .checkIp ip .store 60000000001]

/-- The window is closed: a store 60 seconds after the first of two is refused, and the next
nanosecond's is not. -/
theorem twoStores_exact :
    letI : Crypto := cryptoOf []
    (limiter.step (after twoStores ((storesOf (.v4 ⟨![203, 0, 113, 1]⟩)).take 3))
        (.checkIp (.v4 ⟨![203, 0, 113, 1]⟩) .store 60000000000)).1 =
          some (.error (.ipRateLimited (.v4 ⟨![203, 0, 113, 1]⟩) .store 2)) ∧
      (limiter.step (after twoStores ((storesOf (.v4 ⟨![203, 0, 113, 1]⟩)).take 4))
        (.checkIp (.v4 ⟨![203, 0, 113, 1]⟩) .store 60000000001)).1 = some (.ok ()) := by
  let _ : Crypto := cryptoOf []
  have hexact := (limiter_exact twoStores (by decide) (storesOf (.v4 ⟨![203, 0, 113, 1]⟩))
    (by simp [Ordered, storesOf, Call.now])).1 (.ip (.v4 ⟨![203, 0, 113, 1]⟩)) .store 2 rfl
  constructor
  · exact (hexact.2 ((storesOf (.v4 ⟨![203, 0, 113, 1]⟩)).take 3)
      (.checkIp (.v4 ⟨![203, 0, 113, 1]⟩) .store 60000000000)
      [.checkIp (.v4 ⟨![203, 0, 113, 1]⟩) .store 60000000001] rfl rfl).1.2 (by decide +kernel)
  · exact (hexact.2 ((storesOf (.v4 ⟨![203, 0, 113, 1]⟩)).take 4)
      (.checkIp (.v4 ⟨![203, 0, 113, 1]⟩) .store 60000000001) [] rfl rfl).2.2 (by decide +kernel)

end RateLimit

end MeshProtocol
