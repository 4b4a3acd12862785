import MeshProtocol.Core.Reference

/-!
# What `validate` accepts (`mesh-core/src/descriptor.rs`)

`validate` adds a lifetime and a clock skew to 64-bit times before it has checked either for its
range.  `validateChecked` is the same function with operations that fail where a `u64` would wrap.
Up to the time 2^63, some 292,000 years on, they never fail, and the descriptors accepted are those
of the rule over exact integers, in which the expiry counts from the timestamp itself.
-/

namespace MeshProtocol

open Bytes

/-! ## Operations that fail where they would wrap -/

/-- `u64` addition, where it does not overflow. -/
def checkedAdd (a b : UInt64) : Option UInt64 :=
  if a.toNat + b.toNat < 2 ^ 64 then some (a + b) else none

/-- `u64` multiplication, where it does not overflow. -/
def checkedMul (a b : UInt64) : Option UInt64 :=
  if a.toNat * b.toNat < 2 ^ 64 then some (a * b) else none

lemma checkedAdd_of_lt {a b : UInt64} (h : a.toNat + b.toNat < 2 ^ 64) :
    checkedAdd a b = some (a + b) := if_pos h

lemma checkedMul_of_lt {a b : UInt64} (h : a.toNat * b.toNat < 2 ^ 64) :
    checkedMul a b = some (a * b) := if_pos h

namespace Descriptor

/-- The checks of `validate` that do not depend on the time. -/
def checkBounds (d : Descriptor) : Except MeshError Unit :=
  if d.ttl < MIN_TTL_SECS ∨ d.ttl > MAX_TTL_SECS then
    .error (.invalidTtl d.ttl MIN_TTL_SECS MAX_TTL_SECS)
  else if d.routingKeys.isEmpty then
    .error (.invalidRoutingKeys "routing_keys must not be empty")
  else if d.routingKeys.length > MAX_ROUTING_KEYS then
    .error (.invalidRoutingKeys ("too many routing keys: " ++ toString d.routingKeys.length ++
      " (max " ++ toString MAX_ROUTING_KEYS ++ ")"))
  else if d.payload.length > MAX_PAYLOAD_SIZE then
    .error (.payloadTooLarge d.payload.length MAX_PAYLOAD_SIZE)
  else if (utf8Bytes d.topic).length > MAX_TOPIC_SIZE then
    .error (.topicTooLong (utf8Bytes d.topic).length MAX_TOPIC_SIZE)
  else .ok ()

/-- A lifetime in microseconds fits. -/
lemma toNat_ttlMicros (ttl : UInt32) :
    (ttl.toUInt64 * 1000000).toNat = ttl.toNat * 1000000 := by
  have hlt := ttl.toNat_lt
  have hmicros : (1000000 : UInt64).toNat = 1000000 := rfl
  rw [UInt64.toNat_mul, UInt32.toNat_toUInt64, hmicros, Nat.mod_eq_of_lt (by omega)]

lemma checkedMul_ttlMicros (ttl : UInt32) :
    checkedMul ttl.toUInt64 1000000 = some (ttl.toUInt64 * 1000000) := by
  have hlt := ttl.toNat_lt
  have hmicros : (1000000 : UInt64).toNat = 1000000 := rfl
  refine checkedMul_of_lt ?_
  rw [UInt32.toNat_toUInt64, hmicros]
  omega

lemma checkedMul_skewMicros :
    checkedMul MAX_CLOCK_SKEW_SECS 1000000 = some (MAX_CLOCK_SKEW_SECS * 1000000) :=
  checkedMul_of_lt (by decide)

lemma checkedAdd_expiry {d : Descriptor} {now : UInt64} (hnow : now.toNat ≤ 2 ^ 63) :
    checkedAdd (cmpMin d.timestamp now) (d.ttl.toUInt64 * 1000000) =
      some (cmpMin d.timestamp now + d.ttl.toUInt64 * 1000000) := by
  have hlt := d.ttl.toNat_lt
  refine checkedAdd_of_lt ?_
  rw [toNat_ttlMicros, toNat_cmpMin]
  omega

lemma checkedAdd_maxFuture {now : UInt64} (hnow : now.toNat ≤ 2 ^ 63) :
    checkedAdd now (MAX_CLOCK_SKEW_SECS * 1000000) =
      some (now + MAX_CLOCK_SKEW_SECS * 1000000) := by
  have hskew : (MAX_CLOCK_SKEW_SECS * 1000000).toNat = 120000000 := by decide
  refine checkedAdd_of_lt ?_
  rw [hskew]
  omega

/-- Up to the time 2^63, a descriptor with a lifetime is expired once its timestamp and lifetime
have passed, although the code counts from the current time at the latest. -/
lemma fresh_iff_exact {d : Descriptor} {now : UInt64} (hnow : now.toNat ≤ 2 ^ 63)
    (httl : 0 < d.ttl.toNat) :
    d.expiredAt now = false ↔ now.toNat < d.timestamp.toNat + d.ttl.toNat * 1000000 := by
  have hlt := d.ttl.toNat_lt
  rw [← Bool.not_eq_true, expiredAt_iff, Nat.mod_eq_of_lt (by omega)]
  omega

lemma notFuture_iff_exact {d : Descriptor} {now : UInt64} (hnow : now.toNat ≤ 2 ^ 63) :
    d.timestamp ≤ now + MAX_CLOCK_SKEW_SECS * 1000000 ↔
      d.timestamp.toNat ≤ now.toNat + 120 * 1000000 := by
  have hskew : (MAX_CLOCK_SKEW_SECS * 1000000).toNat = 120 * 1000000 := by decide
  rw [UInt64.le_iff_toNat_le, UInt64.toNat_add, hskew, Nat.mod_eq_of_lt (by omega)]

variable [Crypto]

/-- `validate` with checked arithmetic; `none` is an overflow. -/
def validateChecked (d : Descriptor) (nowMicros : UInt64) : Option (Except MeshError Unit) :=
  let computedId := computeId d.schemaHash d.topic d.payload d.publisher d.timestamp d.sequence
    d.ttl d.routingKeys
  if computedId ≠ d.id then some (.error (.idMismatch d.id.toHex computedId.toHex))
  else
    match d.publisher.verify d.id.digest d.signature with
    | .error e => some (.error e)
    | .ok () =>
      (checkedMul d.ttl.toUInt64 1000000).bind fun ttlMicros =>
        (checkedAdd (cmpMin d.timestamp nowMicros) ttlMicros).bind fun expiry =>
          if expiry ≤ nowMicros then some (.error .expired)
          else
            (checkedMul MAX_CLOCK_SKEW_SECS 1000000).bind fun skewMicros =>
              (checkedAdd nowMicros skewMicros).bind fun maxFuture =>
                if d.timestamp > maxFuture then some (.error (.timestampFuture MAX_CLOCK_SKEW_SECS))
                else some d.checkBounds

/-- `validate`, with the checks that do not depend on the time named. -/
lemma validate_eq (d : Descriptor) (now : UInt64) :
    d.validate now =
      if computeId d.schemaHash d.topic d.payload d.publisher d.timestamp d.sequence d.ttl
          d.routingKeys ≠ d.id then
        .error (.idMismatch d.id.toHex (computeId d.schemaHash d.topic d.payload d.publisher
          d.timestamp d.sequence d.ttl d.routingKeys).toHex)
      else
        d.publisher.verify d.id.digest d.signature >>= fun _ =>
          if d.expiredAt now then .error .expired
          else if d.timestamp > now + MAX_CLOCK_SKEW_SECS * 1000000 then
            .error (.timestampFuture MAX_CLOCK_SKEW_SECS)
          else d.checkBounds := rfl

/-- No operation of `validate` overflows, up to the time 2^63. -/
lemma validateChecked_eq {d : Descriptor} {now : UInt64} (hnow : now.toNat ≤ 2 ^ 63) :
    d.validateChecked now = some (d.validate now) := by
  have hexpired : cmpMin d.timestamp now + d.ttl.toUInt64 * 1000000 ≤ now ↔
      d.expiredAt now = true := by
    rw [expiredAt, decide_eq_true_eq]
  rw [validateChecked, validate_eq, checkedMul_ttlMicros, checkedMul_skewMicros, Option.bind_some,
    checkedAdd_expiry hnow, Option.bind_some, Option.bind_some, checkedAdd_maxFuture hnow,
    Option.bind_some]
  simp only [hexpired]
  split_ifs with hid hexp hlate
  · rfl
  all_goals
    cases d.publisher.verify d.id.digest d.signature with
    | error e => simp only [bind, Except.bind]
    | ok => simp only [bind, Except.bind]

/-- Up to the time 2^63, no operation of `validate` overflows, and it accepts exactly the
descriptors of the protocol. -/
theorem validate_exact (d : Descriptor) (now : UInt64) (hnow : now.toNat ≤ 2 ^ 63) :
    d.validateChecked now = some (d.validate now) ∧
      (d.validate now = .ok () ↔
        d.id = computeId d.schemaHash d.topic d.payload d.publisher d.timestamp d.sequence d.ttl
          d.routingKeys ∧
        d.publisher.verify d.id.digest d.signature = .ok () ∧
        d.timestamp.toNat ≤ now.toNat + 120 * 1000000 ∧
        now.toNat < d.timestamp.toNat + d.ttl.toNat * 1000000 ∧
        60 ≤ d.ttl.toNat ∧ d.ttl.toNat ≤ 86400 ∧
        1 ≤ d.routingKeys.length ∧ d.routingKeys.length ≤ 8 ∧
        d.payload.length ≤ 65536 ∧ (utf8Bytes d.topic).length ≤ 255) := by
  refine ⟨validateChecked_eq hnow, ?_⟩
  have hmin : MIN_TTL_SECS ≤ d.ttl ↔ 60 ≤ d.ttl.toNat := UInt32.le_iff_toNat_le
  have hmax : d.ttl ≤ MAX_TTL_SECS ↔ d.ttl.toNat ≤ 86400 := UInt32.le_iff_toNat_le
  rw [validate_eq_ok_iff]
  constructor
  · rintro ⟨⟨hid, hverified⟩, ⟨hge, hle, hpos, hkeys, hpayload, htopic⟩, hfresh, hfuture⟩
    have httl := hmin.1 hge
    exact ⟨hid, hverified, (notFuture_iff_exact hnow).1 hfuture,
      (fresh_iff_exact hnow (by omega)).1 hfresh, httl, hmax.1 hle, hpos, hkeys, hpayload, htopic⟩
  · rintro ⟨hid, hverified, hfuture, hfresh, hge, hle, hpos, hkeys, hpayload, htopic⟩
    exact ⟨⟨hid, hverified⟩, ⟨hmin.2 hge, hmax.2 hle, hpos, hkeys, hpayload, htopic⟩,
      (fresh_iff_exact hnow (by omega)).2 hfresh, (notFuture_iff_exact hnow).2 hfuture⟩

end Descriptor

/-- A genuine descriptor is accepted to its last microsecond. -/
theorem target_validate_exact :
    letI : Crypto := cryptoOf [target]
    target.validate 1700003599999999 = .ok () := by
  let _ : Crypto := cryptoOf [target]
  refine (target.validate_exact 1700003599999999 (by decide)).2.2
    ⟨?_, ?_, ?_, ?_, ?_, ?_, ?_, ?_, ?_, ?_⟩
  · decide +kernel
  · decide +kernel
  · decide
  · decide
  · decide
  · decide
  · decide
  · decide
  · decide
  · decide

end MeshProtocol
