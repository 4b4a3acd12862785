import MeshProtocol.Hub.Authenticated
import MeshProtocol.Library.Cidr

/-!
# What the outbound filter refuses (`mesh-hub/src/network.rs`)

The filter tests the octets of an IPv4 address and the segments of an IPv6 address against masks.
The addresses it refuses are those of the blocks listed here.  An IPv4 address can also be written
as an IPv6 address, `::ffff:a`, which the filter takes for any IPv6 address, so the private
addresses pass in that form.
-/

namespace MeshProtocol

open Cidr

namespace Ipv4Addr

/-- `to_bits`. -/
def toBits (a : Ipv4Addr) : ℕ := Bytes.beNat (List.ofFn a.octets)

/-- Loopback, private, link-local, the unspecified address and carrier-grade NAT. -/
def refusedBlocks : List (Block 32) :=
  [⟨127 * 2 ^ 24, 8⟩, ⟨10 * 2 ^ 24, 8⟩, ⟨172 * 2 ^ 24 + 16 * 2 ^ 16, 12⟩,
    ⟨192 * 2 ^ 24 + 168 * 2 ^ 16, 16⟩, ⟨169 * 2 ^ 24 + 254 * 2 ^ 16, 16⟩, ⟨0, 32⟩,
    ⟨100 * 2 ^ 24 + 64 * 2 ^ 16, 10⟩]

/-- The address is in a block that is refused. -/
def Refused (a : Ipv4Addr) : Prop := ∃ b ∈ refusedBlocks, b.Contains a.toBits

end Ipv4Addr

namespace Ipv6Addr

/-- `to_bits`. -/
def toBits (a : Ipv6Addr) : ℕ :=
  (List.ofFn a.segments).foldl (fun acc segment => acc * 2 ^ 16 + segment.toNat) 0

/-- `::1`, `::`, unique local and link-local addresses. -/
def refusedBlocks : List (Block 128) :=
  [⟨1, 128⟩, ⟨0, 128⟩, ⟨0xfc00 * 2 ^ 112, 7⟩, ⟨0xfe80 * 2 ^ 112, 10⟩]

/-- The address is in a block that is refused. -/
def Refused (a : Ipv6Addr) : Prop := ∃ b ∈ refusedBlocks, b.Contains a.toBits

/-- The address is `::ffff:a`. -/
def IsMapped (addr : Ipv6Addr) (a : Ipv4Addr) : Prop := addr.toBits = 0xffff * 2 ^ 32 + a.toBits

end Ipv6Addr

/-- A connection to the address reaches the IPv4 address. -/
def IpAddr.Reaches : IpAddr → Ipv4Addr → Prop
  | .v4 addr, a => addr = a
  | .v6 addr, a => addr.IsMapped a

/-- The address is in a block that is refused for its family. -/
def IpAddr.Refused : IpAddr → Prop
  | .v4 addr => addr.Refused
  | .v6 addr => addr.Refused

/-! ## The tests of the filter -/

namespace Ipv4Addr

variable {a : Ipv4Addr}

lemma toBits_eq (a : Ipv4Addr) :
    a.toBits = (a.octets 0).toNat * 2 ^ 24 + (a.octets 1).toNat * 2 ^ 16 +
      (a.octets 2).toNat * 2 ^ 8 + (a.octets 3).toNat := by
  simp [toBits, Bytes.beNat, List.ofFn_succ]
  omega

lemma toBits_lt (a : Ipv4Addr) : a.toBits < 2 ^ 32 := by
  have h0 := (a.octets 0).toNat_lt
  have h1 := (a.octets 1).toNat_lt
  have h2 := (a.octets 2).toNat_lt
  have h3 := (a.octets 3).toNat_lt
  rw [toBits_eq]
  omega

lemma isLoopback_iff : a.isLoopback = true ↔ a.toBits / 2 ^ 24 = 127 := by
  have h1 := (a.octets 1).toNat_lt
  have h2 := (a.octets 2).toNat_lt
  have h3 := (a.octets 3).toNat_lt
  rw [isLoopback, decide_eq_true_eq, ← UInt8.toNat_inj, toBits_eq]
  change (a.octets 0).toNat = 127 ↔ _
  omega

lemma isPrivate_iff :
    a.isPrivate = true ↔ a.toBits / 2 ^ 24 = 10 ∨ a.toBits / 2 ^ 20 = 172 * 16 + 1 ∨
      a.toBits / 2 ^ 16 = 192 * 256 + 168 := by
  have h1 := (a.octets 1).toNat_lt
  have h2 := (a.octets 2).toNat_lt
  have h3 := (a.octets 3).toNat_lt
  have hmask : (a.octets 1).toNat &&& 0xf0 = 16 ↔ (a.octets 1).toNat / 2 ^ 4 = 1 :=
    and_highMask_eq_iff (w := 8) (k := 4) (c := 1) h1 (by decide)
  simp only [isPrivate, decide_eq_true_eq, ← UInt8.toNat_inj, UInt8.toNat_and]
  change (a.octets 0).toNat = 10 ∨ ((a.octets 0).toNat = 172 ∧ (a.octets 1).toNat &&& 0xf0 = 16) ∨
    ((a.octets 0).toNat = 192 ∧ (a.octets 1).toNat = 168) ↔ _
  rw [hmask, toBits_eq]
  omega

lemma isLinkLocal_iff : a.isLinkLocal = true ↔ a.toBits / 2 ^ 16 = 169 * 256 + 254 := by
  have h1 := (a.octets 1).toNat_lt
  have h2 := (a.octets 2).toNat_lt
  have h3 := (a.octets 3).toNat_lt
  simp only [isLinkLocal, decide_eq_true_eq, ← UInt8.toNat_inj]
  change (a.octets 0).toNat = 169 ∧ (a.octets 1).toNat = 254 ↔ _
  rw [toBits_eq]
  omega

lemma isUnspecified_iff : a.isUnspecified = true ↔ a.toBits = 0 := by
  rw [isUnspecified, decide_eq_true_eq]
  constructor
  · intro h
    rw [toBits_eq, h]
    rfl
  · intro h
    rw [toBits_eq] at h
    refine funext (Fin.forall_fin_succ.2 ⟨?_, Fin.forall_fin_succ.2 ⟨?_, Fin.forall_fin_succ.2
      ⟨?_, Fin.forall_fin_one.2 ?_⟩⟩⟩)
    all_goals exact UInt8.toNat_inj.1 (by simp; omega)

lemma isCgn_iff : a.isCgn = true ↔ a.toBits / 2 ^ 22 = 100 * 4 + 1 := by
  have h1 := (a.octets 1).toNat_lt
  have h2 := (a.octets 2).toNat_lt
  have h3 := (a.octets 3).toNat_lt
  have hmask : (a.octets 1).toNat &&& 0xc0 = 64 ↔ (a.octets 1).toNat / 2 ^ 6 = 1 :=
    and_highMask_eq_iff (w := 8) (k := 6) (c := 1) h1 (by decide)
  simp only [isCgn, decide_eq_true_eq, ← UInt8.toNat_inj, UInt8.toNat_and]
  change (a.octets 0).toNat = 100 ∧ (a.octets 1).toNat &&& 0xc0 = 64 ↔ _
  rw [hmask, toBits_eq]
  omega

/-- The filter tests an IPv4 address for the blocks. -/
lemma isPrivateIp_iff : isPrivateIp (.v4 a) = true ↔ a.Refused := by
  simp only [isPrivateIp, Bool.or_eq_true, isLoopback_iff, isPrivate_iff, isLinkLocal_iff,
    isUnspecified_iff, isCgn_iff]
  simp only [Refused, refusedBlocks, List.mem_cons, List.not_mem_nil, or_false, exists_eq_or_imp,
    exists_eq_left, Block.Contains]
  norm_num
  tauto

end Ipv4Addr

namespace Ipv6Addr

variable {a : Ipv6Addr}

lemma toBits_eq (a : Ipv6Addr) :
    a.toBits = (a.segments 0).toNat * 2 ^ 112 + ((a.segments 1).toNat * 2 ^ 96 +
      (a.segments 2).toNat * 2 ^ 80 + (a.segments 3).toNat * 2 ^ 64 +
      (a.segments 4).toNat * 2 ^ 48 + (a.segments 5).toNat * 2 ^ 32 +
      (a.segments 6).toNat * 2 ^ 16 + (a.segments 7).toNat) := by
  simp [toBits, List.ofFn_succ]
  omega

/-- The segments after the first. -/
lemma low_lt (a : Ipv6Addr) : (a.segments 1).toNat * 2 ^ 96 + (a.segments 2).toNat * 2 ^ 80 +
    (a.segments 3).toNat * 2 ^ 64 + (a.segments 4).toNat * 2 ^ 48 + (a.segments 5).toNat * 2 ^ 32 +
    (a.segments 6).toNat * 2 ^ 16 + (a.segments 7).toNat < 2 ^ 112 := by
  have h1 := (a.segments 1).toNat_lt
  have h2 := (a.segments 2).toNat_lt
  have h3 := (a.segments 3).toNat_lt
  have h4 := (a.segments 4).toNat_lt
  have h5 := (a.segments 5).toNat_lt
  have h6 := (a.segments 6).toNat_lt
  have h7 := (a.segments 7).toNat_lt
  omega

lemma toBits_inj {b : Ipv6Addr} : a.toBits = b.toBits ↔ a = b := by
  constructor
  · intro h
    have hlt (i : Fin 8) := (a.segments i).toNat_lt
    have hlt' (i : Fin 8) := (b.segments i).toNat_lt
    have hsegments : ∀ i, (a.segments i).toNat = (b.segments i).toNat := by
      rw [toBits_eq, toBits_eq] at h
      simp only [Fin.forall_fin_succ, Fin.isValue, Fin.succ_zero_eq_one, Fin.reduceSucc,
        IsEmpty.forall_iff, and_true] at hlt hlt' ⊢
      omega
    obtain ⟨x⟩ := a
    obtain ⟨y⟩ := b
    exact congrArg mk (funext fun i => UInt16.toNat_inj.1 (hsegments i))
  · rintro rfl
    rfl

lemma isLoopback_iff : a.isLoopback = true ↔ a.toBits = 1 := by
  rw [isLoopback, decide_eq_true_eq]
  change _ ↔ a.toBits = (mk ![0, 0, 0, 0, 0, 0, 0, 1]).toBits
  rw [toBits_inj, mk.injEq]

lemma isUnspecified_iff : a.isUnspecified = true ↔ a.toBits = 0 := by
  rw [isUnspecified, decide_eq_true_eq]
  change _ ↔ a.toBits = (mk ![0, 0, 0, 0, 0, 0, 0, 0]).toBits
  rw [toBits_inj, mk.injEq]

lemma isUla_iff : a.isUla = true ↔ a.toBits / 2 ^ (112 + 9) = 0xfc00 / 2 ^ 9 := by
  have h0 := (a.segments 0).toNat_lt
  have hmask : (a.segments 0).toNat &&& 0xfe00 = 0xfc00 ↔ (a.segments 0).toNat / 2 ^ 9 = 126 :=
    and_highMask_eq_iff (w := 16) (k := 9) (c := 126) h0 (by decide)
  rw [isUla, decide_eq_true_eq, ← UInt16.toNat_inj, UInt16.toNat_and, toBits_eq,
    div_leading a.low_lt]
  exact hmask

lemma isLinkLocal_iff : a.isLinkLocal = true ↔ a.toBits / 2 ^ (112 + 6) = 0xfe80 / 2 ^ 6 := by
  have h0 := (a.segments 0).toNat_lt
  have hmask : (a.segments 0).toNat &&& 0xffc0 = 0xfe80 ↔ (a.segments 0).toNat / 2 ^ 6 = 1018 :=
    and_highMask_eq_iff (w := 16) (k := 6) (c := 1018) h0 (by decide)
  rw [isLinkLocal, decide_eq_true_eq, ← UInt16.toNat_inj, UInt16.toNat_and, toBits_eq,
    div_leading a.low_lt]
  exact hmask

/-- The filter tests an IPv6 address for the blocks. -/
lemma isPrivateIp_iff : isPrivateIp (.v6 a) = true ↔ a.Refused := by
  simp only [isPrivateIp, Bool.or_eq_true, isLoopback_iff, isUnspecified_iff, isUla_iff,
    isLinkLocal_iff]
  simp only [Refused, refusedBlocks, List.mem_cons, List.not_mem_nil, or_false, exists_eq_or_imp,
    exists_eq_left, Block.Contains]
  norm_num
  tauto

/-- No address of the form `::ffff:a` is in a block that is refused. -/
lemma IsMapped.not_refused {b : Ipv4Addr} (h : a.IsMapped b) : ¬ a.Refused := by
  have hlt := b.toBits_lt
  rw [IsMapped] at h
  rw [← isPrivateIp_iff]
  simp only [isPrivateIp, Bool.or_eq_true, isLoopback_iff, isUnspecified_iff, isUla_iff,
    isLinkLocal_iff]
  omega

end Ipv6Addr

/-! ## The filter -/

lemma isPrivateIp_iff {ip : IpAddr} : isPrivateIp ip = true ↔ ip.Refused := by
  cases ip with
  | v4 a => exact Ipv4Addr.isPrivateIp_iff
  | v6 a => exact Ipv6Addr.isPrivateIp_iff

variable [SocketAddrParser]

/-- Whatever the parser makes of it, a string is accepted that is allowed or outside the blocks. -/
lemma validateOutboundAddr_eq_ok_iff {addr : String} {allowlist : List String} {sa : SocketAddr} :
    validateOutboundAddr addr allowlist = .ok sa ↔
      SocketAddrParser.parse addr = .ok sa ∧ (addr ∈ allowlist ∨ ¬ sa.ip.Refused) := by
  unfold validateOutboundAddr
  cases SocketAddrParser.parse addr with
  | error e => simp
  | ok parsed =>
    rw [← isPrivateIp_iff]
    dsimp only
    split_ifs with hallowed hprivate
    · simp [hallowed]
    · simp only [hallowed, false_or, false_iff, not_and, not_not, Except.ok.injEq]
      rintro rfl
      exact hprivate
    · simp only [hallowed, false_or, Except.ok.injEq]
      constructor
      · rintro rfl
        exact ⟨rfl, hprivate⟩
      · exact And.left

/-- No string that reaches an IPv4 address of the blocks is accepted, unless it is allowed. -/
def RefusesPrivate (addr : String) (allowlist : List String) : Prop :=
  ∀ (a : Ipv4Addr) (sa : SocketAddr), a.Refused → SocketAddrParser.parse addr = .ok sa →
    sa.ip.Reaches a → addr ∉ allowlist →
      ∀ accepted, validateOutboundAddr addr allowlist ≠ .ok accepted

/-- A string that parses to an address outside the blocks is accepted. -/
def AcceptsOthers (addr : String) (allowlist : List String) : Prop :=
  ∀ sa : SocketAddr, SocketAddrParser.parse addr = .ok sa → ¬ sa.ip.Refused →
    validateOutboundAddr addr allowlist = .ok sa

/-- The filter does what it is for exactly where the string does not parse to the form `::ffff:a` of
an address of the blocks, or is allowed. -/
theorem outboundFilter_iff (addr : String) (allowlist : List String) :
    RefusesPrivate addr allowlist ∧ AcceptsOthers addr allowlist ↔
      addr ∈ allowlist ∨ ∀ b port, SocketAddrParser.parse addr = .ok ⟨.v6 b, port⟩ →
        ∀ a, b.IsMapped a → ¬ a.Refused := by
  have haccepts : AcceptsOthers addr allowlist := fun sa hparse houtside =>
    validateOutboundAddr_eq_ok_iff.2 ⟨hparse, .inr houtside⟩
  rw [and_iff_left haccepts]
  constructor
  · intro hrefuses
    refine or_iff_not_imp_left.2 fun hallowed b port hparse a hmapped hrefused => ?_
    exact hrefuses a _ hrefused hparse hmapped hallowed _ (haccepts _ hparse hmapped.not_refused)
  · rintro hcond a sa hrefused hparse hreaches hallowed accepted haccepted
    obtain ⟨hsame, hpassed⟩ := validateOutboundAddr_eq_ok_iff.1 haccepted
    obtain rfl := Except.ok.inj (hparse.symm.trans hsame)
    have houtside := hpassed.resolve_left hallowed
    obtain ⟨ip, port⟩ := sa
    cases ip with
    | v4 b =>
      obtain rfl := hreaches
      exact houtside hrefused
    | v6 b => exact hcond.resolve_left hallowed b port hparse a hreaches hrefused

omit [SocketAddrParser] in
/-- The loopback address passes as `::ffff:127.0.0.1`. -/
theorem mapped_loopback_accepted :
    letI : SocketAddrParser := PeeredHub.parserOf "[::ffff:127.0.0.1]:4433"
      ⟨.v6 ⟨![0, 0, 0, 0, 0, 0xffff, 0x7f00, 1]⟩, 4433⟩
    ¬ (RefusesPrivate "[::ffff:127.0.0.1]:4433" [] ∧
      AcceptsOthers "[::ffff:127.0.0.1]:4433" []) := by
  let _ : SocketAddrParser := PeeredHub.parserOf "[::ffff:127.0.0.1]:4433"
    ⟨.v6 ⟨![0, 0, 0, 0, 0, 0xffff, 0x7f00, 1]⟩, 4433⟩
  rintro ⟨hrefuses, -⟩
  refine hrefuses ⟨![127, 0, 0, 1]⟩ ⟨.v6 ⟨![0, 0, 0, 0, 0, 0xffff, 0x7f00, 1]⟩, 4433⟩ ?_
    (by decide) ?_ (by decide) ⟨.v6 ⟨![0, 0, 0, 0, 0, 0xffff, 0x7f00, 1]⟩, 4433⟩ (by decide)
  · exact ⟨_, List.mem_cons_self, by decide⟩
  · rfl

end MeshProtocol
