import MeshProtocol.Dht.Availability
import MeshProtocol.Dht.Revocations

/-!
# Crowded routing keys (`mesh-dht/src/node.rs`)

An answer to a FIND_VALUE has at most `max_find_value_results` descriptors, the first of those that
the request's filters admit, and there is no way to ask for the next ones.  The narrowest filters
for a descriptor are its schema, its publisher and its timestamp, so it can be had at all exactly if
fewer descriptors than that are in front of it which these admit too (`reachable_iff`).
-/

namespace MeshProtocol

open DescriptorStorage

/-- A descriptor that passes the narrowest filters another one passes. -/
def Crowds (d e : Descriptor) : Prop :=
  e.schemaHash = d.schemaHash ∧ e.publisher = d.publisher ∧ d.timestamp ≤ e.timestamp

instance (d e : Descriptor) : Decidable (Crowds d e) :=
  inferInstanceAs (Decidable (_ ∧ _ ∧ _))

/-- The narrowest filters that a descriptor passes. -/
def narrowest (d : Descriptor) : FilterSet where
  schemaHash := some d.schemaHash
  minTimestamp := some d.timestamp
  publisher := some d.publisher

lemma admitted_narrowest_iff {d e : Descriptor} :
    admitted (some (narrowest d)) e = true ↔ Crowds d e := by
  simp [admitted, FilterSet.admits, narrowest, Crowds, and_comm, and_left_comm]

/-- Filters that admit a descriptor admit all that crowd it. -/
lemma admitted_of_crowds {filters : Option FilterSet} {d e : Descriptor}
    (hd : admitted filters d = true) (h : Crowds d e) : admitted filters e = true := by
  cases filters with
  | none => rfl
  | some f =>
    obtain ⟨hschema, hpublisher, htime⟩ := h
    simp only [admitted, Option.all_some, FilterSet.admits, Bool.and_eq_true] at hd ⊢
    obtain ⟨⟨hd₁, hd₂⟩, hd₃⟩ := hd
    rw [hschema, hpublisher]
    refine ⟨⟨hd₁, ?_⟩, hd₃⟩
    cases hmin : f.minTimestamp with
    | none => rfl
    | some minTs =>
      rw [hmin] at hd₂
      have hle : minTs ≤ d.timestamp := by simpa using hd₂
      simpa using UInt64.le_trans hle htime

/-! ## The first of those that pass -/

/-- An element is among the first that pass a test exactly if it passes and fewer pass in front of
one of its occurrences. -/
lemma mem_take_filter_iff {α : Type} {p : α → Bool} {l : List α} {d : α} {count : ℕ} :
    d ∈ (l.filter p).take count ↔
      p d = true ∧ ∃ front back, l = front ++ d :: back ∧ front.countP p < count := by
  constructor
  · intro hd
    obtain ⟨i, hi, hget⟩ := List.mem_take_iff_getElem.1 hd
    have hmem : d ∈ l.filter p := List.mem_of_mem_take hd
    refine ⟨(List.mem_filter.1 hmem).2, ?_⟩
    have hlen : i < (l.filter p).length := by omega
    have hsplit : l.filter p = (l.filter p).take i ++ d :: (l.filter p).drop (i + 1) := by
      rw [← hget, List.getElem_cons_drop, List.take_append_drop]
    obtain ⟨front, rest, rfl, hfront, hrest⟩ := List.filter_eq_append_iff.1 hsplit
    obtain ⟨between, back, rfl, hnone, -, -⟩ := List.filter_eq_cons_iff.1 hrest
    refine ⟨front ++ between, back, by simp, ?_⟩
    have hzero : between.countP p = 0 := List.countP_eq_zero.2 hnone
    rw [List.countP_append, hzero, List.countP_eq_length_filter, hfront, List.length_take]
    omega
  · rintro ⟨hp, front, back, rfl, hcount⟩
    rw [List.filter_append, List.filter_cons_of_pos hp]
    rw [List.countP_eq_length_filter] at hcount
    refine List.mem_take_iff_getElem.2 ⟨(front.filter p).length, ?_, by simp⟩
    simp only [List.length_append, List.length_cons]
    omega

/-! ## Reading with filters -/

/-- Backends that leave out of a read what the filters do not admit, and nothing else. -/
class FilteredReads (S : Type) [DescriptorStorage S] : Prop where
  filtered : ∀ (s : S) (rk : Hash) (filters : Option FilterSet) (clock : UInt64),
    (getDescriptors s rk filters clock).1 =
      (getDescriptors s rk none clock).1.filter (admitted filters)

instance [Crypto] [Ciborium] : FilteredReads DescriptorStore where
  filtered s rk filters clock := by
    change s.getDescriptorsAt rk filters clock =
      (s.getDescriptorsAt rk none clock).filter (admitted filters)
    simp [DescriptorStore.getDescriptorsAt, List.filter_filter, Bool.and_comm]

section Answers

variable [Crypto] {S H : Type} [DescriptorStorage S] [ProtocolHook H]

namespace DhtNode

lemma descriptors_findAccepted {n n' : DhtNode S H} {findValue : FindValue} {clock : UInt64}
    {result : FindValueResult} (h : n.findAccepted findValue clock = some (result, n')) :
    result.descriptors.getD [] =
      (getDescriptors n.store findValue.key findValue.filters clock).1.take
        (min findValue.maxResults.toNat n.config.maxFindValueResults.toNat) := by
  obtain ⟨result', hresult, hrest⟩ := Option.bind_eq_some_iff.1 h
  obtain ⟨rfl, -⟩ := Prod.mk.inj (Option.some.inj hrest)
  rcases findResult_cases hresult with ⟨-, rfl⟩ | ⟨hnil, nodes, -, rfl⟩
  · rfl
  · have hempty : (getDescriptors n.store findValue.key findValue.filters clock).1 = [] := hnil
    rw [hempty, List.take_nil]
    rfl

/-- The descriptors of an answer are the first that the request's filters admit. -/
lemma descriptors_handleFindValue [FilteredReads S] {n n' : DhtNode S H} {findValue : FindValue}
    {clock : UInt64} {result : FindValueResult} (hpass : ¬ n.RefusesQuery findValue.key clock)
    (h : n.handleFindValue findValue clock = some (result, n')) :
    result.descriptors.getD [] =
      ((getDescriptors n.store findValue.key none clock).1.filter
        (admitted findValue.filters)).take
          (min findValue.maxResults.toNat n.config.maxFindValueResults.toNat) := by
  rcases handleFindValue_answer h with ⟨hrefused, -⟩ |
    ⟨-, n₁, n₂, -, -, hstore, hconfig, haccepted⟩
  · exact absurd hrefused hpass
  · rw [← FilteredReads.filtered, ← hstore, ← hconfig]
    exact descriptors_findAccepted haccepted

/-- Some FIND_VALUE for a key is answered with the descriptor. -/
def Reachable (n : DhtNode S H) (key : Hash) (clock : UInt64) (d : Descriptor) : Prop :=
  ∃ findValue result n', findValue.key = key ∧
    n.handleFindValue findValue clock = some (result, n') ∧ d ∈ result.descriptors.getD []

/-- Whatever the request, it admits what crowds the descriptor. -/
lemma Reachable.exists_front [FilteredReads S] {n : DhtNode S H} {key : Hash} {clock : UInt64}
    (hpass : ¬ n.RefusesQuery key clock) {d : Descriptor} (h : n.Reachable key clock d) :
    ∃ front back, (getDescriptors n.store key none clock).1 = front ++ d :: back ∧
      front.countP (fun e => Crowds d e) < n.config.maxFindValueResults.toNat := by
  obtain ⟨findValue, result, n', rfl, hanswer, hd⟩ := h
  rw [descriptors_handleFindValue hpass hanswer, mem_take_filter_iff] at hd
  obtain ⟨hadmitted, front, back, hread, hcount⟩ := hd
  refine ⟨front, back, hread, lt_of_le_of_lt ?_ (hcount.trans_le (min_le_right _ _))⟩
  exact List.countP_mono_left fun e _ hcrowds =>
    admitted_of_crowds hadmitted (of_decide_eq_true hcrowds)

/-- A descriptor can be had at a key exactly if fewer descriptors crowd it in front of one of its
occurrences than an answer has room for. -/
theorem reachable_iff [FilteredReads S] (n : DhtNode S H) {key : Hash} {clock : UInt64}
    (hpass : ¬ n.RefusesQuery key clock) (d : Descriptor) :
    n.Reachable key clock d ↔
      ∃ front back, (getDescriptors n.store key none clock).1 = front ++ d :: back ∧
        front.countP (fun e => Crowds d e) < n.config.maxFindValueResults.toNat := by
  constructor
  · exact fun h => h.exists_front hpass
  · rintro ⟨front, back, hread, hcount⟩
    -- the narrowest filters, and as many results as can be asked for
    let findValue : FindValue := ⟨n.identity, n.addr, key, 65535, some (narrowest d)⟩
    have hself : admitted (some (narrowest d)) d = true :=
      admitted_narrowest_iff.2 ⟨rfl, rfl, UInt64.le_refl _⟩
    have hmem : d ∈ (getDescriptors n.store key none clock).1 := by
      rw [hread]
      simp
    have hhas : n.HasDescriptors findValue clock := by
      rw [HasDescriptors, FilteredReads.filtered]
      exact List.ne_nil_of_mem (List.mem_filter.2 ⟨hmem, hself⟩)
    obtain ⟨⟨result, n'⟩, hanswer⟩ := Option.isSome_iff_exists.1
      ((n.handleFindValue_isSome_iff findValue clock).2 (.inr (.inl hhas)))
    refine ⟨findValue, result, n', rfl, hanswer, ?_⟩
    rw [descriptors_handleFindValue hpass hanswer, mem_take_filter_iff]
    refine ⟨hself, front, back, hread, ?_⟩
    have hmax : n.config.maxFindValueResults.toNat ≤ (65535 : UInt16).toNat :=
      Nat.le_of_lt_succ n.config.maxFindValueResults.toNat_lt
    have hcrowds : front.countP (admitted (some (narrowest d))) =
        front.countP fun e => Crowds d e :=
      List.countP_congr fun e _ => by rw [admitted_narrowest_iff, decide_eq_true_iff]
    rw [hcrowds, min_eq_right hmax]
    exact hcount

end DhtNode

end Answers

/-! ## Two descriptors of one publisher -/

open DescriptorStore (secondTarget)

/-- A node whose answers have room for some descriptors, after the second publisher has
stored two. -/
def crowdedNode [Crypto] [Ciborium] (room : UInt16) : Option (DhtNode DescriptorStore NoOpHook) :=
  (DhtNode.withStore firstPublisher (.quic "198.51.100.1:4433") ⟨room⟩ .new).run
    [.request (.store ⟨secondPublisher, .quic "198.51.100.2:4433", target⟩) (some secondPublisher)
        1700000000000000,
      .request (.store ⟨secondPublisher, .quic "198.51.100.2:4433", secondTarget⟩)
        (some secondPublisher) 1700000000000000]

/-- With room for one, the second descriptor is in no answer. -/
theorem secondTarget_unreachable :
    letI : Crypto := cryptoOf [target, secondTarget]
    letI : Ciborium := referenceCiborium
    ∃ n, crowdedNode 1 = some n ∧
      secondTarget ∈ n.store.getDescriptorsAt computeKey none 1700000000000000 ∧
      ¬ n.Reachable computeKey 1700000000000000 secondTarget := by
  let _ : Crypto := cryptoOf [target, secondTarget]
  let _ : Ciborium := referenceCiborium
  have hsome : (crowdedNode 1).isSome := by decide +kernel
  obtain ⟨n, hn⟩ := Option.isSome_iff_exists.1 hsome
  have hread : (crowdedNode 1).map (fun n => n.store.getDescriptorsAt computeKey none
      1700000000000000) = some [target, secondTarget] := by decide +kernel
  have hhooks : (crowdedNode 1).map (fun n => n.hooks.isSome) = some false := by decide +kernel
  have hroom : (crowdedNode 1).map (fun n => n.config.maxFindValueResults) = some 1 := by
    decide +kernel
  rw [hn, Option.map_some, Option.some.injEq] at hread hhooks hroom
  refine ⟨n, hn, by rw [hread]; simp, fun hreach => ?_⟩
  have hpass : ¬ n.RefusesQuery computeKey 1700000000000000 := by
    rintro ⟨hooks, reason, heq, -⟩
    rw [heq] at hhooks
    cases hhooks
  obtain ⟨front, back, hsplit, hcount⟩ := hreach.exists_front hpass
  change n.store.getDescriptorsAt computeKey none 1700000000000000 = _ at hsplit
  rw [hread] at hsplit
  rw [hroom] at hcount
  -- the first descriptor is in front of it and crowds it
  match front, hsplit with
  | [], hsplit => exact absurd (List.cons.inj hsplit).1 (by decide +kernel)
  | e :: front, hsplit =>
    obtain ⟨rfl, -⟩ := List.cons.inj hsplit
    have hcrowds : Crowds secondTarget target := by decide +kernel
    simp [hcrowds] at hcount

/-- With room for two it is. -/
theorem secondTarget_reachable :
    letI : Crypto := cryptoOf [target, secondTarget]
    letI : Ciborium := referenceCiborium
    ∃ n, crowdedNode 2 = some n ∧ n.Reachable computeKey 1700000000000000 secondTarget := by
  let _ : Crypto := cryptoOf [target, secondTarget]
  let _ : Ciborium := referenceCiborium
  have hsome : (crowdedNode 2).isSome := by decide +kernel
  obtain ⟨n, hn⟩ := Option.isSome_iff_exists.1 hsome
  have hread : (crowdedNode 2).map (fun n => n.store.getDescriptorsAt computeKey none
      1700000000000000) = some [target, secondTarget] := by decide +kernel
  have hhooks : (crowdedNode 2).map (fun n => n.hooks.isSome) = some false := by decide +kernel
  have hroom : (crowdedNode 2).map (fun n => n.config.maxFindValueResults) = some 2 := by
    decide +kernel
  rw [hn, Option.map_some, Option.some.injEq] at hread hhooks hroom
  have hpass : ¬ n.RefusesQuery computeKey 1700000000000000 := by
    rintro ⟨hooks, reason, heq, -⟩
    rw [heq] at hhooks
    cases hhooks
  refine ⟨n, hn, (DhtNode.reachable_iff n hpass secondTarget).2 ⟨[target], [], hread, ?_⟩⟩
  rw [hroom]
  decide +kernel

end MeshProtocol
