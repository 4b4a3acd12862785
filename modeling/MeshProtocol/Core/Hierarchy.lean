import MeshProtocol.Core.Reference
import MeshProtocol.Core.Signing
import MeshProtocol.Library.AncestorPaths

/-!
# The keys of a capability path (`mesh-core/src/routing.rs`)

A publisher files a descriptor under the routing keys of its path and of the paths above it, and a
searcher looks a path up under its own key.  They agree as long as BLAKE3 does not collide on the
keys at hand.
-/

namespace MeshProtocol

open Bytes AncestorPaths

/-- The path itself, or one above it. -/
def AtOrAbove (q p : String) : Prop := q = p ∨ ∃ rest, q ++ "/" ++ rest = p

/-- The bytes that the routing key of a path is the hash of. -/
def routeInput (typePath : String) : List UInt8 := utf8Bytes ("mesh:route:" ++ typePath)

lemma routeInput_injective : Function.Injective routeInput := by
  intro s t h
  have htext := congrArg String.toList (utf8Bytes_injective h)
  rw [String.toList_append, String.toList_append] at htext
  exact String.toList_inj.1 (List.append_cancel_left htext)

/-- The paths above a path are those that the listing of its symbols has. -/
lemma atOrAbove_iff {q p : String} : AtOrAbove q p ↔ q.toList ∈ ancestors '/' p.toList := by
  have hslash : "/".toList = ['/'] := rfl
  rw [mem_ancestors, AtOrAbove, String.toList_inj]
  refine or_congr_right ⟨?_, ?_⟩
  · rintro ⟨rest, rfl⟩
    exact ⟨rest.toList, by rw [String.toList_append, String.toList_append, hslash]⟩
  · rintro ⟨rest, hrest⟩
    refine ⟨String.ofList rest, String.toList_inj.1 ?_⟩
    rw [String.toList_append, String.toList_append, hslash, String.toList_ofList, hrest]

/-- The paths above a path are finitely many. -/
lemma mem_ofList_ancestors {q p : String} :
    q ∈ (ancestors '/' p.toList).map String.ofList ↔ AtOrAbove q p := by
  rw [atOrAbove_iff, List.mem_map]
  constructor
  · rintro ⟨symbols, hmem, rfl⟩
    rwa [String.toList_ofList]
  · intro hmem
    exact ⟨q.toList, hmem, String.ofList_toList⟩

section Crypto

variable [Crypto]

/-- The code's splitting and joining lists the paths above a path. -/
lemma hierarchicalRoutingKeys_eq (p : String) :
    hierarchicalRoutingKeys p =
      ((ancestors '/' p.toList).map String.ofList).map routingKey := by
  rw [← joins_splitOn, joins, List.map_map, List.map_map]
  rfl

lemma routingKey_eq_iff {S : Set String} (h : Set.InjOn Crypto.blake3 (routeInput '' S))
    {s t : String} (hs : s ∈ S) (ht : t ∈ S) : routingKey s = routingKey t ↔ s = t := by
  constructor
  · intro hkey
    exact routeInput_injective (h (Set.mem_image_of_mem _ hs) (Set.mem_image_of_mem _ ht)
      (Hash.blake3_eq_iff.1 hkey))
  · rintro rfl
    rfl

/-- Unless BLAKE3 collides on them, the routing keys of a path are those of the path and the paths
above it, each once, the path's own at the end. -/
theorem hierarchicalRoutingKeys_exact (p q : String)
    (hinj : Set.InjOn Crypto.blake3 (routeInput '' insert q {s | AtOrAbove s p})) :
    (routingKey q ∈ hierarchicalRoutingKeys p ↔ q = p ∨ ∃ rest, q ++ "/" ++ rest = p) ∧
      (hierarchicalRoutingKeys p).Nodup ∧
      (hierarchicalRoutingKeys p).length = 1 + p.toList.count '/' ∧
      (hierarchicalRoutingKeys p).getLast? = some (routingKey p) := by
  have hmem {s : String} (hs : s ∈ (ancestors '/' p.toList).map String.ofList) :
      s ∈ insert q {s | AtOrAbove s p} := .inr (mem_ofList_ancestors.1 hs)
  rw [hierarchicalRoutingKeys_eq]
  refine ⟨?_, ?_, ?_, ?_⟩
  · rw [← AtOrAbove, ← mem_ofList_ancestors, List.mem_map]
    constructor
    · rintro ⟨s, hs, hkey⟩
      rwa [← (routingKey_eq_iff hinj (hmem hs) (Set.mem_insert _ _)).1 hkey]
    · intro hq
      exact ⟨q, hq, rfl⟩
  · have hpaths : ((ancestors '/' p.toList).map String.ofList).Nodup :=
      (nodup_ancestors _).map fun s t hst => by
        rw [← String.toList_ofList (l := s), hst, String.toList_ofList]
    refine hpaths.map_on fun s hs t ht hkey => ?_
    exact (routingKey_eq_iff hinj (hmem hs) (hmem ht)).1 hkey
  · rw [List.length_map, List.length_map, length_ancestors, add_comm]
  · rw [List.getLast?_map, List.getLast?_map, getLast?_ancestors]
    simp

end Crypto

/-- BLAKE3 on the paths above `compute//gpu`. -/
@[reducible] def pathCrypto : Crypto :=
  tableCrypto
    [(routeInput "compute", digestOf (beNat computeKey.digest)),
      (routeInput "compute/",
        digestOf 0xa9271d398529ce720be41fc9b515d09b8dd3e252c8d8161128ab746e16310cf1),
      (routeInput "compute//gpu",
        digestOf 0x925a1b892eadcf1b025b2b046da66c6dac805d927600d1ee7c7a932341e7f178)] []

/-- An empty segment has a key of its own. -/
theorem emptySegment_keyed :
    letI : Crypto := pathCrypto
    routingKey "compute/" ∈ hierarchicalRoutingKeys "compute//gpu" ∧
      (hierarchicalRoutingKeys "compute//gpu").Nodup ∧
      (hierarchicalRoutingKeys "compute//gpu").length = 3 := by
  let _ : Crypto := pathCrypto
  have hinj : Set.InjOn Crypto.blake3
      (routeInput '' insert "compute/" {s | AtOrAbove s "compute//gpu"}) := by
    have hpaths : (ancestors '/' "compute//gpu".toList).map String.ofList =
        ["compute", "compute/", "compute//gpu"] := by decide
    have hlisted {s : String} (hs : s ∈ insert "compute/" {s | AtOrAbove s "compute//gpu"}) :
        s ∈ ["compute", "compute/", "compute//gpu"] := by
      obtain rfl | habove := hs
      · decide
      · rw [← hpaths]
        exact mem_ofList_ancestors.2 habove
    have hdigests : ∀ s ∈ ["compute", "compute/", "compute//gpu"],
        ∀ t ∈ ["compute", "compute/", "compute//gpu"],
          Crypto.blake3 (routeInput s) = Crypto.blake3 (routeInput t) →
            routeInput s = routeInput t := by
      decide +kernel
    rintro _ ⟨s, hs, rfl⟩ _ ⟨t, ht, rfl⟩
    exact hdigests s (hlisted hs) t (hlisted ht)
  obtain ⟨hmem, hnodup, hlength, -⟩ := hierarchicalRoutingKeys_exact "compute//gpu" "compute/" hinj
  exact ⟨hmem.2 (.inr ⟨"gpu", by decide⟩), hnodup, hlength⟩

end MeshProtocol
