import MeshProtocol.Core.Frame
import MeshProtocol.Library.Fallible
import MeshProtocol.Transport.Tls

/-!
# The key scan at every position

The scan for the Ed25519 key tries the positions below `len - 40`.  At a position `len - 40` the
pattern and a key still fit, so a key that ends with the certificate is missed; at every other
position the scan is exact (`keyScan_exact_iff`).  It never indexes out of range, which is said of
`keyCandidateIndexed`, the loop body with its slices checked.
-/

namespace MeshProtocol

open Occurrence

/-- The loop body of the extraction, with `none` for an index out of range and for slices of
different lengths. -/
def keyCandidateIndexed (certDer : List UInt8) (i : ℕ) : Option (Option (List UInt8)) := do
  let window ← Frame.slice certDer i (i + ed25519Pattern.length)
  if window = ed25519Pattern then
    let keyStart := i + ed25519Pattern.length
    let keyEnd := keyStart + 32
    if keyEnd ≤ certDer.length then
      let key ← Frame.slice certDer keyStart keyEnd
      -- `copy_from_slice`
      if key.length = 32 then return some key else none
    else return none
  else return none

/-- The extraction, with `none` for a panic. -/
def extractIndexed (certDer : List UInt8) : Option (Option (List UInt8)) :=
  (List.range (certDer.length - (ed25519Pattern.length + 32))).findSomeM?
    (keyCandidateIndexed certDer)

/-- The extraction is right: it does not panic, and it returns the 32 bytes after the first
occurrence of the pattern, if these are there, and nothing otherwise. -/
structure ExactScan (certDer : List UInt8) : Prop where
  inRange : extractIndexed certDer = some (extractEd25519PubkeyFromCertDer certDer)
  exact : ∀ key, extractEd25519PubkeyFromCertDer certDer = some key ↔
    ∃ i, FirstAt ed25519Pattern certDer i ∧ i + ed25519Pattern.length + 32 ≤ certDer.length ∧
      key = keyAt certDer i

/-! ## Indexes -/

lemma slice_eq {data : List UInt8} {lo n : ℕ} (h : lo + n ≤ data.length) :
    Frame.slice data lo (lo + n) = some ((data.drop lo).take n) := by
  rw [Frame.slice, if_pos ⟨Nat.le_add_right lo n, h⟩, List.take_drop]

lemma keyCandidateIndexed_eq {certDer : List UInt8} {i : ℕ}
    (h : i < certDer.length - (ed25519Pattern.length + 32)) :
    keyCandidateIndexed certDer i = some (keyCandidate certDer i) := by
  unfold keyCandidateIndexed keyCandidate
  rw [slice_eq (by omega), Option.bind_eq_bind, Option.bind_some]
  dsimp only
  split_ifs with hwindow hend
  · have hkey : ((certDer.drop (i + ed25519Pattern.length)).take 32).length = 32 := by
      rw [List.length_take, List.length_drop]
      omega
    rw [slice_eq hend, Option.bind_some, if_pos hkey]
    rfl
  · rfl
  · rfl

/-- No index is out of range. -/
lemma extractIndexed_eq (certDer : List UInt8) :
    extractIndexed certDer = some (extractEd25519PubkeyFromCertDer certDer) := by
  apply Fallible.findSomeM?_of_total
  intro i hi
  exact keyCandidateIndexed_eq (List.mem_range.1 hi)

/-! ## Positions -/

/-- The extraction is right exactly if the first occurrence of the pattern is not followed by
exactly 32 bytes. -/
theorem keyScan_exact_iff (certDer : List UInt8) :
    ExactScan certDer ↔ ¬ ∃ i, FirstAt ed25519Pattern certDer i ∧
      i + ed25519Pattern.length + 32 = certDer.length := by
  have hlen : ed25519Pattern.length = 8 := rfl
  constructor
  · rintro hexact ⟨i, hi, hend⟩
    have hmissed := extract_of_firstAt hi
    rw [if_neg (by omega)] at hmissed
    have hfound := (hexact.exact (keyAt certDer i)).2 ⟨i, hi, hend.le, rfl⟩
    rw [hmissed] at hfound
    cases hfound
  · intro hnone
    refine ⟨extractIndexed_eq certDer, fun key => ⟨fun hkey => ?_, ?_⟩⟩
    · have hoccurs : ∃ i, OccursAt ed25519Pattern certDer i := by
        by_contra habsent
        rw [extract_of_absent (not_exists.1 habsent)] at hkey
        cases hkey
      obtain ⟨i, hi⟩ := exists_firstAt hoccurs
      rw [extract_of_firstAt hi] at hkey
      split_ifs at hkey with hfits
      exact ⟨i, hi, by omega, (Option.some.inj hkey).symm⟩
    · rintro ⟨i, hi, hfits, rfl⟩
      have hends : i + ed25519Pattern.length + 32 ≠ certDer.length :=
        fun hend => hnone ⟨i, hi, hend⟩
      rw [extract_of_firstAt hi, if_pos (by omega)]

/-- The pattern with a key right behind it, and nothing after that. -/
theorem flushKey_missed : ¬ ExactScan (ed25519Pattern ++ List.replicate 32 7) := by
  intro hexact
  have hfirst : FirstAt ed25519Pattern (ed25519Pattern ++ List.replicate 32 7) 0 := by
    refine ⟨by decide, fun j hj => ?_⟩
    omega
  have hfound := (hexact.exact (List.replicate 32 7)).2 ⟨0, hfirst, by decide, by decide⟩
  revert hfound
  decide

end MeshProtocol
