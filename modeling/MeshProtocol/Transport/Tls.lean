import MeshProtocol.Core.Hash
import MeshProtocol.Library.Occurrence

/-!
# TLS identities (`mesh-transport/src/tls.rs`, `connection.rs`)

A mesh node's TLS certificate is self-signed with its Ed25519 key.  The peer's mesh identity is
extracted from the bytes of its certificate.
-/

namespace MeshProtocol

open Occurrence

/-- OID 1.3.101.112 followed by the header of a BIT STRING of 32 bytes. -/
def ed25519Pattern : List UInt8 := [0x06, 0x03, 0x2b, 0x65, 0x70, 0x03, 0x21, 0x00]

/-- The loop body of the extraction: the 32 bytes that follow the pattern, if it is at `i`. -/
def keyCandidate (certDer : List UInt8) (i : ℕ) : Option (List UInt8) :=
  if (certDer.drop i).take ed25519Pattern.length = ed25519Pattern then
    let keyStart := i + ed25519Pattern.length
    let keyEnd := keyStart + 32
    if keyEnd ≤ certDer.length then some ((certDer.drop keyStart).take 32) else none
  else none

/-- Extract the Ed25519 public key from a DER-encoded X.509 certificate. -/
def extractEd25519PubkeyFromCertDer (certDer : List UInt8) : Option (List UInt8) :=
  (List.range (certDer.length - (ed25519Pattern.length + 32))).findSome? (keyCandidate certDer)

/-- Extract a mesh identity from a DER-encoded X.509 certificate. -/
def identityFromCertDer (certDer : List UInt8) : Option Identity := do
  let pubkey ← extractEd25519PubkeyFromCertDer certDer
  return ⟨ALG_ED25519, pubkey⟩

/-- The verdict of a certificate verifier. -/
inductive CertificateError where
  | badEncoding
deriving DecidableEq, Repr

/-- `verify_server_cert` and `verify_client_cert`: a certificate with an extractable key is
accepted. -/
def verifyEndEntity (endEntity : List UInt8) : Except CertificateError Unit :=
  if (extractEd25519PubkeyFromCertDer endEntity).isNone then .error .badEncoding else .ok ()

/-- The peer's mesh identity: that of the first certificate it presented. -/
def peerMeshIdentity (certs : List (List UInt8)) : Option Identity := do
  let firstCert ← certs.head?
  identityFromCertDer firstCert

/-! ## What is extracted -/

/-- The 32 bytes that follow an occurrence of the pattern. -/
def keyAt (certDer : List UInt8) (i : ℕ) : List UInt8 :=
  (certDer.drop (i + ed25519Pattern.length)).take 32

lemma keyCandidate_of_occursAt {certDer : List UInt8} {i : ℕ}
    (hi : i < certDer.length - (ed25519Pattern.length + 32))
    (h : OccursAt ed25519Pattern certDer i) :
    keyCandidate certDer i = some (keyAt certDer i) := by
  unfold OccursAt at h
  rw [keyCandidate, if_pos h]
  exact if_pos (by omega)

lemma keyCandidate_of_not_occursAt {certDer : List UInt8} {i : ℕ}
    (h : ¬ OccursAt ed25519Pattern certDer i) : keyCandidate certDer i = none :=
  if_neg h

/-- The key extracted follows the first occurrence of the pattern, unless that is within 40 bytes of
the end. -/
lemma extract_of_firstAt {certDer : List UInt8} {i : ℕ} (h : FirstAt ed25519Pattern certDer i) :
    extractEd25519PubkeyFromCertDer certDer =
      if i + 40 < certDer.length then some (keyAt certDer i) else none := by
  have hlen : ed25519Pattern.length = 8 := rfl
  split_ifs with hi
  · refine findSome?_range (show i < _ by omega) ?_ ?_
    · exact keyCandidate_of_occursAt (by omega) h.1
    · intro j hj
      exact keyCandidate_of_not_occursAt (h.2 j hj)
  · refine List.findSome?_eq_none_iff.2 fun j hj => ?_
    rw [List.mem_range] at hj
    exact keyCandidate_of_not_occursAt (h.2 j (by omega))

/-- Nothing is extracted where the pattern does not occur. -/
lemma extract_of_absent {certDer : List UInt8} (h : ∀ i, ¬ OccursAt ed25519Pattern certDer i) :
    extractEd25519PubkeyFromCertDer certDer = none := by
  exact List.findSome?_eq_none_iff.2 fun j _ => keyCandidate_of_not_occursAt (h j)

/-- Nothing is extracted exactly if no occurrence of the pattern has more than 32 bytes after it. -/
theorem extract_eq_none_iff {certDer : List UInt8} :
    extractEd25519PubkeyFromCertDer certDer = none ↔
      ∀ i, OccursAt ed25519Pattern certDer i → certDer.length ≤ i + 40 := by
  by_cases hex : ∃ i, OccursAt ed25519Pattern certDer i
  · obtain ⟨i, hi⟩ := exists_firstAt hex
    rw [extract_of_firstAt hi]
    constructor
    · intro hnone j hj
      have hij : i ≤ j := not_lt.1 fun hlt => hi.2 j hlt hj
      split_ifs at hnone with hlt
      omega
    · intro hall
      exact if_neg (not_lt.2 (hall i hi.1))
  · have habsent : ∀ i, ¬ OccursAt ed25519Pattern certDer i := not_exists.1 hex
    simp only [extract_of_absent habsent, true_iff]
    intro i hi
    exact absurd hi (habsent i)

lemma identityFromCertDer_eq (certDer : List UInt8) :
    identityFromCertDer certDer =
      (extractEd25519PubkeyFromCertDer certDer).map (.mk ALG_ED25519) := by
  unfold identityFromCertDer
  cases extractEd25519PubkeyFromCertDer certDer <;> rfl

/-- A peer is accepted exactly if it gets an identity. -/
lemma verifyEndEntity_eq_ok_iff {certDer : List UInt8} {rest : List (List UInt8)} :
    verifyEndEntity certDer = .ok () ↔ (peerMeshIdentity (certDer :: rest)).isSome := by
  rw [verifyEndEntity, peerMeshIdentity, List.head?_cons, Option.bind_eq_bind, Option.bind_some,
    identityFromCertDer_eq, Option.isSome_map]
  cases extractEd25519PubkeyFromCertDer certDer <;> simp

end MeshProtocol
