import MeshProtocol.Core.Reference
import MeshProtocol.Library.Der
import MeshProtocol.Transport.Tls

/-!
# Whose key a certificate carries

An X.509 certificate as its fields, of which only the subject public key is looked into, and its DER
encoding.  TLS proves that the peer holds the key of the field `subjectPublicKeyInfo`, so the
identity of a certificate is that key (`Certificate.identity`).  The code does not parse the
certificate but takes the 32 bytes after the first occurrence of an 8-byte pattern, and the fields
in front are of the peer's choosing: `identityFromCertDer_eq_iff` says when the two agree.
-/

namespace MeshProtocol

open Der Occurrence

/-! ## X.509 -/

/-- The OID of Ed25519, 1.3.101.112. -/
def oidEd25519 : List UInt8 := [0x2b, 0x65, 0x70]

/-- The field with the certificate's public key. -/
structure SubjectPublicKeyInfo where
  oid : List UInt8
  /-- The encoded parameters of the algorithm. -/
  parameters : List UInt8
  /-- How many bits of the last byte of the key are unused. -/
  unusedBits : UInt8
  subjectPublicKey : List UInt8
deriving DecidableEq

/-- A certificate, with the contents of its fields as arbitrary bytes. -/
structure Certificate where
  version : Option (List UInt8)
  serialNumber : List UInt8
  signature : List UInt8
  issuer : List UInt8
  validity : List UInt8
  subject : List UInt8
  subjectPublicKeyInfo : SubjectPublicKeyInfo
  /-- What follows the public key inside the signed part, as encoded. -/
  extensions : List UInt8
  signatureAlgorithm : List UInt8
  signatureValue : List UInt8

namespace SubjectPublicKeyInfo

/-- The field's algorithm and key. -/
def content (s : SubjectPublicKeyInfo) : List UInt8 :=
  tlv 0x30 (tlv 0x06 s.oid ++ s.parameters) ++ tlv 0x03 (s.unusedBits :: s.subjectPublicKey)

def toDer (s : SubjectPublicKeyInfo) : List UInt8 := tlv 0x30 s.content

/-- The key, if it is an Ed25519 key: 32 bytes under the Ed25519 OID without parameters. -/
def ed25519Key (s : SubjectPublicKeyInfo) : Option (List UInt8) :=
  if s.oid = oidEd25519 ∧ s.parameters = [] ∧ s.unusedBits = 0 ∧ s.subjectPublicKey.length = 32 then
    some s.subjectPublicKey
  else none

lemma content_inj {s s' : SubjectPublicKeyInfo} (hlen : s.content.length < 2 ^ 64)
    (heq : s.content = s'.content) : s = s' := by
  obtain ⟨-, halg, hkey⟩ := tlv_append_inj hlen heq
  have hkeyLen : (tlv 0x03 (s.unusedBits :: s.subjectPublicKey)).length < 2 ^ 64 := by
    rw [content, List.length_append] at hlen
    omega
  have halgLen : (tlv 0x06 s.oid ++ s.parameters).length < 2 ^ 64 :=
    (Nat.le_add_right _ _).trans_lt ((length_le_tlv _ _ _).trans_lt hlen)
  obtain ⟨-, hoid, hparams⟩ := tlv_append_inj halgLen halg
  obtain ⟨hbits, hkey⟩ := List.cons.inj (tlv_inj hkeyLen hkey)
  cases s
  cases s'
  rw [SubjectPublicKeyInfo.mk.injEq]
  exact ⟨hoid, hparams, hbits, hkey⟩

end SubjectPublicKeyInfo

namespace Certificate

/-- The fields in front of the public key; the version is left out of a certificate of version 1. -/
def leadingFields (c : Certificate) : List UInt8 :=
  elements ((c.version.map (0xa0, ·)).toList ++ [(0x02, c.serialNumber), (0x30, c.signature),
    (0x30, c.issuer), (0x30, c.validity), (0x30, c.subject)])

/-- The signed part. -/
def tbsCertificate (c : Certificate) : List UInt8 :=
  c.leadingFields ++ (c.subjectPublicKeyInfo.toDer ++ c.extensions)

/-- The algorithm and the value of the signature. -/
def trailer (c : Certificate) : List UInt8 :=
  tlv 0x30 c.signatureAlgorithm ++ tlv 0x03 c.signatureValue

/-- The certificate in DER. -/
def toDer (c : Certificate) : List UInt8 := tlv 0x30 (tlv 0x30 c.tbsCertificate ++ c.trailer)

/-- The identity that TLS proves: the key of `subjectPublicKeyInfo`, if it is an Ed25519 key. -/
def identity (c : Certificate) : Option Identity :=
  c.subjectPublicKeyInfo.ed25519Key.map (.mk ALG_ED25519)

/-! ## The field in the bytes -/

/-- The fields in front of the public key end where the public key starts. -/
lemma leadingFields_inj {c c' : Certificate} {rest rest' : List UInt8}
    (hlen : (c.leadingFields ++ rest).length < 2 ^ 64)
    (heq : c.leadingFields ++ rest = c'.leadingFields ++ rest') : rest = rest' := by
  unfold leadingFields at hlen heq
  have hcount : (c.version.map fun v => ((0xa0, v) : UInt8 × List UInt8)).toList.length =
      (c'.version.map fun v => ((0xa0, v) : UInt8 × List UInt8)).toList.length := by
    -- a serial number is no version
    cases hv : c.version with
    | none =>
      cases hv' : c'.version with
      | none => rfl
      | some v' =>
        rw [hv] at hlen heq
        rw [hv'] at heq
        rw [Option.map_none, Option.toList_none, List.nil_append, elements_cons,
          List.append_assoc] at hlen heq
        exact absurd (tlv_append_inj hlen (heq.trans (List.append_assoc _ _ _))).1 (by simp)
    | some v =>
      cases hv' : c'.version with
      | none =>
        rw [hv] at hlen heq
        rw [hv'] at heq
        rw [Option.map_some, Option.toList_some, List.singleton_append, elements_cons,
          List.append_assoc] at hlen heq
        exact absurd (tlv_append_inj hlen (heq.trans (List.append_assoc _ _ _))).1 (by simp)
      | some v' => rfl
  exact (elements_append_inj (by rw [List.length_append, hcount, List.length_append]; rfl)
    hlen heq).2

/-- The bytes of a certificate determine its public key, so its identity is a matter of the bytes,
and a parser of the field finds it. -/
theorem subjectPublicKeyInfo_of_toDer {c c' : Certificate} (hlen : c.toDer.length < 2 ^ 64)
    (heq : c.toDer = c'.toDer) : c.subjectPublicKeyInfo = c'.subjectPublicKeyInfo := by
  -- down to the signed part
  have hsigned := tlv_inj hlen heq
  have hsignedLen : (tlv 0x30 c.tbsCertificate ++ c.trailer).length < 2 ^ 64 := by
    rw [toDer, tlv, List.length_append] at hlen
    omega
  have htbs := (tlv_append_inj hsignedLen hsigned).2.1
  have htbsLen : c.tbsCertificate.length < 2 ^ 64 :=
    (Nat.le_add_right _ _).trans_lt ((length_le_tlv _ _ _).trans_lt hsignedLen)
  -- past the fields in front
  have hspki := leadingFields_inj htbsLen htbs
  have hspkiLen : (c.subjectPublicKeyInfo.toDer ++ c.extensions).length < 2 ^ 64 := by
    rw [tbsCertificate, List.length_append] at htbsLen
    omega
  have hcontent := (tlv_append_inj hspkiLen hspki).2.1
  have hcontentLen : c.subjectPublicKeyInfo.content.length < 2 ^ 64 :=
    (Nat.le_add_right _ _).trans_lt ((length_le_tlv _ _ _).trans_lt hspkiLen)
  exact SubjectPublicKeyInfo.content_inj hcontentLen hcontent

/-- The bytes in front of the OID of an Ed25519 key. -/
def beforeOid (c : Certificate) : List UInt8 :=
  header 0x30 (tlv 0x30 c.tbsCertificate ++ c.trailer).length ++
    (header 0x30 c.tbsCertificate.length ++ (c.leadingFields ++ [0x30, 0x2a, 0x30, 0x05]))

/-- The field of an Ed25519 key: the pattern and the key. -/
lemma toDer_of_ed25519Key {s : SubjectPublicKeyInfo} {key : List UInt8}
    (h : s.ed25519Key = some key) :
    key.length = 32 ∧ s.toDer = [0x30, 0x2a, 0x30, 0x05] ++ (ed25519Pattern ++ key) := by
  unfold SubjectPublicKeyInfo.ed25519Key at h
  split_ifs at h with hs
  obtain ⟨hoid, hparams, hbits, hlen⟩ := hs
  obtain rfl := Option.some.inj h
  refine ⟨hlen, ?_⟩
  rw [SubjectPublicKeyInfo.toDer, SubjectPublicKeyInfo.content, hoid, hparams, hbits]
  have halg : tlv 0x30 (tlv 0x06 oidEd25519 ++ []) =
      [0x30, 0x05, 0x06, 0x03, 0x2b, 0x65, 0x70] := rfl
  have hkey : tlv 0x03 (0 :: s.subjectPublicKey) =
      [0x03, 0x21, 0x00] ++ s.subjectPublicKey := by
    rw [tlv, List.length_cons, hlen]
    rfl
  rw [halg, hkey, tlv, List.length_append, List.length_append, hlen]
  rfl

/-- An Ed25519 certificate around the pattern. -/
lemma toDer_eq {c : Certificate} {key : List UInt8}
    (h : c.subjectPublicKeyInfo.ed25519Key = some key) :
    c.toDer = c.beforeOid ++ (ed25519Pattern ++ (key ++ (c.extensions ++ c.trailer))) := by
  have hspki := (toDer_of_ed25519Key h).2
  have htbs : c.tbsCertificate =
      (c.leadingFields ++ [0x30, 0x2a, 0x30, 0x05]) ++ (ed25519Pattern ++ (key ++ c.extensions)) := by
    rw [tbsCertificate, hspki]
    simp only [List.append_assoc]
  rw [toDer, beforeOid, tlv, tlv]
  generalize header 0x30 c.tbsCertificate.length = tbsHeader
  generalize header 0x30 (tbsHeader ++ c.tbsCertificate ++ c.trailer).length = outerHeader
  rw [htbs]
  simp only [List.append_assoc]

/-! ## When the extracted identity is the certificate's -/

lemma trailer_ne_nil (c : Certificate) : 0 < c.trailer.length := by
  rw [trailer, tlv, header, List.length_append, List.length_append, List.length_cons]
  omega

/-- The first occurrence of the pattern, by which the code goes, leads to the right key: in a
certificate with an Ed25519 key, the pattern does not occur in front of the key's field, or the key
itself follows its first occurrence there; in any other certificate, no occurrence has more than
32 bytes after it. -/
structure Unambiguous (c : Certificate) : Prop where
  ofKey : ∀ key, c.subjectPublicKeyInfo.ed25519Key = some key →
    ∀ i, FirstAt ed25519Pattern c.beforeOid i → keyAt c.toDer i = key
  ofOther : c.subjectPublicKeyInfo.ed25519Key = none →
    ∀ i, OccursAt ed25519Pattern c.toDer i → c.toDer.length ≤ i + 40

lemma extract_eq_iff_of_ed25519Key {c : Certificate} {key : List UInt8}
    (h : c.subjectPublicKeyInfo.ed25519Key = some key) :
    extractEd25519PubkeyFromCertDer c.toDer = some key ↔
      ∀ i, FirstAt ed25519Pattern c.beforeOid i → keyAt c.toDer i = key := by
  have hkeyLen := (toDer_of_ed25519Key h).1
  have hder := toDer_eq h
  have htrailer := c.trailer_ne_nil
  have hlen : c.beforeOid.length + 40 < c.toDer.length := by
    rw [hder]
    simp only [List.length_append, hkeyLen, show ed25519Pattern.length = 8 from rfl]
    omega
  have hfirst : ∀ i, FirstAt ed25519Pattern c.toDer i ↔ FirstAt ed25519Pattern c.beforeOid i ∨
      (i = c.beforeOid.length ∧ ∀ j, ¬ OccursAt ed25519Pattern c.beforeOid j) := by
    intro i
    rw [hder]
    exact firstAt_append_iff (by decide)
  by_cases hex : ∃ i, OccursAt ed25519Pattern c.beforeOid i
  · obtain ⟨i, hi⟩ := exists_firstAt hex
    have hbefore := hi.1.length_le (by decide)
    rw [extract_of_firstAt ((hfirst i).2 (.inl hi)), if_pos (by omega), Option.some.injEq]
    constructor
    · intro hkey j hj
      rwa [hj.eq hi]
    · intro hall
      exact hall i hi
  · have habsent : ∀ i, ¬ OccursAt ed25519Pattern c.beforeOid i := not_exists.1 hex
    rw [extract_of_firstAt ((hfirst _).2 (.inr ⟨rfl, habsent⟩)), if_pos hlen, Option.some.injEq]
    have hkey : keyAt c.toDer c.beforeOid.length = key := by
      rw [keyAt, hder, ← List.drop_drop, List.drop_left, List.drop_left]
      exact List.take_left' hkeyLen
    simp only [hkey, true_iff]
    intro i hi
    exact absurd hi.1 (habsent i)

/-- The code gives a certificate the identity that TLS proves exactly when the pattern is not
ambiguous in it. -/
theorem identityFromCertDer_eq_iff (c : Certificate) :
    identityFromCertDer c.toDer = c.identity ↔ c.Unambiguous := by
  have hinj : Function.Injective (Identity.mk ALG_ED25519) := by
    intro key key' h
    exact (Identity.mk.inj h).2
  rw [identity, identityFromCertDer_eq, (Option.map_injective hinj).eq_iff]
  constructor
  · intro h
    exact
      { ofKey := fun key hkey => (extract_eq_iff_of_ed25519Key hkey).1 (h.trans hkey)
        ofOther := fun hkey => extract_eq_none_iff.1 (h.trans hkey) }
  · intro h
    cases hkey : c.subjectPublicKeyInfo.ed25519Key with
    | some key => exact (extract_eq_iff_of_ed25519Key hkey).2 (h.ofKey key hkey)
    | none => exact extract_eq_none_iff.2 (h.ofOther hkey)

/-! ## A certificate that hides a key in its subject -/

/-- A subject with a common name of the sender's choosing. -/
def subjectOf (commonName : List UInt8) : List UInt8 :=
  tlv 0x31 (tlv 0x30 (tlv 0x06 [0x55, 0x04, 0x03] ++ tlv 0x04 commonName))

/-- A certificate for the given key whose subject holds the pattern and the first publisher's
key. -/
def withHiddenKey (key : SubjectPublicKeyInfo) : Certificate where
  version := some (tlv 0x02 [0x02])
  serialNumber := [0x01]
  signature := tlv 0x06 oidEd25519
  issuer := []
  validity := tlv 0x17 (Bytes.utf8Bytes "240101000000Z") ++ tlv 0x17 (Bytes.utf8Bytes "340101000000Z")
  subject := subjectOf (ed25519Pattern ++ firstPublisher.publicKey)
  subjectPublicKeyInfo := key
  extensions := []
  signatureAlgorithm := tlv 0x06 oidEd25519
  signatureValue := List.replicate 65 0

/-- The third publisher's Ed25519 key. -/
def thirdKey : SubjectPublicKeyInfo := ⟨oidEd25519, [], 0, thirdPublisher.publicKey⟩

/-- A key on the curve P-256: its base point. -/
def ecdsaKey : SubjectPublicKeyInfo where
  oid := [0x2a, 0x86, 0x48, 0xce, 0x3d, 0x02, 0x01]
  parameters := tlv 0x06 [0x2a, 0x86, 0x48, 0xce, 0x3d, 0x03, 0x01, 0x07]
  unusedBits := 0
  subjectPublicKey := 0x04 ::
    (Bytes.beBytes 32 0x6b17d1f2e12c4247f8bce6e563a440f277037d812deb33a0f4a13945d898c296 ++
      Bytes.beBytes 32 0x4fe342e2fe1a7f9b8ee7eb4a7c0f9e162bce33576b315ececbb6406837bf51f5)

/-- Whoever holds the third publisher's key, or a key on another curve, is taken for the first
publisher. -/
theorem hiddenKey_impersonates :
    (withHiddenKey thirdKey).identity = some thirdPublisher ∧
      peerMeshIdentity [(withHiddenKey thirdKey).toDer] = some firstPublisher ∧
      (withHiddenKey ecdsaKey).identity = none ∧
      peerMeshIdentity [(withHiddenKey ecdsaKey).toDer] = some firstPublisher := by
  decide +kernel

end Certificate

end MeshProtocol
