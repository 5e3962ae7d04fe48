import Wimsey.Identifier.Grammar
import Wimsey.Mtls.Interop

/-!
# Issued certificates verify

`verify_certified` says what `verify` does with a certificate and the CA that
issued it: only the time and the subjectAltName are left to decide.
`verify_other_algorithm` says what it does with a CA of the other algorithm.

The octets that `spki` puts in front of a key are DER, which is `spkiDer_eq`,
and a signature is the same after rcgen has taken it and x509-parser has handed
it out, which is `CaKey.exists_sign`.
-/

namespace Wimsey.Mtls

open Wimsey.RustStd Wimsey.Asn1 Wimsey.Jose
open Wimsey.Identifier (WorkloadIdentifier)

/-! ## Keys -/

theorem expectedSignatureOid_injective :
    Function.Injective expectedSignatureOid := by
  intro a b h
  cases a <;> cases b <;> first | rfl | exact absurd h (by decide)

section Keys

variable [Ed25519] [P256]

/-- A public key, as rcgen certifies it. -/
def keyData (publicKey : VerifyingKey) : PublicKeyData where
  derBytes := publicKey.toRawBytes
  algorithm :=
    match publicKey.algorithm with
    | .es256 => .pkcsEcdsaP256Sha256
    | .edDsa => .pkcsEd25519

/-- What the code puts in front of a key is the DER of its algorithm. -/
theorem spkiDer_eq (hp256 : P256.ReadsPoints) (publicKey : VerifyingKey) :
    spkiDer publicKey = (keyData publicKey).infoDer := by
  cases publicKey with
  | ed25519 key =>
    have hlen : (Ed25519.verifyingKeyToBytes key).toList.length = 32 := by simp
    have hhead : (SignatureAlgorithm.pkcsEd25519.keyIdentifierDer).length
        = 7 := by decide
    have hder :=
      Der.sequence_bitString_of_lt
        SignatureAlgorithm.pkcsEd25519.keyIdentifierDer
      (Ed25519.verifyingKeyToBytes key).toList (by omega)
    rw [hlen, hhead] at hder
    exact hder.symm
  | p256 key =>
    have hlen : (P256.sec1PointBytes key).length = 65 := (hp256 key).1
    have hhead :
        (SignatureAlgorithm.pkcsEcdsaP256Sha256.keyIdentifierDer).length
        = 21 := by decide
    have hder := Der.sequence_bitString_of_lt
      SignatureAlgorithm.pkcsEcdsaP256Sha256.keyIdentifierDer
        (P256.sec1PointBytes key) (by omega)
    rw [hlen, hhead] at hder
    exact hder.symm

theorem length_toRawBytes_le (hp256 : P256.ReadsPoints)
    (publicKey : VerifyingKey) :
    publicKey.toRawBytes.length ≤ 65 := by
  cases publicKey with
  | ed25519 key => simp [VerifyingKey.toRawBytes]
  | p256 key => exact Nat.le_of_eq (hp256 key).1

theorem spki_eq [Rcgen] [X509] (hinterop : Interop) (hp256 : P256.ReadsPoints)
    (publicKey : VerifyingKey) : spki publicKey = .ok (keyData publicKey) := by
  have hlen : (keyData publicKey).derBytes.length ≤ 65 :=
    length_toRawBytes_le hp256 publicKey
  rw [spki, spkiDer_eq hp256, hinterop.spkiFromDer _ hlen, Outcome.okOr_some]

theorem keyAlgorithm_of_info [X509] {cert : Certificate}
    {publicKey : VerifyingKey} (h : cert.publicKey = (keyData publicKey).info) :
    keyAlgorithm cert = .ok publicKey.algorithm := by
  rw [keyAlgorithm, h]
  cases publicKey with
  | ed25519 key => exact if_pos rfl
  | p256 key =>
    have hne : OID_KEY_TYPE_EC_PUBLIC_KEY ≠ OID_SIG_ED25519 := by decide
    exact (if_neg hne).trans (if_pos rfl)

/-- An EC key names its curve. -/
theorem curve_of_info [X509] {cert : Certificate} {publicKey : VerifyingKey}
    (h : cert.publicKey = (keyData publicKey).info) :
    (publicKey.algorithm == .es256 && curve cert != some OID_EC_P256)
      = false := by
  rw [curve, h]
  cases publicKey <;> rfl

namespace CaKey

theorem toPublicKeyData_toRcgen (key : CaKey) :
    key.toRcgen.toPublicKeyData = keyData key.key.verifyingKey := by
  obtain ⟨key, _, rfl⟩ := key
  cases key <;> rfl

/-- The key signs, and the signature of fixed width is read back from what it
hands to rcgen. -/
theorem exists_sign (key : CaKey) (message : Bytes) :
    ∃ data, key.toRcgen.sign message = .ok data ∧
      fixedSignature key.key.algorithm data
        = .ok (key.key.sign message).toList := by
  obtain ⟨key, _, rfl⟩ := key
  cases key with
  | ed25519 key => exact ⟨_, rfl, rfl⟩
  | p256 key =>
    have hread :=
      ecdsaSignatureFromDer_toDer
        (P256.signatureToBytes (P256.sign key message))
    rw [ecdsaSignatureToDer_eq, Outcome.ok_bind] at hread
    refine ⟨_,
      ecdsaSignatureToDer_eq (P256.signatureToBytes (P256.sign key message)),
      ?_⟩
    show (ecdsaSignatureFromDer _ >>= _) = _
    rw [hread]
    rfl

theorem signatureOid_toRcgen (key : CaKey) :
    key.toRcgen.algorithm.signatureOid
      = expectedSignatureOid key.key.algorithm := by
  obtain ⟨key, _, rfl⟩ := key
  cases key <;> rfl

theorem signs (key : CaKey) : key.toRcgen.Signs := fun message => by
  obtain ⟨data, hdata, _⟩ := key.exists_sign message
  exact ⟨data, hdata⟩

end CaKey

end Keys

/-! ## Times -/

/-- The time can be written into a certificate. -/
def InRange [Rcgen] (unix : UInt64) : Prop := ∃ time, toTime unix = .ok time

/-- The time can be compared with those of a certificate. -/
def Representable [X509] (now : UInt64) : Prop :=
  ∃ time, asn1Time now = .ok time

/-- The time is in the window. -/
def Within (notBefore notAfter now : UInt64) : Prop :=
  notBefore ≤ now ∧ now ≤ notAfter

theorem toTime_eq_ok_iff [Rcgen] {unix : UInt64} {time : Rcgen.OffsetDateTime} :
    toTime unix = .ok time ↔
      unix.toNat < 2 ^ 63 ∧ Rcgen.fromUnixTimestamp unix.toNat = some time := by
  simp only [toTime, Outcome.bind_eq_ok_iff, Outcome.okOr_eq_ok_iff,
    i64TryFrom_eq_some_iff]
  constructor
  · rintro ⟨_, ⟨hlt, rfl⟩, htime⟩
    exact ⟨hlt, htime⟩
  · intro ⟨hlt, htime⟩
    exact ⟨_, ⟨hlt, rfl⟩, htime⟩

theorem asn1Time_eq_ok_iff [X509] {now : UInt64} {time : X509.ASN1Time} :
    asn1Time now = .ok time ↔ now.toNat < 2 ^ 63 ∧
    X509.fromTimestamp now.toNat = some time := by
  simp only [asn1Time, Outcome.bind_eq_ok_iff, Outcome.okOr_eq_ok_iff,
    i64TryFrom_eq_some_iff]
  constructor
  · rintro ⟨_, ⟨hlt, rfl⟩, htime⟩
    exact ⟨hlt, htime⟩
  · intro ⟨hlt, htime⟩
    exact ⟨_, ⟨hlt, rfl⟩, htime⟩

section Times

variable [Rcgen] [X509]

/-- A time inside a window can be compared. -/
theorem Within.representable (hinterop : Interop)
    {notBefore notAfter now : UInt64} (h : Within notBefore notAfter now)
    (hbefore : InRange notBefore) (hafter : InRange notAfter) :
    Representable now := by
  obtain ⟨a, ha⟩ := hbefore
  obtain ⟨b, hb⟩ := hafter
  obtain ⟨_, ha⟩ := toTime_eq_ok_iff.1 ha
  obtain ⟨hlt, hb⟩ := toTime_eq_ok_iff.1 hb
  have hle : notBefore.toNat ≤ now.toNat := UInt64.le_iff_toNat_le.1 h.1
  have hle' : now.toNat ≤ notAfter.toNat := UInt64.le_iff_toNat_le.1 h.2
  obtain ⟨time, htime⟩ := Option.ne_none_iff_exists'.1
    (hinterop.fromTimestamp _ now.toNat _ (Int.ofNat_le.2 hle)
      (Int.ofNat_le.2 hle') (Option.ne_none_iff_exists'.2 ⟨a, ha⟩)
      (Option.ne_none_iff_exists'.2 ⟨b, hb⟩))
  exact ⟨time, asn1Time_eq_ok_iff.2 ⟨by omega, htime⟩⟩

/-- The window of a certificate is the one that was asked for. -/
theorem Certified.isValidAt_iff (hinterop : Interop) {params : Params}
    {subject : PublicKeyData} {issuer : RcgenSigningKey} {cert : Certificate}
    (hcert : Certified params subject issuer cert)
    {notBefore notAfter now : UInt64}
    (hbefore : toTime notBefore = .ok params.notBefore)
    (hafter : toTime notAfter = .ok params.notAfter) {time : X509.ASN1Time}
    (htime : asn1Time now = .ok time) :
    X509.isValidAt cert.validity time = true ↔
    Within notBefore notAfter now := by
  have hbefore := hinterop.unixTimestamp _ _ (toTime_eq_ok_iff.1 hbefore).2
  have hafter := hinterop.unixTimestamp _ _ (toTime_eq_ok_iff.1 hafter).2
  have htime := hinterop.timestamp _ _ (asn1Time_eq_ok_iff.1 htime).2
  rw [hinterop.isValidAt, hcert.notBefore, hcert.notAfter, hbefore, hafter,
    htime, Within, UInt64.le_iff_toNat_le, UInt64.le_iff_toNat_le]
  omega

end Times

/-! ## Certificates and keys -/

/-- The one URI is the text of the identifier, which parses to it. -/
theorem uriSan_eq [X509] {leaf : Certificate} {identifier : WorkloadIdentifier}
    (h : leaf.subjectAlternativeName = .ok (some [.uri identifier.asStr])) :
    uriSan leaf = .ok identifier := by
  have hparse : Identifier.parse identifier.asStr = .ok identifier :=
    Identifier.parse_eq_ok_iff.2 identifier.parsed
  rw [uriSan, h]
  show Outcome.mapErr MtlsError.identifier (Identifier.parse identifier.asStr)
    = .ok identifier
  rw [hparse, Outcome.mapErr_ok]

section Certificates

variable [Ed25519] [P256] [Rcgen] [X509] {params : Params}
  {subject : PublicKeyData} {key : CaKey}
  {leaf cert : Certificate} {wicDer caDer : Bytes} {now : UInt64}

/-- What a CA hands out as its certificate. -/
theorem WorkloadCa.exists_certificate (hinterop : Interop) (ca : WorkloadCa) :
    ∃ cert, X509.fromDer ca.certificateDer = some ([], cert) ∧
      Certified ca.issuer.params (keyData ca.issuer.key.key.verifyingKey)
        ca.issuer.key.toRcgen cert := by
  obtain ⟨der, cert, hder, hread, hcert⟩ :=
    hinterop.selfSigned ca.issuer.params ca.issuer.key.toRcgen
      ca.issuer.key.signs
  obtain rfl := Outcome.ok.inj (hder.symm.trans ca.selfSigned)
  rw [CaKey.toPublicKeyData_toRcgen] at hcert
  exact ⟨cert, hread, hcert⟩

/-- A certificate and the CA that issued it: what is left to decide is the time
and the subjectAltName. -/
theorem verify_certified (hed25519 : Ed25519.ReadsKeys)
    (hp256 : P256.ReadsPoints) (hkey : key.key.SelfVerifies)
    (hwic : X509.fromDer wicDer = some ([], leaf))
    (hca : X509.fromDer caDer = some ([], cert))
    (hleaf : Certified params subject key.toRcgen leaf)
    (hcert : cert.publicKey = (keyData key.key.verifyingKey).info) :
    verify wicDer caDer now = (do
      let time ← asn1Time now
      Outcome.failIf (!X509.isValidAt cert.validity time || !X509.isValidAt
        leaf.validity time) .notValid
      uriSan leaf) := by
  have halgorithm := keyAlgorithm_of_info hcert
  have hcurve := curve_of_info hcert
  have hraw :=
    VerifyingKey.fromRawBytes_toRawBytes hed25519 hp256 key.key.verifyingKey
  have hdata : cert.publicKey.subjectPublicKey.data
      = key.key.verifyingKey.toRawBytes := by
    rw [hcert]
    rfl
  have hunused : cert.publicKey.subjectPublicKey.unusedBits = 0 := by
    rw [hcert]
    rfl
  rw [SigningKey.algorithm_verifyingKey] at halgorithm hcurve hraw
  obtain ⟨data, hsign, hfixed⟩ := key.exists_sign leaf.tbsCertificate.raw
  obtain rfl := Outcome.ok.inj (hsign.symm.trans hleaf.signed)
  have hwhen : Outcome.when (key.key.algorithm == .es256)
      (Outcome.failIf (curve cert != some OID_EC_P256)
        MtlsError.unsupportedAlgorithm) = .ok () := by
    rw [Outcome.when_eq_ok_iff]
    intro hes256
    rw [hes256, Bool.true_and] at hcurve
    rw [hcurve, Outcome.failIf_false]
  simp only [verify, hwic, hca, halgorithm, hwhen, hunused, hdata, hraw, hfixed,
    hleaf.outer, hleaf.inner, hleaf.wholeOctets, CaKey.signatureOid_toRcgen,
    hkey leaf.tbsCertificate.raw, Outcome.okOr_some, Outcome.ok_bind,
    Outcome.mapErr_ok, Outcome.failIf_false, List.isEmpty_nil, Bool.not_true,
    Bool.or_self, bne_self_eq_false]

/-- A certificate and a CA whose key is of the other algorithm: the signature is
not looked at. -/
theorem verify_other_algorithm {publicKey : VerifyingKey}
    (hwic : X509.fromDer wicDer = some ([], leaf))
    (hca : X509.fromDer caDer = some ([], cert))
    (hleaf : Certified params subject key.toRcgen leaf)
    (hcert : cert.publicKey = (keyData publicKey).info)
    (hother : publicKey.algorithm ≠ key.key.algorithm) :
    verify wicDer caDer now = .err .unsupportedAlgorithm := by
  have hne : (expectedSignatureOid key.key.algorithm
      != expectedSignatureOid publicKey.algorithm) = true := by
    rw [bne_iff_ne]
    exact fun h => hother (expectedSignatureOid_injective h).symm
  simp only [verify, hwic, hca, keyAlgorithm_of_info hcert, hleaf.outer,
    CaKey.signatureOid_toRcgen, hne, Outcome.okOr_some, Outcome.ok_bind,
    Outcome.failIf_false, Outcome.failIf_true, Outcome.err_bind,
    List.isEmpty_nil, Bool.not_true, Bool.or_self, Bool.true_or]

/-! ## Issuance -/

theorem WorkloadCa.exists_fromSigningKey (hinterop : Interop)
    (signingKey : SigningKey) {notBefore notAfter : UInt64}
    (hbefore : InRange notBefore) (hafter : InRange notAfter) :
    ∃ ca, fromSigningKey signingKey notBefore notAfter = .ok ca ∧
      ca.issuer.key = .new signingKey ∧
      toTime notBefore = .ok ca.issuer.params.notBefore ∧
      toTime notAfter = .ok ca.issuer.params.notAfter := by
  obtain ⟨a, ha⟩ := hbefore
  obtain ⟨b, hb⟩ := hafter
  obtain ⟨params, hparams⟩ := hinterop.newParams
  let issuer : Issuer :=
    { params :=
        { params with
          distinguishedName := distinguishedName CA_COMMON_NAME
          isCa := .caUnconstrained
          notBefore := a
          notAfter := b }
      key := .new signingKey }
  obtain ⟨der, cert, hder, _⟩ :=
    hinterop.selfSigned issuer.params _ issuer.key.signs
  refine ⟨⟨issuer, der, hder⟩, ?_, rfl, ha, hb⟩
  rw [fromSigningKey, fromKey, hparams, ha, hb]
  exact ofIssuer_eq_ok_iff.2 rfl

/-- A CA issues a certificate with the identifier, the key and the window. -/
theorem WorkloadCa.exists_issue (hinterop : Interop) (hp256 : P256.ReadsPoints)
    (ca : WorkloadCa) (identifier : WorkloadIdentifier)
    (publicKey : VerifyingKey) {notBefore notAfter : UInt64}
    (hbefore : InRange notBefore) (hafter : InRange notAfter) :
    ∃ wic params leaf, ca.issue identifier publicKey notBefore notAfter
      = .ok wic ∧
      X509.fromDer wic = some ([], leaf) ∧
      Certified params (keyData publicKey) ca.issuer.key.toRcgen leaf ∧
      toTime notBefore = .ok params.notBefore ∧
      toTime notAfter = .ok params.notAfter ∧
      leaf.subjectAlternativeName = .ok (some [.uri identifier.asStr]) := by
  obtain ⟨a, ha⟩ := hbefore
  obtain ⟨b, hb⟩ := hafter
  obtain ⟨params, hparams⟩ := hinterop.newParams
  obtain ⟨uri, huri, htext⟩ :=
    hinterop.ia5TryFrom identifier.asStr identifier.ascii
  let params : Params :=
    { params with
      distinguishedName := distinguishedName LEAF_COMMON_NAME
      subjectAltNames := [uri]
      notBefore := a
      notAfter := b
      extendedKeyUsages := [.clientAuth, .serverAuth] }
  obtain ⟨wic, leaf, hwic, hread, hleaf⟩ :=
    hinterop.signedBy params (keyData publicKey)
    ca.issuer.params _ ca.issuer.key.signs
  have hsan := hleaf.subjectAltNames (List.cons_ne_nil uri [])
  have hissue : ca.issue identifier publicKey notBefore notAfter = .ok wic := by
    rw [issue, hparams, huri, ha, hb, spki_eq hinterop hp256]
    show Outcome.mapErr MtlsError.generate (Rcgen.signedBy params _ _ _) = _
    rw [hwic, Outcome.mapErr_ok]
  refine ⟨wic, params, leaf, hissue, hread, hleaf, ha, hb, ?_⟩
  rw [hsan, ← htext]
  rfl

/-- The identifier can be read from an issued certificate without a CA. -/
theorem WorkloadCa.workloadIdentifier_issue (hinterop : Interop)
    (hp256 : P256.ReadsPoints) {ca : WorkloadCa}
    {identifier : WorkloadIdentifier} {publicKey : VerifyingKey}
    {notBefore notAfter : UInt64} (hbefore : InRange notBefore)
    (hafter : InRange notAfter) {wic : Bytes}
    (hissue : ca.issue identifier publicKey notBefore notAfter = .ok wic) :
    workloadIdentifier wic = .ok identifier := by
  obtain ⟨wic', _, leaf, hissue', hread, _, _, _, hsan⟩ :=
    ca.exists_issue hinterop hp256 identifier publicKey hbefore hafter
  obtain rfl := Outcome.ok.inj (hissue.symm.trans hissue')
  rw [workloadIdentifier, hread, Outcome.okOr_some, Outcome.ok_bind]
  exact uriSan_eq hsan

end Certificates

/-- Every CA, in whatever form its key is loaded, issues a certificate for every
identifier, key and window.  The identifier can be read from it, and it verifies
against that CA exactly inside both windows, and never against a CA of the other
algorithm. -/
theorem issued_certificate_verifies [Ed25519] [P256] [Rcgen] [X509]
    (hinterop : Interop) (hed25519 : Ed25519.ReadsKeys)
    (hp256 : P256.ReadsPoints) {caKey : SigningKey} (hkey : caKey.SelfVerifies)
    {caNotBefore caNotAfter notBefore notAfter : UInt64}
    (hcaWindow : InRange caNotBefore ∧ InRange caNotAfter)
    (hwindow : InRange notBefore ∧ InRange notAfter)
    (identifier : WorkloadIdentifier) (publicKey : VerifyingKey) :
    ∃ ca wic, WorkloadCa.fromSigningKey caKey caNotBefore caNotAfter = .ok ca ∧
      (caKey.algorithm = .edDsa →
        WorkloadCa.fromEd25519 caKey caNotBefore caNotAfter = .ok ca) ∧
      (∀ der seed, HoldsSeed der seed → caKey = .fromEd25519Seed seed →
        WorkloadCa.fromPkcs8Der der caNotBefore caNotAfter = .ok ca) ∧
      ca.issue identifier publicKey notBefore notAfter = .ok wic ∧
      workloadIdentifier wic = .ok identifier ∧
      (∀ now, Within caNotBefore caNotAfter now →
        Within notBefore notAfter now →
        verify wic ca.certificateDer now = .ok identifier) ∧
      (∀ now, Representable now →
        ¬ (Within caNotBefore caNotAfter now ∧ Within notBefore notAfter now) →
        verify wic ca.certificateDer now = .err .notValid) ∧
      ∀ other : WorkloadCa, other.issuer.key.key.algorithm ≠ caKey.algorithm →
        ∀ now,
          verify wic other.certificateDer now = .err .unsupportedAlgorithm := by
  obtain ⟨ca, hfrom, hissuer, hcaBefore, hcaAfter⟩ :=
    WorkloadCa.exists_fromSigningKey hinterop caKey hcaWindow.1 hcaWindow.2
  obtain ⟨wic, params, leaf, hissue, hwic, hleaf, hbefore, hafter, hsan⟩ :=
    ca.exists_issue hinterop hp256 identifier publicKey hwindow.1 hwindow.2
  obtain ⟨cert, hca, hcert⟩ := ca.exists_certificate hinterop
  have hself : ca.issuer.key.key.SelfVerifies := by
    rw [hissuer]
    exact hkey
  have hvalid : ∀ now time, asn1Time now = .ok time →
      (X509.isValidAt cert.validity time = true ↔
        Within caNotBefore caNotAfter now) ∧
        (X509.isValidAt leaf.validity time = true ↔
          Within notBefore notAfter now) :=
    fun now time htime =>
      ⟨hcert.isValidAt_iff hinterop hcaBefore hcaAfter htime,
      hleaf.isValidAt_iff hinterop hbefore hafter htime⟩
  refine ⟨ca, wic, hfrom, fun hedDsa => ?_,
    fun der seed hder hseed => ?_, hissue,
    WorkloadCa.workloadIdentifier_issue hinterop hp256 hwindow.1
      hwindow.2 hissue,
    fun now hnow hnow' => ?_, fun now hnow hout => ?_,
    fun other hother now => ?_⟩
  · rw [WorkloadCa.fromEd25519_eq hedDsa, hfrom]
  · rw [WorkloadCa.fromPkcs8Der_eq hder, ← hseed, hfrom]
  · obtain ⟨time, htime⟩ := hnow.representable hinterop hcaWindow.1 hcaWindow.2
    rw [verify_certified hed25519 hp256 hself hwic hca hleaf hcert.publicKey,
      htime, Outcome.ok_bind, (hvalid now time htime).1.2 hnow,
      (hvalid now time htime).2.2 hnow']
    exact uriSan_eq hsan
  · obtain ⟨time, htime⟩ := hnow
    have hbad :
        (!X509.isValidAt cert.validity time || !X509.isValidAt
          leaf.validity time)
        = true := by
      rw [← (hvalid now time htime).1, ← (hvalid now time htime).2,
        ← Bool.and_eq_true] at hout
      rw [← Bool.not_and, Bool.not_eq_true', Bool.eq_false_iff]
      exact hout
    rw [verify_certified hed25519 hp256 hself hwic hca hleaf hcert.publicKey,
      htime, Outcome.ok_bind, hbad]
    rfl
  · obtain ⟨otherCert, hotherCa, hotherCert⟩ :=
      other.exists_certificate hinterop
    refine verify_other_algorithm hwic hotherCa hleaf hotherCert.publicKey ?_
    rw [SigningKey.algorithm_verifyingKey, hissuer]
    exact hother

namespace Example

open Wimsey.Jose.Example.Raw (x y)

/-- The name of a CA or of a leaf. -/
def name (commonName : Str) : Bytes :=
  Der.sequence [Der.tlv 0x31 (Der.sequence [Der.oid [2, 5, 4, 3],
    Der.tlv 0x0c (Str.asBytes commonName)])]

/-- The octets that an ES256 CA signs. -/
def tbs (serial : Bytes) (notBefore notAfter subject : Str) (info : Bytes)
    (extensions : List Bytes) : Bytes :=
  Der.sequence [Der.tlv 0xa0 (Der.natural [2]), Der.natural serial,
    Der.sequence [Der.oid OID_SIG_ECDSA_WITH_SHA256], name CA_COMMON_NAME,
    Der.sequence [Der.tlv 0x17 (Str.asBytes notBefore),
      Der.tlv 0x17 (Str.asBytes notAfter)],
    name subject, info, Der.tlv 0xa3 (Der.sequence extensions)]

/-- The public key of the CA, with the private scalar `03 03 ... 03`.  Its
certificate is the one that `conformance/mtls/wic-es256.json` records. -/
def caData : PublicKeyData :=
  ⟨0x04 :: (x.toList ++ y.toList), .pkcsEcdsaP256Sha256⟩

/-- What the CA signs of itself.  The extensions are the subject key identifier
and the basic constraints. -/
def caTbs : Bytes :=
  tbs [80, 44, 158, 112, 98, 212, 215, 12, 20, 32, 7, 225, 21, 161, 60, 244, 14,
    190, 112, 164]
    "200913122640Z" "300317174640Z" CA_COMMON_NAME caData.infoDer
    [Der.sequence [Der.oid [2, 5, 29, 14], Der.tlv 0x04 (Der.tlv 0x04
      [223, 130, 206, 96, 128, 176, 239, 208, 141, 74, 230, 58, 34, 68, 255,
        108, 190, 169, 165, 71])],
    Der.sequence [Der.oid [2, 5, 29, 19], Der.tlv 0x01 [0xff],
      Der.tlv 0x04 (Der.sequence [Der.tlv 0x01 [0xff]])]]

def caSignature : Vector UInt8 64 :=
  #v[65, 124, 246, 249, 114, 239, 179, 23, 133, 75, 247, 171, 116, 180, 110,
    172, 249, 188, 170, 143, 221, 63, 27, 55, 44, 207, 28, 86, 135, 159, 87,
    164, 122, 205, 196, 139, 234, 153, 149, 26, 46, 1, 38, 96, 149, 34, 93, 90,
    110, 58, 92, 181, 80, 135, 253, 242, 132, 60, 149, 209, 146, 17, 140, 228]

/-- The public key of the workload, with the seed `09 09 ... 09`. -/
def workloadKey : Vector UInt8 32 :=
  #v[253, 23, 36, 56, 90, 160, 199, 91, 100, 251, 120, 205, 96, 47, 161, 217,
    145, 253, 235, 247, 107, 19, 197, 142, 215, 2, 234, 200, 53, 233, 246, 24]

def workloadData : PublicKeyData := ⟨workloadKey.toList, .pkcsEd25519⟩

/-- What the CA signs of the workload.  The extensions are the subjectAltName
and the extended key usages. -/
def leafTbs : Bytes :=
  tbs [91, 194, 152, 37, 28, 81, 50, 27, 114, 102, 231, 141, 28, 21, 28, 43, 98,
    175, 248, 203]
    "231114221320Z" "231115221320Z" LEAF_COMMON_NAME workloadData.infoDer
    [Der.sequence [Der.oid [2, 5, 29, 17],
      Der.tlv 0x04 (Der.sequence [Der.tlv 0x86
      (Str.asBytes "spiffe://example.org/workload/api")])],
    Der.sequence [Der.oid [2, 5, 29, 37], Der.tlv 0x04 (Der.sequence
      [Der.oid [1, 3, 6, 1, 5, 5, 7, 3, 2],
        Der.oid [1, 3, 6, 1, 5, 5, 7, 3, 1]])]]

def leafSignature : Vector UInt8 64 :=
  #v[184, 74, 119, 38, 195, 104, 140, 89, 145, 80, 231, 108, 23, 235, 178, 106,
    83, 138, 124, 93, 145, 2, 169, 89, 153, 221, 250, 169, 120, 88, 226, 126,
    57, 243, 69, 112, 254, 166, 195, 5, 136, 106, 50, 96, 39, 117, 13, 60, 139,
    232, 109, 200, 22, 240, 159, 171, 201, 48, 231, 187, 22, 66, 47, 249]

/-- The DER of an ECDSA signature. -/
def ecdsaDer (raw : Vector UInt8 64) : Bytes :=
  Der.sequence [Der.natural (raw.toList.take 32),
    Der.natural (raw.toList.drop 32)]

def caParams : CertificateParams Ascii Seconds where
  distinguishedName := distinguishedName CA_COMMON_NAME
  isCa := .caUnconstrained
  notBefore := ⟨1600000000, by decide⟩
  notAfter := ⟨1900000000, by decide⟩
  subjectAltNames := []
  extendedKeyUsages := []

/-- The identifier of the workload. -/
def text : Ascii where
  val := "spiffe://example.org/workload/api"
  property c hc := by
    have hall : ("spiffe://example.org/workload/api" : Str).all (·.toNat < 0x80)
        = true := by
      decide +kernel
    exact of_decide_eq_true (List.all_eq_true.1 hall c hc)

def leafParams : CertificateParams Ascii Seconds where
  distinguishedName := distinguishedName LEAF_COMMON_NAME
  isCa := .noCa
  notBefore := ⟨1700000000, by decide⟩
  notAfter := ⟨1700086400, by decide⟩
  subjectAltNames := [text]
  extendedKeyUsages := [.clientAuth, .serverAuth]

def caCert : X509Certificate Seconds :=
  certificate caParams caData .pkcsEcdsaP256Sha256 caTbs (ecdsaDer caSignature)

def leafCert : X509Certificate Seconds :=
  certificate leafParams workloadData .pkcsEcdsaP256Sha256 leafTbs
    (ecdsaDer leafSignature)

/-- The octets that are signed, for the parameters above. -/
def signed (params : CertificateParams Ascii Seconds)
    (_ : PublicKeyData) : Bytes :=
  if params.isCa = .caUnconstrained then caTbs else leafTbs

/-- The signatures of the CA. -/
def sign (message : Bytes) : Vector UInt8 64 :=
  if message = caTbs then caSignature
  else if message = leafTbs then leafSignature
  else Vector.replicate 64 0

theorem leafTbs_ne : leafTbs ≠ caTbs := by decide +kernel

theorem sign_caTbs : sign caTbs = caSignature := if_pos rfl

theorem sign_leafTbs : sign leafTbs = leafSignature :=
  (if_neg leafTbs_ne).trans (if_pos rfl)

local instance : Ed25519 :=
  Ed25519.single (Vector.replicate 32 9) workloadKey fun _ =>
    Vector.replicate 64 0

local instance : P256 := P256.single (Vector.replicate 32 3) x y sign

noncomputable local instance : Rcgen :=
  Rcgen.ofEncoding signed (encodeWith [caCert, leafCert])

noncomputable local instance : X509 :=
  X509.ofEncoding (encodeWith [caCert, leafCert])

theorem interop : Interop := interop_pair signed (by decide +kernel)

theorem toTime_eq {unix : UInt64} {time : Seconds} (h : time.val = unix.toNat) :
    toTime unix = .ok time := by
  have hrange := time.property
  exact toTime_eq_ok_iff.2 ⟨by omega, Seconds.ofInt_eq_some_iff.2 h⟩

theorem representable {now : UInt64} (h : now.toNat ≤ 253402300799) :
    Representable now := by
  have hrange : -377705116800 ≤ (now.toNat : Int) ∧
      (now.toNat : Int) ≤ 253402300799 := by omega
  exact ⟨⟨_, hrange⟩,
    asn1Time_eq_ok_iff.2 ⟨by omega, Seconds.ofInt_eq_some_iff.2 rfl⟩⟩

def caKey : SigningKey := .p256 ()

theorem toRcgen_sign (message : Bytes) :
    (CaKey.new caKey).toRcgen.sign message = .ok (ecdsaDer (sign message)) :=
  ecdsaSignatureToDer_eq (sign message)

theorem newParams_eq : Rcgen.newParams [] = .ok defaultParams := rfl

theorem fromSigningKey_eq :
    WorkloadCa.fromSigningKey caKey 1600000000 1900000000
    = WorkloadCa.ofIssuer ⟨caParams, .new caKey⟩ := by
  have hbefore : toTime 1600000000 = .ok caParams.notBefore := toTime_eq rfl
  have hafter : toTime 1900000000 = .ok caParams.notAfter := toTime_eq rfl
  simp only [WorkloadCa.fromSigningKey, WorkloadCa.fromKey, newParams_eq,
    hbefore, hafter, Outcome.mapErr_ok, Outcome.ok_bind]
  rfl

/-- The certificate of the CA. -/
theorem selfSigned_eq :
    Rcgen.selfSigned caParams (CaKey.new caKey).toRcgen
      = .ok (certificateDer caCert) := by
  have hsigned : signed caParams caData = caTbs := if_pos rfl
  show ((CaKey.new caKey).toRcgen.sign (signed caParams caData) >>= _) = _
  rw [hsigned, toRcgen_sign, sign_caTbs, Outcome.ok_bind]
  exact congrArg Outcome.ok (if_pos (List.mem_cons_self ..))

/-- The certificate of the workload. -/
theorem issue_eq {ca : WorkloadCa} (hkey : ca.issuer.key = .new caKey)
    {identifier : WorkloadIdentifier}
    (hidentifier : identifier.asStr = text.val) :
    ca.issue identifier (.ed25519 ()) 1700000000 1700086400
      = .ok (certificateDer leafCert) := by
  have hbefore : toTime 1700000000 = .ok leafParams.notBefore := toTime_eq rfl
  have hafter : toTime 1700086400 = .ok leafParams.notAfter := toTime_eq rfl
  have huri : Rcgen.ia5TryFrom text.val = some text := dif_pos text.property
  have hspki : spki (.ed25519 ()) = .ok workloadData :=
    spki_eq interop (P256.single_readsPoints _ _ _ _) _
  have hsigned : signed leafParams workloadData = leafTbs := if_neg (by decide)
  have hissued :
      Rcgen.signedBy leafParams workloadData ca.issuer.params
        (CaKey.new caKey).toRcgen
      = .ok (certificateDer leafCert) := by
    show ((CaKey.new caKey).toRcgen.sign (signed leafParams workloadData) >>=
      _) = _
    rw [hsigned, toRcgen_sign, sign_leafTbs, Outcome.ok_bind]
    exact congrArg Outcome.ok
      (if_pos (List.mem_cons_of_mem _ (List.mem_cons_self ..)))
  simp only [WorkloadCa.issue, newParams_eq, hidentifier, huri, hbefore, hafter,
    hspki, hkey, Outcome.mapErr_ok, Outcome.okOr_some, Outcome.ok_bind]
  exact congrArg (Outcome.mapErr MtlsError.generate) hissued

/-- A certificate for an Ed25519 workload from an ES256 CA. -/
theorem issued_certificate_verifies_example :
    ∃ identifier ca wic,
      Identifier.parse text.val = .ok identifier ∧
      WorkloadCa.fromSigningKey caKey 1600000000 1900000000 = .ok ca ∧
      ca.certificateDer = certificateDer caCert ∧
      ca.issue identifier (.ed25519 ()) 1700000000 1700086400 = .ok wic ∧
      wic = certificateDer leafCert ∧
      workloadIdentifier wic = .ok identifier ∧
      verify wic ca.certificateDer 1700000100 = .ok identifier ∧
      verify wic ca.certificateDer 1700086401 = .err .notValid ∧
      ∀ other : WorkloadCa, other.issuer.key.key.algorithm = .edDsa →
        verify wic other.certificateDer 1700000100
          = .err .unsupportedAlgorithm := by
  have hfields :
      Identifier.parseFields text.val = .ok ⟨text.val, .spiffe, 11⟩ := by
    decide +kernel
  obtain ⟨identifier, hparse, hid⟩ := Identifier.exists_parse hfields
  have hinRange : ∀ unix : UInt64, unix.toNat ≤ 253402300799 → InRange unix :=
    fun unix h => ⟨⟨unix.toNat, by omega⟩, toTime_eq rfl⟩
  have hkey : caKey.SelfVerifies := P256.single_selfVerifies _ _ _ _
  obtain ⟨ca, wic, hfrom, _, _, hissue, hread, hinside, houtside, hother⟩ :=
    issued_certificate_verifies interop (fun _ => if_pos rfl)
      (P256.single_readsPoints _ _ _ _) hkey
      ⟨hinRange 1600000000 (by decide), hinRange 1900000000 (by decide)⟩
      ⟨hinRange 1700000000 (by decide),
        hinRange 1700086400 (by decide)⟩ identifier (.ed25519 ())
  have hissuer : ca.issuer = ⟨caParams, .new caKey⟩ := by
    rw [fromSigningKey_eq] at hfrom
    exact WorkloadCa.ofIssuer_eq_ok_iff.1 hfrom
  have hself := ca.selfSigned
  rw [hissuer, selfSigned_eq] at hself
  have hleaf : ca.issue identifier (.ed25519 ()) 1700000000 1700086400
      = .ok (certificateDer leafCert) :=
    issue_eq (by rw [hissuer]) (congrArg Identifier.Fields.uri hid)
  rw [hissue] at hleaf
  exact ⟨identifier, ca, wic, hparse, hfrom,
    (Outcome.ok.inj hself).symm, hissue, Outcome.ok.inj hleaf, hread,
    hinside 1700000100 ⟨by decide, by decide⟩
    ⟨by decide, by decide⟩,
    houtside 1700086401 (representable (by decide)) fun h =>
      absurd h.2.2 (by decide),
    fun other h => hother other (by rw [h]; decide) _⟩

end Example

end Wimsey.Mtls
