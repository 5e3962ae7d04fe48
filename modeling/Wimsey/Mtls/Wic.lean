import Wimsey.Jose.Key
import Wimsey.Mtls.Ecdsa

/-!
# Workload identity certificates

The model of `crates/mtls/src/wic.rs`: a workload CA issues an X.509 certificate
that carries the identifier in a URI subjectAltName, and a peer verifies it
against the certificate of the CA.

rcgen writes the certificates and x509-parser reads them.  Both are parameters,
the classes `Rcgen` and `X509`.  Two types carry what their private fields keep
true: the octets of a `CaKey` are those of its key, and the certificate of a
`WorkloadCa` is the one that it signs for itself.
-/

namespace Wimsey.Mtls

open Wimsey.RustStd Wimsey.Asn1 Wimsey.Jose
open Wimsey.Identifier (WorkloadIdentifier)

/-- An object identifier, by its arcs. -/
abbrev Oid := List Nat

/-! ## rcgen -/

/-- `rcgen::SignatureAlgorithm`: the two values that the code names. -/
inductive SignatureAlgorithm where
  | pkcsEd25519
  | pkcsEcdsaP256Sha256
deriving DecidableEq, Repr

/-- `rcgen::PublicKeyData`. -/
structure PublicKeyData where
  derBytes : Bytes
  algorithm : SignatureAlgorithm
deriving DecidableEq, Repr

/-- An implementation of `rcgen::SigningKey`. -/
structure RcgenSigningKey extends PublicKeyData where
  sign : Bytes → Outcome RcgenError Bytes

/-- `rcgen::DnType`. -/
inductive DnType where
  | commonName
deriving DecidableEq, Repr

/-- `rcgen::DistinguishedName`. -/
abbrev DistinguishedName := List (DnType × Str)

/-- `rcgen::IsCa`. -/
inductive IsCa where
  | noCa
  | explicitNoCa
  | caUnconstrained
deriving DecidableEq, Repr

/-- `rcgen::ExtendedKeyUsagePurpose`. -/
inductive ExtendedKeyUsagePurpose where
  | clientAuth
  | serverAuth
deriving DecidableEq, Repr

/-- `rcgen::CertificateParams`, the fields that the code sets.  A subjectAltName
is a URI, and a time an `OffsetDateTime`. -/
structure CertificateParams (Ia5String OffsetDateTime : Type) where
  distinguishedName : DistinguishedName
  isCa : IsCa
  notBefore : OffsetDateTime
  notAfter : OffsetDateTime
  subjectAltNames : List Ia5String
  extendedKeyUsages : List ExtendedKeyUsagePurpose

/-- What the code uses of rcgen, and of the `OffsetDateTime` it takes.  A
certificate is its DER. -/
class Rcgen where
  Ia5String : Type
  OffsetDateTime : Type
  /-- `Ia5String::try_from`. -/
  ia5TryFrom : Str → Option Ia5String
  ia5AsStr : Ia5String → Str
  fromUnixTimestamp : Int → Option OffsetDateTime
  unixTimestamp : OffsetDateTime → Int
  /-- `CertificateParams::new`. -/
  newParams : List Str →
    Outcome RcgenError (CertificateParams Ia5String OffsetDateTime)
  /-- `SubjectPublicKeyInfo::from_der`. -/
  spkiFromDer : Bytes → Option PublicKeyData
  selfSigned : CertificateParams Ia5String OffsetDateTime → RcgenSigningKey →
    Outcome RcgenError Bytes
  /-- `CertificateParams::signed_by`, with the parameters and the key of the
  issuer last. -/
  signedBy : CertificateParams Ia5String OffsetDateTime → PublicKeyData →
    CertificateParams Ia5String OffsetDateTime → RcgenSigningKey →
    Outcome RcgenError Bytes

/-- The parameters of a certificate. -/
abbrev Params [Rcgen] := CertificateParams Rcgen.Ia5String Rcgen.OffsetDateTime

/-! ## x509-parser -/

/-- `der_parser`'s `Any`, the parameters of an algorithm. -/
inductive Any where
  | oid (value : Oid)
  | other (der : Bytes)
deriving DecidableEq, Repr

/-- `Any::as_oid`. -/
def Any.asOid : Any → Option Oid
  | .oid value => some value
  | .other _ => none

structure AlgorithmIdentifier where
  algorithm : Oid
  parameters : Option Any
deriving DecidableEq, Repr

structure BitString where
  unusedBits : UInt8
  data : Bytes
deriving DecidableEq, Repr

structure SubjectPublicKeyInfo where
  algorithm : AlgorithmIdentifier
  subjectPublicKey : BitString
deriving DecidableEq, Repr

inductive GeneralName where
  | uri (uri : Str)
  | other
deriving DecidableEq, Repr

structure Validity (ASN1Time : Type) where
  notBefore : ASN1Time
  notAfter : ASN1Time
deriving DecidableEq, Repr

/-- `TbsCertificate`: the octets that are signed, and the algorithm that they
name. -/
structure TbsCertificate where
  raw : Bytes
  signature : AlgorithmIdentifier
deriving DecidableEq, Repr

/-- `X509Certificate`, as far as the code reads it.  The subjectAltName is
absent in itself, and an error when the extension stands there twice. -/
structure X509Certificate (ASN1Time : Type) where
  tbsCertificate : TbsCertificate
  signatureAlgorithm : AlgorithmIdentifier
  signatureValue : BitString
  publicKey : SubjectPublicKeyInfo
  validity : Validity ASN1Time
  subjectAlternativeName : Outcome Unit (Option (List GeneralName))
deriving DecidableEq, Repr

/-- What the code uses of x509-parser. -/
class X509 where
  ASN1Time : Type
  /-- `X509Certificate::from_der`, with the input after the certificate. -/
  fromDer : Bytes → Option (Bytes × X509Certificate ASN1Time)
  /-- `ASN1Time::from_timestamp`. -/
  fromTimestamp : Int → Option ASN1Time
  timestamp : ASN1Time → Int
  isValidAt : Validity ASN1Time → ASN1Time → Bool

/-- A certificate as x509-parser reads it. -/
abbrev Certificate [X509] := X509Certificate X509.ASN1Time

def OID_SIG_ED25519 : Oid := [1, 3, 101, 112]

def OID_KEY_TYPE_EC_PUBLIC_KEY : Oid := [1, 2, 840, 10045, 2, 1]

def OID_SIG_ECDSA_WITH_SHA256 : Oid := [1, 2, 840, 10045, 4, 3, 2]

/-- `prime256v1`. -/
def OID_EC_P256 : Oid := [1, 2, 840, 10045, 3, 1, 7]

/-! ## PKCS#8 keys -/

/-- `ED25519_PKCS8_INNER`. -/
def ED25519_PKCS8_INNER : Bytes :=
  [0x30, 0x05, 0x06, 0x03, 0x2b, 0x65, 0x70, 0x04, 0x22, 0x04, 0x20]

/-- `[0x30, _, 0x02, 0x01, 0x00 | 0x01]` -/
def isPkcs8Header (header : Bytes) : Bool :=
  match header with
  | [a, _, b, c, version] =>
      a == 0x30 && b == 0x02 && c
        == 0x01 && (version == 0x00 || version == 0x01)
  | _ => false

/-- `ed25519_seed_from_pkcs8`. -/
def ed25519SeedFromPkcs8 (der : Bytes) :
    Outcome MtlsError (Vector UInt8 32) := do
  let header ← Outcome.okOr .invalidKey (Slice.getTo der 5)
  Outcome.failIf (!isPkcs8Header header) .invalidKey
  let rest ← Outcome.okOr .unsupportedAlgorithm
    ((Slice.getFrom der 5).bind fun rest =>
      Slice.stripPrefix ED25519_PKCS8_INNER rest)
  Outcome.okOr .invalidKey ((Slice.getTo rest 32).bind (tryInto 32))

theorem isPkcs8Header_iff {header : Bytes} :
    isPkcs8Header header = true ↔
      ∃ len version, header = [0x30, len, 0x02, 0x01, version] ∧
        (version = 0x00 ∨ version = 0x01) := by
  unfold isPkcs8Header
  split
  · rename_i a len b c version
    simp only [Bool.and_eq_true, Bool.or_eq_true, beq_iff_eq]
    constructor
    · rintro ⟨⟨⟨rfl, rfl⟩, rfl⟩, hversion⟩
      exact ⟨len, version, rfl, hversion⟩
    · rintro ⟨_, _, heq, hversion⟩
      simp only [List.cons.injEq, and_true] at heq
      obtain ⟨rfl, rfl, rfl, rfl, rfl⟩ := heq
      exact ⟨⟨⟨rfl, rfl⟩, rfl⟩, hversion⟩
  · rename_i h
    refine ⟨nofun, ?_⟩
    rintro ⟨len, version, rfl, _⟩
    exact absurd rfl (h _ _ _ _ _)

/-- A PKCS#8 key of either version with this seed, whatever follows it. -/
def HoldsSeed (der : Bytes) (seed : Vector UInt8 32) : Prop :=
  ∃ len version rest, (version = 0x00 ∨ version = 0x01) ∧
    der = [0x30, len, 0x02, 0x01, version] ++
      (ED25519_PKCS8_INNER ++ (seed.toList ++ rest))

theorem ed25519SeedFromPkcs8_eq_ok_iff {der : Bytes} {seed : Vector UInt8 32} :
    ed25519SeedFromPkcs8 der = .ok seed ↔ HoldsSeed der seed := by
  simp only [HoldsSeed, ed25519SeedFromPkcs8, Outcome.bind_eq_ok_iff,
    Outcome.okOr_eq_ok_iff, Outcome.failIf_eq_ok_iff, Bool.not_eq_false',
    Option.bind_eq_some_iff, isPkcs8Header_iff, Slice.getTo_eq_some_iff,
    Slice.getFrom_eq_some_iff, Slice.stripPrefix_eq_some_iff,
    tryInto_eq_some_iff]
  constructor
  · rintro ⟨_, ⟨_, tail, rfl⟩, _, ⟨len, version, rfl, hversion⟩, _,
      ⟨_, ⟨head, hhead, hder⟩, rfl⟩, _, ⟨_, rest, rfl⟩, rfl⟩
    obtain ⟨rfl, rfl⟩ := List.append_inj hder hhead.symm
    exact ⟨len, version, rest, hversion, rfl⟩
  · rintro ⟨len, version, rest, hversion, rfl⟩
    exact ⟨_, ⟨rfl, _, rfl⟩, (), ⟨len, version, rfl, hversion⟩, _,
      ⟨_, ⟨_, rfl, rfl⟩, rfl⟩, _, ⟨seed.length_toList, rest, rfl⟩, rfl⟩
/-! ## The key of a CA -/

section Model

variable [Ed25519] [P256]

/-- `CaKey`, with the octets of the public key. -/
structure CaKey where
  key : SigningKey
  publicKey : Bytes
  derived : publicKey = key.verifyingKey.toRawBytes

namespace CaKey

/-- `CaKey::new`. -/
def new (key : SigningKey) : CaKey := ⟨key, key.verifyingKey.toRawBytes, rfl⟩

/-- `CaKey::algorithm`. -/
def algorithm (key : CaKey) : SignatureAlgorithm :=
  match key.key.algorithm with
  | .es256 => .pkcsEcdsaP256Sha256
  | .edDsa => .pkcsEd25519

/-- `CaKey::sign`. -/
def sign (key : CaKey) (message : Bytes) : Outcome RcgenError Bytes :=
  let raw := key.key.sign message
  match key.key.algorithm with
  | .es256 => ecdsaSignatureToDer raw
  | .edDsa => .ok raw.toList

/-- The key, as it is presented to rcgen. -/
def toRcgen (key : CaKey) : RcgenSigningKey where
  derBytes := key.publicKey
  algorithm := key.algorithm
  sign := key.sign

end CaKey

/-! ## Public keys -/

/-- `ED25519_SPKI_PREFIX`. -/
def ED25519_SPKI_PREFIX : Bytes :=
  [0x30, 0x2a, 0x30, 0x05, 0x06, 0x03, 0x2b, 0x65, 0x70, 0x03, 0x21, 0x00]

/-- `P256_SPKI_PREFIX`. -/
def P256_SPKI_PREFIX : Bytes :=
  [0x30, 0x59, 0x30, 0x13, 0x06, 0x07, 0x2a, 0x86, 0x48, 0xce, 0x3d, 0x02, 0x01,
    0x06, 0x08, 0x2a, 0x86, 0x48, 0xce, 0x3d, 0x03, 0x01, 0x07, 0x03,
    0x42, 0x00]

/-- The `der` that `spki` builds. -/
def spkiDer (publicKey : VerifyingKey) : Bytes :=
  let raw := publicKey.toRawBytes
  match publicKey.algorithm with
  | .es256 => P256_SPKI_PREFIX ++ raw
  | .edDsa => ED25519_SPKI_PREFIX ++ raw

/-- `spki`. -/
def spki [Rcgen] (publicKey : VerifyingKey) : Outcome MtlsError PublicKeyData :=
  Outcome.okOr .invalidKey (Rcgen.spkiFromDer (spkiDer publicKey))

/-! ## Issuance -/

section Issuance

variable [Rcgen]

/-- `CA_COMMON_NAME`. -/
def CA_COMMON_NAME : Str := "wimsey workload CA"

/-- `LEAF_COMMON_NAME`. -/
def LEAF_COMMON_NAME : Str := "wimsey workload"

/-- `distinguished_name`. -/
def distinguishedName (commonName : Str) : DistinguishedName :=
  [(.commonName, commonName)]

/-- `to_time`. -/
def toTime (unix : UInt64) : Outcome MtlsError Rcgen.OffsetDateTime := do
  let secs ← Outcome.okOr .time (i64TryFrom unix)
  Outcome.okOr .time (Rcgen.fromUnixTimestamp secs)

/-- `rcgen::Issuer`. -/
structure Issuer where
  params : Params
  key : CaKey

/-- `WorkloadCa`, with its certificate. -/
structure WorkloadCa where
  issuer : Issuer
  der : Bytes
  selfSigned : Rcgen.selfSigned issuer.params issuer.key.toRcgen = .ok der

namespace WorkloadCa

/-- The last step of `from_key`: the certificate that the CA signs for
itself. -/
def ofIssuer (issuer : Issuer) : Outcome MtlsError WorkloadCa :=
  match h : Rcgen.selfSigned issuer.params issuer.key.toRcgen with
  | .ok der => .ok ⟨issuer, der, h⟩
  | .err e => .err (.generate e)
  | .panic => .panic

/-- The CA of an issuer is the one with the certificate that it signs for
itself. -/
theorem ofIssuer_eq_ok_iff {issuer : Issuer} {ca : WorkloadCa} :
    ofIssuer issuer = .ok ca ↔ ca.issuer = issuer := by
  unfold ofIssuer
  constructor
  · intro h
    split at h
    · obtain rfl := Outcome.ok.inj h
      rfl
    · cases h
    · cases h
  · rintro rfl
    split
    · rename_i der hder
      obtain rfl := Outcome.ok.inj (hder.symm.trans ca.selfSigned)
      rfl
    · rename_i herr
      cases herr.symm.trans ca.selfSigned
    · rename_i hpanic
      cases hpanic.symm.trans ca.selfSigned

/-- `WorkloadCa::from_key`. -/
def fromKey (key : CaKey) (notBefore notAfter : UInt64) :
    Outcome MtlsError WorkloadCa := do
  let params ← Outcome.mapErr .generate (Rcgen.newParams [])
  let notBefore ← toTime notBefore
  let notAfter ← toTime notAfter
  let params :=
    { params with
      distinguishedName := distinguishedName CA_COMMON_NAME
      isCa := .caUnconstrained
      notBefore := notBefore
      notAfter := notAfter }
  ofIssuer ⟨params, key⟩

/-- `WorkloadCa::from_signing_key`. -/
def fromSigningKey (signingKey : SigningKey) (notBefore notAfter : UInt64) :
    Outcome MtlsError WorkloadCa :=
  fromKey (.new signingKey) notBefore notAfter

/-- `WorkloadCa::from_pkcs8_der`. -/
def fromPkcs8Der (pkcs8Der : Bytes) (notBefore notAfter : UInt64) :
    Outcome MtlsError WorkloadCa := do
  let seed ← ed25519SeedFromPkcs8 pkcs8Der
  fromSigningKey (.fromEd25519Seed seed) notBefore notAfter

/-- A CA that is loaded from the PKCS#8 of a seed is the CA of that key. -/
theorem fromPkcs8Der_eq {der : Bytes} {seed : Vector UInt8 32}
    (h : HoldsSeed der seed) (notBefore notAfter : UInt64) :
    fromPkcs8Der der notBefore notAfter
      = fromSigningKey (.fromEd25519Seed seed) notBefore notAfter := by
  rw [fromPkcs8Der, ed25519SeedFromPkcs8_eq_ok_iff.2 h, Outcome.ok_bind]

/-- `WorkloadCa::from_ed25519`. -/
def fromEd25519 (signingKey : SigningKey) (notBefore notAfter : UInt64) :
    Outcome MtlsError WorkloadCa := do
  Outcome.failIf (signingKey.algorithm != .edDsa) .unsupportedAlgorithm
  fromSigningKey signingKey notBefore notAfter

theorem fromEd25519_eq {signingKey : SigningKey}
    (h : signingKey.algorithm = .edDsa) (notBefore notAfter : UInt64) :
    fromEd25519 signingKey notBefore notAfter
      = fromSigningKey signingKey notBefore notAfter := by
  rw [fromEd25519, h, bne_self_eq_false, Outcome.failIf_false, Outcome.ok_bind]

/-- `WorkloadCa::certificate_der`. -/
def certificateDer (ca : WorkloadCa) : Bytes := ca.der

/-- `WorkloadCa::issue`. -/
def issue (ca : WorkloadCa) (identifier : WorkloadIdentifier)
    (publicKey : VerifyingKey) (notBefore notAfter : UInt64) :
    Outcome MtlsError Bytes := do
  let params ← Outcome.mapErr .generate (Rcgen.newParams [])
  let uri ← Outcome.okOr .missingIdentifier (Rcgen.ia5TryFrom identifier.asStr)
  let notBefore ← toTime notBefore
  let notAfter ← toTime notAfter
  let params :=
    { params with
      distinguishedName := distinguishedName LEAF_COMMON_NAME
      subjectAltNames := [uri]
      notBefore := notBefore
      notAfter := notAfter
      extendedKeyUsages := [.clientAuth, .serverAuth] }
  let spki ← spki publicKey
  Outcome.mapErr .generate
    (Rcgen.signedBy params spki ca.issuer.params ca.issuer.key.toRcgen)

end WorkloadCa

end Issuance

/-! ## Verification -/

section Verification

variable [X509]

/-- `uri_san`. -/
def uriSan (cert : Certificate) : Outcome MtlsError WorkloadIdentifier := do
  let san ← Outcome.mapErr (fun _ => .parse) cert.subjectAlternativeName
  let generalNames ← Outcome.okOr .missingIdentifier san
  let uris := generalNames.filterMap fun name =>
    match name with
    | .uri uri => some uri
    | .other => none
  let uri ← Outcome.okOr .missingIdentifier uris.head?
  Outcome.failIf (!uris.tail.isEmpty) .multipleIdentifiers
  Outcome.mapErr .identifier (Identifier.parse uri)

/-- `workload_identifier`. -/
def workloadIdentifier (wicDer : Bytes) :
    Outcome MtlsError WorkloadIdentifier := do
  let (rest, cert) ← Outcome.okOr .parse (X509.fromDer wicDer)
  Outcome.failIf (!rest.isEmpty) .parse
  uriSan cert

/-- The algorithm of the key in a certificate. -/
def keyAlgorithm (cert : Certificate) : Outcome MtlsError Algorithm :=
  let oid := cert.publicKey.algorithm.algorithm
  if oid = OID_SIG_ED25519 then .ok .edDsa
  else if oid = OID_KEY_TYPE_EC_PUBLIC_KEY then .ok .es256
  else .err .unsupportedAlgorithm

/-- `expected_signature_oid`. -/
def expectedSignatureOid : Algorithm → Oid
  | .es256 => OID_SIG_ECDSA_WITH_SHA256
  | .edDsa => OID_SIG_ED25519

/-- The curve that the key in a certificate names. -/
def curve (cert : Certificate) : Option Oid :=
  cert.publicKey.algorithm.parameters.bind Any.asOid

/-- The signature of a certificate, of fixed width. -/
def fixedSignature (algorithm : Algorithm) (data : Bytes) :
    Outcome MtlsError Bytes :=
  match algorithm with
  | .es256 => do
      let raw ← ecdsaSignatureFromDer data
      .ok raw.toList
  | .edDsa => .ok data

/-- The time `now`, as x509-parser takes it. -/
def asn1Time (now : UInt64) : Outcome MtlsError X509.ASN1Time := do
  let secs ← Outcome.okOr .time (i64TryFrom now)
  Outcome.okOr .time (X509.fromTimestamp secs)

/-- `verify`. -/
def verify (wicDer caDer : Bytes) (now : UInt64) :
    Outcome MtlsError WorkloadIdentifier := do
  let (restWic, leaf) ← Outcome.okOr .parse (X509.fromDer wicDer)
  let (restCa, ca) ← Outcome.okOr .parse (X509.fromDer caDer)
  Outcome.failIf (!restWic.isEmpty || !restCa.isEmpty) .parse
  let algorithm ← keyAlgorithm ca
  Outcome.failIf (leaf.signatureAlgorithm.algorithm
    != expectedSignatureOid algorithm ||
    leaf.tbsCertificate.signature.algorithm != expectedSignatureOid algorithm)
    .unsupportedAlgorithm
  Outcome.when (algorithm == .es256)
    (Outcome.failIf (curve ca != some OID_EC_P256) .unsupportedAlgorithm)
  Outcome.failIf (ca.publicKey.subjectPublicKey.unusedBits != 0) .invalidKey
  let caKey ← Outcome.mapErr (fun _ => .invalidKey)
    (VerifyingKey.fromRawBytes algorithm ca.publicKey.subjectPublicKey.data)
  Outcome.failIf (leaf.signatureValue.unusedBits != 0) .invalidSignature
  let signature ← fixedSignature algorithm leaf.signatureValue.data
  Outcome.mapErr (fun _ => .invalidSignature)
    (caKey.verify leaf.tbsCertificate.raw signature)
  let time ← asn1Time now
  Outcome.failIf (!X509.isValidAt ca.validity time || !X509.isValidAt
    leaf.validity time) .notValid
  uriSan leaf

end Verification

end Model

end Wimsey.Mtls
