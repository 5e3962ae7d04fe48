import Wimsey.Mtls.Wic

/-!
# What is assumed of the X.509 libraries

`Interop` says what the code relies on between rcgen and x509-parser: what the
one was asked to write is what the other reads.

The second half shows that the assumption can be met.  `Rcgen.ofEncoding` and
`X509.ofEncoding` are a writer and a reader of certificates under any encoding
that loses nothing, and `encodeWith` is such an encoding, in which a list of
certificates has the DER it really has.
-/

namespace Wimsey.Mtls

open Wimsey.RustStd Wimsey.Asn1

/-! ## The assumption -/

namespace SignatureAlgorithm

/-- The algorithm of a key, as a certificate names it. -/
def keyIdentifier : SignatureAlgorithm → AlgorithmIdentifier
  | .pkcsEd25519 => ⟨OID_SIG_ED25519, none⟩
  | .pkcsEcdsaP256Sha256 =>
      ⟨OID_KEY_TYPE_EC_PUBLIC_KEY, some (.oid OID_EC_P256)⟩

/-- The same in DER. -/
def keyIdentifierDer : SignatureAlgorithm → Bytes
  | .pkcsEd25519 => Der.sequence [Der.oid OID_SIG_ED25519]
  | .pkcsEcdsaP256Sha256 =>
      Der.sequence [Der.oid OID_KEY_TYPE_EC_PUBLIC_KEY, Der.oid OID_EC_P256]

/-- The algorithm of a signature. -/
def signatureOid : SignatureAlgorithm → Oid
  | .pkcsEd25519 => OID_SIG_ED25519
  | .pkcsEcdsaP256Sha256 => OID_SIG_ECDSA_WITH_SHA256

end SignatureAlgorithm

/-- The `SubjectPublicKeyInfo` of a key. -/
def PublicKeyData.info (data : PublicKeyData) : SubjectPublicKeyInfo :=
  ⟨data.algorithm.keyIdentifier, ⟨0, data.derBytes⟩⟩

/-- The same in DER. -/
def PublicKeyData.infoDer (data : PublicKeyData) : Bytes :=
  Der.sequence [data.algorithm.keyIdentifierDer, Der.bitString data.derBytes]

/-- The key makes a signature of every message. -/
def RcgenSigningKey.Signs (key : RcgenSigningKey) : Prop :=
  ∀ message, ∃ signature, key.sign message = .ok signature

section Libraries

variable [Rcgen] [X509]

/-- The certificate has these parameters and this key, and the issuer has signed
it. -/
structure Certified (params : Params) (subject : PublicKeyData)
    (issuer : RcgenSigningKey) (cert : Certificate) : Prop where
  signed : issuer.sign cert.tbsCertificate.raw = .ok cert.signatureValue.data
  wholeOctets : cert.signatureValue.unusedBits = 0
  outer : cert.signatureAlgorithm.algorithm = issuer.algorithm.signatureOid
  inner :
    cert.tbsCertificate.signature.algorithm = issuer.algorithm.signatureOid
  publicKey : cert.publicKey = subject.info
  notBefore : X509.timestamp cert.validity.notBefore
    = Rcgen.unixTimestamp params.notBefore
  notAfter :
    X509.timestamp cert.validity.notAfter = Rcgen.unixTimestamp params.notAfter
  subjectAltNames : params.subjectAltNames ≠ [] → cert.subjectAlternativeName
    = .ok (some (params.subjectAltNames.map fun uri =>
      .uri (Rcgen.ia5AsStr uri)))

/-- x509-parser reads what rcgen writes, and rcgen writes every ASCII URI and
every time in its range. -/
structure Interop : Prop where
  newParams : ∃ params, Rcgen.newParams [] = .ok params
  ia5TryFrom (s : Str) : (∀ c ∈ s, c.toNat < 0x80) →
    ∃ uri, Rcgen.ia5TryFrom s = some uri ∧ Rcgen.ia5AsStr uri = s
  unixTimestamp (secs : Int) (time : Rcgen.OffsetDateTime) :
    Rcgen.fromUnixTimestamp secs = some time → Rcgen.unixTimestamp time = secs
  spkiFromDer (data : PublicKeyData) : data.derBytes.length ≤ 65 →
    Rcgen.spkiFromDer data.infoDer = some data
  selfSigned (params : Params) (key : RcgenSigningKey) : key.Signs →
    ∃ der cert, Rcgen.selfSigned params key = .ok der ∧
      X509.fromDer der = some ([], cert) ∧
      Certified params key.toPublicKeyData key cert
  signedBy (params : Params) (subject : PublicKeyData) (issuer : Params)
    (key : RcgenSigningKey) :
    key.Signs → ∃ der cert, Rcgen.signedBy params subject issuer key = .ok der ∧
      X509.fromDer der = some ([], cert) ∧ Certified params subject key cert
  /-- The range of times is an interval, the same in both libraries. -/
  fromTimestamp (a secs b : Int) : a ≤ secs → secs ≤ b →
    Rcgen.fromUnixTimestamp a ≠ none →
    Rcgen.fromUnixTimestamp b ≠ none → X509.fromTimestamp secs ≠ none
  timestamp (secs : Int) (time : X509.ASN1Time) :
    X509.fromTimestamp secs = some time → X509.timestamp time = secs
  isValidAt (validity : Validity X509.ASN1Time) (time : X509.ASN1Time) :
    X509.isValidAt validity time = true ↔
      X509.timestamp validity.notBefore ≤ X509.timestamp time ∧
        X509.timestamp time ≤ X509.timestamp validity.notAfter

end Libraries

/-! ## Libraries under an encoding -/

/-- The seconds that an `OffsetDateTime` can hold, from the year -9999 to the
year 9999. -/
abbrev Seconds := {secs : Int // -377705116800 ≤ secs ∧ secs ≤ 253402300799}

def Seconds.ofInt (secs : Int) : Option Seconds :=
  if h : -377705116800 ≤ secs ∧ secs ≤ 253402300799
    then some ⟨secs, h⟩ else none

/-- A text of ASCII characters. -/
abbrev Ascii := {s : Str // ∀ c ∈ s, c.toNat < 0x80}

/-- The certificate that is asked for, with the octets that are signed. -/
def certificate (params : CertificateParams Ascii Seconds)
    (subject : PublicKeyData) (issuer : SignatureAlgorithm)
    (tbs signature : Bytes) : X509Certificate Seconds where
  tbsCertificate := ⟨tbs, ⟨issuer.signatureOid, none⟩⟩
  signatureAlgorithm := ⟨issuer.signatureOid, none⟩
  signatureValue := ⟨0, signature⟩
  publicKey := subject.info
  validity := ⟨params.notBefore, params.notAfter⟩
  subjectAlternativeName := .ok
    (if params.subjectAltNames = [] then none
    else some (params.subjectAltNames.map fun uri => .uri uri.val))

/-- A `SubjectPublicKeyInfo`, by the algorithm in it. -/
def readInfo (der : Bytes) : Option PublicKeyData :=
  [SignatureAlgorithm.pkcsEd25519, .pkcsEcdsaP256Sha256].findSome?
    fun algorithm =>
    (Slice.stripPrefix algorithm.keyIdentifierDer (der.drop 2)).map fun rest =>
      ⟨rest.drop 3, algorithm⟩

/-- `CertificateParams::default`. -/
def defaultParams : CertificateParams Ascii Seconds where
  distinguishedName := [(.commonName, "rcgen self signed cert")]
  isCa := .noCa
  notBefore := ⟨157766400, by decide⟩
  notAfter := ⟨67090982400, by decide⟩
  subjectAltNames := []
  extendedKeyUsages := []

/-- A writer of certificates. -/
@[reducible] def Rcgen.ofEncoding
    (tbs : CertificateParams Ascii Seconds → PublicKeyData → Bytes)
    (encode : X509Certificate Seconds → Bytes) : Rcgen where
  Ia5String := Ascii
  OffsetDateTime := Seconds
  ia5TryFrom s := if h : ∀ c ∈ s, c.toNat < 0x80 then some ⟨s, h⟩ else none
  ia5AsStr := Subtype.val
  fromUnixTimestamp := Seconds.ofInt
  unixTimestamp := Subtype.val
  newParams _ := .ok defaultParams
  spkiFromDer := readInfo
  selfSigned params key := do
    let signature ← key.sign (tbs params key.toPublicKeyData)
    .ok (encode (certificate params key.toPublicKeyData key.algorithm
      (tbs params key.toPublicKeyData) signature))
  signedBy params subject _ key := do
    let signature ← key.sign (tbs params subject)
    .ok (encode (certificate params subject key.algorithm (tbs params subject)
      signature))

/-- A reader of certificates. -/
@[reducible] noncomputable def X509.ofEncoding
    (encode : X509Certificate Seconds → Bytes) :
    X509 where
  ASN1Time := Seconds
  fromDer der := (Function.partialInv encode der).map fun cert => ([], cert)
  fromTimestamp := Seconds.ofInt
  timestamp := Subtype.val
  isValidAt validity time :=
    validity.notBefore ≤ time && time ≤ validity.notAfter

section Encoding

variable {encode : X509Certificate Seconds → Bytes}

theorem Seconds.ofInt_eq_some_iff {secs : Int} {time : Seconds} :
    Seconds.ofInt secs = some time ↔ time.val = secs := by
  rw [Seconds.ofInt]
  split
  · rw [Option.some.injEq, Subtype.ext_iff]
    exact eq_comm
  · rename_i h
    refine ⟨nofun, fun hsecs => absurd time.property ?_⟩
    rwa [hsecs]

theorem Seconds.ofInt_between {a secs b : Int} (ha : a ≤ secs) (hb : secs ≤ b)
    (hafrom : Seconds.ofInt a ≠ none) (hbfrom : Seconds.ofInt b ≠ none) :
    Seconds.ofInt secs ≠ none := by
  obtain ⟨a', ha'⟩ := Option.ne_none_iff_exists'.1 hafrom
  obtain ⟨b', hb'⟩ := Option.ne_none_iff_exists'.1 hbfrom
  have hlow := a'.property
  have hhigh := b'.property
  rw [Seconds.ofInt_eq_some_iff.1 ha'] at hlow
  rw [Seconds.ofInt_eq_some_iff.1 hb'] at hhigh
  have hrange : -377705116800 ≤ secs ∧ secs ≤ 253402300799 := by omega
  exact Option.ne_none_iff_exists'.2
    ⟨⟨secs, hrange⟩, Seconds.ofInt_eq_some_iff.2 rfl⟩

/-- The DER of a short key is read back. -/
theorem readInfo_infoDer {data : PublicKeyData}
    (h : data.derBytes.length ≤ 65) :
    readInfo data.infoDer = some data := by
  obtain ⟨octets, algorithm⟩ := data
  have hoctets : octets.length ≤ 65 := h
  have hlen : algorithm.keyIdentifierDer.length ≤ 21 := by
    cases algorithm <;> decide
  have hder :=
    Der.sequence_bitString_of_lt algorithm.keyIdentifierDer octets (by omega)
  have hstrip : ∀ p rest : Bytes, Slice.stripPrefix p (p ++ rest) = some rest :=
    fun p rest => by
    simp [Slice.stripPrefix]
  rw [readInfo, PublicKeyData.infoDer, hder]
  cases algorithm with
  | pkcsEd25519 => simp [hstrip]
  | pkcsEcdsaP256Sha256 =>
    have hother : ∀ rest,
        Slice.stripPrefix SignatureAlgorithm.pkcsEd25519.keyIdentifierDer
        (SignatureAlgorithm.pkcsEcdsaP256Sha256.keyIdentifierDer ++ rest)
          = none := by
      intro rest
      refine if_neg fun hprefix => ?_
      obtain ⟨_, hprefix⟩ := List.cons_prefix_cons.1 hprefix
      exact absurd (List.cons_prefix_cons.1 hprefix).1 (by decide)
    simp [hstrip, hother]

/-- The writer and the reader agree, under an encoding that loses nothing. -/
theorem interop_ofEncoding
    (tbs : CertificateParams Ascii Seconds → PublicKeyData → Bytes)
    (h : Function.Injective encode) :
    @Interop (Rcgen.ofEncoding tbs encode) (X509.ofEncoding encode) := by
  let _ := Rcgen.ofEncoding tbs encode
  let _ := X509.ofEncoding encode
  have hread : ∀ cert, X509.fromDer (encode cert) = some ([], cert) :=
    fun cert => by
    show (Function.partialInv encode (encode cert)).map _ = _
    rw [Function.partialInv_left h, Option.map_some]
  have hcertified : ∀ params subject (key : RcgenSigningKey) tbs signature,
      key.sign tbs = .ok signature →
        Certified params subject key
          (certificate params subject key.algorithm tbs signature) := by
    intro params subject key tbs signature hsign
    exact
      { signed := hsign
        wholeOctets := rfl
        outer := rfl
        inner := rfl
        publicKey := rfl
        notBefore := rfl
        notAfter := rfl
        subjectAltNames := fun hne => by
          show Outcome.ok (if _ then _ else _) = _
          rw [if_neg hne]
          rfl }
  exact
    { newParams := ⟨_, rfl⟩
      ia5TryFrom := fun s hs => ⟨⟨s, hs⟩, dif_pos hs, rfl⟩
      unixTimestamp := fun secs time => Seconds.ofInt_eq_some_iff.1
      spkiFromDer := fun data => readInfo_infoDer
      selfSigned := fun params key hsigns => by
        obtain ⟨signature, hsign⟩ := hsigns (tbs params key.toPublicKeyData)
        exact ⟨_, _, Outcome.bind_of_ok hsign, hread _,
          hcertified _ _ _ _ _ hsign⟩
      signedBy := fun params subject _ key hsigns => by
        obtain ⟨signature, hsign⟩ := hsigns (tbs params subject)
        exact ⟨_, _, Outcome.bind_of_ok hsign, hread _,
          hcertified _ _ _ _ _ hsign⟩
      fromTimestamp := fun a secs b => Seconds.ofInt_between
      timestamp := fun secs time => Seconds.ofInt_eq_some_iff.1
      isValidAt := fun validity time => by
        show (decide _ && decide _) = true ↔ _
        rw [Bool.and_eq_true, decide_eq_true_eq, decide_eq_true_eq]
        rfl }

end Encoding

/-! ## An encoding with given certificates -/

theorem toNat_char_injective : Function.Injective Char.toNat := by
  intro c d h
  rw [← Char.ofNat_toNat c, h, Char.ofNat_toNat]

instance countable_char : Countable Char := toNat_char_injective.countable

deriving instance Countable for Outcome, Any, AlgorithmIdentifier, BitString,
  SubjectPublicKeyInfo, GeneralName, Validity, TbsCertificate, X509Certificate

/-- The DER of a certificate, from the octets that are signed and the
signature. -/
def certificateDer (cert : X509Certificate Seconds) : Bytes :=
  Der.sequence [cert.tbsCertificate.raw,
    Der.sequence [Der.oid cert.signatureAlgorithm.algorithm],
    Der.bitString cert.signatureValue.data]

/-- The certificates of the list have their DER, and every other one a
number. -/
noncomputable def encodeWith (certs : List (X509Certificate Seconds))
    (cert : X509Certificate Seconds) : Bytes :=
  if cert ∈ certs then certificateDer cert
  else List.replicate
    ((exists_injective_nat (X509Certificate Seconds)).choose cert) 0

theorem encodeWith_injective {certs : List (X509Certificate Seconds)}
    (h : ∀ a ∈ certs, ∀ b ∈ certs, certificateDer a = certificateDer b →
      a = b) :
    Function.Injective (encodeWith certs) := by
  have hindex := (exists_injective_nat (X509Certificate Seconds)).choose_spec
  have hne : ∀ cert n, certificateDer cert ≠ List.replicate n 0 := by
    intro cert n heq
    have hmem : (0x30 : UInt8) ∈ List.replicate n 0 := by
      rw [← heq]
      exact List.mem_cons_self ..
    exact absurd (List.eq_of_mem_replicate hmem) (by decide)
  intro a b hab
  unfold encodeWith at hab
  split at hab
  · rename_i ha
    split at hab
    · rename_i hb
      exact h a ha b hb hab
    · exact absurd hab (hne a _)
  · split at hab
    · exact absurd hab.symm (hne b _)
    · have hlen := congrArg List.length hab
      rw [List.length_replicate, List.length_replicate] at hlen
      exact hindex hlen

/-- The writer and the reader agree about two certificates with different
DER. -/
theorem interop_pair
    (tbs : CertificateParams Ascii Seconds → PublicKeyData → Bytes)
    {first second : X509Certificate Seconds}
    (hdistinct : certificateDer first ≠ certificateDer second) :
    @Interop (Rcgen.ofEncoding tbs (encodeWith [first, second]))
      (X509.ofEncoding (encodeWith [first, second])) := by
  refine interop_ofEncoding tbs (encodeWith_injective ?_)
  intro a ha b hb hab
  simp only [List.mem_cons, List.not_mem_nil, or_false] at ha hb
  rcases ha with rfl | rfl <;> rcases hb with rfl | rfl
  · rfl
  · exact absurd hab hdistinct
  · exact absurd hab.symm hdistinct
  · rfl

end Wimsey.Mtls
