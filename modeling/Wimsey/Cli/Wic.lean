import Wimsey.Cli.Pem
import Wimsey.Mtls.RoundTrip

/-!
# The certificate commands

The model of `run_wic` of `crates/cli/src/main.rs`.  A command that writes files
is the list of what it hands to `emit`, in its order, and one that prints a JSON
object is the value in it.

`wic_issue_verify` follows a certificate from `wic issue` through the files to
`wic verify`.  Whatever keys the two algorithms have, it is accepted exactly in
the time that both lifetimes leave, with the identifier that was asked for.
-/

namespace Wimsey.Cli

open Wimsey.RustStd Wimsey.Codec Wimsey.Serde Wimsey.Jose Wimsey.Mtls
open Wimsey.Identifier (WorkloadIdentifier)

/-! ## The functions -/

/-- A call of `emit`: the content, and the file that it goes to. -/
structure Emission where
  content : Str
  out : Option Str

/-- The arguments of `wic issue`. -/
structure WicIssueArgs where
  caKey : Str
  key : Str
  sub : Str
  ttl : UInt64
  caTtl : UInt64
  caOut : Option Str
  out : Option Str
  now : Option UInt64

/-- The arguments of `wic verify`. -/
structure WicVerifyArgs where
  cert : Str
  ca : Str
  now : Option UInt64

/-- The time at which the certificate starts. -/
def WicIssueArgs.time [Os] (args : WicIssueArgs) : UInt64 :=
  args.now.getD Os.nowUnix

/-- The time at which the certificate is checked. -/
def WicVerifyArgs.time [Os] (args : WicVerifyArgs) : UInt64 :=
  args.now.getD Os.nowUnix

section Commands

variable [Base64] [SerdeJson] [Ed25519] [P256]

omit [SerdeJson] [Ed25519] [P256] in
/-- The file for the certificate of the CA, if there is one. -/
def emitCa (args : WicIssueArgs) (der : Bytes) :
    Outcome CommandError (List Emission) :=
  match args.caOut with
  | some path => do
      let text ← pem "CERTIFICATE" der
      .ok [⟨text, some path⟩]
  | none => .ok []

/-- `run_wic`, for `wic issue`. -/
def runWicIssue [Rcgen] [Os] (args : WicIssueArgs) :
    Outcome CommandError (List Emission) := do
  let caFile ← Outcome.mapErr .cli (load args.caKey)
  let caKey ← Outcome.mapErr .cli caFile.signingKey
  let file ← Outcome.mapErr .cli (load args.key)
  let workload ← Outcome.mapErr .cli file.verifyingKey
  let nbf := args.time
  let naf ← Outcome.okOr (.cli (.message "ttl overflows the expiry time"))
    (checkedAdd nbf args.ttl)
  let caNaf ← Outcome.okOr (.cli (.message "ca-ttl overflows the expiry time"))
    (checkedAdd nbf args.caTtl)
  let ca ← Outcome.mapErr .mtls (WorkloadCa.fromSigningKey caKey nbf caNaf)
  let identifier ←
    Outcome.mapErr .identifier (Identifier.parse (Str.trim args.sub))
  let wic ← Outcome.mapErr .mtls (ca.issue identifier workload nbf naf)
  let first ← emitCa args ca.certificateDer
  let text ← pem "CERTIFICATE" wic
  .ok (first ++ [⟨text, args.out⟩])

omit [SerdeJson] in
/-- `run_wic`, for `wic verify`: the `sub` that it prints. -/
def runWicVerify [X509] [Os] (args : WicVerifyArgs) :
    Outcome CommandError Str := do
  let wic ← readCertificate args.cert
  let ca ← readCertificate args.ca
  let identifier ← Outcome.mapErr .mtls (verify wic ca args.time)
  .ok identifier.asStr

end Commands

/-! ## Issuing -/

section Issue

variable [Base64] [SerdeJson] [Ed25519] [P256] [Rcgen] [Os]

omit [Base64] [SerdeJson] [Os] in
theorem inRange_of_fromSigningKey {key : SigningKey}
    {notBefore notAfter : UInt64} {ca : WorkloadCa}
    (h : WorkloadCa.fromSigningKey key notBefore notAfter = .ok ca) :
    InRange notBefore ∧ InRange notAfter := by
  simp only [WorkloadCa.fromSigningKey, WorkloadCa.fromKey,
    Outcome.bind_eq_ok_iff] at h
  obtain ⟨_, _, a, ha, b, hb, _⟩ := h
  exact ⟨⟨a, ha⟩, ⟨b, hb⟩⟩

omit [Base64] [SerdeJson] [Os] in
theorem inRange_of_issue {ca : WorkloadCa} {identifier : WorkloadIdentifier}
    {publicKey : VerifyingKey} {notBefore notAfter : UInt64} {wic : Bytes}
    (h : ca.issue identifier publicKey notBefore notAfter = .ok wic) :
    InRange notBefore ∧ InRange notAfter := by
  simp only [WorkloadCa.issue, Outcome.bind_eq_ok_iff] at h
  obtain ⟨_, _, _, _, a, ha, b, hb, _⟩ := h
  exact ⟨⟨a, ha⟩, ⟨b, hb⟩⟩

omit [Base64] [SerdeJson] [Os] in
/-- What `wic issue` has made at this time. -/
structure Issued (start : UInt64) (args : WicIssueArgs) where
  caKey : SigningKey
  workload : VerifyingKey
  naf : UInt64
  caNaf : UInt64
  ca : WorkloadCa
  identifier : WorkloadIdentifier
  wic : Bytes
  hnaf : checkedAdd start args.ttl = some naf
  hcaNaf : checkedAdd start args.caTtl = some caNaf
  hca : WorkloadCa.fromSigningKey caKey start caNaf = .ok ca
  hidentifier : Identifier.parse (Str.trim args.sub) = .ok identifier
  hwic : ca.issue identifier workload start naf = .ok wic

omit [SerdeJson] [Ed25519] [P256] [Rcgen] [Os] in
/-- The certificate of the CA goes to the file that was named for it, and
nowhere else. -/
theorem emitCa_eq
    (hbase64 : Base64.STANDARD.Lawful (Rfc4648.standardAlphabet ++ ['=']))
    (args : WicIssueArgs) (der : Bytes) :
    emitCa args der = .ok (args.caOut.toList.map fun path =>
      ⟨pemText "CERTIFICATE" (Base64.STANDARD.encode der), some path⟩) := by
  unfold emitCa
  cases args.caOut with
  | none => rfl
  | some path =>
    show (pem "CERTIFICATE" der >>= _) = _
    rw [pem_eq hbase64, Outcome.ok_bind]
    rfl

omit [SerdeJson] [Os] in
/-- The certificates, as they are handed out. -/
def Issued.emissions {start : UInt64} {args : WicIssueArgs}
    (issued : Issued start args) :
    List Emission :=
  (args.caOut.toList.map fun path =>
    ⟨pemText "CERTIFICATE" (Base64.STANDARD.encode issued.ca.certificateDer),
      some path⟩) ++
    [⟨pemText "CERTIFICATE" (Base64.STANDARD.encode issued.wic), args.out⟩]

/-- A success of `wic issue` hands out the certificates of what it has made. -/
theorem exists_issued
    (hbase64 : Base64.STANDARD.Lawful (Rfc4648.standardAlphabet ++ ['=']))
    {args : WicIssueArgs} {emissions : List Emission}
    (h : runWicIssue args = .ok emissions) :
    ∃ start, start = args.time ∧
      ∃ issued : Issued start args, emissions = issued.emissions := by
  simp only [runWicIssue, emitCa_eq hbase64, pem_eq hbase64,
    Outcome.bind_eq_ok_iff, Outcome.mapErr_eq_ok_iff, Outcome.okOr_eq_ok_iff,
    Outcome.ok_bind, Outcome.ok.injEq] at h
  obtain ⟨_, _, caKey, _, _, _, workload, _, naf, hnaf, caNaf, hcaNaf, ca, hca,
    identifier, hidentifier, wic, hwic, hemissions⟩ := h
  exact ⟨_, rfl, ⟨caKey, workload, naf, caNaf, ca, identifier, wic, hnaf,
    hcaNaf, hca, hidentifier, hwic⟩, hemissions.symm⟩

/-- The command succeeds with whatever it can make of its key files. -/
theorem runWicIssue_of_issued
    (hbase64 : Base64.STANDARD.Lawful (Rfc4648.standardAlphabet ++ ['=']))
    {args : WicIssueArgs} (issued : Issued args.time args)
    {caFile file : JwkKey} (hcaFile : load args.caKey = .ok caFile)
    (hcaKey : caFile.signingKey = .ok issued.caKey)
    (hfile : load args.key = .ok file)
    (hworkload : file.verifyingKey = .ok issued.workload) :
    runWicIssue args = .ok issued.emissions := by
  simp only [runWicIssue, hcaFile, hcaKey, hfile, hworkload, issued.hnaf,
    issued.hcaNaf, issued.hca, issued.hidentifier, issued.hwic,
    emitCa_eq hbase64, pem_eq hbase64, Outcome.mapErr_ok, Outcome.okOr_some,
    Outcome.ok_bind]
  rfl

end Issue

/-! ## Verification -/

section Verify

variable [Ed25519] [P256] [Rcgen] [X509] (hinterop : Interop)
  (hed25519 : Ed25519.ReadsKeys)
  (hp256 : P256.ReadsPoints) {caKey : SigningKey} (hkey : caKey.SelfVerifies)

include hinterop hed25519 hp256 hkey

/-- A certificate of a CA verifies exactly in both windows.  At any other time
that can be compared it is not valid. -/
theorem verify_issued {caNotBefore caNotAfter notBefore notAfter : UInt64}
    {ca : WorkloadCa} {identifier : WorkloadIdentifier}
    {publicKey : VerifyingKey} {wic : Bytes}
    (hca : WorkloadCa.fromSigningKey caKey caNotBefore caNotAfter = .ok ca)
    (hwic : ca.issue identifier publicKey notBefore notAfter = .ok wic)
    (now : UInt64) :
    (verify wic ca.certificateDer now = .ok identifier ↔
      Within caNotBefore caNotAfter now ∧ Within notBefore notAfter now) ∧
    (Representable now →
      ¬ (Within caNotBefore caNotAfter now ∧ Within notBefore notAfter now) →
      verify wic ca.certificateDer now = .err .notValid) := by
  obtain ⟨hcaBefore, hcaAfter⟩ := inRange_of_fromSigningKey hca
  obtain ⟨hbefore, hafter⟩ := inRange_of_issue hwic
  obtain ⟨_, hfrom, hissuer, htimes⟩ :=
    WorkloadCa.exists_fromSigningKey hinterop caKey hcaBefore hcaAfter
  obtain rfl := Outcome.ok.inj (hca.symm.trans hfrom)
  obtain ⟨_, params, leaf, hissue, hread, hleaf, hleafBefore,
      hleafAfter, hsan⟩ :=
    ca.exists_issue hinterop hp256 identifier publicKey hbefore hafter
  obtain rfl := Outcome.ok.inj (hwic.symm.trans hissue)
  obtain ⟨cert, hreadCa, hcert⟩ := ca.exists_certificate hinterop
  have hself : ca.issuer.key.key.SelfVerifies := by
    rw [hissuer]
    exact hkey
  have hverify : verify wic ca.certificateDer now = _ :=
    verify_certified hed25519 hp256 hself hread hreadCa hleaf hcert.publicKey
  cases htime : asn1Time now with
  | ok time =>
    have hvalid := hcert.isValidAt_iff hinterop htimes.1 htimes.2 htime
    have hvalid' := hleaf.isValidAt_iff hinterop hleafBefore hleafAfter htime
    rw [hverify, htime, Outcome.ok_bind, uriSan_eq hsan]
    by_cases hboth : Within caNotBefore caNotAfter now ∧
      Within notBefore notAfter now
    · rw [hvalid.2 hboth.1, hvalid'.2 hboth.2]
      exact ⟨⟨fun _ => hboth, fun _ => rfl⟩, fun _ hout => absurd hboth hout⟩
    · have hbad :
          (!X509.isValidAt cert.validity time || !X509.isValidAt
            leaf.validity time)
          = true := by
        rw [← hvalid, ← hvalid', ← Bool.and_eq_true] at hboth
        rw [← Bool.not_and, Bool.not_eq_true', Bool.eq_false_iff]
        exact hboth
      rw [hbad, Outcome.failIf_true, Outcome.err_bind]
      exact ⟨⟨fun h => (by cases h), fun h => absurd h hboth⟩, fun _ _ => rfl⟩
  | err e =>
    have hnot : ¬ Representable now := by
      rintro ⟨time, h⟩
      rw [htime] at h
      cases h
    rw [hverify, htime, Outcome.err_bind]
    refine ⟨⟨fun h => (by cases h), fun h => ?_⟩, fun h => absurd h hnot⟩
    exact absurd (h.1.representable hinterop hcaBefore hcaAfter) hnot
  | panic =>
    have hnot : ¬ Representable now := by
      rintro ⟨time, h⟩
      rw [htime] at h
      cases h
    rw [hverify, htime]
    refine ⟨⟨fun h => (by cases h), fun h => ?_⟩, fun h => absurd h hnot⟩
    exact absurd (h.1.representable hinterop hcaBefore hcaAfter) hnot

/-- What `wic verify` prints for the certificates, once it has read them. -/
theorem runWicVerify_issued [Base64] [Os] {v : WicVerifyArgs}
    {caNotBefore caNotAfter notBefore notAfter : UInt64} {ca : WorkloadCa}
    {identifier : WorkloadIdentifier} {publicKey : VerifyingKey} {wic : Bytes}
    (hca : WorkloadCa.fromSigningKey caKey caNotBefore caNotAfter = .ok ca)
    (hwic : ca.issue identifier publicKey notBefore notAfter = .ok wic)
    (hreadCa : readCertificate v.ca = .ok ca.certificateDer)
    (hreadWic : readCertificate v.cert = .ok wic) :
    (runWicVerify v = .ok identifier.asStr ↔
      Within caNotBefore caNotAfter v.time ∧ Within notBefore notAfter v.time) ∧
    (Representable v.time →
      ¬ (Within caNotBefore caNotAfter v.time ∧
        Within notBefore notAfter v.time) →
      runWicVerify v = .err (.mtls .notValid)) := by
  obtain ⟨hiff, hout⟩ :=
    verify_issued hinterop hed25519 hp256 hkey hca hwic v.time
  have hrun : runWicVerify v = (do
      let identifier ← Outcome.mapErr CommandError.mtls
          (verify wic ca.certificateDer v.time)
      .ok identifier.asStr) := by
    simp only [runWicVerify, hreadCa, hreadWic, Outcome.ok_bind]
  rw [hrun]
  refine ⟨⟨fun h => ?_, fun h => ?_⟩, fun htime hnot => ?_⟩
  · simp only [Outcome.bind_eq_ok_iff, Outcome.mapErr_eq_ok_iff,
      Outcome.ok.injEq] at h
    obtain ⟨other, hother, htext⟩ := h
    -- The text of an identifier parses to it, so that there is no other one
    -- with the text.
    have hparse : Identifier.parse other.asStr = .ok other :=
      Identifier.parse_eq_ok_iff.2 other.parsed
    have hparse' : Identifier.parse identifier.asStr = .ok identifier :=
      Identifier.parse_eq_ok_iff.2 identifier.parsed
    rw [htext, hparse'] at hparse
    obtain rfl := Outcome.ok.inj hparse
    exact hiff.1 hother
  · rw [hiff.2 h, Outcome.mapErr_ok, Outcome.ok_bind]
  · rw [hout htime hnot]
    rfl

end Verify

/-! ## From one command to the other -/

/-- The file holds the text, behind other lines and before anything else. -/
def Holds (files : Os) (path text : Str) : Prop :=
  ∃ before after, Preamble before ∧
    files.read path = some (Str.asBytes (before ++ text ++ after))

/-- The two certificates that `wic issue` hands out make `wic verify` print the
identifier that was asked for, in any files and with any other text around them.
It does so from the time of issue until the first of the two lifetimes ends, and
never at another time. -/
theorem wic_issue_verify [Base64] [SerdeJson] [Ed25519] [P256] [Rcgen]
    [X509] [Os] (hinterop : Interop) (hed25519 : Ed25519.ReadsKeys)
    (hp256 : P256.ReadsPoints) (hkey : ∀ key : SigningKey, key.SelfVerifies)
    (hbase64 : Base64.STANDARD.Lawful (Rfc4648.standardAlphabet ++ ['=']))
    {args : WicIssueArgs} {emissions : List Emission}
    (h : runWicIssue args = .ok emissions) :
    ∃ start caText wicText identifier, start = args.time ∧
      Identifier.parse (Str.trim args.sub) = .ok identifier ∧
      emissions =
          (args.caOut.toList.map fun path => ⟨caText, some path⟩) ++
            [⟨wicText, args.out⟩] ∧
      ∀ (files : Os) (v : WicVerifyArgs), Holds files v.ca caText →
        Holds files v.cert wicText →
        let now := @WicVerifyArgs.time files v
        let inside := start ≤ now ∧ now.toNat ≤ start.toNat + args.ttl.toNat ∧
          now.toNat ≤ start.toNat + args.caTtl.toNat
        (@runWicVerify _ _ _ _ files v = .ok identifier.asStr ↔ inside) ∧
        (Representable now → ¬ inside →
          @runWicVerify _ _ _ _ files v = .err (.mtls .notValid)) := by
  obtain ⟨start, hstart, issued, hemissions⟩ := exists_issued hbase64 h
  refine ⟨start, _, _, issued.identifier, hstart, issued.hidentifier,
    hemissions, ?_⟩
  have hinside : ∀ now, Within start issued.caNaf now ∧
      Within start issued.naf now ↔
      start ≤ now ∧ now.toNat ≤ start.toNat + args.ttl.toNat ∧
        now.toNat ≤ start.toNat + args.caTtl.toNat := by
    have hnaf := checkedAdd_eq_some_iff.1 issued.hnaf
    have hcaNaf := checkedAdd_eq_some_iff.1 issued.hcaNaf
    intro now
    simp only [Within, UInt64.le_iff_toNat_le]
    omega
  rintro files v ⟨_, _, hbefore, hread⟩ ⟨_, _, hbefore', hread'⟩
  have hrun :=
    @runWicVerify_issued _ _ _ _ hinterop hed25519 hp256 _
      (hkey issued.caKey) _ files v
    _ _ _ _ _ _ _ _ issued.hca issued.hwic
    (@readCertificate_pem _ hbase64 files _ _ _ _ hbefore hread)
    (@readCertificate_pem _ hbase64 files _ _ _ _ hbefore' hread')
  rw [hinside] at hrun
  exact hrun

/-! ## A certificate of an ES256 CA -/

namespace Example.Wic

open Wimsey.Asn1
open Wimsey.Jose.Example.Raw (x y)
open Wimsey.Mtls.Example (tbs caData leafTbs leafSignature leafParams leafCert
  text workloadKey ecdsaDer)

/-- What the CA signs of itself, when its certificate starts with that of the
workload. -/
def caTbs : Bytes :=
  tbs [80, 44, 158, 112, 98, 212, 215, 12, 20, 32, 7, 225, 21, 161, 60, 244, 14,
    190, 112, 164]
    "231114221320Z" "300317174640Z" CA_COMMON_NAME caData.infoDer
    [Der.sequence [Der.oid [2, 5, 29, 14], Der.tlv 0x04 (Der.tlv 0x04
      [223, 130, 206, 96, 128, 176, 239, 208, 141, 74, 230, 58, 34, 68, 255,
        108, 190, 169, 165, 71])],
    Der.sequence [Der.oid [2, 5, 29, 19], Der.tlv 0x01 [0xff],
      Der.tlv 0x04 (Der.sequence [Der.tlv 0x01 [0xff]])]]

/-- The signature of it by the private scalar `03 03 ... 03`. -/
def caSignature : Vector UInt8 64 :=
  #v[131, 31, 61, 86, 216, 160, 208, 9, 198, 48, 164, 207, 49, 128, 115, 91,
    229, 7, 110, 205, 177, 227, 91, 106, 102, 23, 31, 105, 236, 41, 102, 197,
    142, 229, 60, 122, 117, 222, 162, 63, 140, 33, 91, 2, 3, 204, 97, 122, 212,
    178, 95, 223, 174, 183, 92, 2, 107, 60, 107, 138, 127, 174, 88, 195]

/-- The CA starts with the certificate of the workload. -/
def caParams : CertificateParams Ascii Seconds :=
  { Mtls.Example.caParams with notBefore := leafParams.notBefore }

def caCert : X509Certificate Seconds :=
  certificate caParams caData .pkcsEcdsaP256Sha256 caTbs (ecdsaDer caSignature)

/-- The octets that are signed, for these parameters. -/
def signed (params : CertificateParams Ascii Seconds)
    (_ : PublicKeyData) : Bytes :=
  if params.isCa = .caUnconstrained then caTbs else leafTbs

/-- The signatures of the CA. -/
def sign (message : Bytes) : Vector UInt8 64 :=
  if message = caTbs then caSignature
  else if message = leafTbs then leafSignature
  else Vector.replicate 64 0

/-- The private key file of the CA. -/
def caKeyFile : Json :=
  .object (member "alg" (.str "ES256") ++ member "kty" (.str "EC") ++
    member "crv" (.str "P-256") ++
    member "x" (.str "WRq3ceu8_W2cuQlNEGUordGmnUTCwfYn8InsWLnGGt8") ++
    member "y" (.str "n05qvw0EXAxpOjxorXyXynK-ZN70om_s0mPdmKkngPA") ++
    member "d" (.str "AwMDAwMDAwMDAwMDAwMDAwMDAwMDAwMDAwMDAwMDAwM"))

def caKeyJson : Bytes :=
  Str.asBytes ("\x7b\"alg\":\"ES256\",\"kty\":\"EC\",\"crv\":\"P-256\"," ++
    "\"x\":\"WRq3ceu8_W2cuQlNEGUordGmnUTCwfYn8InsWLnGGt8\"," ++
    "\"y\":\"n05qvw0EXAxpOjxorXyXynK-ZN70om_s0mPdmKkngPA\"," ++
    "\"d\":\"AwMDAwMDAwMDAwMDAwMDAwMDAwMDAwMDAwMDAwMDAwM\"\x7d")

/-- The public key file of the workload. -/
def keyFile : Json :=
  .object (member "alg" (.str "EdDSA") ++ member "kty" (.str "OKP") ++
    member "crv" (.str "Ed25519") ++
    member "x" (.str "_RckOFqgx1tk-3jNYC-h2ZH96_drE8WO1wLqyDXp9hg"))

def keyJson : Bytes :=
  Str.asBytes ("\x7b\"alg\":\"EdDSA\",\"kty\":\"OKP\",\"crv\":\"Ed25519\"," ++
    "\"x\":\"_RckOFqgx1tk-3jNYC-h2ZH96_drE8WO1wLqyDXp9hg\"\x7d")

open scoped Rfc4648

local instance : Ed25519 :=
  Ed25519.single (Vector.replicate 32 9) workloadKey fun _ =>
    Vector.replicate 64 0

local instance : P256 := P256.single (Vector.replicate 32 3) x y sign

noncomputable local instance : Rcgen :=
  Rcgen.ofEncoding signed (encodeWith [caCert, leafCert])

noncomputable local instance : X509 :=
  X509.ofEncoding (encodeWith [caCert, leafCert])

local instance : Os where
  read path :=
    if path = "ca.jwk" then some caKeyJson
    else if path = "key.jwk" then some keyJson
    else none
  nowUnix := 1700000000

noncomputable local instance : SerdeJson :=
  SerdeJson.ofTable [(caKeyFile, caKeyJson), (keyFile, keyJson)]

theorem interop : Interop := interop_pair signed (by decide +kernel)

/-- A day for the certificate, under a CA of a few years. -/
def args : WicIssueArgs where
  caKey := "ca.jwk"
  key := "key.jwk"
  sub := " spiffe://example.org/workload/api "
  ttl := 86400
  caTtl := 200000000
  caOut := some "ca.pem"
  out := none
  now := none

theorem load_caKey :
    ∃ file caKey, load args.caKey = .ok file ∧ file.signingKey = .ok caKey := by
  have hread : Os.read args.caKey = some caKeyJson := if_pos rfl
  have hjson : SerdeJson.fromSlice caKeyJson = some caKeyFile :=
    fromSlice_ofTable (p := (caKeyFile, caKeyJson))
      (by decide +kernel) (by simp)
  have hkey : ∃ file, JwkKey.deserialize caKeyFile = .ok file ∧
      ∃ caKey, file.signingKey = .ok caKey ∧ caKey.algorithm = .es256 :=
    ⟨_, rfl, by decide +kernel⟩
  obtain ⟨file, hfile, caKey, hsigning, _⟩ := hkey
  exact ⟨file, caKey, load_of_deserialize hread hjson hfile, hsigning⟩

theorem load_key : ∃ file workload, load args.key = .ok file ∧
    file.verifyingKey = .ok workload := by
  have hread : Os.read args.key = some keyJson :=
    (if_neg (by decide)).trans (if_pos rfl)
  have hjson : SerdeJson.fromSlice keyJson = some keyFile :=
    fromSlice_ofTable (p := (keyFile, keyJson)) (by decide +kernel) (by simp)
  have hkey : ∃ file, JwkKey.deserialize keyFile = .ok file ∧
      file.verifyingKey = .ok (.ed25519 ()) :=
    ⟨_, rfl, by decide +kernel⟩
  obtain ⟨file, hfile, hverifying⟩ := hkey
  exact ⟨file, _, load_of_deserialize hread hjson hfile, hverifying⟩

theorem selfVerifies (key : SigningKey) : key.SelfVerifies := by
  cases key with
  | ed25519 _ => exact Ed25519.single_selfVerifies _ _ _
  | p256 _ => exact P256.single_selfVerifies _ _ _ _

theorem exists_emissions : ∃ emissions, runWicIssue args = .ok emissions := by
  have hfields :
      Identifier.parseFields text.val = .ok ⟨text.val, .spiffe, 11⟩ := by
    decide +kernel
  have htrim : Str.trim args.sub = text.val := by decide +kernel
  obtain ⟨identifier, hparse, _⟩ := Identifier.exists_parse hfields
  have hinRange : ∀ unix : UInt64, unix.toNat ≤ 253402300799 →
      InRange unix := by
    intro unix h
    have hrange : -377705116800 ≤ (unix.toNat : Int) ∧
        (unix.toNat : Int) ≤ 253402300799 := by omega
    exact ⟨⟨_, hrange⟩,
      toTime_eq_ok_iff.2 ⟨by omega, Seconds.ofInt_eq_some_iff.2 rfl⟩⟩
  obtain ⟨caFile, caKey, hcaFile, hcaKey⟩ := load_caKey
  obtain ⟨file, workload, hfile, hworkload⟩ := load_key
  obtain ⟨ca, hca, _⟩ := WorkloadCa.exists_fromSigningKey interop caKey
    (hinRange 1700000000 (by decide)) (hinRange 1900000000 (by decide))
  obtain ⟨wic, _, _, hwic, _⟩ :=
    ca.exists_issue interop (P256.single_readsPoints _ _ _ _) identifier
    workload (hinRange 1700000000 (by decide)) (hinRange 1700086400 (by decide))
  have hnaf : checkedAdd args.time args.ttl = some 1700086400 := by decide
  have hcaNaf : checkedAdd args.time args.caTtl = some 1900000000 := by decide
  exact ⟨_, runWicIssue_of_issued Rfc4648.standard_lawful
    ⟨caKey, workload, 1700086400, 1900000000, ca, identifier, wic, hnaf,
      hcaNaf, hca, htrim ▸ hparse, hwic⟩ hcaFile hcaKey hfile hworkload⟩

/-- The certificate verifies on the next day until its last second, with the
output of the command as it was printed. -/
theorem wic_issue_verify_example : ∃ caText wicText,
    runWicIssue args = .ok [⟨caText, some "ca.pem"⟩, ⟨wicText, none⟩] ∧
      ∀ (files : Os), files.read "ca.pem" = some (Str.asBytes caText) →
        files.read "wic.pem" = some (Str.asBytes (wicText ++ ['\n'])) →
        @runWicVerify _ _ _ _ files ⟨"wic.pem", "ca.pem", some 1700086400⟩
          = .ok text.val ∧
          @runWicVerify _ _ _ _ files ⟨"wic.pem", "ca.pem", some 1700086401⟩
            = .err (.mtls .notValid) := by
  obtain ⟨emissions, hrun⟩ := exists_emissions
  obtain ⟨start, caText, wicText, identifier, hstart, hparse, hemissions,
      hverify⟩ :=
    wic_issue_verify interop (fun _ => if_pos rfl)
      (P256.single_readsPoints _ _ _ _) selfVerifies
      Rfc4648.standard_lawful hrun
  have htrim : Str.trim args.sub = text.val := by decide +kernel
  have hid : identifier.asStr = text.val := by
    rw [htrim] at hparse
    exact Identifier.parseFields_uri (Identifier.parse_eq_ok_iff.1 hparse)
  have hrepresentable : Representable 1700086401 := by
    have hrange : -377705116800 ≤ (1700086401 : Int) ∧
        (1700086401 : Int) ≤ 253402300799 := by
      decide
    exact ⟨⟨_, hrange⟩,
      asn1Time_eq_ok_iff.2 ⟨by decide, Seconds.ofInt_eq_some_iff.2 rfl⟩⟩
  have hpreamble : Preamble [] := ⟨by decide, fun c hc => by cases hc⟩
  obtain rfl : start = 1700000000 := hstart
  refine ⟨caText, wicText, ?_, fun files hca hwic => ?_⟩
  · rw [hrun, hemissions]
    rfl
  · have hholds : Holds files "ca.pem" caText :=
      ⟨[], [], hpreamble, by simpa using hca⟩
    have hholds' : Holds files "wic.pem" wicText :=
      ⟨[], ['\n'], hpreamble, by simpa using hwic⟩
    obtain ⟨hinside, _⟩ :=
      hverify files ⟨"wic.pem", "ca.pem", some 1700086400⟩ hholds hholds'
    obtain ⟨_, hout⟩ :=
      hverify files ⟨"wic.pem", "ca.pem", some 1700086401⟩ hholds hholds'
    rw [← hid]
    have hstart : (1700000000 : UInt64) ≤ 1700086400 := by decide
    have hlast : (1700086400 : UInt64).toNat
        ≤ (1700000000 : UInt64).toNat + args.ttl.toNat := by
      decide
    have hca : (1700086400 : UInt64).toNat
        ≤ (1700000000 : UInt64).toNat + args.caTtl.toNat := by
      decide
    have hlate : ¬ (1700086401 : UInt64).toNat
        ≤ (1700000000 : UInt64).toNat + args.ttl.toNat := by
      decide
    exact ⟨hinside.2 ⟨hstart, hlast, hca⟩,
      hout hrepresentable fun h => absurd h.2.1 hlate⟩

end Example.Wic

end Wimsey.Cli
