import Wimsey.Cli.Keygen
import Wimsey.Cli.Sign
import Wimsey.Issuance.Contract
import Wimsey.Wpt.RoundTrip

/-!
# The token commands

The model of `run_wit` and `run_wpt` of `crates/cli/src/main.rs`, less `wit
inspect`.  A command that prints a token is the token, and one that prints a
JSON object is the values in it.

`wit_issue_verify` follows an identity token from `wit issue` to `wit verify`,
and `wpt_new_verify` adds the proof that `wpt new` makes for it, up to `wpt
verify`.  Both say exactly when the tokens are accepted, and that nothing else
is printed for them.
-/

namespace Wimsey.Cli

open Wimsey.RustStd Wimsey.Codec Wimsey.Serde Wimsey.Jose
open Wimsey.Identifier (WorkloadIdentifier)
open Wimsey.Wit (WitClaims)
open Wimsey.Wpt (WptClaims Sha2)

/-! ## The arguments -/

/-- The arguments of `wit issue`. -/
structure WitIssueArgs where
  issuerKey : Str
  sub : Str
  iss : Option Str
  cnfKey : Str
  ttl : UInt64
  kid : Option Str
  jti : Option Str
  now : Option UInt64

/-- The arguments of `wit verify`. -/
structure WitVerifyArgs where
  issuerJwk : Str
  token : Option Str
  tokenFile : Option Str
  expectedIss : Option Str
  now : Option UInt64

/-- The arguments of `wpt new`. -/
structure WptNewArgs where
  popKey : Str
  wit : Str
  aud : Str
  ttl : UInt64
  jti : Option Str
  now : Option UInt64

/-- The arguments of `wpt verify`. -/
structure WptVerifyArgs where
  issuerJwk : Str
  wit : Str
  aud : Str
  proof : Str
  expectedIss : Option Str
  now : Option UInt64

/-- The time of a command: the one that was given, or the present. -/
def timeOf [Os] (now : Option UInt64) : UInt64 := now.getD Os.nowUnix

/-- The claims of the token that `wit issue` makes. -/
def WitIssueArgs.claims (args : WitIssueArgs) (sub : WorkloadIdentifier)
    (iat exp : UInt64) (jti : Str) (jwk : Jwk) : WitClaims :=
  { iss := args.iss.map Str.trim
    sub := sub
    iat := some iat
    exp := exp
    jti := some jti
    cnf := { jwk := jwk } }

/-- The claims of the proof that `wpt new` makes. -/
def WptNewArgs.claims [Base64] [Sha2] (args : WptNewArgs) (exp : UInt64)
    (jti : Str) : WptClaims :=
  { aud := Str.trim args.aud
    exp := exp
    jti := jti
    wth := Wpt.witThumbprint (Str.trim args.wit)
    tth := none
    oth := none }

/-- `read_token`. -/
def readToken [Os] : Option Str → Option Str → Outcome CommandError Str
  | some token, _ => .ok (Str.trim token)
  | none, some path => do
      let bytes ← Outcome.okOr .io (Os.read path)
      -- `read_to_string` fails where the bytes are not text.
      let text ← Outcome.okOr .io (Str.fromUtf8 bytes)
      .ok (Str.trim text)
  | none, none => .err (.cli (.message "provide --token or --token-file"))

/-- How the commands verify an identity token. -/
def witValidation (now : UInt64) (expectedIss : Option Str) : Wit.Validation :=
  match expectedIss with
  | some iss => (Wit.Validation.at now).expectIssuer (Str.trim iss)
  | none => Wit.Validation.at now

/-! ## The commands -/

section Commands

variable [Base64] [SerdeJson] [Ed25519] [P256] [Os]

/-- `run_wit`, for `wit issue`: the token that it prints. -/
def runWitIssue [GetRandom] (args : WitIssueArgs) :
    Outcome CommandError Str := do
  let issuerFile ← Outcome.mapErr .cli (load args.issuerKey)
  let issuer ← Outcome.mapErr .cli issuerFile.signingKey
  let cnfFile ← Outcome.mapErr .cli (load args.cnfKey)
  let cnf ← Outcome.mapErr .cli cnfFile.verifyingKey
  let iat := timeOf args.now
  let exp ← Outcome.okOr (.cli (.message "ttl overflows the expiry time"))
      (checkedAdd iat args.ttl)
  let sub ← Outcome.mapErr .identifier (Identifier.parse (Str.trim args.sub))
  let jti ← Outcome.mapErr .cli ((args.jti.map Outcome.ok).getD randomId)
  let jwk ← Jwk.fromVerifyingKey cnf
  let claims := args.claims sub iat exp jti jwk
  Outcome.mapErr (fun e => .cli (.wit e)) (Wit.issue claims args.kid issuer)

/-- `run_wit`, for `wit verify`: the key identifier and the claims that it
prints. -/
def runWitVerify (args : WitVerifyArgs) :
    Outcome CommandError (Option Str × WitClaims) := do
  let file ← Outcome.mapErr .cli (load args.issuerJwk)
  let key ← Outcome.mapErr .cli file.verifyingKey
  let token ← readToken args.token args.tokenFile
  let verified ← Outcome.mapErr (fun e => .cli (.wit e))
    (Wit.verify token key (witValidation (timeOf args.now) args.expectedIss))
  .ok (verified.kid, verified.claims)

variable [Sha2]

/-- `run_wpt`, for `wpt new`: the proof that it prints. -/
def runWptNew [GetRandom] (args : WptNewArgs) : Outcome CommandError Str := do
  let file ← Outcome.mapErr .cli (load args.popKey)
  let pop ← Outcome.mapErr .cli file.signingKey
  let exp ← Outcome.okOr (.cli (.message "ttl overflows the expiry time"))
    (checkedAdd (timeOf args.now) args.ttl)
  let jti ← Outcome.mapErr .cli ((args.jti.map Outcome.ok).getD randomId)
  Outcome.mapErr .wpt (Wpt.issue (args.claims exp jti) pop)

/-- `run_wpt`, for `wpt verify`: the identifier and the claims that it
prints. -/
def runWptVerify (args : WptVerifyArgs) :
    Outcome CommandError (WorkloadIdentifier × WptClaims) := do
  let wit := Str.trim args.wit
  let now := timeOf args.now
  let file ← Outcome.mapErr .cli (load args.issuerJwk)
  let issuer ← Outcome.mapErr .cli file.verifyingKey
  let verifiedWit ← Outcome.mapErr (fun e => .cli (.wit e))
    (Wit.verify wit issuer (witValidation now args.expectedIss))
  let verified ← Outcome.mapErr .wpt
    (Wpt.verify (Str.trim args.proof) verifiedWit.popKey
      (Wpt.Validation.new now (Str.trim args.aud) wit))
  .ok (verifiedWit.claims.sub, verified.claims)

end Commands

/-! ## Printed tokens -/

section Printed

variable [Base64]
  (hbase64 : Base64.URL_SAFE_NO_PAD.Lawful Rfc4648.urlSafeAlphabet)

include hbase64

/-- There is no whitespace in a compact token. -/
theorem noBlank_compact (header claims signature : Bytes) : ∀ c ∈
    Base64.URL_SAFE_NO_PAD.encode header ++
      '.' :: Base64.URL_SAFE_NO_PAD.encode claims ++
      '.' :: Base64.URL_SAFE_NO_PAD.encode signature,
      Str.isWhitespace c = false := by
  have halphabet : Rfc4648.urlSafeAlphabet.all (fun c => !Str.isWhitespace c)
      = true := by
    decide +kernel
  have hencode : ∀ b, ∀ c ∈ Base64.URL_SAFE_NO_PAD.encode b,
      Str.isWhitespace c = false := by
    intro b c hc
    simpa using List.all_eq_true.1 halphabet c (hbase64.mem_alphabet b c hc)
  have hdot : Str.isWhitespace '.' = false := by decide
  intro c hc
  simp only [List.mem_append, List.mem_cons] at hc
  rcases hc with (hc | rfl | hc) | rfl | hc
  · exact hencode header c hc
  · exact hdot
  · exact hencode claims c hc
  · exact hdot
  · exact hencode signature c hc

variable [SerdeJson] [Ed25519] [P256] {key : SigningKey} {token : Str}

theorem noBlank_wit {claims : WitClaims} {kid : Option Str}
    (h : Wit.issue claims kid key = .ok token) :
    ∀ c ∈ token, Str.isWhitespace c = false := by
  simp only [Wit.issue, Outcome.bind_eq_ok_iff, Outcome.ok.injEq] at h
  obtain ⟨header, _, claims, _, rfl⟩ := h
  exact noBlank_compact hbase64 header claims _

theorem noBlank_wpt {claims : WptClaims}
    (h : Wpt.issue claims key = .ok token) :
    ∀ c ∈ token, Str.isWhitespace c = false := by
  simp only [Wpt.issue, Outcome.bind_eq_ok_iff, Outcome.ok.injEq] at h
  obtain ⟨header, _, claims, _, rfl⟩ := h
  exact noBlank_compact hbase64 header claims _

end Printed

/-- The line that a command prints for a token is trimmed to the token. -/
theorem trim_line {token : Str} (h : ∀ c ∈ token, Str.isWhitespace c = false) :
    Str.trim (token ++ ['\n']) = token := by
  have hend : Str.trimEnd (token ++ ['\n']) = Str.trimEnd token :=
    List.rdropWhile_concat_pos _ _ _ (by decide)
  rw [← Str.trim_trimEnd, hend, Str.trim_trimEnd, Str.trim_of_forall h]

/-- A token is read from a file with the output of the command that has printed
it. -/
theorem readToken_file [files : Os] {token path : Str}
    (h : ∀ c ∈ token, Str.isWhitespace c = false)
    (hread : files.read path = some (Str.asBytes (token ++ ['\n']))) :
    readToken none (some path) = .ok token := by
  rw [readToken, hread, Outcome.okOr_some, Outcome.ok_bind,
    Str.fromUtf8_asBytes, Outcome.okOr_some, Outcome.ok_bind, trim_line h]

/-! ## Identity tokens -/

/-- The time is within the lifetime. -/
def Timely (start ttl now : UInt64) : Prop :=
  start ≤ now ∧ now.toNat < start.toNat + ttl.toNat

/-- The issuer that is required, if there is one, is the one that the token was
issued for. -/
def IssuedBy (args : WitIssueArgs) (expectedIss : Option Str) : Prop :=
  ∀ iss, expectedIss = some iss → args.iss.map Str.trim = some (Str.trim iss)

section Identity

variable [Base64] [Ed25519] [P256]

/-- What `wit issue` has made at this time. -/
structure IssuedWit (start : UInt64) (args : WitIssueArgs) where
  issuer : SigningKey
  cnf : VerifyingKey
  exp : UInt64
  sub : WorkloadIdentifier
  jti : Str
  jwk : Jwk
  hexp : checkedAdd start args.ttl = some exp
  hsub : Identifier.parse (Str.trim args.sub) = .ok sub
  hjwk : jwk.toVerifyingKey = .ok cnf

/-- The claims of the token. -/
def IssuedWit.claims {start : UInt64} {args : WitIssueArgs}
    (issued : IssuedWit start args) :
    WitClaims :=
  args.claims issued.sub start issued.exp issued.jti issued.jwk

/-- The claims are accepted in their lifetime and for their issuer, with the key
of the workload. -/
theorem IssuedWit.accepts_iff {start : UInt64} {args : WitIssueArgs}
    (issued : IssuedWit start args) {now : UInt64} {expectedIss : Option Str}
    {popKey : VerifyingKey} :
    Wit.Accepts issued.claims (witValidation now expectedIss) popKey ↔
      popKey = issued.cnf ∧ Timely start args.ttl now ∧
      IssuedBy args expectedIss := by
  have hfields : (witValidation now expectedIss).now = now ∧
      (witValidation now expectedIss).leeway = 0 ∧
      (witValidation now expectedIss).expectedIssuer
      = expectedIss.map Str.trim := by
    cases expectedIss with
    | none => exact ⟨rfl, rfl, rfl⟩
    | some iss => exact ⟨rfl, rfl, rfl⟩
  obtain ⟨hnow, hleeway, hiss⟩ := hfields
  have hexp := checkedAdd_eq_some_iff.1 issued.hexp
  have htimely : Timely start args.ttl now ↔ start ≤ now ∧
      now < issued.exp := by
    rw [Timely, UInt64.lt_iff_toNat_lt, hexp]
  rw [htimely]
  constructor
  · intro h
    have hbefore := h.iat start rfl
    have hafter := h.exp
    rw [hnow, hleeway, saturatingAdd_zero] at hbefore hafter
    refine ⟨Outcome.ok.inj (h.cnf.symm.trans issued.hjwk), ⟨hbefore, hafter⟩,
      fun iss h' => ?_⟩
    exact h.iss (Str.trim iss) (by rw [hiss, h', Option.map_some])
  · rintro ⟨rfl, ⟨hbefore, hafter⟩, hissuer⟩
    exact
      { exp := by
          rw [hnow, hleeway, saturatingAdd_zero]
          exact hafter
        iat iat h := by
          obtain rfl := Option.some.inj h
          rw [hnow, hleeway, saturatingAdd_zero]
          exact hbefore
        iss iss h := by
          rw [hiss, Option.map_eq_some_iff] at h
          obtain ⟨text, htext, rfl⟩ := h
          exact hissuer text htext
        cnf := issued.hjwk }

variable [SerdeJson]

/-- A success of `wit issue` prints the token of what it has made. -/
theorem exists_issuedWit [Os] [GetRandom]
    (hbase64 : Base64.URL_SAFE_NO_PAD.Lawful Rfc4648.urlSafeAlphabet)
    (hed25519 : Ed25519.ReadsKeys) (hp256 : P256.ReadsKeys)
    {args : WitIssueArgs} {token : Str} (h : runWitIssue args = .ok token) :
    ∃ start, start = timeOf args.now ∧ ∃ issued : IssuedWit start args,
      (∃ file, load args.issuerKey = .ok file ∧
        file.signingKey = .ok issued.issuer) ∧
      (∃ file, load args.cnfKey = .ok file ∧
        file.verifyingKey = .ok issued.cnf) ∧
      Wit.issue issued.claims args.kid issued.issuer = .ok token := by
  simp only [runWitIssue, Outcome.bind_eq_ok_iff, Outcome.mapErr_eq_ok_iff,
    Outcome.okOr_eq_ok_iff] at h
  obtain ⟨issuerFile, hissuerFile, issuer, hissuer, cnfFile, hcnfFile, cnf,
    hcnf, exp, hexp, sub, hsub, jti, _, jwk, hjwk, htoken⟩ := h
  obtain ⟨jwk', hjwk', hread⟩ :=
    Jwk.exists_fromVerifyingKey (ε := CommandError) hbase64 hed25519 hp256 cnf
  obtain rfl := Outcome.ok.inj (hjwk'.symm.trans hjwk)
  exact ⟨_, rfl, ⟨issuer, cnf, exp, sub, jti, jwk', hexp, hsub, hread⟩,
    ⟨issuerFile, hissuerFile, hissuer⟩, ⟨cnfFile, hcnfFile, hcnf⟩, htoken⟩

variable [SerdeJson.Lawful]

/-- The token verifies exactly when it is short enough, in its lifetime and for
its issuer. -/
theorem verify_issuedWit
    (hbase64 : Base64.URL_SAFE_NO_PAD.Lawful Rfc4648.urlSafeAlphabet)
    {start : UInt64} {args : WitIssueArgs} {issued : IssuedWit start args}
    {token : Str} (hkey : issued.issuer.SelfVerifies)
    (htoken : Wit.issue issued.claims args.kid issued.issuer = .ok token)
    {now : UInt64} {expectedIss : Option Str} {w : Wit.VerifiedWit} :
    Wit.verify token issued.issuer.verifyingKey (witValidation now expectedIss)
      = .ok w ↔
      w = { claims := issued.claims, kid := args.kid, popKey := issued.cnf } ∧
        Str.len token ≤ Wit.MAX_TOKEN_LEN ∧ Timely start args.ttl now ∧
        IssuedBy args expectedIss := by
  rw [Wit.verify_eq_ok_iff, Wit.authenticate_issue hbase64 hkey htoken]
  simp only [Outcome.bind_eq_ok_iff, Outcome.failIf_eq_ok_iff,
    decide_eq_false_iff_not, Nat.not_lt, Outcome.ok.injEq, Prod.mk.injEq,
    exists_const]
  constructor
  · intro ⟨⟨hlen, hclaims, hkid⟩, haccepts⟩
    rw [← hclaims, issued.accepts_iff] at haccepts
    obtain ⟨hpop, htimely, hissuer⟩ := haccepts
    refine ⟨?_, hlen, htimely, hissuer⟩
    rw [hclaims, hkid, ← hpop]
  · rintro ⟨rfl, hlen, htimely, hissuer⟩
    exact ⟨⟨hlen, rfl, rfl⟩, issued.accepts_iff.2 ⟨rfl, htimely, hissuer⟩⟩

end Identity

section Commands

variable [Base64] [SerdeJson] [SerdeJson.Lawful] [Ed25519] [P256]

omit [SerdeJson.Lawful] in
/-- The key file has this public key. -/
def HasKey (files : Os) (path : Str) (key : VerifyingKey) : Prop :=
  ∃ file, load path = .ok file ∧ file.verifyingKey = .ok key

/-- The token that `wit issue` prints makes `wit verify` print its claims, with
the public key of the issuer, from the command line or from a file with the
output of the command.  It does so in the lifetime of the token and for its
issuer, if the token is not too long, and for no other time or issuer, and it
never prints anything else. -/
theorem wit_issue_verify [Os] [GetRandom]
    (hbase64 : Base64.URL_SAFE_NO_PAD.Lawful Rfc4648.urlSafeAlphabet)
    (hed25519 : Ed25519.ReadsKeys) (hp256 : P256.ReadsKeys)
    (hkey : ∀ key : SigningKey, key.SelfVerifies) {args : WitIssueArgs}
    {token : Str} (h : runWitIssue args = .ok token) :
    ∃ start, start = timeOf args.now ∧ ∃ issued : IssuedWit start args,
      (∃ file, load args.issuerKey = .ok file ∧
        file.signingKey = .ok issued.issuer) ∧
      (∃ file, load args.cnfKey = .ok file ∧
        file.verifyingKey = .ok issued.cnf) ∧
      (∀ (files : Os) (path : Str),
        files.read path = some (Str.asBytes (token ++ ['\n'])) →
        readToken none (some path) = .ok token) ∧
      ∀ (files : Os) (v : WitVerifyArgs),
        HasKey files v.issuerJwk issued.issuer.verifyingKey →
        readToken v.token v.tokenFile = .ok token →
        ∀ out, runWitVerify v = .ok out ↔
          out = (args.kid, issued.claims) ∧ Str.len token ≤ Wit.MAX_TOKEN_LEN ∧
            Timely start args.ttl (timeOf v.now) ∧
            IssuedBy args v.expectedIss := by
  obtain ⟨start, hstart, issued, hissuer, hcnf, htoken⟩ :=
    exists_issuedWit hbase64 hed25519 hp256 h
  refine ⟨start, hstart, issued, hissuer, hcnf,
    fun files path => readToken_file (noBlank_wit hbase64 htoken), ?_⟩
  intro files v ⟨jwk, hjwk, hpublic⟩ hread out
  simp only [runWitVerify, hjwk, hpublic, hread, Outcome.mapErr_ok,
    Outcome.ok_bind, Outcome.bind_eq_ok_iff, Outcome.mapErr_eq_ok_iff,
    verify_issuedWit hbase64 (hkey _) htoken]
  constructor
  · intro ⟨w, ⟨hw, haccepts⟩, hout⟩
    rw [hw] at hout
    exact ⟨(Outcome.ok.inj hout).symm, haccepts⟩
  · intro ⟨hout, haccepts⟩
    exact ⟨_, ⟨rfl, haccepts⟩, by rw [hout]⟩

end Commands

/-! ### A token that is issued and verified -/

namespace Example.Tokens

open scoped Rfc4648 P256.Keyless

def token : Str :=
  Issuance.Example.signingInput ++
    '.' :: Base64.URL_SAFE_NO_PAD.encode Issuance.Example.signature.toList

/-- The hash of the token. -/
def hash : Vector UInt8 32 :=
  #v[199, 145, 2, 185, 108, 88, 127, 116, 42, 58, 255, 29, 21, 217, 19, 249,
    157, 15, 113, 120, 178, 13, 194, 103, 229, 200, 17, 127, 198, 104, 108, 143]

def proofInput : Str :=
  ("eyJ0eXAiOiJ3cHQrand0IiwiYWxnIjoiRWREU0EifQ.eyJhdWQiOiJodHRwczovL2EuYi9jIiwiZXhwIjoxNDAsImp0" ++
    "aSI6IjEiLCJ3dGgiOiJ4NUVDdVd4WWYzUXFPdjhkRmRrVC1aMFBjWGl5RGNKbjVjZ1JmOFpvYkk4In0")

/-- The signature of the proof by the key of the seed `01 01 ... 01`. -/
def proofSignature : Vector UInt8 64 :=
  #v[17, 58, 20, 72, 111, 122, 224, 150, 164, 229, 73, 114, 160, 246, 99, 92,
    220, 8, 73, 135, 66, 151, 44, 69, 206, 79, 161, 98, 105, 161, 123, 101, 44,
    231, 136, 72, 254, 75, 43, 216, 191, 79, 174, 138, 41, 143, 65, 177, 106,
    195, 228, 73, 118, 176, 79, 191, 57, 7, 22, 51, 160, 52, 73, 1]

def proof : Str :=
  proofInput ++ '.' :: Base64.URL_SAFE_NO_PAD.encode proofSignature.toList

def proofJson : Bytes :=
  Str.asBytes ("\x7b\"aud\":\"https://a.b/c\",\"exp\":140,\"jti\":\"1\"," ++
    "\"wth\":\"x5ECuWxYf3QqOv8dFdkT-Z0PcXiyDcJn5cgRf8ZobI8\"\x7d")

def proofClaims : WptClaims :=
  { aud := "https://a.b/c"
    exp := 140
    jti := "1"
    wth := "x5ECuWxYf3QqOv8dFdkT-Z0PcXiyDcJn5cgRf8ZobI8"
    tth := none
    oth := none }

scoped instance : Ed25519 :=
  Ed25519.signingTwo Issuance.Example.signingInput Issuance.Example.signature
    proofInput proofSignature

scoped instance : Sha2 := Sha2.single token hash

scoped instance : GetRandom where
  fill := .error "unavailable"

def table : List (Json × Bytes) :=
  [(Issuance.Example.claims.serialize, Issuance.Example.claimsJson),
    (Issuance.Example.header.serialize, Issuance.Example.headerJson),
    (proofClaims.serialize, proofJson),
    (Wpt.Example.header.serialize, Wpt.Example.headerJson),
    (Keygen.file.serialize, Str.asBytes Keygen.privateText)]

noncomputable scoped instance : SerdeJson := SerdeJson.ofTable table

/-- The names of the members of an object. -/
def names : Json → List Str
  | .object members => members.map (·.1)
  | _ => []

theorem nodup_table : (table.map (·.1)).Nodup ∧ (table.map (·.2)).Nodup := by
  constructor
  · -- No two of the trees have members of the same names.
    apply List.Nodup.of_map names
    decide +kernel
  · unfold table proofJson Keygen.privateText Wpt.Example.headerJson
      Issuance.Example.headerJson Issuance.Example.claimsJson
    repeat rw [String.toList_ofList]
    decide +kernel

scoped instance : SerdeJson.Lawful := SerdeJson.ofTable_lawful nodup_table.2

@[reducible] def files : Os where
  read path :=
    if path = "key.jwk" then some (Str.asBytes Keygen.privateText) else none
  nowUnix := 0

scoped instance : Os := files

/-- The key of the issuer, and of the workload. -/
def key : SigningKey := .ed25519 ()

theorem load_key : load "key.jwk" = .ok Keygen.file := by
  have hread : Os.read "key.jwk" = some (Str.asBytes Keygen.privateText) :=
    if_pos rfl
  have hmem : (Keygen.file.serialize, Str.asBytes Keygen.privateText)
      ∈ table := by
    simp only [table, List.mem_cons, eq_self, true_or, or_true]
  have hjson : SerdeJson.fromSlice (Str.asBytes Keygen.privateText)
      = some Keygen.file.serialize :=
    fromSlice_ofTable nodup_table.2
      (p := (Keygen.file.serialize, Str.asBytes Keygen.privateText)) hmem
  exact load_of_deserialize hread hjson
    (JwkKey.deserialize_serialize Keygen.file)

theorem signingKey_file : Keygen.file.signingKey = .ok key := by
  have hkey : ∃ key, Keygen.file.signingKey = .ok key ∧
      key.algorithm = .edDsa := by decide +kernel
  obtain ⟨key, hkey, _⟩ := hkey
  rw [hkey]
  cases key with
  | ed25519 => rfl
  | p256 key => nomatch key

theorem verifyingKey_file :
    Keygen.file.verifyingKey = .ok key.verifyingKey := by
  obtain ⟨jwk, hjwk, _, hpublic⟩ := JwkKey.public_of_signingKey signingKey_file
  exact JwkKey.verifyingKey_eq_ok_iff.2 ⟨jwk, hjwk, hpublic⟩

theorem selfVerifies (key : SigningKey) : key.SelfVerifies := by
  cases key with
  | ed25519 => exact Ed25519.single_selfVerifies _ _ _
  | p256 key => nomatch key

/-- The subject is trimmed. -/
def issueArgs : WitIssueArgs where
  issuerKey := "key.jwk"
  sub := " spiffe://a.b/c "
  iss := some "i"
  cnfKey := "key.jwk"
  ttl := 50
  kid := some "k"
  jti := some "00000000000000000000000000000000"
  now := some 100

theorem issue_token :
    Wit.issue Issuance.Example.claims (some "k".toList) key = .ok token ∧
    Str.len token ≤ Wit.MAX_TOKEN_LEN := by
  have hheader : toVec (Wit.issuedHeader (some "k".toList) key).serialize
      = .ok Issuance.Example.headerJson :=
    toVec_ofTable nodup_table.1
      (p := (Issuance.Example.header.serialize, Issuance.Example.headerJson))
      (by simp only [table, List.mem_cons, eq_self, true_or, or_true])
  have hclaims : toVec Issuance.Example.claims.serialize
      = .ok Issuance.Example.claimsJson :=
    toVec_ofTable nodup_table.1
      (p := (Issuance.Example.claims.serialize, Issuance.Example.claimsJson))
      (List.mem_cons_self ..)
  have hinput : Base64.URL_SAFE_NO_PAD.encode Issuance.Example.headerJson ++
      '.' :: Base64.URL_SAFE_NO_PAD.encode Issuance.Example.claimsJson
        = Issuance.Example.signingInput := by
    unfold Issuance.Example.headerJson Issuance.Example.claimsJson
      Issuance.Example.signingInput
    repeat rw [String.toList_ofList]
    decide +kernel
  have hissue := Wit.issue_of_toVec hheader hclaims hinput
  have hsign : (key.sign (Str.asBytes Issuance.Example.signingInput)).toList
      = Issuance.Example.signature.toList :=
    Ed25519.sign_signingTwo_left _ _ _ _
  rw [hsign] at hissue
  refine ⟨hissue, ?_⟩
  unfold token Issuance.Example.signingInput
  repeat rw [String.toList_ofList]
  decide +kernel

theorem trim_token : Str.trim token = token :=
  Str.trim_of_forall (noBlank_wit Rfc4648.urlSafe_lawful issue_token.1)

theorem trim_iss : Str.trim "i" = "i" := by decide

/-- What is made for them. -/
def issued : IssuedWit 100 issueArgs where
  issuer := key
  cnf := key.verifyingKey
  exp := 150
  sub := Wit.Example.sub
  jti := "00000000000000000000000000000000"
  jwk := Wit.Example.jwk
  hexp := by decide
  hsub := by decide +kernel
  hjwk := by decide +kernel

theorem runWitIssue_args : runWitIssue issueArgs = .ok token := by
  have hjwk : (Jwk.fromVerifyingKey key.verifyingKey : Outcome CommandError Jwk)
      = .ok Wit.Example.jwk :=
    Wit.Example.fromVerifyingKey_ones _
  have hclaims : issued.claims = Issuance.Example.claims :=
    congrArg (fun iss =>
      { Issuance.Example.claims with iss := some iss }) trim_iss
  simp only [runWitIssue, Outcome.bind_eq_ok_iff, Outcome.mapErr_eq_ok_iff,
    Outcome.okOr_eq_ok_iff]
  refine ⟨Keygen.file, load_key, key, signingKey_file, Keygen.file, load_key, _,
    verifyingKey_file, 150, issued.hexp, _, issued.hsub, _, rfl, _, hjwk, ?_⟩
  show Wit.issue issued.claims _ _ = _
  rw [hclaims]
  exact issue_token.1

/-- The token is verified 20 seconds later. -/
def verifyArgs : WitVerifyArgs where
  issuerJwk := "key.jwk"
  token := some token
  tokenFile := none
  expectedIss := some "i"
  now := some 120

theorem wit_issue_verify_example : ∃ claims, runWitIssue issueArgs = .ok token ∧
    runWitVerify verifyArgs = .ok (some "k".toList, claims) := by
  have hp256 : P256.ReadsKeys := fun key => nomatch key
  obtain ⟨start, hstart, issued, ⟨issuerFile, hload, hissuer⟩, _, _, hverify⟩ :=
    wit_issue_verify Rfc4648.urlSafe_lawful (Ed25519.single_readsKeys _ _ _)
      hp256 selfVerifies runWitIssue_args
  have hkey : issued.issuer = key := by
    obtain rfl := Outcome.ok.inj (hload.symm.trans load_key)
    exact Outcome.ok.inj (hissuer.symm.trans signingKey_file)
  have hfile :
      HasKey files verifyArgs.issuerJwk issued.issuer.verifyingKey := by
    rw [hkey]
    exact ⟨Keygen.file, load_key, verifyingKey_file⟩
  have hread : readToken verifyArgs.token verifyArgs.tokenFile = .ok token :=
    congrArg Outcome.ok trim_token
  have htimely : Timely start issueArgs.ttl (timeOf verifyArgs.now) := by
    rw [hstart]
    exact ⟨by decide, by decide⟩
  have hissued : IssuedBy issueArgs verifyArgs.expectedIss := by
    rintro iss ⟨⟩
    rfl
  exact ⟨issued.claims, runWitIssue_args,
    (hverify files verifyArgs hfile hread _).2
    ⟨rfl, issue_token.2, htimely, hissued⟩⟩

end Example.Tokens

/-! ## Proofs -/

section Proofs

variable [Base64] [SerdeJson] [SerdeJson.Lawful] [Ed25519] [P256]

omit [SerdeJson] [SerdeJson.Lawful] [Ed25519] [P256] in
/-- The claims of a proof are accepted before it expires, for its audience and
with an identity token of the same hash. -/
theorem accepts_claims_iff [Sha2]
    (hbase64 : Base64.URL_SAFE_NO_PAD.Lawful Rfc4648.urlSafeAlphabet)
    {new : WptNewArgs} {exp : UInt64} {jti : Str} {now : UInt64}
    {audience wit : Str} :
    Wpt.Accepts (new.claims exp jti) (Wpt.Validation.new now audience wit) ↔
      now < exp ∧ audience = Str.trim new.aud ∧
        Sha2.digest (Str.asBytes wit)
          = Sha2.digest (Str.asBytes (Str.trim new.wit)) := by
  constructor
  · intro h
    have hlate : now < saturatingAdd exp 0 := h.exp
    rw [saturatingAdd_zero] at hlate
    exact ⟨hlate, h.aud.symm, (hbase64.encode_injective h.wth).symm⟩
  · rintro ⟨hlate, rfl, hdigest⟩
    exact Wpt.accepts_new (congrArg Base64.URL_SAFE_NO_PAD.encode hdigest.symm)
      rfl rfl rfl hlate

/-- The proof that `wpt new` prints makes `wpt verify` print its claims and the
identifier of the identity token that comes with it, once this is verified and
names the key of the proof.  It does so before the end of its lifetime, for the
audience it was made for, and with an identity token of the same hash, and for
nothing else. -/
theorem wpt_new_verify [Sha2] [Os] [GetRandom]
    (hbase64 : Base64.URL_SAFE_NO_PAD.Lawful Rfc4648.urlSafeAlphabet)
    (hkey : ∀ key : SigningKey, key.SelfVerifies) {new : WptNewArgs}
    {proof : Str} (h : runWptNew new = .ok proof) :
    ∃ start pop exp jti, start = timeOf new.now ∧
      (∃ file, load new.popKey = .ok file ∧ file.signingKey = .ok pop) ∧
      checkedAdd start new.ttl = some exp ∧ Str.trim (proof ++ ['\n']) = proof ∧
      ∀ (files : Os) (v : WptVerifyArgs) (issuer : VerifyingKey)
        (w : Wit.VerifiedWit),
        HasKey files v.issuerJwk issuer → Str.trim v.proof = proof →
        Wit.verify (Str.trim v.wit) issuer
          (witValidation (timeOf v.now) v.expectedIss) = .ok w →
        w.popKey = pop.verifyingKey →
        ∀ out, runWptVerify v = .ok out ↔
          out = (w.claims.sub, new.claims exp jti) ∧
            Str.len proof ≤ Wpt.MAX_TOKEN_LEN ∧
            timeOf v.now < exp ∧ Str.trim v.aud = Str.trim new.aud ∧
            Sha2.digest (Str.asBytes (Str.trim v.wit))
              = Sha2.digest (Str.asBytes (Str.trim new.wit)) := by
  simp only [runWptNew, Outcome.bind_eq_ok_iff, Outcome.mapErr_eq_ok_iff,
    Outcome.okOr_eq_ok_iff] at h
  obtain ⟨file, hfile, pop, hpop, exp, hexp, jti, _, hissue⟩ := h
  refine ⟨_, pop, exp, jti, rfl, ⟨file, hfile, hpop⟩, hexp,
    trim_line (noBlank_wpt hbase64 hissue), ?_⟩
  intro files v issuer w ⟨jwk, hjwk, hpublic⟩ hproof hwit hwpop out
  simp only [runWptVerify, hjwk, hpublic, hwit, hwpop, hproof,
    Outcome.mapErr_ok, Outcome.ok_bind, Outcome.bind_eq_ok_iff,
    Outcome.mapErr_eq_ok_iff,
    Wpt.verify_issue_eq_ok_iff hbase64 (hkey pop) hissue,
    accepts_claims_iff hbase64]
  constructor
  · intro ⟨proved, ⟨hclaims, haccepts⟩, hout⟩
    rw [hclaims] at hout
    exact ⟨(Outcome.ok.inj hout).symm, haccepts⟩
  · intro ⟨hout, haccepts⟩
    exact ⟨⟨new.claims exp jti⟩, ⟨rfl, haccepts⟩, by rw [hout]⟩

end Proofs

/-! ### A proof for the token -/

namespace Example.Tokens

open scoped Rfc4648 P256.Keyless

/-- The proof is for the line that `wit issue` has printed. -/
def newArgs : WptNewArgs where
  popKey := "key.jwk"
  wit := token ++ ['\n']
  aud := "https://a.b/c"
  ttl := 40
  jti := some "1"
  now := some 100

theorem trim_wit : Str.trim newArgs.wit = token :=
  trim_line (noBlank_wit Rfc4648.urlSafe_lawful issue_token.1)

theorem issue_proof : Wpt.issue proofClaims key = .ok proof ∧
    Str.len proof ≤ Wpt.MAX_TOKEN_LEN := by
  have hheader :
      toVec Wpt.Example.header.serialize = .ok Wpt.Example.headerJson :=
    toVec_ofTable nodup_table.1
      (p := (Wpt.Example.header.serialize, Wpt.Example.headerJson))
      (by simp only [table, List.mem_cons, eq_self, true_or, or_true])
  have hclaims : toVec proofClaims.serialize = .ok proofJson :=
    toVec_ofTable nodup_table.1 (p := (proofClaims.serialize, proofJson))
      (by simp only [table, List.mem_cons, eq_self, true_or, or_true])
  have hinput : Base64.URL_SAFE_NO_PAD.encode Wpt.Example.headerJson ++ '.' ::
      Base64.URL_SAFE_NO_PAD.encode proofJson = proofInput := by
    unfold Wpt.Example.headerJson proofJson proofInput
    repeat rw [String.toList_ofList]
    decide +kernel
  have hne : proofInput ≠ Issuance.Example.signingInput := by
    unfold proofInput Issuance.Example.signingInput
    repeat rw [String.toList_ofList]
    decide +kernel
  have hsign :
      (key.sign (Str.asBytes proofInput)).toList = proofSignature.toList :=
    Ed25519.sign_signingTwo_right _ _ _ _ hne
  have hissue : Wpt.issue proofClaims key = .ok proof := by
    show (Outcome.mapErr Wpt.WptError.ofJson
      (toVec Wpt.Example.header.serialize) >>= _) = _
    simp only [hheader, hclaims, Outcome.mapErr_ok, Outcome.ok_bind,
      hinput, hsign]
    rfl
  refine ⟨hissue, ?_⟩
  unfold proof proofInput
  repeat rw [String.toList_ofList]
  decide +kernel

theorem runWptNew_args : runWptNew newArgs = .ok proof := by
  have hexp : checkedAdd (timeOf newArgs.now) newArgs.ttl = some 140 := by
    decide
  have hwth : Wpt.witThumbprint (Str.trim newArgs.wit) = proofClaims.wth := by
    have hdigest : Sha2.digest (Str.asBytes token) = hash.toList :=
      Sha2.digest_single token hash
    rw [trim_wit, Wpt.witThumbprint, Wpt.sha256B64u, hdigest]
    decide +kernel
  have haud : Str.trim newArgs.aud = proofClaims.aud := by decide
  have hclaims : newArgs.claims 140 "1" = proofClaims :=
    congrArg₂ (fun aud wth =>
      { proofClaims with aud := aud, wth := wth }) haud hwth
  simp only [runWptNew, Outcome.bind_eq_ok_iff, Outcome.mapErr_eq_ok_iff,
    Outcome.okOr_eq_ok_iff]
  refine ⟨Keygen.file, load_key, key, signingKey_file, 140, hexp, _, rfl, ?_⟩
  rw [hclaims]
  exact issue_proof.1

/-- The proof is verified 20 seconds later, with the token. -/
def proofArgs : WptVerifyArgs where
  issuerJwk := "key.jwk"
  wit := token
  aud := "https://a.b/c"
  proof := proof
  expectedIss := some "i"
  now := some 120

theorem verify_token :
    Wit.verify (Str.trim proofArgs.wit) key.verifyingKey
        (witValidation (timeOf proofArgs.now) proofArgs.expectedIss) = .ok
      { claims := Issuance.Example.claims
        kid := some "k"
        popKey := key.verifyingKey } := by
  have htrim : Str.trim proofArgs.wit = token := trim_token
  rw [htrim]
  refine Wit.verify_of_issue Rfc4648.urlSafe_lawful (selfVerifies key)
    issue_token.1 issue_token.2 ?_
  exact
    { exp := by decide
      iat := by
        rintro iat ⟨⟩
        decide
      iss := by
        rintro iss ⟨⟩
        exact congrArg some trim_iss.symm
      cnf := issued.hjwk }

theorem wpt_new_verify_example : ∃ claims, runWptNew newArgs = .ok proof ∧
    runWptVerify proofArgs = .ok (Wit.Example.sub, claims) := by
  obtain ⟨start, pop, exp, jti, hstart, ⟨popFile, hload, hpop⟩, hexp, _,
      hverify⟩ :=
    wpt_new_verify Rfc4648.urlSafe_lawful selfVerifies runWptNew_args
  have hkey : key = pop := by
    obtain rfl := Outcome.ok.inj (hload.symm.trans load_key)
    exact Outcome.ok.inj (signingKey_file.symm.trans hpop)
  have hfile : HasKey files proofArgs.issuerJwk key.verifyingKey :=
    ⟨Keygen.file, load_key, verifyingKey_file⟩
  have hproof : Str.trim proofArgs.proof = proof :=
    Str.trim_of_forall (noBlank_wpt Rfc4648.urlSafe_lawful issue_proof.1)
  have hlate : timeOf proofArgs.now < exp := by
    rw [hstart] at hexp
    have hsum : checkedAdd (timeOf newArgs.now) newArgs.ttl = some 140 := by
      decide
    rw [← Option.some.inj (hsum.symm.trans hexp)]
    decide
  have hdigest : Sha2.digest (Str.asBytes (Str.trim proofArgs.wit))
      = Sha2.digest (Str.asBytes (Str.trim newArgs.wit)) :=
    congrArg (fun text => Sha2.digest (Str.asBytes text))
      (trim_token.trans trim_wit.symm)
  exact ⟨newArgs.claims exp jti, runWptNew_args,
    (hverify files proofArgs key.verifyingKey _ hfile hproof verify_token
      (congrArg SigningKey.verifyingKey hkey) _).2
        ⟨rfl, issue_proof.2, hlate, rfl, hdigest⟩⟩

end Example.Tokens

end Wimsey.Cli
