import Wimsey.Issuance.Service

/-!
# What the issuer hands out

`issueWit_eq_ok_iff` says when the handler returns a token and which one.  Such
a token verifies until it expires, under the key that the issuer publishes.
Everything else is an error: `Rejected` lists the reasons.
-/

namespace Wimsey.Issuance

open Wimsey.RustStd Wimsey.Codec Wimsey.Serde Wimsey.Jose Wimsey.Wit
open Wimsey.Identifier (WorkloadIdentifier)

section General

variable [Base64] [SerdeJson] [Ed25519] [P256] {issuer : Issuer}
  {request : IssueRequest} {iat : UInt64} {random : Option (Vector UInt8 16)}

theorem issueWit_eq_ok_iff {response : IssueResponse} :
    issueWit issuer request iat random = .ok response ↔
      ∃ sub popKey exp jti, Identifier.parse (Str.trim request.sub) = .ok sub ∧
        request.cnfJwk.toVerifyingKey = .ok popKey ∧
        request.lifetime issuer ≠ 0 ∧
        request.lifetime issuer ≤ issuer.defaultTtl ∧
        checkedAdd iat (request.lifetime issuer) = some exp ∧
        randomId random = some jti ∧
        issue (issuer.claims request sub iat exp jti) issuer.kid
          issuer.signingKey
          = .ok response.wit := by
  simp only [issueWit, Outcome.bind_eq_ok_iff, Outcome.mapErr_eq_ok_iff,
    Outcome.failIf_eq_ok_iff, Outcome.okOr_eq_ok_iff, beq_eq_false_iff_ne,
    decide_eq_false_iff_not, UInt64.not_lt, exists_const]
  constructor
  · intro ⟨sub, hsub, popKey, hkey, hzero, hmax, exp, hexp, jti, hjti, wit,
      hwit, hresponse⟩
    obtain rfl := Outcome.ok.inj hresponse
    exact ⟨sub, popKey, exp, jti, hsub, hkey, hzero, hmax, hexp, hjti, hwit⟩
  · intro ⟨sub, popKey, exp, jti, hsub, hkey, hzero, hmax, hexp, hjti, hwit⟩
    exact ⟨sub, hsub, popKey, hkey, hzero, hmax, exp, hexp, jti, hjti, _,
      hwit, rfl⟩

theorem issueWit_ne_panic : issueWit issuer request iat random ≠ .panic := by
  unfold issueWit
  apply Outcome.bind_ne_panic
    (Outcome.mapErr_ne_panic (Identifier.parse_ne_panic _))
  intro sub _
  apply Outcome.bind_ne_panic
    (Outcome.mapErr_ne_panic (Jwk.toVerifyingKey_ne_panic _))
  intro popKey _
  apply Outcome.bind_ne_panic Outcome.failIf_ne_panic
  intro _ _
  apply Outcome.bind_ne_panic Outcome.failIf_ne_panic
  intro _ _
  apply Outcome.bind_ne_panic Outcome.okOr_ne_panic
  intro exp _
  apply Outcome.bind_ne_panic Outcome.okOr_ne_panic
  intro jti _
  apply Outcome.bind_ne_panic (Outcome.mapErr_ne_panic (issue_ne_panic _ _ _))
  exact fun wit _ => nofun

/-- The reasons for which no token is issued. -/
inductive Rejected (issuer : Issuer) (request : IssueRequest) (iat : UInt64)
    (random : Option (Vector UInt8 16)) : Prop where
  | sub (h : ∃ e, Identifier.parse (Str.trim request.sub) = .err e)
  | cnfJwk (h : ∃ e, request.cnfJwk.toVerifyingKey = .err e)
  | zeroTtl (h : request.lifetime issuer = 0)
  | ttlTooLong (h : issuer.defaultTtl < request.lifetime issuer)
  | overflow (h : 2 ^ 64 ≤ iat.toNat + (request.lifetime issuer).toNat)
  | random (h : random = none)
  | header (h : SerdeJson.toVec
      (issuedHeader issuer.kid issuer.signingKey).serialize = none)
  | claims (sub : WorkloadIdentifier) (exp : UInt64) (jti : Str)
      (hsub : Identifier.parse (Str.trim request.sub) = .ok sub)
      (hexp : exp.toNat = iat.toNat + (request.lifetime issuer).toNat)
      (hjti : randomId random = some jti)
      (h : SerdeJson.toVec (issuer.claims request sub iat exp jti).serialize
        = none)

/-- No token is issued exactly for these reasons. -/
theorem issueWit_eq_err_iff :
    (∃ e, issueWit issuer request iat random = .err e) ↔
    Rejected issuer request iat random := by
  constructor
  · intro ⟨e, he⟩
    by_contra hrejected
    obtain ⟨sub, hsub⟩ : ∃ sub,
        Identifier.parse (Str.trim request.sub) = .ok sub := by
      cases h : Identifier.parse (Str.trim request.sub) with
      | ok sub => exact ⟨sub, rfl⟩
      | err e => exact absurd (.sub ⟨e, h⟩) hrejected
      | panic => exact absurd h (Identifier.parse_ne_panic _)
    obtain ⟨popKey, hkey⟩ : ∃ popKey,
        request.cnfJwk.toVerifyingKey = .ok popKey := by
      cases h : request.cnfJwk.toVerifyingKey with
      | ok popKey => exact ⟨popKey, rfl⟩
      | err e => exact absurd (.cnfJwk ⟨e, h⟩) hrejected
      | panic => exact absurd h (Jwk.toVerifyingKey_ne_panic _)
    obtain ⟨exp, hexp⟩ : ∃ exp, checkedAdd iat (request.lifetime issuer)
        = some exp := by
      apply Option.ne_none_iff_exists'.1
      exact fun h => hrejected (.overflow (checkedAdd_eq_none_iff.1 h))
    obtain ⟨jti, hjti⟩ : ∃ jti, randomId random = some jti := by
      apply Option.ne_none_iff_exists'.1
      exact fun h => hrejected (.random (Option.map_eq_none_iff.1 h))
    have hissue :=
      exists_issue_iff (issuer.claims request sub iat exp jti) issuer.kid
      issuer.signingKey
    obtain ⟨wit, hwit⟩ := hissue.2 ⟨fun h => hrejected (.header h),
      fun h => hrejected
        (.claims sub exp jti hsub (checkedAdd_eq_some_iff.1 hexp) hjti h)⟩
    have hok : issueWit issuer request iat random = .ok ⟨wit⟩ :=
      issueWit_eq_ok_iff.2 ⟨sub, popKey, exp, jti, hsub, hkey,
        fun h => hrejected (.zeroTtl h),
        UInt64.not_lt.1 fun h => hrejected (.ttlTooLong h), hexp, hjti, hwit⟩
    rw [hok] at he
    cases he
  · intro hrejected
    refine Outcome.exists_err issueWit_ne_panic fun response hok => ?_
    obtain ⟨sub, popKey, exp, jti, hsub, hkey, hzero, hmax, hexp, hjti, hwit⟩ :=
      issueWit_eq_ok_iff.1 hok
    have hserialize := (exists_issue_iff _ _ _).1 ⟨_, hwit⟩
    cases hrejected with
    | sub h =>
      obtain ⟨e, he⟩ := h
      cases hsub.symm.trans he
    | cnfJwk h =>
      obtain ⟨e, he⟩ := h
      cases hkey.symm.trans he
    | zeroTtl h => exact hzero h
    | ttlTooLong h => exact UInt64.not_lt.2 hmax h
    | overflow h => cases hexp.symm.trans (checkedAdd_eq_none_iff.2 h)
    | random h =>
      rw [h] at hjti
      cases hjti
    | header h => exact hserialize.1 h
    | claims sub' exp' jti' hsub' hexp' hjti' h =>
      obtain rfl := Outcome.ok.inj (hsub.symm.trans hsub')
      obtain rfl :=
        Option.some.inj (hexp.symm.trans (checkedAdd_eq_some_iff.2 hexp'))
      obtain rfl := Option.some.inj (hjti.symm.trans hjti')
      exact hserialize.2 h

section Contract

variable [SerdeJson.Lawful]

/-- What the issuer hands out verifies under the key it publishes, from the time
of issue until it expires, with the subject and the key that were requested.  It
expires within the lifetime of the issuer.  Nothing is handed out exactly when
the request is rejected. -/
theorem issued_token_verifies
    (hbase64 : Base64.URL_SAFE_NO_PAD.Lawful Rfc4648.urlSafeAlphabet)
    (hed25519 : Ed25519.ReadsKeys) (hp256 : P256.ReadsKeys)
    (hkey : issuer.signingKey.SelfVerifies) :
    (∀ response, issueWit issuer request iat random = .ok response →
      ∃ sub popKey exp, Identifier.parse (Str.trim request.sub) = .ok sub ∧
        request.cnfJwk.toVerifyingKey = .ok popKey ∧ iat < exp ∧
        1 ≤ exp - iat ∧ exp - iat ≤ issuer.defaultTtl ∧
        (Str.len response.wit ≤ MAX_TOKEN_LEN →
          ∃ jwk key, (issuer.publicJwk : Outcome JoseError Jwk) = .ok jwk ∧
            jwk.toVerifyingKey = .ok key ∧
            ∀ now, iat ≤ now → now < exp →
              ∃ w,
                verify response.wit key
                  ((Validation.at now).expectIssuer issuer.iss) = .ok w ∧
                w.kid = issuer.kid ∧ w.claims.sub = sub ∧
                w.claims.iat = some iat ∧
                w.claims.exp = exp ∧ w.popKey = popKey)) ∧
    ((∃ e, issueWit issuer request iat random = .err e) ↔
      Rejected issuer request iat random) ∧
    issueWit issuer request iat random ≠ .panic := by
  refine ⟨fun response hresponse => ?_, issueWit_eq_err_iff, issueWit_ne_panic⟩
  obtain ⟨sub, popKey, exp, jti, hsub, hpop, hzero, hmax, hexp, _, hwit⟩ :=
    issueWit_eq_ok_iff.1 hresponse
  have hsum := checkedAdd_eq_some_iff.1 hexp
  have hpositive : 0 < (request.lifetime issuer).toNat := by
    rw [Nat.pos_iff_ne_zero]
    exact fun h => hzero (UInt64.toNat_inj.1 h)
  have hle : iat ≤ exp := UInt64.le_iff_toNat_le.2 (by omega)
  have hdiff : (exp - iat).toNat = (request.lifetime issuer).toNat := by
    rw [UInt64.toNat_sub_of_le _ _ hle]
    omega
  refine ⟨sub, popKey, exp, hsub, hpop, UInt64.lt_iff_toNat_lt.2 (by omega), ?_,
    ?_, fun hlen => ?_⟩
  · rw [UInt64.le_iff_toNat_le, hdiff]
    exact hpositive
  · rw [UInt64.le_iff_toNat_le, hdiff]
    exact UInt64.le_iff_toNat_le.1 hmax
  · obtain ⟨jwk, hjwk, hdecode⟩ :=
      Jwk.exists_fromVerifyingKey (ε := JoseError) hbase64 hed25519 hp256
        issuer.signingKey.verifyingKey
    refine ⟨jwk, _, hjwk, hdecode, fun now hnow hbefore => ?_⟩
    have hauth : authenticate response.wit issuer.signingKey.verifyingKey
        = .ok (issuer.claims request sub iat exp jti, issuer.kid) := by
      rw [authenticate_issue hbase64 hkey hwit,
        decide_eq_false (Nat.not_lt.2 hlen)]
      rfl
    have haccepts : Accepts (issuer.claims request sub iat exp jti)
        ((Validation.at now).expectIssuer issuer.iss) popKey :=
      { exp := by
          show now < saturatingAdd exp 0
          rwa [saturatingAdd_zero]
        iat := fun iat' hiat => by
          obtain rfl : iat = iat' := Option.some.inj hiat
          show iat ≤ saturatingAdd now 0
          rwa [saturatingAdd_zero]
        iss := fun iss hiss => hiss
        cnf := hpop }
    exact ⟨⟨_, issuer.kid, popKey⟩, verify_eq_ok_iff.2 ⟨hauth, haccepts⟩, rfl,
      rfl, rfl, rfl, rfl⟩

end Contract

end General

/-! ## A token that was issued -/

namespace Example

def signingInput : Str :=
  ("eyJ0eXAiOiJ3aXQrand0IiwiYWxnIjoiRWREU0EiLCJraWQiOiJrIn0.eyJpc3MiOiJpIiwic3ViIjoic3BpZmZlOi" ++
    "8vYS5iL2MiLCJpYXQiOjEwMCwiZXhwIjoxNTAsImp0aSI6IjAwMDAwMDAwMDAwMDAwMDAwMDAwMDAwMDAwMDAwMDAw" ++
    "IiwiY25mIjp7Imp3ayI6eyJhbGciOiJFZERTQSIsImt0eSI6Ik9LUCIsImNydiI6IkVkMjU1MTkiLCJ4IjoiaW9qaj" ++
    "NYUUo4Wlg5VXRzdFBMcGRjc3BuQ2I4ZGxCSWI4M1NJQWJRUGIxdyJ9fX0")

/-- The signature of the signing input by the key of the seed `01 01 ... 01`. -/
def signature : Vector UInt8 64 :=
  #v[192, 226, 195, 210, 228, 84, 246, 222, 167, 194, 182, 28, 146, 112, 226,
    78, 145, 148, 138, 145, 212, 177, 239, 92, 253, 211, 12, 238, 140, 123, 86,
    247, 155, 98, 232, 46, 228, 226, 15, 174, 227, 121, 133, 52, 19, 27, 114,
    127, 224, 227, 120, 228, 47, 142, 4, 88, 236, 233, 98, 214, 173,
    134, 205, 8]

def headerJson : Bytes :=
  Str.asBytes "\x7b\"typ\":\"wit+jwt\",\"alg\":\"EdDSA\",\"kid\":\"k\"\x7d"

def claimsJson : Bytes :=
  Str.asBytes
    ("\x7b\"iss\":\"i\",\"sub\":\"spiffe://a.b/c\",\"iat\":100,\"exp\":150," ++
    "\"jti\":\"00000000000000000000000000000000\",\"cnf\":\x7b\"jwk\":\x7b" ++
    "\"alg\":\"EdDSA\",\"kty\":\"OKP\",\"crv\":\"Ed25519\"," ++
    "\"x\":\"iojj3XQJ8ZX9UtstPLpdcspnCb8dlBIb83SIAbQPb1w\"\x7d\x7d\x7d")

/-- The request for the subject, with a blank around it, and with the default
lifetime. -/
def request : IssueRequest :=
  { sub := " spiffe://a.b/c "
    cnfJwk := Wit.Example.jwk
    ttl := none }

def claims : WitClaims :=
  { iss := some "i"
    sub := Wit.Example.sub
    iat := some 100
    exp := 150
    jti := some "00000000000000000000000000000000"
    cnf := { jwk := Wit.Example.jwk } }

def header : Header :=
  { typ := TYP
    alg := Algorithm.edDsa.asStr
    kid := some "k"
    crit := none }

open scoped Rfc4648 P256.Keyless

scoped instance : Ed25519 := Ed25519.signing signingInput signature

/-- An issuer of tokens that live for 50 seconds. -/
def issuer : Issuer where
  signingKey := .ed25519 ()
  iss := "i"
  kid := some "k"
  defaultTtl := 50
  positive := by decide

theorem claims_ne_header : claims.serialize ≠ header.serialize := by
  simp [WitClaims.serialize, Header.serialize, claims, header,
    optMember, member]

/-- The request is granted at 100, by a `serde_json` that writes the two parts
of the token so. -/
theorem exists_issueWit [SerdeJson]
    (hheader : toVec header.serialize = .ok headerJson)
    (hclaims : toVec claims.serialize = .ok claimsJson) :
    ∃ response,
      issueWit issuer request 100 (some (Vector.replicate 16 0))
        = .ok response ∧
      Str.len response.wit ≤ MAX_TOKEN_LEN := by
  have hinput : Base64.URL_SAFE_NO_PAD.encode headerJson ++ '.' ::
      Base64.URL_SAFE_NO_PAD.encode claimsJson = signingInput := by
    unfold headerJson claimsJson signingInput
    repeat rw [String.toList_ofList]
    decide +kernel
  have hsign : (issuer.signingKey.sign (Str.asBytes signingInput)).toList
      = signature.toList :=
    Ed25519.sign_signing signingInput signature
  have hlen : Str.len (signingInput ++ '.' :: Base64.URL_SAFE_NO_PAD.encode
      (issuer.signingKey.sign (Str.asBytes signingInput)).toList)
      ≤ MAX_TOKEN_LEN := by
    rw [hsign]
    unfold signingInput
    repeat rw [String.toList_ofList]
    decide +kernel
  have hparts : Identifier.parse (Str.trim request.sub) = .ok Wit.Example.sub ∧
      request.cnfJwk.toVerifyingKey = .ok issuer.signingKey.verifyingKey ∧
      randomId (some (Vector.replicate 16 0))
        = some "00000000000000000000000000000000".toList := by
    decide +kernel
  obtain ⟨hsub, hpop, hjti⟩ := hparts
  exact ⟨_, issueWit_eq_ok_iff.2 ⟨_, _, 150, _, hsub,
    hpop, by decide, by decide, by decide, hjti,
    issue_of_toVec hheader hclaims hinput⟩, hlen⟩

noncomputable local instance : SerdeJson :=
  SerdeJson.ofTable [(claims.serialize, claimsJson),
    (header.serialize, headerJson)]

local instance : SerdeJson.Lawful :=
  SerdeJson.ofTable_lawful (by decide +kernel)

/-- The token that is issued at 100 verifies at that time. -/
theorem issued_token_verifies_example :
    ∃ response jwk key w,
      issueWit issuer request 100 (some (Vector.replicate 16 0))
        = .ok response ∧
      (issuer.publicJwk : Outcome JoseError Jwk) = .ok jwk ∧
      jwk.toVerifyingKey = .ok key ∧
      Wit.verify response.wit key ((Validation.at 100).expectIssuer "i")
        = .ok w := by
  have hkey : issuer.signingKey.SelfVerifies :=
    Ed25519.single_selfVerifies _ _ _
  have hed25519 : Ed25519.ReadsKeys := fun _ => if_pos rfl
  have hp256 : P256.ReadsKeys := fun key => nomatch key
  have hheader : toVec header.serialize = .ok headerJson :=
    toVec_ofTable (p := (header.serialize, headerJson))
      (by simp [claims_ne_header]) (by simp)
  have hclaims : toVec claims.serialize = .ok claimsJson :=
    toVec_ofTable (p := (claims.serialize, claimsJson))
      (by simp [claims_ne_header]) (by simp)
  obtain ⟨response, hissue, hlen⟩ := exists_issueWit hheader hclaims
  obtain ⟨_, exp, _, _, hexp, hlife, _, _, hverify⟩ :=
    (issued_token_verifies Rfc4648.urlSafe_lawful hed25519 hp256
      hkey).1 _ hissue
  obtain ⟨jwk, key, hjwk, hdecode, hall⟩ := hverify hlen
  obtain ⟨w, hw, _⟩ := hall 100 (UInt64.le_refl 100) hlife
  exact ⟨_, jwk, key, w, hissue, hjwk, hdecode, hw⟩

end Example

end Wimsey.Issuance
