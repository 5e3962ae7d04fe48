import Wimsey.Wit.Token

/-!
# Issued tokens verify

What `issue` returns, `authenticate` reads back: the header and the claims come
out as they went in, and the signature is the key's own.  So the verification of
an issued token is decided by its length and by `checkClaims` alone.
-/

namespace Wimsey.Wit

open Wimsey.RustStd Wimsey.Codec Wimsey.Serde Wimsey.Jose
open Wimsey.Identifier (WorkloadIdentifier)

section General

variable [Base64] [SerdeJson] [SerdeJson.Lawful] [Ed25519] [P256]

/-- The header of an issued token. -/
def issuedHeader (kid : Option Str) (key : SigningKey) : Header :=
  { typ := TYP
    alg := key.algorithm.asStr
    kid := kid
    crit := none }

omit [SerdeJson.Lawful] in
/-- The token that is issued, from the texts of its parts. -/
theorem issue_of_toVec {claims : WitClaims} {kid : Option Str}
    {key : SigningKey} {headerJson claimsJson : Bytes} {signingInput : Str}
    (hheader : toVec (issuedHeader kid key).serialize = .ok headerJson)
    (hclaims : toVec claims.serialize = .ok claimsJson)
    (hinput : Base64.URL_SAFE_NO_PAD.encode headerJson ++ '.' ::
      Base64.URL_SAFE_NO_PAD.encode claimsJson = signingInput) :
    issue claims kid key = .ok (signingInput ++ '.' ::
      Base64.URL_SAFE_NO_PAD.encode
        (key.sign (Str.asBytes signingInput)).toList) := by
  show (Outcome.mapErr WitError.ofJson
    (toVec (issuedHeader kid key).serialize) >>= _) = _
  simp only [hheader, hclaims, Outcome.mapErr_ok, Outcome.ok_bind, hinput]

omit [SerdeJson.Lawful] in
/-- A token is issued when its header and its claims serialize. -/
theorem exists_issue_iff (claims : WitClaims) (kid : Option Str)
    (key : SigningKey) :
    (∃ token, issue claims kid key = .ok token) ↔
      SerdeJson.toVec (issuedHeader kid key).serialize ≠ none ∧
        SerdeJson.toVec claims.serialize ≠ none := by
  simp only [issue, Outcome.bind_eq_ok_iff, Outcome.mapErr_eq_ok_iff, toVec,
    Outcome.okOr_eq_ok_iff, Option.ne_none_iff_exists']
  constructor
  · rintro ⟨_, headerJson, hheader, claimsJson, hclaims, _⟩
    exact ⟨⟨headerJson, hheader⟩, claimsJson, hclaims⟩
  · rintro ⟨⟨headerJson, hheader⟩, claimsJson, hclaims⟩
    exact ⟨_, headerJson, hheader, claimsJson, hclaims, rfl⟩

omit [SerdeJson.Lawful] in
theorem issue_ne_panic (claims : WitClaims) (kid : Option Str)
    (key : SigningKey) :
    issue claims kid key ≠ .panic := by
  unfold issue toVec
  apply Outcome.bind_ne_panic (Outcome.mapErr_ne_panic Outcome.okOr_ne_panic)
  intro headerJson _
  apply Outcome.bind_ne_panic (Outcome.mapErr_ne_panic Outcome.okOr_ne_panic)
  exact fun claimsJson _ => nofun

section

variable {claims : WitClaims} {kid : Option Str} {key : SigningKey}
  {token : Str}
  (hbase64 : Base64.URL_SAFE_NO_PAD.Lawful Rfc4648.urlSafeAlphabet)

include hbase64

/-- `authenticate` reads the header and the claims of an issued token, and then
it is left with the signature. -/
theorem authenticate_issue_aux (key' : VerifyingKey)
    (h : issue claims kid key = .ok token) :
    ∃ message, authenticate token key' = (do
      Outcome.failIf (MAX_TOKEN_LEN < Str.len token) .tokenTooLong
      Outcome.failIf (key.algorithm != key'.algorithm) .algorithmMismatch
      Outcome.mapErr (fun _ => .invalidSignature)
        (key'.verify message (key.sign message).toList)
      .ok (claims, kid)) := by
  simp only [issue, Outcome.bind_eq_ok_iff, Outcome.mapErr_eq_ok_iff] at h
  obtain ⟨headerJson, hheader, claimsJson, hclaims, htoken⟩ := h
  have hsplit := hbase64.splitOn_dots (by decide) headerJson claimsJson
  obtain rfl := Outcome.ok.inj htoken
  have halg :=
    Algorithm.parse_eq_ok_iff.2
      (rfl : key.algorithm.asStr = key.algorithm.asStr)
  refine ⟨Str.asBytes (Base64.URL_SAFE_NO_PAD.encode headerJson ++ '.' ::
    Base64.URL_SAFE_NO_PAD.encode claimsJson), ?_⟩
  rw [authenticate, hsplit]
  simp only [hbase64.decode_encode, Outcome.okOr_some, Outcome.ok_bind,
    fromSlice_toVec hheader, fromSlice_toVec hclaims,
    Header.deserialize_serialize, WitClaims.deserialize_serialize,
    Outcome.mapErr_ok, halg, bne_self_eq_false, Outcome.failIf_false,
    Option.isSome_none, Vector.length_toList]

theorem authenticate_issue (hkey : key.SelfVerifies)
    (h : issue claims kid key = .ok token) :
    authenticate token key.verifyingKey = (do
      Outcome.failIf (MAX_TOKEN_LEN < Str.len token) .tokenTooLong
      .ok (claims, kid)) := by
  obtain ⟨message, hauth⟩ := authenticate_issue_aux hbase64 key.verifyingKey h
  rw [hauth, key.algorithm_verifyingKey, hkey message]
  simp only [bne_self_eq_false, Outcome.failIf_false, Outcome.ok_bind,
    Outcome.mapErr_ok]

/-- A key of the other algorithm is found out before the signature is looked
at. -/
theorem authenticate_issue_other {key' : VerifyingKey}
    (hne : key'.algorithm ≠ key.algorithm)
    (h : issue claims kid key = .ok token) :
    authenticate token key' = (do
      Outcome.failIf (MAX_TOKEN_LEN < Str.len token) .tokenTooLong
      .err .algorithmMismatch) := by
  obtain ⟨message, hauth⟩ := authenticate_issue_aux hbase64 key' h
  have hbne : (key.algorithm != key'.algorithm) = true :=
    bne_iff_ne.2 (Ne.symm hne)
  rw [hauth, hbne]
  simp only [Outcome.failIf_true, Outcome.err_bind]

end

/-- The claims pass the checks, with this confirmation key. -/
structure Accepts (claims : WitClaims) (v : Validation)
    (popKey : VerifyingKey) : Prop where
  exp : v.now < saturatingAdd claims.exp v.leeway
  iat : ∀ iat, claims.iat = some iat → iat ≤ saturatingAdd v.now v.leeway
  iss : ∀ iss, v.expectedIssuer = some iss → claims.iss = some iss
  cnf : claims.cnf.jwk.toVerifyingKey = .ok popKey

omit [SerdeJson] [SerdeJson.Lawful] in
theorem checkClaims_eq_ok_iff {claims : WitClaims} {kid : Option Str}
    {v : Validation} {w : VerifiedWit} :
    checkClaims claims kid v = .ok w ↔
      w.claims = claims ∧ w.kid = kid ∧ Accepts claims v w.popKey := by
  simp only [checkClaims, Outcome.bind_eq_ok_iff, Outcome.failIf_eq_ok_iff,
    Outcome.ifSome_eq_ok_iff, Outcome.mapErr_eq_ok_iff, decide_eq_false_iff_not,
    UInt64.not_le, UInt64.not_lt, bne_eq_false_iff_eq, exists_const]
  constructor
  · rintro ⟨hexp, hiat, hiss, popKey, hkey, hw⟩
    obtain rfl := Outcome.ok.inj hw
    exact ⟨rfl, rfl, hexp, hiat, hiss, hkey⟩
  · rintro ⟨rfl, rfl, h⟩
    exact ⟨h.exp, h.iat, h.iss, w.popKey, h.cnf, rfl⟩

omit [SerdeJson.Lawful] in
/-- A token verifies exactly when it is signed and its claims pass the
checks. -/
theorem verify_eq_ok_iff {token : Str} {key : VerifyingKey} {v : Validation}
    {w : VerifiedWit} :
    verify token key v = .ok w ↔
      authenticate token key = .ok (w.claims, w.kid) ∧
      Accepts w.claims v w.popKey := by
  rw [verify_eq, Outcome.bind_eq_ok_iff]
  constructor
  · intro ⟨(claims, kid), hauth, hchecks⟩
    obtain ⟨rfl, rfl, haccepts⟩ := checkClaims_eq_ok_iff.1 hchecks
    exact ⟨hauth, haccepts⟩
  · intro ⟨hauth, haccepts⟩
    exact ⟨(w.claims, w.kid), hauth,
      checkClaims_eq_ok_iff.2 ⟨rfl, rfl, haccepts⟩⟩

theorem verify_of_issue
    (hbase64 : Base64.URL_SAFE_NO_PAD.Lawful Rfc4648.urlSafeAlphabet)
    {claims : WitClaims} {kid : Option Str} {key : SigningKey} {token : Str}
    {v : Validation} {popKey : VerifyingKey} (hkey : key.SelfVerifies)
    (h : issue claims kid key = .ok token)
    (hlen : Str.len token ≤ MAX_TOKEN_LEN)
    (haccepts : Accepts claims v popKey) :
    verify token key.verifyingKey v
      = .ok { claims := claims, kid := kid, popKey := popKey } := by
  have hauth := authenticate_issue hbase64 hkey h
  rw [decide_eq_false (Nat.not_lt.2 hlen)] at hauth
  exact verify_eq_ok_iff.2 ⟨hauth, haccepts⟩

omit [SerdeJson] [SerdeJson.Lawful] in
/-- The checks report the first one that fails. -/
theorem checkClaims_eq (claims : WitClaims) (kid : Option Str)
    (v : Validation) :
    checkClaims claims kid v =
      if saturatingAdd claims.exp v.leeway ≤ v.now then .err .expired
      else if claims.iat.any (saturatingAdd v.now v.leeway < ·)
        then .err .issuedInFuture
      else if v.expectedIssuer.any (claims.iss != some ·)
        then .err .issuerMismatch
      else
        match claims.cnf.jwk.toVerifyingKey with
        | .ok popKey => .ok { claims := claims, kid := kid, popKey := popKey }
        | .err e => .err (.ofJose e)
        | .panic => .panic := by
  simp only [checkClaims, Outcome.ifSome_failIf, Outcome.failIf_bind,
    decide_eq_true_eq]
  cases claims.cnf.jwk.toVerifyingKey <;> rfl

/-- An issued token verifies under its own key exactly when it is short enough
and its claims pass the checks.  Then the claims, the key id and the
confirmation key are the issued ones; otherwise the error is that of the first
check that fails.  A key of the other algorithm rejects every token that is
short enough. -/
theorem verify_issued_token {claims : WitClaims} {kid : Option Str}
    {key : SigningKey} {token : Str}
    (hbase64 : Base64.URL_SAFE_NO_PAD.Lawful Rfc4648.urlSafeAlphabet)
    (hkey : key.SelfVerifies) (h : issue claims kid key = .ok token)
    (v : Validation) :
    ((∃ w, verify token key.verifyingKey v = .ok w) ↔
      Str.len token ≤ MAX_TOKEN_LEN ∧ ∃ popKey, Accepts claims v popKey) ∧
    (∀ w, verify token key.verifyingKey v = .ok w →
      w.claims = claims ∧ w.kid = kid ∧
      claims.cnf.jwk.toVerifyingKey = .ok w.popKey) ∧
    verify token key.verifyingKey v =
      (if MAX_TOKEN_LEN < Str.len token then .err .tokenTooLong
      else if saturatingAdd claims.exp v.leeway ≤ v.now then .err .expired
      else if claims.iat.any (saturatingAdd v.now v.leeway < ·)
        then .err .issuedInFuture
      else if v.expectedIssuer.any (claims.iss != some ·)
        then .err .issuerMismatch
      else
        match claims.cnf.jwk.toVerifyingKey with
        | .ok popKey => .ok { claims := claims, kid := kid, popKey := popKey }
        | .err e => .err (.ofJose e)
        | .panic => .panic) ∧
    claims.cnf.jwk.toVerifyingKey ≠ .panic ∧
    (∀ key', key'.algorithm ≠ key.algorithm →
      verify token key' v =
        if MAX_TOKEN_LEN < Str.len token then .err .tokenTooLong
        else .err .algorithmMismatch) := by
  have hverify : verify token key.verifyingKey v =
      if MAX_TOKEN_LEN < Str.len token then .err .tokenTooLong
        else checkClaims claims kid v := by
    rw [verify_eq, authenticate_issue hbase64 hkey h, bind_assoc]
    simp only [Outcome.failIf_bind, Outcome.ok_bind, decide_eq_true_eq]
  have hok : ∀ w, verify token key.verifyingKey v = .ok w ↔
      Str.len token ≤ MAX_TOKEN_LEN ∧ checkClaims claims kid v = .ok w := by
    intro w
    rw [hverify]
    split
    · simp; omega
    · simp; omega
  refine ⟨⟨?_, ?_⟩, ?_, ?_, Jwk.toVerifyingKey_ne_panic _, ?_⟩
  · intro ⟨w, hw⟩
    obtain ⟨hlen, hchecks⟩ := (hok w).1 hw
    exact ⟨hlen, w.popKey, (checkClaims_eq_ok_iff.1 hchecks).2.2⟩
  · intro ⟨hlen, popKey, haccepts⟩
    exact ⟨⟨claims, kid, popKey⟩,
      (hok _).2 ⟨hlen, checkClaims_eq_ok_iff.2 ⟨rfl, rfl, haccepts⟩⟩⟩
  · intro w hw
    obtain ⟨hclaims, hkid, haccepts⟩ := checkClaims_eq_ok_iff.1 ((hok w).1 hw).2
    exact ⟨hclaims, hkid, haccepts.cnf⟩
  · rw [hverify, checkClaims_eq]
  · intro key' hne
    rw [verify_eq, authenticate_issue_other hbase64 hne h, bind_assoc]
    simp only [Outcome.failIf_bind, Outcome.err_bind, decide_eq_true_eq]

end General

/-! ## An issued token -/

namespace Example

/-- The signature of the signing input by the key of the seed `01 01 ... 01`. -/
def signature : Vector UInt8 64 :=
  #v[123, 143, 180, 158, 166, 235, 132, 197, 203, 149, 128, 164, 84, 11, 183,
    198, 184, 228, 164, 201, 77, 217, 64, 184, 57, 22, 132, 157, 182, 243, 120,
    211, 243, 15, 178, 195, 218, 134, 192, 166, 47, 197, 202, 107, 40, 115, 185,
    207, 246, 61, 3, 241, 32, 194, 181, 146, 21, 255, 193, 143, 30, 7, 102, 8]

def signingInput : Str :=
  ("eyJ0eXAiOiJ3aXQrand0IiwiYWxnIjoiRWREU0EifQ.eyJzdWIiOiJzcGlmZmU6Ly9hLmIvYyIsImV4cCI6MTAwLC" ++
    "JjbmYiOnsiandrIjp7ImFsZyI6IkVkRFNBIiwia3R5IjoiT0tQIiwiY3J2IjoiRWQyNTUxOSIsIngiOiJpb2pqM1hRS" ++
    "jhaWDlVdHN0UExwZGNzcG5DYjhkbEJJYjgzU0lBYlFQYjF3In19fQ")

def headerJson : Bytes :=
  Str.asBytes "\x7b\"typ\":\"wit+jwt\",\"alg\":\"EdDSA\"\x7d"

def claimsJson : Bytes :=
  Str.asBytes
    ("\x7b\"sub\":\"spiffe://a.b/c\",\"exp\":100,\"cnf\":\x7b\"jwk\":\x7b" ++
    "\"alg\":\"EdDSA\",\"kty\":\"OKP\",\"crv\":\"Ed25519\"," ++
    "\"x\":\"iojj3XQJ8ZX9UtstPLpdcspnCb8dlBIb83SIAbQPb1w\"\x7d\x7d\x7d")

def jwk : Jwk :=
  { alg := some "EdDSA"
    kty := "OKP"
    crv := "Ed25519"
    x := "iojj3XQJ8ZX9UtstPLpdcspnCb8dlBIb83SIAbQPb1w"
    y := none }

/-- It is the JWK of the seed `01 01 ... 01`. -/
theorem fromVerifyingKey_ones {ε : Type} [P256]
    (sign : Bytes → Vector UInt8 64) :
    let ed25519 :=
      Ed25519.single (Vector.replicate 32 1) Ed25519.publicKeyOfOnes sign
    @Jwk.fromVerifyingKey Rfc4648.base64 ε ed25519 _
      (@VerifyingKey.ed25519 ed25519 _ ())
      = .ok jwk := by
  have hx : Rfc4648.base64.URL_SAFE_NO_PAD.encode Ed25519.publicKeyOfOnes.toList
      = jwk.x := by
    decide +kernel
  exact congrArg (fun x => Outcome.ok { jwk with x := x }) hx

def sub : WorkloadIdentifier where
  uri := "spiffe://a.b/c"
  scheme := .spiffe
  trustDomainLen := 3
  parsed := by decide +kernel

def claims : WitClaims :=
  { iss := none
    sub := sub
    iat := none
    exp := 100
    jti := none
    cnf := { jwk := jwk } }

def header : Header :=
  { typ := TYP
    alg := Algorithm.edDsa.asStr
    kid := none
    crit := none }

@[reducible] noncomputable def serdeJson : SerdeJson :=
  SerdeJson.ofTable [(claims.serialize, claimsJson),
    (header.serialize, headerJson)]

open scoped Rfc4648 P256.Keyless

local instance : Ed25519 := Ed25519.signing signingInput signature

noncomputable local instance : SerdeJson := serdeJson

local instance : SerdeJson.Lawful :=
  SerdeJson.ofTable_lawful (by decide +kernel)

def key : SigningKey := .ed25519 ()

theorem encode_parts : Base64.URL_SAFE_NO_PAD.encode headerJson ++ '.' ::
    Base64.URL_SAFE_NO_PAD.encode claimsJson = signingInput := by
  unfold headerJson claimsJson signingInput
  -- The kernel is slow to decode the bytes of a long literal, so this takes its
  -- characters.
  repeat rw [String.toList_ofList]
  decide +kernel

theorem issue_claims :
    ∃ token, issue claims none key = .ok token ∧ Str.len token ≤ MAX_TOKEN_LEN ∧
    jwk.toVerifyingKey = .ok key.verifyingKey := by
  have hne : claims.serialize ≠ header.serialize := by
    simp [WitClaims.serialize, Header.serialize, claims, header,
      optMember, member]
  have hheader : toVec (issuedHeader none key).serialize = .ok headerJson :=
    toVec_ofTable (p := (header.serialize, headerJson))
      (by simp [hne]) (by simp)
  have hclaims : toVec claims.serialize = .ok claimsJson :=
    toVec_ofTable (p := (claims.serialize, claimsJson))
      (by simp [hne]) (by simp)
  have hsign :
      (key.sign (Str.asBytes signingInput)).toList = signature.toList :=
    Ed25519.sign_signing signingInput signature
  have hlen :
      Str.len (signingInput ++
        '.' :: Base64.URL_SAFE_NO_PAD.encode signature.toList)
      ≤ MAX_TOKEN_LEN := by
    unfold signingInput
    repeat rw [String.toList_ofList]
    decide +kernel
  have hpop : jwk.toVerifyingKey = .ok key.verifyingKey := by
    decide +kernel
  have hissue := issue_of_toVec hheader hclaims encode_parts
  rw [hsign] at hissue
  exact ⟨_, hissue, hlen, hpop⟩

/-- There is a signed token of these claims. -/
theorem exists_token :
    ∃ token, authenticate token key.verifyingKey = .ok (claims, none) ∧
    jwk.toVerifyingKey = .ok key.verifyingKey := by
  have hkey : key.SelfVerifies := Ed25519.single_selfVerifies _ _ _
  obtain ⟨token, htoken, hlen, hpop⟩ := issue_claims
  refine ⟨token, ?_, hpop⟩
  rw [authenticate_issue Rfc4648.urlSafe_lawful hkey htoken,
    decide_eq_false (Nat.not_lt.2 hlen)]
  rfl

/-- The token of these claims verifies until it expires. -/
theorem verify_issued_token_example :
    ∃ token w, issue claims none key = .ok token ∧
      verify token key.verifyingKey (Validation.at 99) = .ok w := by
  have hkey : key.SelfVerifies := Ed25519.single_selfVerifies _ _ _
  obtain ⟨token, htoken, hlen, hpop⟩ := issue_claims
  have haccepts : Accepts claims (Validation.at 99) key.verifyingKey :=
    { exp := by decide
      iat := by simp [claims]
      iss := by simp [Validation.at]
      cnf := hpop }
  obtain ⟨w, hw⟩ :=
    (verify_issued_token Rfc4648.urlSafe_lawful hkey htoken _).1.2
      ⟨hlen, _, haccepts⟩
  exact ⟨token, w, htoken, hw⟩

end Example

end Wimsey.Wit
