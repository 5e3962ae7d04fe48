import Wimsey.Wpt.Token

/-!
# Issued proofs verify

`Accepts` says which requests the claims of a proof are for, and
`verify_eq_ok_iff` that a proof verifies exactly when it is signed and its
claims are for the request.  What `issue` returns is signed, and `authenticate`
reads its claims back as they were.

`requestClaims` and `requestValidation` are the two sides of one request: the
claims that a client makes from its tokens, and the `Validation` that a server
builds from the same tokens.
-/

namespace Wimsey.Wpt

open Wimsey.RustStd Wimsey.Codec Wimsey.Serde Wimsey.Jose

section General

variable [Base64] [Sha2]

/-- The claims are bound to the tokens of the request: each is the digest of one
of them, in base64url. -/
structure Bound (claims : WptClaims) (v : Validation) : Prop where
  wth :
    claims.wth = Base64.URL_SAFE_NO_PAD.encode (Sha2.digest (Str.asBytes v.wit))
  tth : claims.tth = v.txnToken.map fun txnToken =>
    Base64.URL_SAFE_NO_PAD.encode (Sha2.digest (Str.asBytes txnToken))
  oth : ∀ oth : BTreeMap Str, claims.oth = some oth → ∀ name hash : Str,
    oth[name]? = some hash →
    ∃ presented, v.otherTokens[name]? = some presented ∧
      hash = Base64.URL_SAFE_NO_PAD.encode
        (Sha2.digest (Str.asBytes (trimSpaces presented)))

/-- The claims are for the request and the time. -/
structure Accepts (claims : WptClaims) (v : Validation) :
    Prop extends Bound claims v where
  exp : v.now < saturatingAdd claims.exp v.leeway
  lifetime : ∀ max, v.maxLifetime = some max →
    saturatingSub claims.exp v.now ≤ max
  aud : claims.aud = v.audience

theorem checkTxnToken_eq_ok_iff {txnToken tth : Option Str} {u : Unit} :
    checkTxnToken txnToken tth = .ok u ↔
    tth = txnToken.map txnTokenThumbprint := by
  cases txnToken with
  | none =>
    cases tth with
    | none => simp [checkTxnToken]
    | some tth => simp [checkTxnToken]
  | some txnToken =>
    cases tth with
    | none => simp [checkTxnToken]
    | some tth => simp [checkTxnToken, Outcome.failIf_eq_ok_iff]

/-- The loop goes through when every entry names a presented token and is its
hash. -/
theorem checkOtherTokens_eq_ok_iff {otherTokens : BTreeMap Str}
    {oth : List (Str × Str)} {u : Unit} :
    checkOtherTokens otherTokens oth = .ok u ↔
      ∀ p ∈ oth, ∃ presented, otherTokens[p.1]? = some presented ∧
        p.2 = sha256B64u (trimSpaces presented) := by
  induction oth with
  | nil => simp [checkOtherTokens]
  | cons p oth ih =>
    simp only [checkOtherTokens, Outcome.bind_eq_ok_iff, Outcome.okOr_eq_ok_iff,
      Outcome.failIf_eq_ok_iff, bne_eq_false_iff_eq, otherTokenEntry, ih,
      List.forall_mem_cons]
    constructor
    · intro ⟨presented, hpresented, _, hhash, hrest⟩
      exact ⟨⟨presented, hpresented, hhash⟩, hrest⟩
    · intro ⟨⟨presented, hpresented, hhash⟩, hrest⟩
      exact ⟨presented, hpresented, (), hhash, hrest⟩

theorem checkClaims_eq_ok_iff {claims : WptClaims} {v : Validation}
    {w : VerifiedWpt} :
    checkClaims claims v = .ok w ↔ w.claims = claims ∧ Accepts claims v := by
  simp only [checkClaims, Outcome.bind_eq_ok_iff, Outcome.failIf_eq_ok_iff,
    Outcome.ifSome_eq_ok_iff, decide_eq_false_iff_not, UInt64.not_le,
    UInt64.not_lt, bne_eq_false_iff_eq, checkTxnToken_eq_ok_iff,
    checkOtherTokens_eq_ok_iff, exists_const]
  have hentries : ∀ oth : BTreeMap Str,
      (∀ p ∈ oth.toList, ∃ presented, v.otherTokens[p.1]? = some presented ∧
        p.2 = sha256B64u (trimSpaces presented)) ↔
      ∀ name hash : Str, oth[name]? = some hash →
      ∃ presented, v.otherTokens[name]? = some presented ∧
        hash = sha256B64u (trimSpaces presented) := by
    intro oth
    simp only [Prod.forall, Std.ExtTreeMap.mem_toList_iff_getElem?_eq_some]
  simp only [hentries]
  constructor
  · rintro ⟨hexp, hlifetime, haud, hwth, htth, hoth, hw⟩
    obtain rfl := Outcome.ok.inj hw
    exact ⟨rfl, ⟨hwth, htth, hoth⟩, hexp, hlifetime, haud⟩
  · rintro ⟨rfl, h⟩
    exact ⟨h.exp, h.lifetime, h.aud, h.wth, h.tth, h.oth, rfl⟩

/-- A request with no token but the identity token, and no leeway or lifetime
cap, accepts claims that name no other token. -/
theorem accepts_new {claims : WptClaims} {now : UInt64} {audience wit : Str}
    (hwth : claims.wth = witThumbprint wit) (htth : claims.tth = none)
    (hoth : claims.oth = none) (haud : claims.aud = audience)
    (hnow : now < claims.exp) :
    Accepts claims (Validation.new now audience wit) where
  wth := hwth
  tth := htth
  oth := by simp [hoth]
  exp := by simpa only [Validation.new, saturatingAdd_zero] using hnow
  lifetime := by simp [Validation.new]
  aud := haud

variable [SerdeJson] [Ed25519] [P256]

/-- A proof verifies exactly when it is signed and its claims are for the
request. -/
theorem verify_eq_ok_iff {proof : Str} {key : VerifyingKey} {v : Validation}
    {w : VerifiedWpt} :
    verify proof key v = .ok w ↔ authenticate proof key = .ok w.claims ∧
    Accepts w.claims v := by
  rw [verify_eq, Outcome.bind_eq_ok_iff]
  constructor
  · intro ⟨claims, hauth, hchecks⟩
    obtain ⟨rfl, haccepts⟩ := checkClaims_eq_ok_iff.1 hchecks
    exact ⟨hauth, haccepts⟩
  · intro ⟨hauth, haccepts⟩
    exact ⟨w.claims, hauth, checkClaims_eq_ok_iff.2 ⟨rfl, haccepts⟩⟩

/-! ## The two sides of a request -/

section Request

omit [SerdeJson] [Ed25519] [P256]

/-- The `oth` entries that a client makes from the context tokens of a
request. -/
def otherEntries (tokens : List (Str × Str)) : BTreeMap Str :=
  tokens.foldl
    (fun oth t =>
      oth.insert (otherTokenEntry t.1 t.2).1 (otherTokenEntry t.1 t.2).2) ∅

omit [Base64] [Sha2] in
/-- The `Validation` that a server builds from the tokens of a request. -/
def requestValidation (base : Validation) (txnToken : Option Str)
    (tokens : List (Str × Str)) :
    Validation :=
  tokens.foldl (fun v t => v.withOtherToken t.1 t.2)
    (txnToken.elim base fun txnToken => base.withTxnToken txnToken)

/-- Adding one token on both sides keeps the entries the hashes of the
tokens. -/
theorem entry_eq_hash (tokens : List (Str × Str)) (oth : BTreeMap Str)
    (v : Validation)
    (h : ∀ name : Str, oth[name]? = v.otherTokens[name]?.map fun t =>
      sha256B64u (trimSpaces t)) (name : Str) :
    (tokens.foldl (fun oth t =>
        oth.insert (otherTokenEntry t.1 t.2).1 (otherTokenEntry t.1 t.2).2)
        oth)[name]?
      = (tokens.foldl (fun v t => v.withOtherToken t.1 t.2)
          v).otherTokens[name]?.map fun t => sha256B64u (trimSpaces t) := by
  induction tokens generalizing oth v with
  | nil => exact h name
  | cons t tokens ih =>
    rw [List.foldl_cons, List.foldl_cons]
    apply ih
    intro name
    rw [Validation.withOtherToken, otherTokenEntry,
      Std.ExtTreeMap.getElem?_insert, Std.ExtTreeMap.getElem?_insert]
    split
    · rfl
    · exact h name

omit [Base64] [Sha2] in
theorem foldl_withOtherToken (tokens : List (Str × Str)) (v : Validation) :
    (tokens.foldl (fun v t => v.withOtherToken t.1 t.2) v).wit = v.wit ∧
      (tokens.foldl (fun v t => v.withOtherToken t.1 t.2) v).txnToken
        = v.txnToken := by
  induction tokens generalizing v with
  | nil => exact ⟨rfl, rfl⟩
  | cons t tokens ih => exact ih (v.withOtherToken t.1 t.2)

/-- Claims made from the tokens of a request are bound to it. -/
theorem bound_of_request {claims : WptClaims} {base : Validation}
    {txnToken : Option Str} {tokens : List (Str × Str)}
    (htxn : base.txnToken = none) (hothers : base.otherTokens = ∅)
    (hwth : claims.wth = witThumbprint base.wit)
    (htth : claims.tth = txnToken.map txnTokenThumbprint)
    (hoth : claims.oth = none ∨ claims.oth = some (otherEntries tokens)) :
    Bound claims (requestValidation base txnToken tokens) := by
  have hbase : ∀ v : Validation,
      v = (txnToken.elim base fun t => base.withTxnToken t) →
      v.wit = base.wit ∧ v.txnToken = txnToken ∧ v.otherTokens = ∅ := by
    rintro v rfl
    cases txnToken with
    | none => exact ⟨rfl, htxn, hothers⟩
    | some t => exact ⟨rfl, rfl, hothers⟩
  obtain ⟨hwit, htoken, hempty⟩ := hbase _ rfl
  refine ⟨?_, ?_, ?_⟩
  · rw [requestValidation, (foldl_withOtherToken tokens _).1, hwit, hwth]
    rfl
  · rw [requestValidation, (foldl_withOtherToken tokens _).2, htoken, htth]
    rfl
  · intro oth hclaim name hash hentry
    rcases hoth with hnone | hsome
    · rw [hnone] at hclaim
      cases hclaim
    · rw [hsome] at hclaim
      obtain rfl := Option.some.inj hclaim
      have hhash :=
        entry_eq_hash tokens ∅ (txnToken.elim base fun t => base.withTxnToken t)
        (fun name => by simp [hempty]) name
      rw [otherEntries] at hentry
      rw [hentry] at hhash
      obtain ⟨presented, hpresented, rfl⟩ := Option.map_eq_some_iff.1 hhash.symm
      exact ⟨presented, hpresented, rfl⟩

end Request

section Issue

variable [SerdeJson.Lawful] {claims : WptClaims} {key : SigningKey}
  {token : Str}

omit [Sha2] [SerdeJson.Lawful] in
/-- The proof that is issued, from the texts of its parts. -/
theorem issue_of_toVec {headerJson claimsJson : Bytes} {signingInput : Str}
    (hheader : toVec ({ typ := TYP, alg := key.algorithm.asStr, crit := none } :
      Header).serialize
      = .ok headerJson)
    (hclaims : toVec claims.serialize = .ok claimsJson)
    (hinput : Base64.URL_SAFE_NO_PAD.encode headerJson ++ '.' ::
      Base64.URL_SAFE_NO_PAD.encode claimsJson = signingInput) :
    issue claims key = .ok (signingInput ++ '.' ::
      Base64.URL_SAFE_NO_PAD.encode
        (key.sign (Str.asBytes signingInput)).toList) := by
  simp only [issue, hheader, hclaims, Outcome.mapErr_ok,
    Outcome.ok_bind, hinput]

omit [Sha2] in
/-- `authenticate` reads the claims of an issued proof back. -/
theorem authenticate_issue
    (hbase64 : Base64.URL_SAFE_NO_PAD.Lawful Rfc4648.urlSafeAlphabet)
    (hkey : key.SelfVerifies) (h : issue claims key = .ok token) :
    authenticate token key.verifyingKey = (do
      Outcome.failIf (MAX_TOKEN_LEN < Str.len token) .tokenTooLong
      .ok claims) := by
  simp only [issue, Outcome.bind_eq_ok_iff, Outcome.mapErr_eq_ok_iff] at h
  obtain ⟨headerJson, hheader, claimsJson, hclaims, htoken⟩ := h
  have hsplit := hbase64.splitOn_dots (by decide) headerJson claimsJson
  obtain rfl := Outcome.ok.inj htoken
  have halg :=
    Algorithm.parse_eq_ok_iff.2
      (rfl : key.algorithm.asStr = key.algorithm.asStr)
  have hslice : ∀ message, Base64.URL_SAFE_NO_PAD.decodeSlice
      (Base64.URL_SAFE_NO_PAD.encode (key.sign message).toList)
        SIGNATURE_BUF_LEN
        = some (key.sign message).toList := by
    intro message
    apply hbase64.decodeSlice_encode
    rw [Vector.length_toList]
    decide
  rw [authenticate, hsplit]
  simp only [hbase64.decode_encode, hslice, Outcome.okOr_some, Outcome.ok_bind,
    fromSlice_toVec hheader, fromSlice_toVec hclaims,
    Header.deserialize_serialize, WptClaims.deserialize_serialize,
    Outcome.mapErr_ok, halg, key.algorithm_verifyingKey, bne_self_eq_false,
    Outcome.failIf_false, Option.isSome_none, Vector.length_toList, hkey _]

theorem verify_issue_eq_ok_iff
    (hbase64 : Base64.URL_SAFE_NO_PAD.Lawful Rfc4648.urlSafeAlphabet)
    (hkey : key.SelfVerifies) (h : issue claims key = .ok token)
    {v : Validation} {w : VerifiedWpt} :
    verify token key.verifyingKey v = .ok w ↔
      w.claims = claims ∧ Str.len token ≤ MAX_TOKEN_LEN ∧ Accepts claims v := by
  rw [verify_eq_ok_iff, authenticate_issue hbase64 hkey h]
  simp only [Outcome.bind_eq_ok_iff, Outcome.failIf_eq_ok_iff,
    decide_eq_false_iff_not, Nat.not_lt, exists_const]
  constructor
  · intro ⟨⟨hlen, hclaims⟩, haccepts⟩
    obtain rfl := Outcome.ok.inj hclaims
    exact ⟨rfl, hlen, haccepts⟩
  · rintro ⟨rfl, hlen, haccepts⟩
    exact ⟨⟨hlen, rfl⟩, haccepts⟩

/-- An issued proof verifies under its own key exactly when it is short enough
and its claims are for the request, and then its claims are the issued ones.
Claims made from the tokens of a request are bound to the request. -/
theorem verify_issued_proof
    (hbase64 : Base64.URL_SAFE_NO_PAD.Lawful Rfc4648.urlSafeAlphabet)
    (hkey : key.SelfVerifies) (h : issue claims key = .ok token)
    (v : Validation) :
    (verify token key.verifyingKey v = .ok { claims := claims } ↔
      Str.len token ≤ MAX_TOKEN_LEN ∧ Accepts claims v) ∧
    (∀ w, verify token key.verifyingKey v = .ok w → w = { claims := claims }) ∧
    (∀ base txnToken tokens, base.txnToken = none → base.otherTokens = ∅ →
      claims.wth = witThumbprint base.wit →
      claims.tth = txnToken.map txnTokenThumbprint →
      claims.oth = none ∨ claims.oth = some (otherEntries tokens) →
      Bound claims (requestValidation base txnToken tokens)) := by
  refine ⟨?_, fun w hw => ?_, fun base txnToken tokens => bound_of_request⟩
  · rw [verify_issue_eq_ok_iff hbase64 hkey h]
    simp only [true_and]
  · exact congrArg VerifiedWpt.mk
      ((verify_issue_eq_ok_iff hbase64 hkey h).1 hw).1

end Issue

end General

/-! ## An issued proof -/

namespace Example

/-- The hash of the text `wit`. -/
def hash : Vector UInt8 32 :=
  #v[147, 157, 244, 167, 38, 6, 99, 108, 95, 106, 0, 15, 255, 99, 37, 171, 31,
    240, 110, 14, 104, 72, 8, 148, 231, 46, 3, 119, 160, 88, 2, 167]

/-- The signature of the signing input by the key of the seed `01 01 ... 01`. -/
def signature : Vector UInt8 64 :=
  #v[71, 64, 103, 61, 94, 164, 126, 15, 152, 188, 174, 136, 107, 90, 107, 231,
    15, 104, 146, 120, 101, 119, 193, 88, 178, 179, 192, 232, 242, 46, 196, 129,
    30, 15, 125, 8, 147, 78, 88, 47, 203, 119, 14, 83, 174, 221, 131, 221, 244,
    77, 63, 189, 205, 222, 221, 206, 95, 145, 230, 115, 223, 132, 113, 1]

def signingInput : Str :=
  ("eyJ0eXAiOiJ3cHQrand0IiwiYWxnIjoiRWREU0EifQ.eyJhdWQiOiJodHRwczovL2EuYi9jIiwiZXhwIjoxMDAsImp0" ++
    "aSI6IjEiLCJ3dGgiOiJrNTMwcHlZR1kyeGZhZ0FQXzJNbHF4X3diZzVvU0FpVTV5NERkNkJZQXFjIn0")

def headerJson : Bytes :=
  Str.asBytes "\x7b\"typ\":\"wpt+jwt\",\"alg\":\"EdDSA\"\x7d"

def claimsJson : Bytes :=
  Str.asBytes ("\x7b\"aud\":\"https://a.b/c\",\"exp\":100,\"jti\":\"1\"," ++
    "\"wth\":\"k530pyYGY2xfagAP_2Mlqx_wbg5oSAiU5y4Dd6BYAqc\"\x7d")

def claims : WptClaims :=
  { aud := "https://a.b/c"
    exp := 100
    jti := "1"
    wth := "k530pyYGY2xfagAP_2Mlqx_wbg5oSAiU5y4Dd6BYAqc"
    tth := none
    oth := none }

def header : Header :=
  { typ := TYP
    alg := Algorithm.edDsa.asStr
    crit := none }

@[reducible] noncomputable def serdeJson : SerdeJson :=
  SerdeJson.ofTable [(claims.serialize, claimsJson),
    (header.serialize, headerJson)]

open scoped Rfc4648 P256.Keyless

local instance : Ed25519 := Ed25519.signing signingInput signature

local instance : Sha2 := Sha2.single "wit" hash

noncomputable local instance : SerdeJson := serdeJson

local instance : SerdeJson.Lawful :=
  SerdeJson.ofTable_lawful (by decide +kernel)

def key : SigningKey := .ed25519 ()

/-- The request that the proof is for, at some time. -/
def validation (now : UInt64) : Validation := .new now "https://a.b/c" "wit"

theorem issue_claims :
    ∃ token, issue claims key = .ok token ∧ Str.len token ≤ MAX_TOKEN_LEN ∧
    claims.wth = witThumbprint "wit" := by
  have hne : claims.serialize ≠ header.serialize := by
    intro h
    have hkey := congrArg (fun p => p.1) (List.cons.inj (Json.object.inj h)).1
    exact absurd hkey (by decide)
  have hheader : toVec header.serialize = .ok headerJson :=
    toVec_ofTable (p := (header.serialize, headerJson))
      (by simp [hne]) (by simp)
  have hclaims : toVec claims.serialize = .ok claimsJson :=
    toVec_ofTable (p := (claims.serialize, claimsJson))
      (by simp [hne]) (by simp)
  have hinput : Base64.URL_SAFE_NO_PAD.encode headerJson ++ '.' ::
      Base64.URL_SAFE_NO_PAD.encode claimsJson = signingInput := by
    unfold headerJson claimsJson signingInput
    repeat rw [String.toList_ofList]
    decide +kernel
  have hsign :
      (key.sign (Str.asBytes signingInput)).toList = signature.toList :=
    Ed25519.sign_signing signingInput signature
  have hlen :
      Str.len (signingInput ++
        '.' :: Base64.URL_SAFE_NO_PAD.encode signature.toList)
      ≤ MAX_TOKEN_LEN := by
    unfold signingInput
    repeat rw [String.toList_ofList]
    decide +kernel
  have hwth : claims.wth = witThumbprint "wit" := by
    decide +kernel
  have hissue : issue claims key = .ok _ :=
    issue_of_toVec hheader hclaims hinput
  rw [hsign] at hissue
  exact ⟨_, hissue, hlen, hwth⟩

theorem accepts_claims {now : UInt64} (hnow : now < 100) :
    Accepts claims (validation now) := by
  obtain ⟨_, _, _, hwth⟩ := issue_claims
  exact accepts_new hwth rfl rfl rfl hnow

/-- The proof of these claims verifies until it expires. -/
theorem verify_issued_proof_example :
    ∃ token, issue claims key = .ok token ∧
      verify token key.verifyingKey (validation 99)
        = .ok { claims := claims } := by
  have hkey : key.SelfVerifies := Ed25519.single_selfVerifies _ _ _
  obtain ⟨token, htoken, hlen, _⟩ := issue_claims
  exact ⟨token, htoken,
    (verify_issued_proof Rfc4648.urlSafe_lawful hkey htoken (validation 99)).1.2
    ⟨hlen, accepts_claims (by decide)⟩⟩

end Example

end Wimsey.Wpt
