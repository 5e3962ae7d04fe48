import Wimsey.HttpSig.RoundTrip
import Wimsey.Wit.Token
import Wimsey.Wpt.Token

/-!
# A forgery reveals no policy

Each of the three verifiers runs in two phases: `authenticate`, up to a valid
signature, and then the checks against what the recipient is configured to
accept.  A signature that does not verify stops the first phase, which ends in
an error and not in a panic.  What a forger sees is therefore the same under
every policy.
-/

namespace Wimsey

open Wimsey.RustStd Wimsey.Codec Wimsey.Serde Wimsey.Jose

section General

variable [Base64] [SerdeJson] [Ed25519] [P256]

/-- The third part of the compact token is a signature by the key over the other
two, as `decode` reads it. -/
def CompactSigned (decode : Str → Option Bytes) (token : Str)
    (key : VerifyingKey) : Prop :=
  ∃ header claims signature bytes,
    token.splitOn '.' = [header, claims, signature] ∧
    decode signature = some bytes ∧
    key.verify (Str.asBytes (header ++ '.' :: claims)) bytes = .ok ()

/-! ## Identity tokens -/

/-- The signature of a WIT verifies. -/
def Wit.Signed (token : Str) (key : VerifyingKey) : Prop :=
  CompactSigned Base64.URL_SAFE_NO_PAD.decode token key

theorem Wit.signed_of_authenticate {token : Str} {key : VerifyingKey}
    {r : WitClaims × Option Str} (h : authenticate token key = .ok r) :
    Signed token key := by
  obtain ⟨_, _, h⟩ := Outcome.bind_eq_ok_iff.1 h
  split at h
  · rename_i header claims signature hparts
    simp only [Outcome.bind_eq_ok_iff, Outcome.okOr_eq_ok_iff,
      Outcome.mapErr_eq_ok_iff] at h
    obtain ⟨_, _, _, _, _, _, _, _, _, _, _, _, bytes, hbytes, _, _, _,
        hverify, _⟩ := h
    exact ⟨header, claims, signature, bytes, hparts, hbytes, hverify⟩
  · cases h

theorem Wit.authenticate_ne_panic (token : Str) (key : VerifyingKey) :
    authenticate token key ≠ .panic := by
  unfold authenticate
  apply Outcome.bind_ne_panic Outcome.failIf_ne_panic
  intro _ _
  split
  · rename_i headerB64 claimsB64 signatureB64 _
    apply Outcome.bind_ne_panic Outcome.okOr_ne_panic
    intro headerJson _
    apply Outcome.bind_ne_panic
      (Outcome.mapErr_ne_panic
        (fromSlice_ne_panic Header.deserialize_ne_panic headerJson))
    intro header _
    apply Outcome.bind_ne_panic Outcome.failIf_ne_panic
    intro _ _
    apply Outcome.bind_ne_panic
      (Outcome.mapErr_ne_panic (Algorithm.parse_ne_panic header.alg))
    intro alg _
    apply Outcome.bind_ne_panic Outcome.failIf_ne_panic
    intro _ _
    apply Outcome.bind_ne_panic Outcome.failIf_ne_panic
    intro _ _
    apply Outcome.bind_ne_panic Outcome.okOr_ne_panic
    intro signature _
    apply Outcome.bind_ne_panic Outcome.failIf_ne_panic
    intro _ _
    apply Outcome.bind_ne_panic
      (Outcome.mapErr_ne_panic (key.verify_ne_panic _ signature))
    intro _ _
    apply Outcome.bind_ne_panic Outcome.okOr_ne_panic
    intro claimsJson _
    apply Outcome.bind_ne_panic
      (Outcome.mapErr_ne_panic
        (fromSlice_ne_panic WitClaims.deserialize_ne_panic claimsJson))
    exact fun claims _ => nofun
  · exact nofun

/-- A WIT that is not signed fails in the same way under every `Validation`. -/
theorem Wit.exists_err_of_not_signed {token : Str} {key : VerifyingKey}
    (h : ¬ Signed token key) :
    ∃ e, ∀ validation, verify token key validation = .err e := by
  have hok : ∀ r, authenticate token key ≠ .ok r :=
    fun r hr => h (signed_of_authenticate hr)
  obtain ⟨e, he⟩ := Outcome.exists_err (authenticate_ne_panic token key) hok
  refine ⟨e, fun validation => ?_⟩
  rw [verify_eq, he, Outcome.err_bind]

/-! ## Proof tokens -/

/-- The signature of a WPT verifies. -/
def Wpt.Signed (wpt : Str) (popKey : VerifyingKey) : Prop :=
  CompactSigned (Base64.URL_SAFE_NO_PAD.decodeSlice · SIGNATURE_BUF_LEN)
    wpt popKey

theorem Wpt.signed_of_authenticate {wpt : Str} {popKey : VerifyingKey}
    {claims : WptClaims} (h : authenticate wpt popKey = .ok claims) :
    Signed wpt popKey := by
  obtain ⟨_, _, h⟩ := Outcome.bind_eq_ok_iff.1 h
  split at h
  · rename_i header claims signature hparts
    simp only [Outcome.bind_eq_ok_iff, Outcome.okOr_eq_ok_iff,
      Outcome.mapErr_eq_ok_iff] at h
    obtain ⟨_, _, _, _, _, _, _, _, _, _, _, _, bytes, hbytes, _, _, _,
        hverify, _⟩ := h
    exact ⟨header, claims, signature, bytes, hparts, hbytes, hverify⟩
  · cases h

theorem Wpt.authenticate_ne_panic (wpt : Str) (popKey : VerifyingKey) :
    authenticate wpt popKey ≠ .panic := by
  unfold authenticate
  apply Outcome.bind_ne_panic Outcome.failIf_ne_panic
  intro _ _
  split
  · rename_i headerB64 claimsB64 signatureB64 _
    apply Outcome.bind_ne_panic Outcome.okOr_ne_panic
    intro headerJson _
    apply Outcome.bind_ne_panic
      (Outcome.mapErr_ne_panic
        (fromSlice_ne_panic Header.deserialize_ne_panic headerJson))
    intro header _
    apply Outcome.bind_ne_panic Outcome.failIf_ne_panic
    intro _ _
    apply Outcome.bind_ne_panic
      (Outcome.mapErr_ne_panic (Algorithm.parse_ne_panic header.alg))
    intro alg _
    apply Outcome.bind_ne_panic Outcome.failIf_ne_panic
    intro _ _
    apply Outcome.bind_ne_panic Outcome.failIf_ne_panic
    intro _ _
    apply Outcome.bind_ne_panic Outcome.okOr_ne_panic
    intro signature _
    apply Outcome.bind_ne_panic Outcome.failIf_ne_panic
    intro _ _
    apply Outcome.bind_ne_panic
      (Outcome.mapErr_ne_panic (popKey.verify_ne_panic _ signature))
    intro _ _
    apply Outcome.bind_ne_panic Outcome.okOr_ne_panic
    intro claimsJson _
    exact Outcome.mapErr_ne_panic
      (fromSlice_ne_panic WptClaims.deserialize_ne_panic claimsJson)
  · exact nofun

/-- A WPT that is not signed fails in the same way under every `Validation`. -/
theorem Wpt.exists_err_of_not_signed [Sha2] {wpt : Str} {popKey : VerifyingKey}
    (h : ¬ Signed wpt popKey) :
    ∃ e, ∀ validation, verify wpt popKey validation = .err e := by
  have hok : ∀ r, authenticate wpt popKey ≠ .ok r :=
    fun r hr => h (signed_of_authenticate hr)
  obtain ⟨e, he⟩ := Outcome.exists_err (authenticate_ne_panic wpt popKey) hok
  refine ⟨e, fun validation => ?_⟩
  rw [verify_eq, he, Outcome.err_bind]

/-! ## Message signatures -/

section HttpSig

open HttpSig

variable {M : Type} [ComponentSource M]

/-- The part of a configuration that is about what was signed, replaced. -/
def HttpSig.VerifyConfig.withPolicy (config : VerifyConfig)
    (now : Option UInt64) (leeway : UInt64) (maxAge : Option UInt64)
    (requiredComponents : List Component) (expectedAudiences : List Str)
    (expectedReqNonce : Option Str) : VerifyConfig :=
  { config with
    now := now
    leeway := leeway
    maxAge := maxAge
    requiredComponents := requiredComponents
    expectedAudiences := expectedAudiences
    expectedReqNonce := expectedReqNonce }

omit [SerdeJson] in
/-- A message without an authentic member fails in the same way under every
policy. -/
theorem HttpSig.exists_err_of_not_authentic {message : M}
    {signatureInput signature : Str} {key : VerifyingKey}
    {config : VerifyConfig}
    (h : ∀ member,
      ¬ Authentic message signatureInput signature key config member) :
    ∃ e,
    ∀ now leeway maxAge requiredComponents expectedAudiences expectedReqNonce,
      verify message signatureInput signature key
        (config.withPolicy now leeway maxAge requiredComponents
          expectedAudiences expectedReqNonce)
          = .err e := by
  have hok : ∀ member, authenticate message signatureInput signature key config
      ≠ .ok member :=
    fun member hmember => h member (authenticate_eq_ok_iff.1 hmember)
  obtain ⟨e, he⟩ := Outcome.exists_err
    (authenticate_ne_panic message signatureInput signature key config) hok
  refine ⟨e,
    fun now leeway maxAge requiredComponents expectedAudiences
      expectedReqNonce => ?_⟩
  have hpolicy : authenticate message signatureInput signature key
      (config.withPolicy now leeway maxAge requiredComponents expectedAudiences
        expectedReqNonce)
        = authenticate message signatureInput signature key config := rfl
  rw [verify_eq, hpolicy, he, Outcome.err_bind]

end HttpSig

/-- None of the verifiers says anything about its policy before the signature is
proven. -/
theorem forgery_reveals_no_policy [Wpt.Sha2] {M : Type}
    [HttpSig.ComponentSource M] :
    (∀ (message : M) signatureInput signature key config,
      (∀ member, ¬ HttpSig.Authentic message signatureInput signature key
        config member) →
        ∃ e,
          ∀ now leeway maxAge requiredComponents expectedAudiences
            expectedReqNonce,
            HttpSig.verify message signatureInput signature key
              (config.withPolicy now leeway maxAge requiredComponents
                expectedAudiences expectedReqNonce) = .err e) ∧
      (∀ token key, ¬ Wit.Signed token key →
        ∃ e, ∀ validation, Wit.verify token key validation = .err e) ∧
      (∀ wpt popKey, ¬ Wpt.Signed wpt popKey →
        ∃ e, ∀ validation, Wpt.verify wpt popKey validation = .err e) := by
  refine ⟨?_, ?_, ?_⟩
  · intro message signatureInput signature key config h
    exact HttpSig.exists_err_of_not_authentic h
  · intro token key h
    exact Wit.exists_err_of_not_signed h
  · intro wpt popKey h
    exact Wpt.exists_err_of_not_signed h

end General

namespace Example

open HttpSig.Example
  (request params config base signatureBase_request wellNamed isKey)

open scoped Rfc4648 P256.Keyless

/-- The key of the seed `01 01 ... 01`, which has signed one request and nothing
else. -/
local instance : Ed25519 := Ed25519.ideal base HttpSig.Example.signature

local instance : Wpt.Sha2 := Wpt.Sha2.single [] (Vector.replicate 32 0)

noncomputable local instance : SerdeJson := SerdeJson.ofTable []

def key : SigningKey := .ed25519 ()

/-- The request with another path, which carries the signature of the first
one. -/
def forged : HttpSig.HttpRequest := { request with path := "/admin" }

/-- A token that carries the signature of the request. -/
def token : Str :=
  "e30.e30.cDNz0jMbgvwqA63Do-MJ5kqjwt9IfLqgzFWCO9MQ6YLHOpTC7ytQKzTiKjgCOTzNCrbI28kgtmMi73mCECjnAQ"

theorem not_compactSigned (decode : Str → Option Bytes) :
    ¬ CompactSigned decode token key.verifyingKey := by
  intro ⟨header, claims, signature, _, hparts, _, hverify⟩
  have hsplit : token.splitOn '.' = ["e30", "e30",
      "cDNz0jMbgvwqA63Do-MJ5kqjwt9IfLqgzFWCO9MQ6YLHOpTC7ytQKzTiKjgCOTzNCrbI28kgtmMi73mCECjnAQ"]
    := by
    decide +kernel
  obtain ⟨rfl, htail⟩ := List.cons.inj (hsplit.symm.trans hparts)
  obtain ⟨rfl, _⟩ := List.cons.inj htail
  have hbase := Str.asBytes_injective (Ed25519.ideal_verify_iff.1 hverify).1
  exact absurd hbase (by decide +kernel)

theorem not_authentic {signed : HttpSig.SignedSignature}
    (hsigned : HttpSig.sign request (HttpSig.requestComponents request) params
      "wimse" key
      = .ok signed) (member : HttpSig.InputMember) :
    ¬ HttpSig.Authentic forged signed.signatureInput signed.signature
      key.verifyingKey config member := by
  intro h
  obtain ⟨hsplit, _⟩ := HttpSig.read_sign Rfc4648.standard_lawful
    (fun c hc => (wellNamed c hc).tokenNamed) isKey hsigned
  have hparse := HttpSig.parseInputMember_serialize "wimse" wellNamed
    (HttpSig.trim_serializeParamsValue
      (HttpSig.requestComponents request) params)
  obtain ⟨rfl, _⟩ :=
    (HttpSig.selectMember_of_lone config hsplit hparse).1 h.selected
  obtain ⟨_, forgedBase, _, hbase, hverify⟩ := h.signed
  obtain rfl := Str.asBytes_injective (Ed25519.ideal_verify_iff.1 hverify).1
  have hne :
      HttpSig.signatureBase forged (HttpSig.requestComponents request) params
      ≠ .ok base := by
    decide +kernel
  exact hne hbase

/-- A request, a WIT and a WPT with the signature of another request. -/
theorem forgery_reveals_no_policy_example :
    (∃ signed, HttpSig.sign request (HttpSig.requestComponents request) params
      "wimse" key
        = .ok signed ∧
      ∃ e,
        ∀ now leeway maxAge requiredComponents expectedAudiences
          expectedReqNonce,
          HttpSig.verify forged signed.signatureInput signed.signature
            key.verifyingKey
          (config.withPolicy now leeway maxAge requiredComponents
            expectedAudiences expectedReqNonce) = .err e) ∧
      (∃ e, ∀ validation, Wit.verify token key.verifyingKey validation
        = .err e) ∧
      ∃ e, ∀ validation, Wpt.verify token key.verifyingKey validation
        = .err e := by
  obtain ⟨hmessage, hwit, hwpt⟩ :=
    forgery_reveals_no_policy (M := HttpSig.HttpRequest)
  obtain ⟨signed, hsigned⟩ :=
    HttpSig.exists_sign "wimse" key signatureBase_request
  refine ⟨⟨signed, hsigned, ?_⟩, hwit _ _ (not_compactSigned _),
    hwpt _ _ (not_compactSigned _)⟩
  exact hmessage _ _ _ _ _ (not_authentic hsigned)

end Example

end Wimsey
