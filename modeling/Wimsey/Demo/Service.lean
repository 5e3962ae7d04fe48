import Wimsey.Cli.Httpsig
import Wimsey.Critical
import Wimsey.HttpSig.Relay

/-!
# The demo

The model of `crates/demo/src/main.rs` up to the middlebox: the identity server
issues a token to service A, service A signs a request, and service B verifies
what reaches it.  What the steps print is left out.  Where a step expects an
error, its absence is a panic.

`service_b_accepts_iff` says what service B accepts from whatever stands between
the two: the requests that a chain of hops leads to, with a body of the same
hash.  `middlebox_steps` says that the steps of the demo hold, for every token
and every body.
-/

namespace Wimsey.Demo

open Wimsey.RustStd Wimsey.Codec Wimsey.Serde Wimsey.Jose Wimsey.HttpSig
  Wimsey.System
open Wimsey.Identifier (WorkloadIdentifier)

/-! ## The steps -/

def ISSUER : Str := "https://identity.demo.example".toList

def SERVICE_A : Str := "wimse://demo.example/service/a".toList

def SERVICE_B_AUDIENCE : Str := "https://b.demo.example/transfer".toList

def NOW : UInt64 := 1700000000

/-- When service B does its verifying. -/
def LATER : UInt64 := NOW + 5

/-- The constant `WIMSE_LABEL` of the signature crate. -/
def WIMSE_LABEL : Str := "wimse".toList

/-- The errors that end the demo. -/
inductive DemoError where
  | message (text : Str)
  | identifier (error : Identifier.ParseError)
  | wit (error : Wit.WitError)
  | httpSig (error : HttpSigError)

/-- `Result::expect_err`, where the error is not looked at. -/
def expectErr {ε δ α : Type} : Outcome ε α → Outcome δ Unit
  | .err _ => .ok ()
  | _ => .panic

/-- `assert!`. -/
def assert {δ : Type} (holds : Bool) : Outcome δ Unit :=
  if holds then .ok () else .panic

/-- `covered`. -/
def covered : List Component :=
  [.method, .path, .query, .ofHeader "content-type", .ofHeader "content-digest",
    .ofHeader "workload-identity-token"]

/-- The parameters of the signature of service A. -/
def params : SignatureParams :=
  { SignatureParams.default with
    created := some NOW
    expires := some (NOW + 300)
    nonce := some "nonce-0001"
    tag := some WIMSE_TAG
    wimseAud := some SERVICE_B_AUDIENCE }

/-- The configuration of service B. -/
def config : VerifyConfig :=
  { VerifyConfig.default with
    now := some LATER
    requiredComponents := covered
    wimseProfile := true
    expectedAudiences := [SERVICE_B_AUDIENCE] }

section Steps

variable [Base64] [Wpt.Sha2]

/-- `request_as_sent`. -/
def requestAsSent (wit : Str) (body : Bytes) (path : Str)
    (extra : List (Str × Str)) :
    HttpRequest :=
  { method := "POST"
    authority := "b.demo.example"
    path := path
    query := none
    headers :=
      ("Content-Type".toList, "application/json".toList) ::
        ("Content-Digest".toList, contentDigestSha256 body) ::
        ("Workload-Identity-Token".toList, wit) :: extra }

variable [SerdeJson] [Ed25519] [P256]

/-- `issue_wit`. -/
def issueWit (issuerKey popKey : SigningKey) : Outcome DemoError Str := do
  let sub ← Outcome.mapErr .identifier (Identifier.parse SERVICE_A)
  let jwk ← Jwk.fromVerifyingKey popKey.verifyingKey
  let claims : Wit.WitClaims :=
    { iss := some ISSUER
      sub := sub
      iat := some NOW
      exp := NOW + 3600
      jti := some "wit-0001"
      cnf := { jwk := jwk } }
  Outcome.mapErr .wit (Wit.issue claims (some "issuer-key-1".toList) issuerKey)

omit [SerdeJson] in
/-- `sign_request`. -/
def signRequest (popKey : SigningKey) (wit : Str) (body : Bytes) :
    Outcome DemoError SignedSignature :=
  Outcome.mapErr .httpSig
    (sign (requestAsSent wit body "/transfer" []) covered params
      WIMSE_LABEL popKey)

/-- `service_b_verifies`. -/
def serviceBVerifies (issuerKey : SigningKey) (wit : Str)
    (signed : SignedSignature) (request : HttpRequest) (body : Bytes) :
    Outcome DemoError WorkloadIdentifier := do
  let verifiedWit ← Outcome.mapErr .wit
    (Wit.verify wit issuerKey.verifyingKey (Wit.Validation.at LATER))
  let _ ← Outcome.mapErr .httpSig
    (HttpSig.verify request signed.signatureInput signed.signature
      verifiedWit.popKey config)
  let digest ← Outcome.mapErr .httpSig
      (request.componentValue (.ofHeader "content-digest"))
  Outcome.failIf (!verifyContentDigest digest body)
    (.message "the body does not match the signed Content-Digest")
  .ok verifiedWit.claims.sub

/-- `forwarded_by_a_middlebox`. -/
def forwardedByAMiddlebox (issuerKey : SigningKey) (wit : Str)
    (signed : SignedSignature) (body : Bytes) : Outcome DemoError Unit := do
  let _ ← Outcome.mapErr DemoError.wit
    (Wit.verify wit issuerKey.verifyingKey (Wit.Validation.at LATER))
  let forwarded :=
    requestAsSent wit body "/transfer"
      [("X-Forwarded-By", "middlebox.demo.example")]
  let _ ← serviceBVerifies issuerKey wit signed forwarded body
  .ok ()

/-- The body that the middlebox puts in the place of the one that was sent. -/
def swappedBody : Bytes :=
  Str.asBytes "\x7b\"amount\":999,\"to\":\"acct-99\"\x7d"

/-- `tampered_by_a_middlebox`. -/
def tamperedByAMiddlebox (issuerKey : SigningKey) (wit : Str)
    (signed : SignedSignature) (body : Bytes) : Outcome DemoError Unit := do
  let rerouted := requestAsSent wit body "/admin" []
  expectErr (serviceBVerifies issuerKey wit signed rerouted body)
  let request := requestAsSent wit body "/transfer" []
  let digest ← Outcome.mapErr .httpSig
      (request.componentValue (.ofHeader "content-digest"))
  assert (!verifyContentDigest digest swappedBody)

end Steps

/-! ## What service B accepts -/

section Accepts

variable [Base64] [Wpt.Sha2]

/-- What service A covers is what the profile asks for. -/
theorem requestComponents_eq (wit : Str) (body : Bytes) (path : Str) :
    requestComponents (requestAsSent wit body path []) = covered := by
  rfl

theorem wellNamed_covered : ∀ c ∈ covered, c.WellNamed := by
  have hcomponents := requestComponents_eq [] [] []
  rw [← hcomponents]
  exact wellNamed_requestComponents _

theorem trim_contentDigestSha256 (body : Bytes) :
    Str.trim (contentDigestSha256 body) = contentDigestSha256 body := by
  have hhead : ∀ rest : Str, Str.HeadKept ('s' :: rest) := by
    intro rest c hc
    obtain rfl : 's' = c := Option.some.inj hc
    decide
  have hlast : ∀ start : Str, Str.LastKept (start ++ [':']) := by
    intro start c hc
    rw [List.getLast?_concat, Option.mem_some] at hc
    rw [← hc]
    decide
  exact Str.trim_eq_self (hhead _) (hlast _)

/-- The field determines the hash of the body. -/
theorem contentDigestSha256_eq_iff
    (hbase64 : Base64.STANDARD.Lawful (Rfc4648.standardAlphabet ++ ['=']))
    {body body' : Bytes} :
    contentDigestSha256 body = contentDigestSha256 body' ↔
      Wpt.Sha2.digest body = Wpt.Sha2.digest body' := by
  have hwrapped : ∀ start text text' : Str,
      start ++ text ++ [':'] = start ++ text' ++ [':'] ↔ text = text' := by
    intro start text text'
    rw [List.append_left_inj, List.append_right_inj]
  constructor
  · intro h
    exact hbase64.encode_injective ((hwrapped _ _ _).1 h)
  · intro h
    exact (hwrapped _ _ _).2 (congrArg Base64.STANDARD.encode h)

/-- The digest that service B reads is the one that service A has put there. -/
theorem digest_requestAsSent (wit : Str) (body : Bytes) (path : Str) :
    (requestAsSent wit body path []).componentValue (.ofHeader "content-digest")
      = .ok (contentDigestSha256 body) := by
  have htype : Str.eqIgnoreAsciiCase "Content-Type" "content-digest"
      = false := by decide
  have hname : Str.eqIgnoreAsciiCase "Content-Digest" "content-digest"
      = true := by decide
  have hwit : Str.eqIgnoreAsciiCase "Workload-Identity-Token" "content-digest"
      = false := by decide
  have hvalues :
      fieldValues (requestAsSent wit body path []).headers "content-digest"
      = [contentDigestSha256 body] := by
    simp only [fieldValues, requestAsSent, List.filter_cons, List.filter_nil,
      htype, hname, hwit, Bool.false_eq_true, if_false, if_true, List.map_cons,
      List.map_nil, trim_contentDigestSha256]
  have hcomponent : Component.ofHeader "content-digest"
      = .header "content-digest" := by decide
  rw [hcomponent]
  show headerValue (requestAsSent wit body path []).headers "content-digest" = _
  rw [headerValue, hvalues, List.isEmpty_cons, if_neg Bool.false_ne_true,
    List.intercalate_singleton]

/-- The parameters and the components that service A signs are what service B
asks for. -/
theorem allows [Ed25519] [P256] (key : VerifyingKey) (wit : Str) (body : Bytes)
    (path : Str) :
    Allows (requestAsSent wit body path []) key config WIMSE_LABEL covered
      params where
  request _ := ⟨⟨rfl, rfl, rfl, rfl, rfl, rfl⟩, rfl⟩
  response h := by cases h
  connect _ h := by
    have hmethod : ("POST" : Str) = CONNECT := Outcome.ok.inj h
    exact absurd hmethod (by decide)
  accepted := Or.inl rfl
  alg _ h := by cases h
  required := by decide
  audience _ := ⟨SERVICE_B_AUDIENCE, List.mem_cons_self .., rfl⟩
  reqNonce _ h := by cases h
  window created hcreated expires hexpires := by
    obtain rfl := Option.some.inj hcreated
    obtain rfl := Option.some.inj hexpires
    decide
  clock _ := rfl
  expires now hnow expires hexpires := by
    obtain rfl := Option.some.inj hnow
    obtain rfl := Option.some.inj hexpires
    decide
  created now hnow created hcreated := by
    obtain rfl := Option.some.inj hnow
    obtain rfl := Option.some.inj hcreated
    decide
  maxAge now hnow maxAge hmaxAge := by cases hmaxAge
  label h := by cases h

variable [SerdeJson] [Ed25519] [P256]

/-- What service B accepts with a token that it accepts: the requests behind a
chain of hops from the one that service A has signed, with a body of the same
hash. -/
theorem serviceBVerifies_eq_ok_iff
    (hbase64 : Base64.STANDARD.Lawful (Rfc4648.standardAlphabet ++ ['=']))
    {issuerKey popKey : SigningKey} {wit presented : Str} {body : Bytes}
    {signed : SignedSignature} {w : Wit.VerifiedWit}
    (hsigned : signRequest popKey wit body = .ok signed)
    (hbinds : ∀ base,
      signatureBase (requestAsSent wit body "/transfer" []) covered params
      = .ok base → Binds popKey (Str.asBytes base))
    (hwit : Wit.verify presented issuerKey.verifyingKey
      (Wit.Validation.at LATER) = .ok w)
    (hpop : w.popKey = popKey.verifyingKey) {received : HttpRequest}
    {body' : Bytes} {id : WorkloadIdentifier} :
    serviceBVerifies issuerKey presented signed received body' = .ok id ↔
      id = w.claims.sub ∧
        Relation.ReflTransGen (Hop covered)
          (requestAsSent wit body "/transfer" []) received ∧
        Wpt.Sha2.digest body' = Wpt.Sha2.digest body := by
  have hsign :
      sign (requestAsSent wit body "/transfer" []) covered params
        WIMSE_LABEL popKey
      = .ok signed := Outcome.mapErr_eq_ok_iff.1 hsigned
  have hlabel : IsKey WIMSE_LABEL := by decide
  have hdigest : ∀ digest : Str, verifyContentDigest digest body' = true ↔
      digest = contentDigestSha256 body' := fun digest => beq_iff_eq
  have hcovered : Component.ofHeader "content-digest" ∈ covered := by
    simp [covered]
  simp only [serviceBVerifies, hwit, hpop, Outcome.mapErr_ok, Outcome.ok_bind,
    Outcome.bind_eq_ok_iff, Outcome.mapErr_eq_ok_iff, Outcome.failIf_eq_ok_iff,
    Bool.not_eq_false', hdigest]
  constructor
  · intro ⟨verified, hverified, digest, hvalue, _, hbody, hid⟩
    have hvalues :=
      sameValues_of_verify hbase64 wellNamed_covered hlabel hsign
        hbinds hverified
    have hmethod : Outcome.ok _ = Outcome.ok received.method :=
      hvalues .method (List.mem_cons_self ..)
    refine ⟨(Outcome.ok.inj hid).symm,
      hops_iff.2 ⟨by rw [Outcome.ok.inj hmethod], hvalues⟩, ?_⟩
    -- The digest is covered, and so it is the one of the body that was sent.
    have hsame := hvalues (.ofHeader "content-digest") hcovered
    rw [hbody] at hvalue
    have hsent :=
      (digest_requestAsSent wit body "/transfer").symm.trans
        (hsame.trans hvalue)
    exact ((contentDigestSha256_eq_iff hbase64).1 (Outcome.ok.inj hsent)).symm
  · intro ⟨hid, hhops, hbody⟩
    obtain ⟨hconnect, hvalues⟩ := hops_iff.1 hhops
    have hverified :=
      verify_of_sameValues hbase64 wellNamed_covered hlabel hsign hbinds
      (allows popKey.verifyingKey wit body "/transfer")
        (sameConnect_of_request hconnect) hvalues
    have hvalue := (hvalues (.ofHeader "content-digest") hcovered).symm.trans
      (digest_requestAsSent wit body "/transfer")
    have hsame := (contentDigestSha256_eq_iff hbase64).2 hbody.symm
    exact ⟨_, hverified, _, hvalue, (), hsame, by rw [hid]⟩

/-- Service B returns an error where it does not accept. -/
theorem expectErr_serviceBVerifies {δ : Type} {issuerKey : SigningKey}
    {wit : Str} {signed : SignedSignature} {request : HttpRequest}
    {body : Bytes}
    (h : ∀ id, serviceBVerifies issuerKey wit signed request body ≠ .ok id) :
    (expectErr (serviceBVerifies issuerKey wit signed request body) :
      Outcome δ Unit) = .ok () := by
  have hpanic : serviceBVerifies issuerKey wit signed request body
      ≠ .panic := by
    unfold serviceBVerifies
    apply Outcome.bind_ne_panic
      (Outcome.mapErr_ne_panic (Wit.verify_ne_panic _ _ _))
    intro w _
    apply Outcome.bind_ne_panic
      (Outcome.mapErr_ne_panic (HttpSig.verify_ne_panic _ _ _ _ _))
    intro _ _
    apply Outcome.bind_ne_panic
      (Outcome.mapErr_ne_panic (request.componentValue_ne_panic _))
    intro digest _
    exact Outcome.bind_ne_panic Outcome.failIf_ne_panic fun _ _ => nofun
  cases hresult : serviceBVerifies issuerKey wit signed request body with
  | ok id => exact absurd hresult (h id)
  | err error => rfl
  | panic => exact absurd hresult hpanic

variable [SerdeJson.Lawful]

omit [Wpt.Sha2] in
/-- The token that the identity server issues is accepted by service B, with the
key of service A. -/
theorem verify_issueWit
    (hurl : Base64.URL_SAFE_NO_PAD.Lawful Rfc4648.urlSafeAlphabet)
    (hed25519 : Ed25519.ReadsKeys) (hp256 : P256.ReadsKeys)
    {issuerKey popKey : SigningKey} {wit : Str}
    (hissuer : issuerKey.SelfVerifies)
    (hissued : issueWit issuerKey popKey = .ok wit)
    (hlen : Str.len wit ≤ Wit.MAX_TOKEN_LEN) :
    ∃ w,
      Wit.verify wit issuerKey.verifyingKey (Wit.Validation.at LATER) = .ok w ∧
      w.popKey = popKey.verifyingKey ∧
      Identifier.parse SERVICE_A = .ok w.claims.sub := by
  obtain ⟨jwk, hjwk, hpop⟩ :=
    Jwk.exists_fromVerifyingKey (ε := DemoError) hurl hed25519 hp256
      popKey.verifyingKey
  unfold issueWit at hissued
  simp only [Outcome.bind_eq_ok_iff, Outcome.mapErr_eq_ok_iff, hjwk,
    Outcome.ok_bind] at hissued
  obtain ⟨sub, hsub, hissue⟩ := hissued
  have hexp :
      LATER < saturatingAdd (NOW + 3600) (Wit.Validation.at LATER).leeway := by
    decide
  refine ⟨{ claims := _, kid := _, popKey := popKey.verifyingKey },
    Wit.verify_of_issue hurl hissuer hissue hlen ?_, rfl, hsub⟩
  exact
    { exp := hexp
      iat iat h := by
        obtain rfl := Option.some.inj h
        show NOW ≤ saturatingAdd LATER (Wit.Validation.at LATER).leeway
        decide
      iss iss h := by cases h
      cnf := hpop }

omit [Base64] [Wpt.Sha2] [SerdeJson] [Ed25519] [P256] [SerdeJson.Lawful] in
/-- An intermediary may put a field that is not covered behind the others. -/
theorem hop_append {components : List Component} (request : HttpRequest)
    {line : Str × Str} (h : ¬ CoversField components (fieldKey line)) :
    Hop components request
      { request with headers := request.headers ++ [line] } := by
  have hadd := FieldHop.add request.headers [] h
  rw [List.append_nil] at hadd
  exact .fields request hadd

omit [Base64] [Wpt.Sha2] [SerdeJson] [Ed25519] [P256] [SerdeJson.Lawful] in
theorem not_coversField_forwarded :
    ¬ CoversField covered
      (fieldKey ("X-Forwarded-By", "middlebox.demo.example")) := by
  intro ⟨name, hname, hkey⟩
  simp only [covered, Component.ofHeader, List.mem_cons, List.not_mem_nil,
    or_false, reduceCtorEq, false_or, Component.header.injEq] at hname
  rcases hname with rfl | rfl | rfl <;> exact absurd hkey (by decide)

/-- The steps with the middlebox hold, whatever the keys and the body are: the
request comes through with a field added, and neither with another path nor with
another body. -/
theorem middlebox_steps
    (hbase64 : Base64.STANDARD.Lawful (Rfc4648.standardAlphabet ++ ['=']))
    (hurl : Base64.URL_SAFE_NO_PAD.Lawful Rfc4648.urlSafeAlphabet)
    (hed25519 : Ed25519.ReadsKeys) (hp256 : P256.ReadsKeys)
    {issuerKey popKey : SigningKey} {wit : Str} {body : Bytes}
    {signed : SignedSignature} (hissuer : issuerKey.SelfVerifies)
    (hissued : issueWit issuerKey popKey = .ok wit)
    (hlen : Str.len wit ≤ Wit.MAX_TOKEN_LEN)
    (hsigned : signRequest popKey wit body = .ok signed)
    (hbinds : ∀ base,
      signatureBase (requestAsSent wit body "/transfer" []) covered params
      = .ok base → Binds popKey (Str.asBytes base))
    (hswapped : Wpt.Sha2.digest swappedBody ≠ Wpt.Sha2.digest body) :
    forwardedByAMiddlebox issuerKey wit signed body = .ok () ∧
      tamperedByAMiddlebox issuerKey wit signed body = .ok () := by
  obtain ⟨w, hwit, hpop, _⟩ :=
    verify_issueWit hurl hed25519 hp256 hissuer hissued hlen
  have haccepts :
      ∀ {received : HttpRequest} {body' : Bytes} {id : WorkloadIdentifier},
      serviceBVerifies issuerKey wit signed received body' = .ok id ↔ _ :=
    serviceBVerifies_eq_ok_iff hbase64 hsigned hbinds hwit hpop
  constructor
  · have hforwarded : serviceBVerifies issuerKey wit signed
        (requestAsSent wit body "/transfer"
          [("X-Forwarded-By", "middlebox.demo.example")]) body
        = .ok w.claims.sub := by
      exact haccepts.2 ⟨rfl,
        .single (hop_append _ not_coversField_forwarded), rfl⟩
    rw [forwardedByAMiddlebox, hwit, Outcome.mapErr_ok, Outcome.ok_bind]
    show (serviceBVerifies issuerKey wit signed _ body >>=
      fun _ => Outcome.ok ()) = _
    rw [hforwarded, Outcome.ok_bind]
  · have hrerouted : ∀ id,
        serviceBVerifies issuerKey wit signed
          (requestAsSent wit body "/admin" []) body ≠ .ok id := by
      intro id h
      obtain ⟨_, hhops, _⟩ := haccepts.1 h
      -- The path is covered.
      have hpath : Outcome.ok "/transfer".toList = Outcome.ok "/admin".toList :=
        (hops_iff.1 hhops).2 .path (by simp [covered])
      exact absurd (Outcome.ok.inj hpath) (by decide)
    have hdigest : verifyContentDigest (contentDigestSha256 body) swappedBody
        = false := by
      apply beq_false_of_ne
      intro h
      exact hswapped ((contentDigestSha256_eq_iff hbase64).1 h).symm
    simp only [tamperedByAMiddlebox, expectErr_serviceBVerifies hrerouted,
      Outcome.ok_bind, digest_requestAsSent, Outcome.mapErr_ok, hdigest]
    rfl

/-- Service B accepts exactly the requests behind a chain of hops from the one
that service A has signed, with a body of the same hash: whatever it adds or
reorders, an intermediary can neither change what is covered nor swap the
body. -/
theorem service_b_accepts_iff
    (hbase64 : Base64.STANDARD.Lawful (Rfc4648.standardAlphabet ++ ['=']))
    (hurl : Base64.URL_SAFE_NO_PAD.Lawful Rfc4648.urlSafeAlphabet)
    (hed25519 : Ed25519.ReadsKeys) (hp256 : P256.ReadsKeys)
    {issuerKey popKey : SigningKey} {wit : Str} {body : Bytes}
    {signed : SignedSignature} (hissuer : issuerKey.SelfVerifies)
    (hissued : issueWit issuerKey popKey = .ok wit)
    (hlen : Str.len wit ≤ Wit.MAX_TOKEN_LEN)
    (hsigned : signRequest popKey wit body = .ok signed)
    (hbinds : ∀ base,
      signatureBase (requestAsSent wit body "/transfer" []) covered params
      = .ok base → Binds popKey (Str.asBytes base))
    (received : HttpRequest) (body' : Bytes) (id : WorkloadIdentifier) :
    serviceBVerifies issuerKey wit signed received body' = .ok id ↔
      Identifier.parse SERVICE_A = .ok id ∧
        Relation.ReflTransGen (Hop covered)
          (requestAsSent wit body "/transfer" []) received ∧
        Wpt.Sha2.digest body' = Wpt.Sha2.digest body := by
  obtain ⟨w, hwit, hpop, hsub⟩ :=
    verify_issueWit hurl hed25519 hp256 hissuer hissued hlen
  rw [serviceBVerifies_eq_ok_iff hbase64 hsigned hbinds hwit hpop, hsub,
    Outcome.ok.injEq, eq_comm]

end Accepts

/-! ## The request of the demo -/

namespace Example

def body : Str := "\x7b\"amount\":100,\"to\":\"acct-42\"\x7d"

/-- The hash of the body. -/
def hash : Vector UInt8 32 :=
  #v[238, 8, 133, 7, 12, 168, 202, 31, 247, 223, 62, 83, 39, 92, 76, 173, 179,
    251, 247, 71, 243, 224, 234, 56, 10, 0, 47, 140, 105, 171, 142, 157]

def witInput : Str :=
  ("eyJ0eXAiOiJ3aXQrand0IiwiYWxnIjoiRWREU0EiLCJraWQiOiJpc3N1ZXIta2V5LTEifQ.eyJpc3MiOiJodHRwc" ++
    "zovL2lkZW50aXR5LmRlbW8uZXhhbXBsZSIsInN1YiI6IndpbXNlOi8vZGVtby5leGFtcGxlL3NlcnZpY2UvYSIsI" ++
    "mlhdCI6MTcwMDAwMDAwMCwiZXhwIjoxNzAwMDAzNjAwLCJqdGkiOiJ3aXQtMDAwMSIsImNuZiI6eyJqd2siOnsiY" ++
    "WxnIjoiRWREU0EiLCJrdHkiOiJPS1AiLCJjcnYiOiJFZDI1NTE5IiwieCI6ImlvamozWFFKOFpYOVV0c3RQTHBkY" ++
    "3NwbkNiOGRsQkliODNTSUFiUVBiMXcifX19")

/-- The signature of the token by the key of the seed `01 01 ... 01`. -/
def witSignature : Vector UInt8 64 :=
  #v[207, 38, 162, 226, 31, 52, 150, 49, 228, 147, 14, 155, 133, 29, 207, 208,
    91, 40, 141, 79, 255, 19, 219, 15, 140, 113, 132, 11, 205, 112, 59, 152, 72,
    150, 170, 198, 7, 15, 41, 101, 108, 199, 181, 13, 143, 50, 125, 18, 101, 49,
    223, 82, 144, 104, 92, 73, 145, 92, 188, 9, 175, 6, 79, 9]

def headerJson : Bytes :=
  Str.asBytes
    "\x7b\"typ\":\"wit+jwt\",\"alg\":\"EdDSA\",\"kid\":\"issuer-key-1\"\x7d"

def claimsJson : Bytes :=
  Str.asBytes
    ("\x7b\"iss\":\"https://identity.demo.example\",\"sub\":\"wimse://demo.example/service" ++
    "/a\",\"iat\":1700000000,\"exp\":1700003600,\"jti\":\"wit-0001\",\"cnf\":\x7b\"jwk\":" ++
    "\x7b\"alg\":\"EdDSA\",\"kty\":\"OKP\",\"crv\":\"Ed25519\",\"x\":\"iojj3XQJ8ZX9UtstPL" ++
    "pdcspnCb8dlBIb83SIAbQPb1w\"\x7d\x7d\x7d")

def header : Wit.Header :=
  { typ := Wit.TYP
    alg := Algorithm.edDsa.asStr
    kid := some "issuer-key-1"
    crit := none }

def sub : WorkloadIdentifier where
  uri := SERVICE_A
  scheme := .wimse
  trustDomainLen := 12
  parsed := by decide +kernel

def claims : Wit.WitClaims :=
  { iss := some ISSUER
    sub := sub
    iat := some NOW
    exp := NOW + 3600
    jti := some "wit-0001"
    cnf := { jwk := Wit.Example.jwk } }

open scoped Rfc4648 P256.Keyless

local instance : Wpt.Sha2 := Wpt.Sha2.single body hash

noncomputable local instance : SerdeJson :=
  SerdeJson.ofTable [(claims.serialize, claimsJson),
    (header.serialize, headerJson)]

local instance : SerdeJson.Lawful :=
  SerdeJson.ofTable_lawful (by decide +kernel)

def token : Str :=
  witInput ++ '.' :: Base64.URL_SAFE_NO_PAD.encode witSignature.toList

/-- The signature base of the request. -/
def base : Str :=
  ("\"@method\": POST\n\"@path\": /transfer\n\"@query\": ?\n\"content-type\": application/js" ++
      "on\n\"content-digest\": sha-256=:7giFBwyoyh/33z5TJ1xMrbP790fz4Oo4CgAvjGmrjp0=:\n\"worklo" ++
      "ad-identity-token\": ").toList ++
    token ++
    ("\n\"@signature-params\": (\"@method\" \"@path\" \"@query\" \"content-type\" \"content-di" ++
      "gest\" \"workload-identity-token\");created=1700000000;expires=1700000300;nonce=\"nonce-" ++
      "0001\";tag=\"wimse-workload-to-workload\";wimse-aud=\"https://b.demo.example/transfer\""
    ).toList

/-- The signature of the base by the same key. -/
def signature : Vector UInt8 64 :=
  #v[198, 170, 117, 38, 87, 36, 228, 119, 158, 97, 68, 157, 190, 142, 218, 187,
    191, 76, 132, 20, 62, 108, 231, 69, 156, 188, 188, 254, 228, 110, 95, 190,
    255, 24, 168, 177, 51, 20, 42, 239, 184, 226, 123, 47, 172, 210, 3, 29, 220,
    245, 86, 248, 21, 5, 195, 92, 34, 10, 45, 198, 171, 149, 105, 3]

local instance : Ed25519 :=
  Ed25519.signingTwo witInput witSignature base signature

/-- The key of the identity server, and of service A. -/
def key : SigningKey := .ed25519 ()

theorem issueWit_key : issueWit key key = .ok token := by
  have hsub : Identifier.parse SERVICE_A = .ok sub := by decide +kernel
  have hjwk : (Jwk.fromVerifyingKey key.verifyingKey : Outcome DemoError Jwk)
      = .ok Wit.Example.jwk :=
    Wit.Example.fromVerifyingKey_ones _
  have hne : claims.serialize ≠ header.serialize := by
    simp [Wit.WitClaims.serialize, Wit.Header.serialize, claims, header,
      optMember, member]
  have hheader :
      toVec (Wit.issuedHeader (some "issuer-key-1".toList) key).serialize
      = .ok headerJson :=
    toVec_ofTable (p := (header.serialize, headerJson))
      (by simp [hne]) (by simp)
  have hclaims : toVec claims.serialize = .ok claimsJson :=
    toVec_ofTable (p := (claims.serialize, claimsJson))
      (by simp [hne]) (by simp)
  have hinput : Base64.URL_SAFE_NO_PAD.encode headerJson ++ '.' ::
      Base64.URL_SAFE_NO_PAD.encode claimsJson = witInput := by
    unfold headerJson claimsJson witInput
    repeat rw [String.toList_ofList]
    decide +kernel
  have hsign : (key.sign (Str.asBytes witInput)).toList = witSignature.toList :=
    Ed25519.sign_signingTwo_left witInput witSignature base signature
  have hissue := Wit.issue_of_toVec hheader hclaims hinput
  rw [hsign] at hissue
  rw [issueWit, hsub, Outcome.mapErr_ok, Outcome.ok_bind, hjwk, Outcome.ok_bind]
  exact Outcome.mapErr_eq_ok_iff.2 hissue

theorem len_token : Str.len token ≤ Wit.MAX_TOKEN_LEN := by
  unfold token witInput
  repeat rw [String.toList_ofList]
  decide +kernel

theorem signatureBase_request :
    signatureBase (requestAsSent token (Str.asBytes body) "/transfer" [])
      covered params
      = .ok base := by
  unfold base token witInput body
  repeat rw [String.toList_ofList]
  decide +kernel

/-- Nothing but the base has the signature of the base. -/
theorem binds_request : ∀ b,
    signatureBase (requestAsSent token (Str.asBytes body) "/transfer" [])
      covered params = .ok b →
      Binds key (Str.asBytes b) := by
  have hne : base ≠ witInput := by
    unfold base witInput
    repeat rw [String.toList_ofList]
    decide +kernel
  have hsign : key.sign (Str.asBytes base) = signature :=
    Vector.toList_inj.1 (Ed25519.sign_signingTwo_right witInput witSignature
      base signature hne)
  intro b hbase other
  obtain rfl := Outcome.ok.inj (signatureBase_request.symm.trans hbase)
  rw [hsign]
  refine Ed25519.single_verify_iff.trans ?_
  have hwit : signature ≠ witSignature := by decide
  have hzero : signature ≠ Vector.replicate 64 0 := by decide
  constructor
  · intro h
    by_contra hother
    by_cases hinput : other = Str.asBytes witInput
    · exact hwit (h.trans (if_pos hinput))
    · exact hzero (h.trans ((if_neg hinput).trans (if_neg hother)))
  · intro h
    have hinput : other ≠ Str.asBytes witInput :=
      fun heq => hne (Str.asBytes_injective (h.symm.trans heq))
    exact ((if_neg hinput).trans (if_pos h)).symm

/-- Service B accepts the request with the field that the middlebox adds. -/
theorem service_b_accepts_iff_example : ∃ signed,
    signRequest key token (Str.asBytes body) = .ok signed ∧
      serviceBVerifies key token signed
        (requestAsSent token (Str.asBytes body) "/transfer"
          [("X-Forwarded-By", "middlebox.demo.example")]) (Str.asBytes body)
            = .ok sub := by
  obtain ⟨signed, hsigned⟩ := exists_sign WIMSE_LABEL key signatureBase_request
  have hrequest : signRequest key token (Str.asBytes body) = .ok signed :=
    Outcome.mapErr_eq_ok_iff.2 hsigned
  have hp256 : P256.ReadsKeys := fun k => nomatch k
  refine ⟨signed, hrequest, ?_⟩
  refine (service_b_accepts_iff Rfc4648.standard_lawful Rfc4648.urlSafe_lawful
    (Ed25519.single_readsKeys _ _ _) hp256 (Ed25519.single_selfVerifies _ _ _)
    issueWit_key len_token hrequest binds_request _ _ sub).2
      ⟨by decide +kernel, .single ?_, rfl⟩
  exact hop_append _ not_coversField_forwarded

end Example

end Wimsey.Demo
