import Wimsey.Cli.Binding
import Wimsey.Protocol.World

/-!
# What a run delivers

What a run means for the parties that follow the profiles.

* `identity_issued`: behind an honest issuer that signs nothing but what
  `issueWit` hands out, the identity that a recipient accepts is one that was
  asked for, with its key, and it is accepted only within the lifetime of the
  issuer.
* `request_delivered`: a request that is accepted under the profile is one that
  the owner of the key has signed, for this recipient, with the same method,
  target and fields.
* `response_delivered`: the same for a response, which answers the nonce of the
  request.
* `exchange_delivered`: a server that answers nothing but requests it has
  accepted itself closes the circle.  The client that accepts its response knows
  that this server had accepted the request before, and that it had been signed
  before that.
-/

namespace Wimsey.Protocol

open Wimsey.RustStd Wimsey.Codec Wimsey.Serde Wimsey.Jose Wimsey.HttpSig
  Wimsey.System Wimsey.Issuance

/-! ## What the parties sign -/

/-- A message signature covers what its profile asks for. -/
def Use.Profiled : Use → Prop
  | .request message components _ => components = requestComponents message
  | .response message components _ => components = responseComponents message
  | _ => True

section Rules

variable [Base64] [SerdeJson] [Ed25519] [P256]

/-- The issuer hands out a token of these claims for the request. -/
def HandsOut (issuer : Issuer) (request : IssueRequest) (now : UInt64)
    (claims : Wit.WitClaims) : Prop :=
  ∃ random response sub exp jti,
    issueWit issuer request now random = .ok response ∧
    Identifier.parse (Str.trim request.sub) = .ok sub ∧
    checkedAdd now (request.lifetime issuer) = some exp ∧
    randomId random = some jti ∧
    claims = issuer.claims request sub now exp jti

variable [Wpt.Sha2]

/-- The owner of the key of the issuer signs the tokens that the issuer hands
out, and nothing else. -/
def OnlyHandsOut (issuer : Issuer)
    (permits : History → VerifyingKey → Use → Prop) : Prop :=
  ∀ history use, permits history issuer.signingKey.verifyingKey use →
    ∃ request now claims, use = .identity claims issuer.kid ∧
    HandsOut issuer request now claims

/-- The recipient has accepted the request under the request profile, with this
nonce. -/
structure AcceptedRequest (history : History) (recipient : VerifyingKey)
    (request : HttpRequest) (nonce : Option Str) (a : Acceptance) : Prop where
  recipient : a.recipient = recipient
  occurs : ∃ earlier, Occurs earlier (.accepted a) history
  presented : ∃ signatureInput signature config verified accepted,
    a.presented = .request request signatureInput signature config verified
      accepted ∧
      config.wimseProfile = true ∧
      config.requiredComponents = requestComponents request ∧
      verified.params.nonce = nonce

/-- The owner of the key answers requests that it has accepted itself, each with
its nonce, and covers what the profiles ask for. -/
structure Answering (permits : History → VerifyingKey → Use → Prop)
    (key : VerifyingKey) : Prop where
  profiled : ∀ history use, permits history key use → use.Profiled
  accepted : ∀ history exchange components params,
    permits history key (.response exchange components params) →
      ∃ a, AcceptedRequest history key exchange.request params.wimseReqNonce a

end Rules

/-! ## A run with an identity and a request -/

namespace Example

open scoped Rfc4648 P256.Keyless

theorem fifty_pos : (0 : UInt64) < 50 := by decide

/-- An issuer of tokens that live for 50 seconds. -/
def issuer : Issuer where
  signingKey := issuerKey
  iss := "i"
  kid := some "k"
  defaultTtl := 50
  positive := fifty_pos

theorem handsOut :
    HandsOut issuer Issuance.Example.request 100 Issuance.Example.claims := by
  have hparts : Identifier.parse (Str.trim Issuance.Example.request.sub)
      = .ok Wit.Example.sub ∧
      Issuance.Example.request.cnfJwk.toVerifyingKey = .ok popKey.verifyingKey ∧
      randomId (some (Vector.replicate 16 0))
      = some "00000000000000000000000000000000".toList := by
    decide +kernel
  obtain ⟨hsub, hpop, hjti⟩ := hparts
  refine ⟨some (Vector.replicate 16 0), ⟨token⟩, Wit.Example.sub, 150,
    "00000000000000000000000000000000", ?_, hsub, by decide, hjti, rfl⟩
  exact issueWit_eq_ok_iff.2 ⟨_, _, 150, _, hsub,
    hpop, by decide, by decide, by decide, hjti, issue_token⟩

/-- The issuer signs what it hands out.  The workload follows the profiles and
answers what it has accepted. -/
def permits (history : History) (key : VerifyingKey) (use : Use) : Prop :=
  if key = issuerKey.verifyingKey then
    ∃ request now claims, use = .identity claims issuer.kid ∧
      HandsOut issuer request now claims
  else
    use.Profiled ∧ ∀ exchange components params,
      use = .response exchange components params →
      ∃ a, AcceptedRequest history key exchange.request params.wimseReqNonce a

theorem popKey_ne_issuerKey :
    popKey.verifyingKey ≠ issuerKey.verifyingKey := by decide

theorem onlyHandsOut : OnlyHandsOut issuer permits :=
  fun _ _ h => (if_pos rfl).mp h

theorem answering : Answering permits popKey.verifyingKey where
  profiled _ _ h := ((if_neg popKey_ne_issuerKey).mp h).1
  accepted _ exchange components params h :=
    ((if_neg popKey_ne_issuerKey).mp h).2 exchange components params rfl

theorem run_request :
    Run (Legal (fun _ => True) permits)
      (history ++ [.accepted acceptedRequest]) := by
  apply run_history
  · exact (if_pos rfl).mpr ⟨_, _, _, rfl, handsOut⟩
  · refine (if_neg popKey_ne_issuerKey).mpr ⟨rfl, fun _ _ _ h => ?_⟩
    cases h

end Example

/-! ## Identities -/

section Identities

variable [Base64] [SerdeJson] [SerdeJson.Lawful] [Wpt.Sha2] [Ed25519] [P256]
  {honest : VerifyingKey → Prop} {permits : History → VerifyingKey → Use → Prop}
  {history before : History} {a : Acceptance}
  (hbase64 : Base64.URL_SAFE_NO_PAD.Lawful Rfc4648.urlSafeAlphabet)
  (hquote : Base64.URL_SAFE_NO_PAD.Rejects '"')

include hbase64 hquote

/-- An identity that is accepted behind an honest issuer was asked for, with the
key under which everything else is verified.  It is accepted from the time of
issue, up to the leeway, and never later than the lifetime of the issuer after
it. -/
theorem identity_issued {issuer : Issuer}
    (hrun : Run (Legal honest permits) history)
    (hoccurs : Occurs before (.accepted a) history)
    (hissuer : a.issuerKey = issuer.signingKey.verifyingKey)
    (hhonest : honest a.issuerKey) (honly : OnlyHandsOut issuer permits) :
    ∃ request now, (∃ earlier, Occurs earlier
        (.signed a.issuerKey (.identity a.identity.claims issuer.kid)) before) ∧
      HandsOut issuer request now a.identity.claims ∧
      Identifier.parse (Str.trim request.sub) = .ok a.identity.claims.sub ∧
      request.cnfJwk.toVerifyingKey = .ok a.identity.popKey ∧
      now ≤ saturatingAdd a.validation.now a.validation.leeway ∧
      a.validation.now.toNat <
        now.toNat + issuer.defaultTtl.toNat + a.validation.leeway.toNat := by
  obtain ⟨earlier, hsigned, hpermits⟩ :=
    (justified_of_occurs hbase64 hquote hrun hoccurs).identity hhonest
  rw [hissuer] at hpermits
  obtain ⟨request, now, claims, huse, hhands⟩ := honly earlier _ hpermits
  obtain ⟨hclaims, hkid⟩ := Use.identity.inj huse
  rw [← hclaims] at hhands
  rw [hkid] at hsigned
  have haccepts := (Wit.verify_eq_ok_iff.1 a.accepted).2
  obtain ⟨random, response, sub, exp, jti, hissue, hsub, hexp, hjti,
    heq⟩ := hhands
  obtain ⟨_, _, _, _, _, _, _, hmax, _⟩ := issueWit_eq_ok_iff.1 hissue
  refine ⟨request, now, ⟨earlier, hsigned⟩,
    ⟨random, response, sub, exp, jti, hissue, hsub, hexp, hjti, heq⟩, ?_,
    ?_, ?_, ?_⟩
  · rw [heq]
    exact hsub
  · have hcnf := haccepts.cnf
    rwa [heq] at hcnf
  · exact haccepts.iat now (by rw [heq]; rfl)
  · have hlater := haccepts.exp
    rw [UInt64.lt_iff_toNat_lt, toNat_saturatingAdd] at hlater
    have hend : a.identity.claims.exp.toNat
        = now.toNat + (request.lifetime issuer).toNat := by
      rw [heq]
      exact checkedAdd_eq_some_iff.1 hexp
    have hle := UInt64.le_iff_toNat_le.1 hmax
    omega

end Identities

namespace Example

open scoped Rfc4648 P256.Keyless

/-- The identity that came with the request was handed out at 100. -/
theorem identity_issued_example : ∃ request now,
    HandsOut issuer request now identity.claims ∧
      request.cnfJwk.toVerifyingKey = .ok popKey.verifyingKey := by
  obtain ⟨request, now, _, hhands, _, hkey, _⟩ :=
    identity_issued Rfc4648.urlSafe_lawful
      (Rfc4648.engine_rejects (by decide) (by decide)) run_request ⟨[], rfl⟩ rfl
        trivial onlyHandsOut
  exact ⟨request, now, hhands, hkey⟩

end Example

/-! ## Messages -/

/-- The components of the target have values in every request. -/
theorem exists_value_of_target {request : HttpRequest} {c : Component}
    (h : c ∈ targetComponents request) :
    ∃ value, request.componentValue c = .ok value := by
  unfold targetComponents at h
  split at h
  · simp only [List.mem_cons, List.not_mem_nil, or_false] at h
    rcases h with rfl | rfl <;> exact ⟨_, rfl⟩
  · simp only [List.mem_cons, List.not_mem_nil, or_false] at h
    rcases h with rfl | rfl | rfl <;> exact ⟨_, rfl⟩

theorem exists_value_of_field {headers : List (Str × Str)} {name : Str}
    (h : hasField headers name = true) :
    ∃ value, headerValue headers name = .ok value := by
  have hvalue := headerValue_of_hasField headers name
  rwa [h, if_pos rfl] at hvalue

/-- Requests with the same values of the target have the same target. -/
theorem sameTarget_of_values {sent received : HttpRequest}
    (h : ∀ c ∈ targetComponents sent, sent.componentValue c
      = received.componentValue c) :
    SameTarget sent received := by
  apply sameTarget_of_components
  intro c hc
  obtain ⟨value, hvalue⟩ := exists_value_of_target hc
  exact ⟨value, hvalue, (h c hc).symm.trans hvalue⟩

theorem sameTarget_trans {r₁ r₂ r₃ : HttpRequest} (h : SameTarget r₁ r₂)
    (h' : SameTarget r₂ r₃) :
    SameTarget r₁ r₃ where
  method := h.method.trans h'.method
  authority hconnect :=
    (h.authority (h'.method.trans hconnect)).trans (h'.authority hconnect)
  path hconnect :=
    (h.path fun hmethod => hconnect (h'.method.symm.trans hmethod)).trans
      (h'.path hconnect)
  query hconnect :=
    (h.query fun hmethod => hconnect (h'.method.symm.trans hmethod)).trans
      (h'.query hconnect)

section Messages

variable [Base64] [SerdeJson] [SerdeJson.Lawful] [Wpt.Sha2] [Ed25519] [P256]
  {honest : VerifyingKey → Prop} {permits : History → VerifyingKey → Use → Prop}
  {history before : History} {a : Acceptance}
  (hbase64 : Base64.URL_SAFE_NO_PAD.Lawful Rfc4648.urlSafeAlphabet)
  (hquote : Base64.URL_SAFE_NO_PAD.Rejects '"')

include hbase64 hquote

/-- Behind a request that is accepted stands a request that the owner of the key
has signed under the profile, with the same components and values. -/
theorem exists_sent_request {message : HttpRequest}
    {signatureInput signature : Str} {config : VerifyConfig}
    {verified : VerifiedSignature}
    {accepted : HttpSig.verify message signatureInput signature
      a.identity.popKey config
      = .ok verified}
    (hrun : Run (Legal honest permits) history)
    (hoccurs : Occurs before (.accepted a) history)
    (hpresented : a.presented = .request message signatureInput signature config
      verified accepted) (hhonest : honest a.identity.popKey)
    (hpermits : ∀ history use, permits history a.identity.popKey use →
      use.Profiled)
    (hrequired : config.requiredComponents = requestComponents message) :
    ∃ sent, SignedFor permits before a.identity.popKey
        (.request sent (requestComponents sent) verified.params) ∧
      requestComponents sent = verified.components ∧
      ∀ c ∈ requestComponents sent,
      sent.componentValue c = message.componentValue c := by
  obtain ⟨use, ⟨earlier, hsigned, hpermitted⟩, hsays⟩ :=
    (justified_of_occurs hbase64 hquote hrun hoccurs).presented hhonest
  obtain ⟨member, _, hpolicy, rfl⟩ := verify_eq_ok_iff.1 accepted
  rw [hpresented] at hsays
  have hmethod : Component.contains member.components .method = true := by
    refine hpolicy.required .method ?_
    rw [hrequired, requestComponents]
    split <;> simp
  cases use with
  | identity claims kid => exact absurd hsays id
  | proof claims => exact absurd hsays id
  | response sent components params =>
    -- The method is covered, and a response has none.
    obtain ⟨rfl, _, hvalues⟩ := hsays
    obtain ⟨c, hc, heq⟩ := List.any_eq_true.1 hmethod
    obtain ⟨name, rfl, _⟩ := hvalues c hc
    cases heq
  | request sent components params =>
    obtain ⟨hcomponents, rfl, hvalues⟩ := hsays
    obtain rfl : components = requestComponents sent :=
      hpermits earlier _ hpermitted
    exact ⟨sent, ⟨earlier, hsigned, hpermitted⟩, hcomponents, hvalues⟩

/-- A request that is accepted under the profile was signed by the owner of the
key: with the same method, target and fields, with these parameters, for this
recipient, and within the time that it was signed for. -/
theorem request_delivered {message : HttpRequest}
    {signatureInput signature : Str} {config : VerifyConfig}
    {verified : VerifiedSignature}
    {accepted : HttpSig.verify message signatureInput signature
      a.identity.popKey config
      = .ok verified}
    (hrun : Run (Legal honest permits) history)
    (hoccurs : Occurs before (.accepted a) history)
    (hpresented : a.presented = .request message signatureInput signature config
      verified accepted) (hhonest : honest a.identity.popKey)
    (hpermits : ∀ history use, permits history a.identity.popKey use →
      use.Profiled)
    (hprofile : config.wimseProfile = true)
    (hrequired : config.requiredComponents = requestComponents message) :
    ∃ sent, SignedFor permits before a.identity.popKey
        (.request sent (requestComponents sent) verified.params) ∧
      SameTarget sent message ∧
      SameFields requestFields sent.headers message.headers ∧
      (∃ aud ∈ config.expectedAudiences, verified.params.wimseAud = some aud) ∧
      ∀ now, config.now = some now → ∃ created expires,
        verified.params.created = some created ∧
        verified.params.expires = some expires ∧
        created ≤ saturatingAdd now config.leeway ∧
        now ≤ saturatingAdd expires config.leeway := by
  obtain ⟨sent, hsigned, hcomponents, hvalues⟩ :=
    exists_sent_request hbase64 hquote hrun hoccurs hpresented hhonest
      hpermits hrequired
  obtain ⟨member, hauth, hpolicy, rfl⟩ := verify_eq_ok_iff.1 accepted
  have hprofiled := hauth.admitted.request hprofile
  refine ⟨sent, hsigned, ?_, ?_, hpolicy.audience (Or.inl hprofile), ?_⟩
  · exact sameTarget_of_values fun c hc => hvalues c (List.mem_append_left _ hc)
  · apply sameFields_of_covered (lower_profileFields (.inl rfl))
      (targetComponents_ne_header sent)
    · intro name hname hfield
      obtain ⟨value, hvalue⟩ := exists_value_of_field hfield
      have hsame :
          headerValue sent.headers name = headerValue message.headers name :=
        hvalues (.header name)
          (header_mem (lower_profileFields (.inl rfl)) hname hfield)
      exact ⟨value, hvalue, hsame.symm.trans hvalue⟩
    · intro name hname hfield
      rw [← requestComponents_eq, hcomponents]
      apply hpolicy.required
      rw [hrequired, requestComponents_eq]
      exact header_mem (lower_profileFields (.inl rfl)) hname hfield
  · intro now hnow
    obtain ⟨created, hcreated⟩ := Option.isSome_iff_exists.1 hprofiled.created
    obtain ⟨expires, hexpires⟩ := Option.isSome_iff_exists.1 hprofiled.expires
    exact ⟨created, expires, hcreated, hexpires,
      hpolicy.created now hnow created hcreated,
      hpolicy.expires now hnow expires hexpires⟩

end Messages

namespace Example

open scoped Rfc4648 P256.Keyless

/-- The request that was accepted is one that the workload has signed. -/
theorem request_delivered_example : ∃ sent,
    SignedFor permits history popKey.verifyingKey
        (.request sent (requestComponents sent) HttpSig.Example.params) ∧
      SameTarget sent HttpSig.Example.request := by
  obtain ⟨sent, hsigned, htarget, _⟩ :=
    request_delivered Rfc4648.urlSafe_lawful
      (Rfc4648.engine_rejects (by decide) (by decide))
      run_request ⟨[], rfl⟩ rfl trivial answering.profiled rfl rfl
  exact ⟨sent, hsigned, htarget⟩

end Example

/-! ## Exchanges -/

section Exchanges

variable [Base64] [SerdeJson] [SerdeJson.Lawful] [Wpt.Sha2] [Ed25519] [P256]
  {honest : VerifyingKey → Prop} {permits : History → VerifyingKey → Use → Prop}
  {history before : History} {a : Acceptance}
  (hbase64 : Base64.URL_SAFE_NO_PAD.Lawful Rfc4648.urlSafeAlphabet)
  (hquote : Base64.URL_SAFE_NO_PAD.Rejects '"')

include hbase64 hquote

/-- A response that is accepted for a request and its nonce was signed by the
owner of the key: with the same status and fields, for a request with the same
method and target, and in answer to the nonce. -/
theorem response_delivered {message : HttpExchange}
    {signatureInput signature : Str} {config : VerifyConfig}
    {verified : VerifiedSignature} {nonce : Str}
    {accepted : HttpSig.verify message signatureInput signature
      a.identity.popKey config
      = .ok verified}
    (hrun : Run (Legal honest permits) history)
    (hoccurs : Occurs before (.accepted a) history)
    (hpresented : a.presented = .response message signatureInput signature
      config verified accepted) (hhonest : honest a.identity.popKey)
    (hpermits : ∀ history use, permits history a.identity.popKey use →
      use.Profiled)
    (hrequired : config.requiredComponents = responseComponents message)
    (hnonce : config.expectedReqNonce = some nonce) :
    ∃ sent, SignedFor permits before a.identity.popKey
        (.response sent (responseComponents sent) verified.params) ∧
      sent.response.status = message.response.status ∧
      SameTarget sent.request message.request ∧
      SameFields responseFields sent.response.headers message.response.headers ∧
      verified.params.wimseReqNonce = some nonce := by
  obtain ⟨use, ⟨earlier, hsigned, hpermitted⟩, hsays⟩ :=
    (justified_of_occurs hbase64 hquote hrun hoccurs).presented hhonest
  obtain ⟨member, hauth, hpolicy, rfl⟩ := verify_eq_ok_iff.1 accepted
  rw [hpresented] at hsays
  have hstatus : Component.contains member.components .status = true := by
    refine hpolicy.required .status ?_
    rw [hrequired, responseComponents]
    simp
  cases use with
  | identity claims kid => exact absurd hsays id
  | proof claims => exact absurd hsays id
  | request sent components params =>
    -- The status is covered, and a request has none.
    obtain ⟨rfl, _, hvalues⟩ := hsays
    obtain ⟨c, hc, heq⟩ := List.any_eq_true.1 hstatus
    obtain ⟨name, rfl, _⟩ := hvalues c hc
    cases heq
  | response sent components params =>
    obtain ⟨hcomponents, hparams, hvalues⟩ := hsays
    obtain rfl : components = responseComponents sent :=
      hpermits earlier _ hpermitted
    obtain rfl := hparams
    refine ⟨sent, ⟨earlier, hsigned, hpermitted⟩, ?_, ?_, ?_,
      hpolicy.reqNonce nonce hnonce⟩
    · have hsame := hvalues .status (List.mem_cons_self ..)
      exact UInt16.toNat_inj.1 (display_injective (Outcome.ok.inj hsame))
    · apply sameTarget_of_values
      intro c hc
      have hmem : .req c ∈ responseComponents sent := by
        rw [responseComponents_eq]
        exact List.mem_append_left _
          (List.mem_cons_of_mem _ (List.mem_map_of_mem hc))
      exact hvalues (.req c) hmem
    · have hfields : ∀ name ∈ responseFields,
          hasField sent.response.headers name = true →
          .header name ∈ responseComponents sent := by
        intro name hname hfield
        rw [responseComponents_eq]
        exact header_mem (lower_profileFields (.inr rfl)) hname hfield
      refine sameFields_of_covered (lower_profileFields (.inr rfl))
        (d := .status :: (targetComponents sent.request).map .req) ?_ ?_ ?_
      · intro c hc name heq
        rw [heq] at hc
        simp at hc
      · intro name hname hfield
        obtain ⟨value, hvalue⟩ := exists_value_of_field hfield
        have hsame : headerValue sent.response.headers name
            = headerValue message.response.headers name :=
          hvalues (.header name) (hfields name hname hfield)
        exact ⟨value, hvalue, hsame.symm.trans hvalue⟩
      · intro name hname hfield
        rw [← responseComponents_eq, hcomponents]
        apply hpolicy.required
        rw [hrequired, responseComponents_eq]
        exact header_mem (lower_profileFields (.inr rfl)) hname hfield

/-- A response that a client accepts for its request and its nonce comes from a
server that had itself accepted a request with this nonce, method and target
before.  If the key of that request is honest and its owner signs under the
profiles, then the owner had signed it before. -/
theorem exchange_delivered {message : HttpExchange}
    {signatureInput signature : Str} {config : VerifyConfig}
    {verified : VerifiedSignature} {nonce : Str}
    {accepted : HttpSig.verify message signatureInput signature
      a.identity.popKey config
      = .ok verified}
    (hrun : Run (Legal honest permits) history)
    (hoccurs : Occurs before (.accepted a) history)
    (hpresented : a.presented
      = .response message signatureInput signature config verified accepted)
    (hhonest : honest a.identity.popKey)
    (hanswers : Answering permits a.identity.popKey)
    (hrequired : config.requiredComponents = responseComponents message)
    (hnonce : config.expectedReqNonce = some nonce) :
    ∃ request a',
      AcceptedRequest before a.identity.popKey request (some nonce) a' ∧
      SameTarget request message.request ∧
      (honest a'.identity.popKey →
        (∀ history use, permits history a'.identity.popKey use → use.Profiled) →
        ∃ sent params, SignedFor permits before a'.identity.popKey
            (.request sent (requestComponents sent) params) ∧
          SameTarget sent message.request ∧ params.nonce = some nonce) := by
  obtain ⟨sent, ⟨earlier, hsigned, hpermitted⟩, _, htarget, _, hanswer⟩ :=
    response_delivered hbase64 hquote hrun hoccurs hpresented hhonest
      hanswers.profiled hrequired hnonce
  obtain ⟨a', haccepted⟩ := hanswers.accepted earlier sent _ _ hpermitted
  rw [hanswer] at haccepted
  obtain ⟨first, hfirst⟩ := haccepted.occurs
  refine ⟨sent.request, a',
    ⟨haccepted.recipient, ⟨first, hfirst.trans hsigned⟩,
      haccepted.presented⟩, htarget,
    fun hhonest' hprofiled => ?_⟩
  obtain ⟨_, _, config', verified', accepted', hpresented', _, hrequired',
      hnonce'⟩ :=
    haccepted.presented
  have hfirst' := (hfirst.trans hsigned).trans hoccurs
  obtain ⟨request, ⟨start, hstart, hpermitted'⟩, _, hvalues⟩ :=
    exists_sent_request hbase64 hquote hrun hfirst' hpresented' hhonest'
      hprofiled hrequired'
  have htarget' : SameTarget request sent.request :=
    sameTarget_of_values fun c hc => hvalues c (List.mem_append_left _ hc)
  have hstart' := hstart.trans (hfirst.trans hsigned)
  exact ⟨request, verified'.params, ⟨start, hstart', hpermitted'⟩,
    sameTarget_trans htarget' htarget, hnonce'⟩

end Exchanges

namespace Example

open scoped Rfc4648 P256.Keyless

/-- The signed response. -/
def signedResponse : SignedSignature :=
  { signatureInput := "wimse".toList ++ '=' ::
      serializeParamsValue (responseComponents HttpSig.Example.exchange)
        HttpSig.Example.responseParams
    signature := "wimse".toList ++ '=' ::
      signatureText (popKey.sign (Str.asBytes HttpSig.Example.responseBase)) }

theorem sign_response :
    sign HttpSig.Example.exchange (responseComponents HttpSig.Example.exchange)
    HttpSig.Example.responseParams "wimse" popKey = .ok signedResponse :=
  sign_eq_ok_iff.2 ⟨_, HttpSig.Example.signatureBase_response, rfl⟩

/-- The acceptance of the response, under the same key. -/
def acceptedResponse : Acceptance where
  recipient := popKey.verifyingKey
  issuerKey := issuerKey.verifyingKey
  token := token
  validation := validation
  identity := identity
  accepted := verify_token
  presented := .response HttpSig.Example.exchange signedResponse.signatureInput
    signedResponse.signature HttpSig.Example.responseConfig _
    (verify_of_allows Rfc4648.standard_lawful (wellNamed_responseComponents _)
      HttpSig.Example.isKey sign_response (fun _ _ => selfVerifies .workload _)
      HttpSig.Example.allows_response)

def responseUse : Use :=
  .response HttpSig.Example.exchange
    (responseComponents HttpSig.Example.exchange)
    HttpSig.Example.responseParams

/-- The request has been accepted, and the response has been signed. -/
def answered : History :=
  history ++ [.accepted acceptedRequest] ++
    [.signed popKey.verifyingKey responseUse]

theorem run_answered : Run (Legal (fun _ => True) permits) answered := by
  have haccepted : AcceptedRequest
      (history ++ [.accepted acceptedRequest]) popKey.verifyingKey
      HttpSig.Example.request (some "a\"b") acceptedRequest :=
    ⟨rfl, ⟨history, [], rfl⟩, _, _, _, _, _, rfl, rfl, rfl, rfl⟩
  have hpermits :
      permits (history ++ [.accepted acceptedRequest]) popKey.verifyingKey
      responseUse := by
    refine (if_neg popKey_ne_issuerKey).mpr
      ⟨rfl, fun exchange components params h => ?_⟩
    obtain ⟨rfl, _, rfl⟩ := Use.response.inj h
    exact ⟨acceptedRequest, haccepted⟩
  exact run_request.tail (.mk _
    ⟨⟨popKey, rfl, "wimse", signedResponse, sign_response⟩,
      fun _ => ⟨wellNamed_responseComponents _, hpermits⟩⟩)

theorem run_response :
    Run (Legal (fun _ => True) permits)
      (answered ++ [.accepted acceptedResponse]) := by
  have hidentity : .signed issuerKey.verifyingKey identityUse ∈ answered := by
    simp [answered, history]
  have hresponse : .signed popKey.verifyingKey responseUse ∈ answered := by
    simp [answered]
  have hunforged : acceptedResponse.Unforged (fun _ => True) answered :=
    { identity := fun _ _ hsigns =>
        ⟨identityUse, hidentity,
          hasText_of_issue Rfc4648.urlSafe_lawful issue_token hsigns⟩
      presented := fun _ _ hsigns =>
        ⟨responseUse, hresponse, hasText_of_sign Rfc4648.standard_lawful
          (wellNamed_responseComponents _) HttpSig.Example.isKey
          sign_response hsigns⟩ }
  exact run_answered.tail (.mk answered hunforged)

/-- The response is accepted, so that the request had been accepted and
signed. -/
theorem exchange_delivered_example : ∃ request a',
    AcceptedRequest answered popKey.verifyingKey request (some "a\"b") a' ∧
      SameTarget request HttpSig.Example.request := by
  obtain ⟨request, a', haccepted, htarget, _⟩ :=
    exchange_delivered Rfc4648.urlSafe_lawful
      (Rfc4648.engine_rejects (by decide) (by decide))
      run_response ⟨[], rfl⟩ rfl trivial answering rfl rfl
  exact ⟨request, a', haccepted, htarget⟩

end Example

end Wimsey.Protocol
