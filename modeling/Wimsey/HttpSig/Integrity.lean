import Wimsey.HttpSig.Base
import Wimsey.HttpSig.RoundTrip

/-!
# Integrity of signed messages

Under the WIMSE profiles a signature covers a set of components that depends on
the message.  A `SigningLog` is the set of calls that the owner of a key has
made to `sign`, and an `IdealKey` verifies nothing but the bases of these calls.

`exists_log_of_signed` is the common part: whatever two fields an adversary
chooses, a valid signature is over the components, the parameters and the values
of a call of the log.  The components that the recipient requires are computed
from the message it received, and those that were signed from the message that
was sent.  `request_integrity` and `response_integrity` say that the two agree.
-/

namespace Wimsey.HttpSig

open Wimsey.RustStd Wimsey.Codec Wimsey.Jose Wimsey.Scan

/-! ## The signed bases -/

section Log

variable {M : Type} [ComponentSource M] [Base64] [Ed25519] [P256]

/-- The calls of `sign` that the owner of a key has made: the message, the
parameters and the label. -/
abbrev SigningLog (M : Type) := M → SignatureParams → Str → Prop

/-- The key verifies nothing but the signature bases of the calls in the log,
each over the components that `cover` gives for its message. -/
def IdealKey (key : VerifyingKey) (cover : M → List Component)
    (log : SigningLog M) : Prop :=
  ∀ bytes signature, key.verify bytes signature = .ok () →
    ∃ message params label base, log message params label ∧
      signatureBase message (cover message) params = .ok base ∧
      bytes = Str.asBytes base

omit [Base64] [Ed25519] [P256] in
/-- A member with the base of other components and parameters has just these,
and both messages derive the same value for each component. -/
theorem member_of_signatureBase {M' : Type} [ComponentSource M'] {m : M'}
    {message : M} {components : List Component} {p : SignatureParams}
    {label rest base : Str} {member : InputMember}
    (hnamed : ∀ c ∈ components, c.WellNamed)
    (hparse : parseInputMember label rest = .ok member)
    (hbase : signatureBaseFromParamsStr message member.components
      member.paramsValue = .ok base)
    (hbase' : signatureBase m components p = .ok base) :
    member.components = components ∧ member.params = p ∧
      ∀ c ∈ components, ∃ value,
      ComponentSource.componentValue m c = .ok value ∧
        ComponentSource.componentValue message c = .ok value := by
  have hwords := fun c hc => (hnamed c hc).oneWord
  obtain ⟨hparams, _, values, hvalues, hvalues'⟩ :=
    base_unambiguous (oneWord_of_parseInputMember hparse) hwords hbase hbase'
  -- The parameters are the same text, so they are read back as they were
  -- signed.
  rw [(parseInputMember_eq_ok_iff.1 hparse).2.1] at hparams
  have hread := parseInputMember_serialize label hnamed hparams
  obtain rfl := Outcome.ok.inj (hparse.symm.trans hread)
  exact ⟨rfl, rfl, value_of_derives hvalues' hvalues⟩

/-- A member with a valid signature is that of a call in the log, and both
messages derive the same value for each of its components. -/
theorem exists_log_of_signed {cover : M → List Component} {log : SigningLog M}
    {key : VerifyingKey} (hideal : IdealKey key cover log)
    (hnamed : ∀ m, ∀ c ∈ cover m, c.WellNamed) {message : M}
    {signatureInput signature : Str} {config : VerifyConfig}
    {member : InputMember}
    (h : Authentic message signatureInput signature key config member) :
    ∃ m p label, log m p label ∧ member.components = cover m ∧
      member.params = p ∧
      ∀ c ∈ cover m, ∃ value, ComponentSource.componentValue m c = .ok value ∧
        ComponentSource.componentValue message c = .ok value := by
  obtain ⟨sigBytes, base, _, hbase, hverify⟩ := h.signed
  obtain ⟨m, p, label, base', hlog, hbase', hbytes⟩ := hideal _ _ hverify
  obtain rfl := Str.asBytes_injective hbytes
  obtain ⟨_, chosen, _, _, hparse⟩ := exists_of_selectMember h.selected
  exact ⟨m, p, label, hlog,
    member_of_signatureBase (hnamed m) hparse hbase hbase'⟩

end Log

/-! ## Fields -/

/-- A field has a value when the message has it. -/
theorem headerValue_of_hasField (headers : List (Str × Str)) (name : Str) :
    if hasField headers name = true
      then ∃ value, headerValue headers name = .ok value
    else headerValue headers name = .err (.missingComponent name) := by
  have hempty :
      (fieldValues headers name).isEmpty = !hasField headers name := by
    unfold fieldValues hasField
    induction headers with
    | nil => rfl
    | cons h headers ih =>
      cases hname : Str.eqIgnoreAsciiCase h.1 name with
      | true => simp [hname]
      | false => simpa [hname] using ih
  unfold headerValue
  rw [hempty]
  cases hasField headers name <;> simp

/-- The two messages have the same fields of the names, with the same values. -/
def SameFields (names : List Str)
    (headers₁ headers₂ : List (Str × Str)) : Prop :=
  ∀ name ∈ names, hasField headers₁ name = hasField headers₂ name ∧
    headerValue headers₁ name = headerValue headers₂ name

/-- The fields agree when every field that was signed has the same value, and
every field that was received is one that was signed. -/
theorem sameFields_of_covered {names : List Str}
    {headers₁ headers₂ : List (Str × Str)} {d : List Component}
    (hlower : ∀ name ∈ names, Str.toAsciiLowercase name = name)
    (hderived : ∀ c ∈ d, ∀ name, c ≠ .header name)
    (hsigned : ∀ name ∈ names, hasField headers₁ name = true → ∃ value,
      headerValue headers₁ name = .ok value ∧
      headerValue headers₂ name = .ok value)
    (hreceived : ∀ name ∈ names, hasField headers₂ name = true →
      Component.contains
      (d ++ (names.filter (hasField headers₁)).map Component.ofHeader)
        (.header name) = true) :
    SameFields names headers₁ headers₂ := by
  intro name hname
  cases h₁ : hasField headers₁ name with
  | true =>
    obtain ⟨value, hvalue₁, hvalue₂⟩ := hsigned name hname h₁
    have h₂ := headerValue_of_hasField headers₂ name
    cases hfield : hasField headers₂ name with
    | true => exact ⟨rfl, hvalue₁.trans hvalue₂.symm⟩
    | false =>
      rw [hfield, hvalue₂] at h₂
      cases h₂
  | false =>
    cases h₂ : hasField headers₂ name with
    | false =>
      have hvalue₁ := headerValue_of_hasField headers₁ name
      have hvalue₂ := headerValue_of_hasField headers₂ name
      rw [h₁] at hvalue₁
      rw [h₂] at hvalue₂
      exact ⟨rfl, hvalue₁.trans hvalue₂.symm⟩
    | true =>
      -- The component that covers the field is one of the signed fields.
      obtain ⟨c, hc, heq⟩ := List.any_eq_true.1 (hreceived name hname h₂)
      rcases List.mem_append.1 hc with hc | hc
      · cases c with
        | header other => exact absurd rfl (hderived _ hc other)
        | _ => cases heq
      · obtain ⟨other, hother, rfl⟩ := List.mem_map.1 hc
        obtain ⟨hmem, hfield⟩ := List.mem_filter.1 hother
        have hsame : Str.eqIgnoreAsciiCase (Str.toAsciiLowercase other) name
            = true := heq
        rw [hlower other hmem, Str.eqIgnoreAsciiCase, hlower other hmem,
          hlower name hname, beq_iff_eq] at hsame
        rw [hsame, h₁] at hfield
        cases hfield

/-- The names of the fields of the two profiles are in lower case. -/
theorem lower_profileFields {names : List Str}
    (h : names = requestFields ∨ names = responseFields) :
    ∀ name ∈ names, Str.toAsciiLowercase name = name := by
  have hall : names.all (fun name => decide (Str.toAsciiLowercase name = name))
      = true := by
    rcases h with rfl | rfl <;> decide
  exact fun name hname => of_decide_eq_true (List.all_eq_true.1 hall name hname)

/-! ## Targets -/

/-- The components of the method and the target of a request. -/
def targetComponents (request : HttpRequest) : List Component :=
  if request.method = CONNECT then [.method, .authority]
    else [.method, .path, .query]

theorem targetComponents_ne_header (request : HttpRequest) :
    ∀ c ∈ targetComponents request, ∀ name, c ≠ .header name := by
  intro c hc name heq
  rw [heq] at hc
  unfold targetComponents at hc
  split at hc <;> simp at hc

theorem requestComponents_eq (request : HttpRequest) :
    requestComponents request = targetComponents request ++
      (requestFields.filter (hasField request.headers)).map
        Component.ofHeader := rfl

theorem responseComponents_eq (exchange : HttpExchange) :
    responseComponents exchange
      = (.status :: (targetComponents exchange.request).map .req) ++
      (responseFields.filter (hasField exchange.response.headers)).map
        Component.ofHeader := by
  unfold responseComponents targetComponents
  split <;> rfl

/-- The two requests have the same method and the same target: the authority of
a `CONNECT`, and the path and the query of any other method. -/
structure SameTarget (request₁ request₂ : HttpRequest) : Prop where
  method : request₁.method = request₂.method
  authority : request₂.method = CONNECT →
    Str.toAsciiLowercase request₁.authority
    = Str.toAsciiLowercase request₂.authority
  path : request₂.method ≠ CONNECT → request₁.derivedPath = request₂.derivedPath
  query : request₂.method ≠ CONNECT →
    request₁.derivedQuery = request₂.derivedQuery

theorem sameTarget_of_components {request₁ request₂ : HttpRequest}
    (h : ∀ c ∈ targetComponents request₁, ∃ value,
      request₁.componentValue c = .ok value ∧
      request₂.componentValue c = .ok value) :
    SameTarget request₁ request₂ := by
  have hvalue : ∀ {c : Component}, c ∈ targetComponents request₁ →
      request₁.componentValue c = request₂.componentValue c := by
    intro c hc
    obtain ⟨value, h₁, h₂⟩ := h c hc
    exact h₁.trans h₂.symm
  have hmethod : request₁.method = request₂.method := by
    refine Outcome.ok.inj (hvalue (c := .method) ?_)
    unfold targetComponents
    split <;> simp
  refine ⟨hmethod, fun hconnect => ?_, fun hconnect => ?_, fun hconnect => ?_⟩
  · rw [← hmethod] at hconnect
    exact Outcome.ok.inj
      (hvalue (c := .authority) (by simp [targetComponents, hconnect]))
  · rw [← hmethod] at hconnect
    exact Outcome.ok.inj
      (hvalue (c := .path) (by simp [targetComponents, hconnect]))
  · rw [← hmethod] at hconnect
    exact Outcome.ok.inj
      (hvalue (c := .query) (by simp [targetComponents, hconnect]))

/-! ## Requests and responses -/

/-- The names of the fields are tokens. -/
theorem wellNamed_ofHeader {names : List Str}
    (h : names.all (fun name => !name.isEmpty && name.all fun c =>
      decide (c ∈ tokenChars)) = true)
    (hlower : ∀ name ∈ names, Str.toAsciiLowercase name = name) {p : Str → Bool}
    {c : Component} (hc : c ∈ (names.filter p).map Component.ofHeader) :
    c.WellNamed := by
  obtain ⟨name, hname, rfl⟩ := List.mem_map.1 hc
  have hmem := List.mem_of_mem_filter hname
  have hall := List.all_eq_true.1 h name hmem
  rw [Bool.and_eq_true, List.all_eq_true] at hall
  rw [Component.ofHeader, hlower name hmem]
  exact ⟨by simpa using hall.1, fun d hd => of_decide_eq_true (hall.2 d hd)⟩

theorem wellNamed_targetComponents (request : HttpRequest) :
    ∀ c ∈ targetComponents request, c.WellNamed := by
  unfold targetComponents
  split <;> simp [Component.WellNamed]

theorem wellNamed_requestComponents (request : HttpRequest) :
    ∀ c ∈ requestComponents request, c.WellNamed := by
  intro c hc
  rw [requestComponents_eq] at hc
  rcases List.mem_append.1 hc with hc | hc
  · exact wellNamed_targetComponents request c hc
  · exact wellNamed_ofHeader (by decide) (lower_profileFields (.inl rfl)) hc

theorem wellNamed_responseComponents (exchange : HttpExchange) :
    ∀ c ∈ responseComponents exchange, c.WellNamed := by
  intro c hc
  rw [responseComponents_eq] at hc
  rcases List.mem_append.1 hc with hc | hc
  · rcases List.mem_cons.1 hc with rfl | hc
    · exact trivial
    · obtain ⟨inner, hinner, rfl⟩ := List.mem_map.1 hc
      exact wellNamed_targetComponents exchange.request inner hinner
  · exact wellNamed_ofHeader (by decide) (lower_profileFields (.inr rfl)) hc

/-- A component of a field of the list, among the components that cover the
fields. -/
theorem header_mem {names : List Str} {p : Str → Bool} {name : Str}
    {derived : List Component}
    (hlower : ∀ name ∈ names, Str.toAsciiLowercase name = name)
    (hname : name ∈ names) (hp : p name = true) :
    .header name ∈ derived ++ (names.filter p).map Component.ofHeader := by
  refine List.mem_append_right _
    (List.mem_map.2 ⟨name, List.mem_filter.2 ⟨hname, hp⟩, ?_⟩)
  rw [Component.ofHeader, hlower name hname]

section Request

variable [Base64] [Ed25519] [P256] {key : VerifyingKey}
  {signatureInput signature : Str}
  {config : VerifyConfig} {w : VerifiedSignature}

/-- A request that verifies under the request profile agrees with one that the
owner of the key has signed, in its method, its target and the fields of the
profile.  The parameters are the signed ones, and they name the recipient. -/
theorem request_integrity {log : SigningLog HttpRequest}
    (hideal : IdealKey key requestComponents log) {request : HttpRequest}
    (hprofile : config.wimseProfile = true)
    (hrequired : config.requiredComponents = requestComponents request)
    (h : verify request signatureInput signature key config = .ok w) :
    ∃ sent params label, log sent params label ∧ SameTarget sent request ∧
      SameFields requestFields sent.headers request.headers ∧
      w.params = params ∧
      ∃ aud ∈ config.expectedAudiences, params.wimseAud = some aud := by
  obtain ⟨member, hauth, hpolicy, rfl⟩ := verify_eq_ok_iff.1 h
  obtain ⟨sent, params, label, hlog, hcomponents, rfl, hvalues⟩ :=
    exists_log_of_signed hideal wellNamed_requestComponents hauth
  refine ⟨sent, _, label, hlog, ?_, ?_, rfl, hpolicy.audience (Or.inl hprofile)⟩
  · apply sameTarget_of_components
    intro c hc
    exact hvalues c (List.mem_append_left _ hc)
  · apply sameFields_of_covered (lower_profileFields (.inl rfl))
      (d := targetComponents sent)
    · exact targetComponents_ne_header sent
    · intro name hname hfield
      exact hvalues _ (header_mem (lower_profileFields (.inl rfl)) hname hfield)
    · intro name hname hfield
      rw [← requestComponents_eq, ← hcomponents]
      apply hpolicy.required
      rw [hrequired, requestComponents_eq]
      exact header_mem (lower_profileFields (.inl rfl)) hname hfield

end Request

namespace Example

namespace Request

scoped instance : Ed25519 := Ed25519.ideal base signature

end Request

section Request

open scoped Rfc4648 P256.Keyless Request

def requestKey : SigningKey := .ed25519 ()

/-- The log with the one call that has signed the request. -/
def requestLog : SigningLog HttpRequest := fun m p label =>
  m = request ∧ p = params ∧ label = "wimse".toList

theorem idealKey_request :
    IdealKey requestKey.verifyingKey requestComponents requestLog := by
  intro bytes s h
  obtain ⟨hbytes, _⟩ := Ed25519.ideal_verify_iff.1 h
  exact ⟨request, params, _, base, ⟨rfl, rfl, rfl⟩,
    signatureBase_request, hbytes⟩

/-- The request verifies, and it is the one of the log. -/
theorem request_integrity_example :
    ∃ signed w,
      sign request (requestComponents request) params "wimse" requestKey
        = .ok signed ∧
      verify request signed.signatureInput signed.signature
        requestKey.verifyingKey config = .ok w ∧
      w.params = params := by
  obtain ⟨signed, hsigned⟩ :=
    exists_sign "wimse" requestKey signatureBase_request
  have hkey :
      ∀ b, signatureBase request (requestComponents request) params = .ok b →
      requestKey.verifyingKey.verify (Str.asBytes b)
      (requestKey.sign (Str.asBytes b)).toList
        = .ok () := by
    intro b hbase
    obtain rfl := Outcome.ok.inj (signatureBase_request.symm.trans hbase)
    exact Ed25519.ideal_verify_sign _ signature
  have hverify :=
    verify_of_allows Rfc4648.standard_lawful
      (wellNamed_requestComponents request) isKey
    hsigned hkey (allows _)
  obtain ⟨sent, p, label, hlog, _, _, hparams, _⟩ :=
    request_integrity idealKey_request rfl rfl hverify
  exact ⟨signed, _, hsigned, hverify, hparams.trans hlog.2.1⟩

end Request

end Example

section Response

variable [Base64] [Ed25519] [P256] {key : VerifyingKey}
  {signatureInput signature : Str}
  {config : VerifyConfig} {w : VerifiedSignature}

/-- A response that verifies for a request and its nonce agrees with an exchange
that the owner of the key has signed, in its status, the method and the target
of the request, and the fields of the profile.  The signed parameters answer the
nonce. -/
theorem response_integrity {log : SigningLog HttpExchange}
    (hideal : IdealKey key responseComponents log) {exchange : HttpExchange}
    {nonce : Str}
    (hrequired : config.requiredComponents = responseComponents exchange)
    (hnonce : config.expectedReqNonce = some nonce)
    (h : verify exchange signatureInput signature key config = .ok w) :
    ∃ sent params label, log sent params label ∧
      sent.response.status = exchange.response.status ∧
      SameTarget sent.request exchange.request ∧
      SameFields responseFields sent.response.headers
        exchange.response.headers ∧
      params.wimseReqNonce = some nonce := by
  obtain ⟨member, hauth, hpolicy, rfl⟩ := verify_eq_ok_iff.1 h
  obtain ⟨sent, params, label, hlog, hcomponents, rfl, hvalues⟩ :=
    exists_log_of_signed hideal wellNamed_responseComponents hauth
  refine ⟨sent, _, label, hlog, ?_, ?_, ?_, hpolicy.reqNonce nonce hnonce⟩
  · obtain ⟨value, hsent, hreceived⟩ := hvalues .status (List.mem_cons_self ..)
    have hstatus :=
      display_injective (Outcome.ok.inj (hsent.trans hreceived.symm))
    exact UInt16.toNat_inj.1 hstatus
  · apply sameTarget_of_components
    intro c hc
    refine hvalues (.req c) ?_
    rw [responseComponents_eq]
    exact List.mem_append_left _
      (List.mem_cons_of_mem _ (List.mem_map_of_mem hc))
  · apply sameFields_of_covered (lower_profileFields (.inr rfl))
      (d := .status :: (targetComponents sent.request).map .req)
    · intro c hc name heq
      rw [heq] at hc
      simp at hc
    · intro name hname hfield
      refine hvalues (.header name) ?_
      rw [responseComponents_eq]
      exact header_mem (lower_profileFields (.inr rfl)) hname hfield
    · intro name hname hfield
      rw [← responseComponents_eq, ← hcomponents]
      apply hpolicy.required
      rw [hrequired, responseComponents_eq]
      exact header_mem (lower_profileFields (.inr rfl)) hname hfield

end Response

namespace Example

section Response

/-- The response to the request. -/
def exchange : HttpExchange :=
  { response :=
      { status := 200
        headers := [] }
    request := request }

/-- Parameters that answer the nonce of the request. -/
def responseParams : SignatureParams :=
  { created := some 1
    expires := some 9
    keyid := none
    alg := none
    nonce := some "r"
    tag := some WIMSE_TAG
    wimseAud := none
    wimseSignResponse := none
    wimseReqNonce := some "a\"b" }

def responseBase : Str :=
  ("\"@status\": 200\n\"@method\";req: GET\n\"@path\";req: /\n\"@query\";req: ?\n" ++
    "\"@signature-params\": (\"@status\" \"@method\";req \"@path\";req \"@query\";req)" ++
    ";created=1;expires=9;nonce=\"r\";tag=\"wimse-workload-to-workload\"" ++
    ";wimse-req-nonce=\"a\\\"b\"")

/-- The signature of the base by the key of the seed `01 01 ... 01`. -/
def responseSignature : Vector UInt8 64 :=
  #v[75, 73, 221, 203, 40, 165, 17, 86, 159, 190, 12, 13, 125, 197, 15, 7, 136,
    8, 75, 96, 72, 215, 182, 206, 92, 208, 99, 212, 68, 162, 117, 3, 206, 43,
    156, 77, 214, 189, 175, 162, 161, 113, 4, 33, 128, 156, 48, 217, 124, 170,
    236, 86, 224, 126, 164, 213, 36, 231, 101, 149, 159, 174, 171, 0]

/-- The client that sent the request with the nonce. -/
def responseConfig : VerifyConfig :=
  { config with
    requiredComponents := responseComponents exchange
    wimseProfile := false
    expectedAudiences := []
    wimseResponseProfile := true
    expectedReqNonce := some "a\"b" }

namespace Response

scoped instance : Ed25519 := Ed25519.ideal responseBase responseSignature

end Response

open scoped Rfc4648 P256.Keyless Response

def responseKey : SigningKey := .ed25519 ()

/-- The log with the one call that has signed the response. -/
def responseLog : SigningLog HttpExchange := fun m p label =>
  m = exchange ∧ p = responseParams ∧ label = "wimse".toList

theorem signatureBase_response :
    signatureBase exchange (responseComponents exchange) responseParams
      = .ok responseBase := by
  decide +kernel

theorem idealKey_response :
    IdealKey responseKey.verifyingKey responseComponents responseLog := by
  intro bytes s h
  obtain ⟨hbytes, _⟩ := Ed25519.ideal_verify_iff.1 h
  exact ⟨exchange, responseParams, _, responseBase, ⟨rfl, rfl, rfl⟩,
    signatureBase_response, hbytes⟩

theorem allows_response [Ed25519] [P256] {key : VerifyingKey} :
    Allows exchange key responseConfig "wimse" (responseComponents exchange)
      responseParams where
  request h := by cases h
  response _ := ⟨⟨rfl, rfl, rfl, rfl, rfl, rfl⟩, rfl, rfl⟩
  connect _ h := by
    have hmethod : ("GET" : Str) = CONNECT := Outcome.ok.inj h
    exact absurd hmethod (by decide)
  accepted := Or.inl rfl
  alg _ h := by cases h
  required := by decide
  audience h := by simp [responseConfig] at h
  reqNonce _ h := h
  window created hcreated expires hexpires := by
    obtain rfl := Option.some.inj hcreated
    obtain rfl := Option.some.inj hexpires
    decide
  clock _ := rfl
  expires now hnow expires hexpires := by
    obtain rfl := Option.some.inj hnow
    obtain rfl := Option.some.inj hexpires
    decide
  created now hnow created hcreated := by
    obtain rfl := Option.some.inj hnow
    obtain rfl := Option.some.inj hcreated
    decide
  maxAge now hnow maxAge hmaxAge := by
    obtain rfl := Option.some.inj hnow
    obtain rfl := Option.some.inj hmaxAge
    exact ⟨1, rfl, by decide⟩
  label h := by cases h

/-- The response verifies, and it answers the request of the log. -/
theorem response_integrity_example :
    ∃ signed w,
      sign exchange (responseComponents exchange) responseParams "wimse"
        responseKey = .ok signed ∧
      verify exchange signed.signatureInput signed.signature
        responseKey.verifyingKey responseConfig
        = .ok w ∧
      ∃ sent params label, responseLog sent params label ∧
        sent.response.status = exchange.response.status ∧
        params.wimseReqNonce = responseConfig.expectedReqNonce := by
  obtain ⟨signed, hsigned⟩ :=
    exists_sign "wimse" responseKey signatureBase_response
  have hkey : ∀ b,
      signatureBase exchange (responseComponents exchange) responseParams
        = .ok b →
      responseKey.verifyingKey.verify (Str.asBytes b)
        (responseKey.sign (Str.asBytes b)).toList = .ok () := by
    intro b hbase
    obtain rfl := Outcome.ok.inj (signatureBase_response.symm.trans hbase)
    exact Ed25519.ideal_verify_sign _ responseSignature
  have hverify :=
    verify_of_allows Rfc4648.standard_lawful
      (wellNamed_responseComponents exchange)
    isKey hsigned hkey allows_response
  obtain ⟨sent, params, label, hlog, hstatus, _, _, hnonce⟩ :=
    response_integrity idealKey_response rfl rfl hverify
  exact ⟨signed, _, hsigned, hverify, sent, params, label, hlog,
    hstatus, hnonce⟩

end Response

end Example

end Wimsey.HttpSig
