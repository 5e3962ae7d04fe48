import Wimsey.HttpSig.Fields
import Wimsey.HttpSig.Integrity
import Wimsey.HttpSig.LetterCase

/-!
# Signed messages behind intermediaries

A signature is verified where the message arrives, not where it was sent.  `Hop`
is what one intermediary may do to a request whose signature covers some
components: change its fields as `FieldHop` says, write the authority in other
letter case, write the path and the query in another way that derives the same
values, and change what is not covered.  A method that is not covered may
change too, but neither into `CONNECT` nor from it: the profiles look at that
whether the method is covered or not.

`verify_congr` is the common part: the outcome of `verify` depends on the
message only through the values of the covered components and through whether
the method is `CONNECT`.  So a chain of hops keeps the outcome, whether the
message is accepted or not.

`verify_relayed_iff` is the other direction, for a signature that covers the
method and is valid for nothing but its own base: a request is accepted exactly
when a chain of hops leads to it from the one that was signed.
-/

namespace Wimsey.HttpSig

open Wimsey.RustStd Wimsey.Codec Wimsey.Jose Wimsey.System

/-! ## The outcome of a verification -/

section Same

variable {M : Type} [ComponentSource M]

/-- The method of both messages is `CONNECT`, or that of neither, as the
profiles read it. -/
def SameConnect (m m' : M) : Prop :=
  ∀ response,
    ComponentSource.componentValue m (target response .method) = .ok CONNECT ↔
      ComponentSource.componentValue m' (target response .method) = .ok CONNECT

variable {m m' : M} {components : List Component}

theorem checkConnectComponents_congr (h : SameConnect m m')
    (components : List Component) (response : Bool) :
    checkConnectComponents m components response
      = checkConnectComponents m' components response := by
  unfold checkConnectComponents
  rw [if_congr (h response) rfl rfl]

variable [Base64] [Ed25519] [P256]

/-- The outcome of a verification is the same, also the error, when the two
messages are the same to the selected member. -/
theorem verify_congr {signatureInput signature : Str} {key : VerifyingKey}
    {config : VerifyConfig}
    (h : ∀ member, selectMember signatureInput config = .ok member →
      SameConnect m m' ∧ SameValues member.components m m') :
    verify m signatureInput signature key config
      = verify m' signatureInput signature key config := by
  unfold verify
  cases hselect : selectMember signatureInput config with
  | err e => rfl
  | panic => rfl
  | ok member =>
    obtain ⟨hconnect, hvalues⟩ := h member hselect
    simp only [Outcome.ok_bind, checkConnectComponents_congr hconnect,
      signatureBaseFromParamsStr_congr hvalues]

/-- A message that is verified with the signature of another one has the same
values. -/
theorem sameValues_of_verify
    (hbase64 : Base64.STANDARD.Lawful (Rfc4648.standardAlphabet ++ ['=']))
    {params : SignatureParams} {label : Str} {key : SigningKey}
    {signed : SignedSignature} (hcomponents : ∀ c ∈ components, c.WellNamed)
    (hlabel : IsKey label)
    (hsigned : sign m components params label key = .ok signed)
    (hbinds : ∀ base, signatureBase m components params = .ok base →
      Binds key (Str.asBytes base))
    {config : VerifyConfig} {w : VerifiedSignature}
    (h : verify m' signed.signatureInput signed.signature
      key.verifyingKey config
      = .ok w) : SameValues components m m' :=
  ((verify_signed_iff hbase64 (fun c hc => (hcomponents c hc).tokenNamed) hlabel
    hsigned hbinds).1 ⟨w, h⟩).2.2

/-- A message with the same values and the same method is verified with the
signature of the other one. -/
theorem verify_of_sameValues
    (hbase64 : Base64.STANDARD.Lawful (Rfc4648.standardAlphabet ++ ['=']))
    {params : SignatureParams} {label : Str} {key : SigningKey}
    {signed : SignedSignature} (hcomponents : ∀ c ∈ components, c.WellNamed)
    (hlabel : IsKey label)
    (hsigned : sign m components params label key = .ok signed)
    (hbinds : ∀ base, signatureBase m components params = .ok base →
      Binds key (Str.asBytes base))
    {config : VerifyConfig}
    (hallows : Allows m key.verifyingKey config label components params)
    (hconnect : SameConnect m m') (hvalues : SameValues components m m') :
    verify m' signed.signatureInput signed.signature key.verifyingKey config
      = .ok { label := label, components := components, params := params } := by
  obtain ⟨hsplit, _⟩ :=
    read_sign hbase64 (fun c hc => (hcomponents c hc).tokenNamed) hlabel hsigned
  have hparse := parseInputMember_serialize label hcomponents
    (trim_serializeParamsValue components params)
  have hsame :
      verify m signed.signatureInput signed.signature key.verifyingKey config
        = verify m' signed.signatureInput signed.signature key.verifyingKey
          config := by
    apply verify_congr
    intro member hselect
    obtain ⟨rfl, _⟩ := (selectMember_of_lone config hsplit hparse).1 hselect
    exact ⟨hconnect, hvalues⟩
  rw [← hsame]
  exact verify_of_allows hbase64 hcomponents hlabel hsigned
    (fun base hbase => (hbinds base hbase _).2 rfl) hallows

end Same

/-! ## Requests -/

/-- The components cover the field of this key. -/
def CoversField (covered : List Component) (key : Str) : Prop :=
  ∃ name, .header name ∈ covered ∧ Str.toAsciiLowercase name = key

/-- One change that an intermediary may make to a request whose signature covers
these components. -/
inductive Hop (covered : List Component) : HttpRequest → HttpRequest → Prop
  | method (request : HttpRequest) {method : Str}
      (h : .method ∈ covered → request.method = method)
      (hconnect : request.method = CONNECT ↔ method = CONNECT) :
      Hop covered request { request with method := method }
  | fields (request : HttpRequest) {headers : List (Str × Str)}
      (h : FieldHop (CoversField covered) request.headers headers) :
      Hop covered request { request with headers := headers }
  | authority (request : HttpRequest) {authority : Str}
      (h : .authority ∈ covered →
        Str.toAsciiLowercase request.authority
        = Str.toAsciiLowercase authority) :
      Hop covered request { request with authority := authority }
  | target (request : HttpRequest) {path : Str} {query : Option Str}
      (h : ∀ c ∈ [Component.path, .query, .requestTarget], c ∈ covered →
        request.componentValue c
          = { request with
              path := path, query := query : HttpRequest }.componentValue c) :
      Hop covered request { request with path := path, query := query }

variable {covered : List Component}

theorem headerValue_of_fieldHop {headers headers' : List (Str × Str)}
    {name : Str} (h : FieldHop (CoversField covered) headers headers')
    (hname : .header name ∈ covered) :
    headerValue headers name = headerValue headers' name :=
  h.headerValue_eq ⟨name, hname, rfl⟩

/-- Lists of fields with the same covered values are connected. -/
theorem fieldHops_of_covered {headers headers' : List (Str × Str)}
    (h : ∀ name, .header name ∈ covered →
      headerValue headers name = headerValue headers' name) :
    Relation.ReflTransGen (FieldHop (CoversField covered)) headers
      headers' := by
  rw [fieldHops_iff]
  rintro name ⟨name', hmem, hname⟩
  have hvalue := h name' hmem
  rw [headerValue_eq_iff, fieldValues_eq, fieldValues_eq] at hvalue ⊢
  rwa [hname] at hvalue

theorem Hop.connect_iff {request request' : HttpRequest}
    (h : Hop covered request request') :
    request.method = CONNECT ↔ request'.method = CONNECT := by
  cases h with
  | method _ hconnect => exact hconnect
  | _ => exact Iff.rfl

theorem Hop.sameValues {request request' : HttpRequest}
    (h : Hop covered request request') :
    SameValues covered request request' := by
  intro c hc
  cases h with
  | method h _ =>
    cases c with
    | method => exact congrArg Outcome.ok (h hc)
    | _ => rfl
  | fields h =>
    cases c with
    | header name => exact headerValue_of_fieldHop h hc
    | _ => rfl
  | authority h =>
    cases c with
    | authority => exact congrArg Outcome.ok (h hc)
    | _ => rfl
  | target h =>
    cases c with
    | path => exact h .path (by simp) hc
    | query => exact h .query (by simp) hc
    | requestTarget => exact h .requestTarget (by simp) hc
    | _ => rfl

/-- A chain of hops leads from one request to another exactly when the method of
both is `CONNECT` or that of neither, and the two have the same value for each
covered component. -/
theorem hops_iff {request request' : HttpRequest} :
    Relation.ReflTransGen (Hop covered) request request' ↔
      (request.method = CONNECT ↔ request'.method = CONNECT) ∧
        SameValues covered request request' := by
  constructor
  · intro h
    induction h with
    | refl => exact ⟨Iff.rfl, fun _ _ => rfl⟩
    | tail _ hop ih =>
      exact ⟨ih.1.trans hop.connect_iff,
        fun c hc => (ih.2 c hc).trans (hop.sameValues c hc)⟩
  · intro ⟨hconnect, hvalues⟩
    -- The fields first, then the method, the authority, and at last the path
    -- and the query.
    have hfields : Relation.ReflTransGen (Hop covered) request
        { request with headers := request'.headers } := by
      have hhops : Relation.ReflTransGen (FieldHop (CoversField covered))
          request.headers request'.headers :=
        fieldHops_of_covered fun name hname => hvalues (.header name) hname
      exact hhops.lift (fun headers => { request with headers := headers })
        fun headers _ h => Hop.fields { request with headers := headers } h
    have hmethod : Hop covered { request with headers := request'.headers }
        { request with
          headers := request'.headers
          method := request'.method } :=
      Hop.method _ (fun hmem => Outcome.ok.inj (hvalues .method hmem)) hconnect
    have hauthority : Hop covered
        { request with
          headers := request'.headers
          method := request'.method }
        { request with
          headers := request'.headers
          method := request'.method
          authority := request'.authority } :=
      Hop.authority _ fun hmem => Outcome.ok.inj (hvalues .authority hmem)
    have htarget : Hop covered
        { request with
          headers := request'.headers
          method := request'.method
          authority := request'.authority } request' := by
      refine Hop.target _ fun c hc hmem => ?_
      have hvalue : request.componentValue c = request'.componentValue c :=
        hvalues c hmem
      simp only [List.mem_cons, List.not_mem_nil, or_false] at hc
      rcases hc with rfl | rfl | rfl <;> exact hvalue
    exact ((hfields.tail hmethod).tail hauthority).tail htarget

theorem sameConnect_of_request {request request' : HttpRequest}
    (h : request.method = CONNECT ↔ request'.method = CONNECT) :
    SameConnect request request' := by
  intro response
  cases response with
  | false =>
    exact ⟨fun heq => congrArg Outcome.ok (h.1 (Outcome.ok.inj heq)),
      fun heq => congrArg Outcome.ok (h.2 (Outcome.ok.inj heq))⟩
  | true => exact ⟨nofun, nofun⟩

/-! ## Responses -/

/-- The components of the request among those that a response signature
covers. -/
def requestPart (covered : List Component) : List Component :=
  covered.filterMap fun
    | .req inner => some inner
    | _ => none

theorem mem_requestPart {c : Component} :
    c ∈ requestPart covered ↔ .req c ∈ covered := by
  unfold requestPart
  rw [List.mem_filterMap]
  constructor
  · rintro ⟨d, hd, hc⟩
    cases d with
    | req inner => rwa [← Option.some.inj hc]
    | _ => cases hc
  · exact fun h => ⟨_, h, rfl⟩

/-- One change between the exchange that was signed and the one that is
verified: the server signs for the request that reached it, and the client
verifies for the one it sent. -/
inductive ExchangeHop (covered : List Component) :
    HttpExchange → HttpExchange → Prop
  | status (exchange : HttpExchange) {status : UInt16}
      (h : .status ∈ covered → exchange.response.status = status) :
      ExchangeHop covered exchange
        { exchange with
          response := { exchange.response with status := status } }
  | response (exchange : HttpExchange) {headers : List (Str × Str)}
      (h : FieldHop (CoversField covered) exchange.response.headers headers) :
      ExchangeHop covered exchange
        { exchange with
          response := { exchange.response with headers := headers } }
  | request (exchange : HttpExchange) {request : HttpRequest}
      (h : Hop (requestPart covered) exchange.request request) :
      ExchangeHop covered exchange { exchange with request := request }

theorem ExchangeHop.connect_iff {exchange exchange' : HttpExchange}
    (h : ExchangeHop covered exchange exchange') :
    exchange.request.method = CONNECT ↔ exchange'.request.method = CONNECT := by
  cases h with
  | request h => exact h.connect_iff
  | _ => exact Iff.rfl

theorem ExchangeHop.sameValues {exchange exchange' : HttpExchange}
    (h : ExchangeHop covered exchange exchange') :
    SameValues covered exchange exchange' := by
  intro c hc
  cases h with
  | status h =>
    cases c with
    | status =>
      exact congrArg (fun n : UInt16 => Outcome.ok (display n.toNat)) (h hc)
    | _ => rfl
  | response h =>
    cases c with
    | header name => exact headerValue_of_fieldHop h hc
    | _ => rfl
  | request h =>
    cases c with
    | req inner => exact h.sameValues inner (mem_requestPart.2 hc)
    | _ => rfl

/-- A chain of changes leads from one exchange to another exactly when the
method of both requests is `CONNECT` or that of neither, and the two have the
same value for each covered component. -/
theorem exchangeHops_iff {exchange exchange' : HttpExchange} :
    Relation.ReflTransGen (ExchangeHop covered) exchange exchange' ↔
      (exchange.request.method = CONNECT ↔ exchange'.request.method = CONNECT) ∧
        SameValues covered exchange exchange' := by
  constructor
  · intro h
    induction h with
    | refl => exact ⟨Iff.rfl, fun _ _ => rfl⟩
    | tail _ hop ih =>
      exact ⟨ih.1.trans hop.connect_iff,
        fun c hc => (ih.2 c hc).trans (hop.sameValues c hc)⟩
  · intro ⟨hconnect, hvalues⟩
    have hrequest : Relation.ReflTransGen (Hop (requestPart covered))
        exchange.request exchange'.request :=
      hops_iff.2
        ⟨hconnect, fun c hc => hvalues (.req c) (mem_requestPart.1 hc)⟩
    have hheaders : Relation.ReflTransGen (FieldHop (CoversField covered))
        exchange.response.headers exchange'.response.headers :=
      fieldHops_of_covered fun name hname => hvalues (.header name) hname
    have hfirst : Relation.ReflTransGen (ExchangeHop covered) exchange
        { exchange with request := exchange'.request } :=
      hrequest.lift (fun request => { exchange with request := request })
        fun request _ h =>
          ExchangeHop.request { exchange with request := request } h
    have hsecond : ExchangeHop covered
        { exchange with request := exchange'.request }
        (HttpExchange.mk
          (HttpResponse.mk exchange'.response.status exchange.response.headers)
          exchange'.request) :=
      ExchangeHop.status _ fun hmem =>
        UInt16.toNat_inj.1
          (display_injective (Outcome.ok.inj (hvalues .status hmem)))
    have hthird : Relation.ReflTransGen (ExchangeHop covered)
        (HttpExchange.mk
          (HttpResponse.mk exchange'.response.status exchange.response.headers)
          exchange'.request) exchange' :=
      hheaders.lift (fun headers => HttpExchange.mk
        (HttpResponse.mk exchange'.response.status headers) exchange'.request)
        fun headers _ h => ExchangeHop.response (HttpExchange.mk
          (HttpResponse.mk exchange'.response.status headers)
          exchange'.request) h
    exact (hfirst.tail hsecond).trans hthird

theorem sameConnect_of_exchange {exchange exchange' : HttpExchange}
    (h : exchange.request.method = CONNECT ↔
      exchange'.request.method = CONNECT) :
    SameConnect exchange exchange' := by
  intro response
  cases response with
  | false => exact ⟨nofun, nofun⟩
  | true =>
    exact ⟨fun heq => congrArg Outcome.ok (h.1 (Outcome.ok.inj heq)),
      fun heq => congrArg Outcome.ok (h.2 (Outcome.ok.inj heq))⟩

/-! ## Verification behind intermediaries -/

/-- Intermediaries that keep to what the selected member covers do not change
the outcome of a verification: a message is accepted, or rejected with the same
error, as it would have been without them. -/
theorem verify_relayed [Base64] [Ed25519] [P256]
    (signatureInput signature : Str) (key : VerifyingKey)
    (config : VerifyConfig) :
    (∀ sent received : HttpRequest,
      (∀ member, selectMember signatureInput config = .ok member →
        Relation.ReflTransGen (Hop member.components) sent received) →
      verify received signatureInput signature key config
        = verify sent signatureInput signature key config) ∧
    (∀ sent received : HttpExchange,
      (∀ member, selectMember signatureInput config = .ok member →
        Relation.ReflTransGen (ExchangeHop member.components) sent received) →
      verify received signatureInput signature key config
        = verify sent signatureInput signature key config) := by
  refine ⟨fun sent received h => ?_, fun sent received h => ?_⟩
  · refine (verify_congr fun member hselect => ?_).symm
    obtain ⟨hconnect, hvalues⟩ := hops_iff.1 (h member hselect)
    exact ⟨sameConnect_of_request hconnect, hvalues⟩
  · refine (verify_congr fun member hselect => ?_).symm
    obtain ⟨hconnect, hvalues⟩ := exchangeHops_iff.1 (h member hselect)
    exact ⟨sameConnect_of_exchange hconnect, hvalues⟩

namespace Example

section Request

open scoped Rfc4648 P256.Keyless Request

/-- The request behind a proxy that adds a field and writes the authority in
capitals. -/
def forwarded : HttpRequest :=
  { request with
    authority := "A.B"
    headers := [("X-Forwarded-By", "proxy")] }

theorem hops_forwarded :
    Relation.ReflTransGen (Hop (requestComponents request)) request
      forwarded := by
  have hcomponents : requestComponents request = [.method, .path, .query] := by
    decide
  rw [hcomponents]
  have hfield : FieldHop (CoversField [.method, .path, .query]) []
      [("X-Forwarded-By", "proxy")] := by
    refine FieldHop.add [] [] ?_
    rintro ⟨name, hmem, _⟩
    simp at hmem
  exact (Relation.ReflTransGen.single (Hop.fields request hfield)).tail
    (Hop.authority _ fun hmem => by simp at hmem)

/-- What the recipient decides about the request behind the proxy is what it
decides about the request that was sent. -/
theorem verify_relayed_example :
    ∃ signed, sign request (requestComponents request) params "wimse" requestKey
      = .ok signed ∧
      verify forwarded signed.signatureInput signed.signature
        requestKey.verifyingKey config
        = verify request signed.signatureInput signed.signature
          requestKey.verifyingKey config := by
  obtain ⟨signed, hsigned⟩ :=
    exists_sign "wimse" requestKey signatureBase_request
  have hnamed := wellNamed_requestComponents request
  obtain ⟨hsplit, _⟩ :=
    read_sign Rfc4648.standard_lawful
      (fun c hc => (hnamed c hc).tokenNamed) isKey hsigned
  have hparse := parseInputMember_serialize "wimse" hnamed
    (trim_serializeParamsValue (requestComponents request) params)
  refine ⟨signed, hsigned,
    (verify_relayed _ _ _ _).1 request forwarded fun member hselect => ?_⟩
  obtain ⟨rfl, _⟩ := (selectMember_of_lone config hsplit hparse).1 hselect
  exact hops_forwarded

end Request

end Example

section Request

variable [Base64] [Ed25519] [P256] {config : VerifyConfig} {key : SigningKey}
  {components : List Component} {params : SignatureParams} {label : Str}
  {signed : SignedSignature}

/-- With the signature of a request that covers the method, another request is
accepted exactly when a chain of hops leads to it from the one that was
signed. -/
theorem verify_relayed_iff {sent received : HttpRequest}
    (hbase64 : Base64.STANDARD.Lawful (Rfc4648.standardAlphabet ++ ['=']))
    (hcomponents : ∀ c ∈ components, c.WellNamed) (hlabel : IsKey label)
    (hsigned : sign sent components params label key = .ok signed)
    (hbinds : ∀ base, signatureBase sent components params = .ok base →
      Binds key (Str.asBytes base))
    (hallows : Allows sent key.verifyingKey config label components params)
    (hmethod : .method ∈ components) :
    (∃ w, verify received signed.signatureInput signed.signature
      key.verifyingKey config = .ok w) ↔
      Relation.ReflTransGen (Hop components) sent received := by
  constructor
  · intro ⟨w, h⟩
    have hvalues :=
      sameValues_of_verify hbase64 hcomponents hlabel hsigned hbinds h
    have hsame : sent.method = received.method :=
      Outcome.ok.inj (hvalues .method hmethod)
    exact hops_iff.2 ⟨by rw [hsame], hvalues⟩
  · intro h
    obtain ⟨hconnect, hvalues⟩ := hops_iff.1 h
    exact ⟨_,
      verify_of_sameValues hbase64 hcomponents hlabel hsigned hbinds hallows
      (sameConnect_of_request hconnect) hvalues⟩

end Request

namespace Example

section Request

open scoped Rfc4648 P256.Keyless Request

theorem binds_request :
    ∀ b, signatureBase request (requestComponents request) params = .ok b →
    Binds requestKey (Str.asBytes b) := by
  intro b hbase other
  obtain rfl := Outcome.ok.inj (signatureBase_request.symm.trans hbase)
  constructor
  · exact fun h => (Ed25519.ideal_verify_iff.1 h).1
  · rintro rfl
    exact Ed25519.ideal_verify_sign _ signature

/-- The request is accepted behind the proxy. -/
theorem verify_relayed_iff_example :
    ∃ signed, sign request (requestComponents request) params "wimse" requestKey
      = .ok signed ∧
      ∃ w,
        verify forwarded signed.signatureInput signed.signature
          requestKey.verifyingKey config = .ok w := by
  obtain ⟨signed, hsigned⟩ :=
    exists_sign "wimse" requestKey signatureBase_request
  exact ⟨signed, hsigned, (verify_relayed_iff Rfc4648.standard_lawful
    (wellNamed_requestComponents request) isKey hsigned binds_request (allows _)
    (by decide)).2 hops_forwarded⟩

end Request

end Example

section Response

variable [Base64] [Ed25519] [P256] {config : VerifyConfig} {key : SigningKey}
  {components : List Component} {params : SignatureParams} {label : Str}
  {signed : SignedSignature}

/-- With the signature of an exchange that covers the method of the request,
another exchange is accepted exactly when a chain of changes leads to it from
the one that was signed. -/
theorem verify_relayed_response_iff {sent received : HttpExchange}
    (hbase64 : Base64.STANDARD.Lawful (Rfc4648.standardAlphabet ++ ['=']))
    (hcomponents : ∀ c ∈ components, c.WellNamed) (hlabel : IsKey label)
    (hsigned : sign sent components params label key = .ok signed)
    (hbinds : ∀ base, signatureBase sent components params = .ok base →
      Binds key (Str.asBytes base))
    (hallows : Allows sent key.verifyingKey config label components params)
    (hmethod : .req .method ∈ components) :
    (∃ w, verify received signed.signatureInput signed.signature
      key.verifyingKey config = .ok w) ↔
      Relation.ReflTransGen (ExchangeHop components) sent received := by
  constructor
  · intro ⟨w, h⟩
    have hvalues :=
      sameValues_of_verify hbase64 hcomponents hlabel hsigned hbinds h
    have hsame : sent.request.method = received.request.method :=
      Outcome.ok.inj (hvalues (.req .method) hmethod)
    exact exchangeHops_iff.2 ⟨by rw [hsame], hvalues⟩
  · intro h
    obtain ⟨hconnect, hvalues⟩ := exchangeHops_iff.1 h
    exact ⟨_,
      verify_of_sameValues hbase64 hcomponents hlabel hsigned hbinds hallows
      (sameConnect_of_exchange hconnect) hvalues⟩

end Response

namespace Example

section Response

open scoped Rfc4648 P256.Keyless Response

/-- The exchange of the client whose request went through the proxy. -/
def forwardedExchange : HttpExchange :=
  { exchange with request := forwarded }

theorem hops_forwardedExchange :
    Relation.ReflTransGen (ExchangeHop (responseComponents exchange)) exchange
      forwardedExchange := by
  have hpart : requestPart (responseComponents exchange)
      = requestComponents request := by decide
  have hhops := hops_forwarded
  rw [← hpart] at hhops
  exact hhops.lift (fun request => HttpExchange.mk exchange.response request)
    fun request _ h =>
    ExchangeHop.request (HttpExchange.mk exchange.response request) h

theorem binds_response : ∀ b,
    signatureBase exchange (responseComponents exchange) responseParams
      = .ok b →
    Binds responseKey (Str.asBytes b) := by
  intro b hbase other
  obtain rfl := Outcome.ok.inj (signatureBase_response.symm.trans hbase)
  constructor
  · exact fun h => (Ed25519.ideal_verify_iff.1 h).1
  · rintro rfl
    exact Ed25519.ideal_verify_sign _ responseSignature

/-- The response is accepted for the other form of the request. -/
theorem verify_relayed_response_iff_example :
    ∃ signed,
      sign exchange (responseComponents exchange) responseParams "wimse"
        responseKey = .ok signed ∧
      ∃ w, verify forwardedExchange signed.signatureInput signed.signature
        responseKey.verifyingKey responseConfig = .ok w := by
  obtain ⟨signed, hsigned⟩ :=
    exists_sign "wimse" responseKey signatureBase_response
  exact ⟨signed, hsigned, (verify_relayed_response_iff Rfc4648.standard_lawful
    (wellNamed_responseComponents exchange) isKey hsigned binds_response
    allows_response (by decide)).2 hops_forwardedExchange⟩

end Response

end Example

end Wimsey.HttpSig
