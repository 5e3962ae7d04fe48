import Wimsey.HttpSig.Relay
import Wimsey.Wit.RoundTrip
import Wimsey.Wpt.RoundTrip

/-!
# What a key signs

A key signs identity tokens, proofs of possession, requests and responses.  A
`Use` is one of these with everything that goes into it, and `Use.HasText` says
which text the key signs for it: `Wit.issue`, `Wpt.issue` and `HttpSig.sign`
sign just these texts.

Nothing but the text tells the four uses apart, since one key may have them all.
`one_purpose` says that it does: a text that is signed for two uses is signed
for the same claims, or over the same components with the same values.  The
exception is a request and a response whose signatures cover header fields only.
Header fields are named in lower case here, as the type of a component asks for.

The other side is what the verifiers read from a text.
`identity_of_authenticate`, `proof_of_authenticate` and `message_of_authentic`
say that a text that passes one of them has been signed for the use that the
verifier takes it for.
-/

namespace Wimsey.Protocol

open Wimsey.RustStd Wimsey.Codec Wimsey.Serde Wimsey.Jose Wimsey.HttpSig

/-- A use of a key. -/
inductive Use where
  | identity (claims : Wit.WitClaims) (kid : Option Str)
  | proof (claims : Wpt.WptClaims)
  | request (message : HttpRequest) (components : List Component)
      (params : SignatureParams)
  | response (message : HttpExchange) (components : List Component)
      (params : SignatureParams)

namespace Use

/-- The components of a message signature have names that can be read back. -/
def WellNamed : Use → Prop
  | .request _ components _ => ∀ c ∈ components, c.WellNamed
  | .response _ components _ => ∀ c ∈ components, c.WellNamed
  | _ => True

/-- The two uses say the same: the same claims, or the same components,
parameters and values. -/
def Agrees : Use → Use → Prop
  | .identity claims kid, .identity claims' kid' =>
      claims = claims' ∧ kid = kid'
  | .proof claims, .proof claims' => claims = claims'
  | .request m components params, .request m' components' params' =>
      components = components' ∧ params = params' ∧ SameValues components m m'
  | .response m components params, .response m' components' params' =>
      components = components' ∧ params = params' ∧ SameValues components m m'
  -- A request and a response have nothing in common but header fields.
  | .request m components params, .response m' components' params' =>
      components = components' ∧ params = params' ∧
        ∀ c ∈ components, ∃ name, c = .header name ∧
          headerValue m.headers name = headerValue m'.response.headers name
  | .response m components params, .request m' components' params' =>
      components = components' ∧ params = params' ∧
        ∀ c ∈ components, ∃ name, c = .header name ∧
          headerValue m.response.headers name = headerValue m'.headers name
  | _, _ => False

end Use

/-! ## The text of a use -/

section Text

variable [Base64] [SerdeJson]

/-- The text of a compact token before its signature. -/
def CompactText (header claims : Json) (text : Str) : Prop :=
  ∃ headerJson claimsJson, toVec header = .ok headerJson ∧
    toVec claims = .ok claimsJson ∧
    text = Base64.URL_SAFE_NO_PAD.encode headerJson ++ '.' ::
      Base64.URL_SAFE_NO_PAD.encode claimsJson

/-- The header of a proof. -/
def proofHeader (algorithm : Algorithm) : Wpt.Header :=
  { typ := Wpt.TYP
    alg := algorithm.asStr
    crit := none }

/-- The header of an identity token. -/
def identityHeader (algorithm : Algorithm) (kid : Option Str) : Wit.Header :=
  { typ := Wit.TYP
    alg := algorithm.asStr
    kid := kid
    crit := none }

/-- The text that a key of this algorithm signs for a use. -/
def Use.HasText (algorithm : Algorithm) : Use → Str → Prop
  | .identity claims kid, text =>
      CompactText (identityHeader algorithm kid).serialize claims.serialize text
  | .proof claims, text =>
      CompactText (proofHeader algorithm).serialize claims.serialize text
  | .request message components params, text =>
      signatureBase message components params = .ok text
  | .response message components params, text =>
      signatureBase message components params = .ok text

variable [Ed25519] [P256]

/-- A compact token is its text with the signature of that text. -/
theorem compact_eq_ok_iff {ε : Type} (ofJson : Error → ε) {header claims : Json}
    {key : SigningKey} {token : Str} :
    (do
      let headerJson ← Outcome.mapErr ofJson (toVec header)
      let claimsJson ← Outcome.mapErr ofJson (toVec claims)
      let signingInput := Base64.URL_SAFE_NO_PAD.encode headerJson ++ '.' ::
        Base64.URL_SAFE_NO_PAD.encode claimsJson
      .ok (signingInput ++ '.' :: Base64.URL_SAFE_NO_PAD.encode
        (key.sign (Str.asBytes signingInput)).toList) : Outcome ε Str)
          = .ok token ↔
      ∃ text, CompactText header claims text ∧
        token = text ++ '.' ::
          Base64.URL_SAFE_NO_PAD.encode
            (key.sign (Str.asBytes text)).toList := by
  simp only [Outcome.bind_eq_ok_iff, Outcome.mapErr_eq_ok_iff, Outcome.ok.injEq]
  constructor
  · rintro ⟨headerJson, hheader, claimsJson, hclaims, htoken⟩
    exact ⟨_, ⟨headerJson, claimsJson, hheader, hclaims, rfl⟩, htoken.symm⟩
  · rintro ⟨_, ⟨headerJson, claimsJson, hheader, hclaims, rfl⟩, htoken⟩
    exact ⟨headerJson, hheader, claimsJson, hclaims, htoken.symm⟩

theorem wit_issue_iff {claims : Wit.WitClaims} {kid : Option Str}
    {key : SigningKey} {token : Str} :
    Wit.issue claims kid key = .ok token ↔
      ∃ text, (Use.identity claims kid).HasText key.algorithm text ∧
        token = text ++ '.' ::
          Base64.URL_SAFE_NO_PAD.encode (key.sign (Str.asBytes text)).toList :=
  compact_eq_ok_iff Wit.WitError.ofJson

theorem wpt_issue_iff {claims : Wpt.WptClaims} {key : SigningKey}
    {proof : Str} :
    Wpt.issue claims key = .ok proof ↔
      ∃ text, (Use.proof claims).HasText key.algorithm text ∧
        proof = text ++ '.' ::
          Base64.URL_SAFE_NO_PAD.encode (key.sign (Str.asBytes text)).toList :=
  compact_eq_ok_iff Wpt.WptError.ofJson

end Text

/-! ## Texts of different kinds -/

theorem head?_quotedId (c : Component) : c.quotedId.head? = some '"' := by
  induction c with
  | req inner ih =>
    rw [Component.quotedId_req, List.head?_append, ih]
    rfl
  | _ => rfl

/-- A signature base starts with the quote of an identifier. -/
theorem head?_signatureBase {M : Type} [ComponentSource M] {message : M}
    {components : List Component} {paramsValue base : Str}
    (h : signatureBaseFromParamsStr message components paramsValue = .ok base) :
    base.head? = some '"' := by
  obtain ⟨_, values, hvalues, rfl⟩ := signatureBaseFromParamsStr_eq_ok_iff.1 h
  cases hvalues with
  | nil => rfl
  | @cons c value components values _ _ =>
    have hline : (componentLine c value).head? = some '"' := by
      rw [componentLine, List.head?_append, head?_quotedId]
      rfl
    cases hrest : List.zipWith componentLine components values ++
      [paramsLine paramsValue] with
    | nil => simp at hrest
    | cons line lines =>
      rw [List.zipWith_cons_cons, List.cons_append, hrest,
        List.intercalate_cons_cons, List.head?_append, List.head?_append, hline]
      rfl

/-- A header of an identity token that is read as that of a proof keeps its
type. -/
theorem typ_of_wpt_header {algorithm : Algorithm} {kid : Option Str}
    {header : Wpt.Header}
    (h : Wpt.Header.deserialize (identityHeader algorithm kid).serialize
      = .ok header) :
    header.typ = Wit.TYP := by
  simp only [Wpt.Header.deserialize, Wit.Header.serialize, fields,
    Outcome.ok_bind] at h
  rw [required_eq (v := .str (identityHeader algorithm kid).typ) (by simp)] at h
  simp only [deString, Outcome.ok_bind, Outcome.bind_eq_ok_iff] at h
  obtain ⟨alg, _, crit, _, hheader⟩ := h
  rw [← Outcome.ok.inj hheader]
  rfl

/-- A header of a proof that is read as that of an identity token keeps its
type. -/
theorem typ_of_wit_header {algorithm : Algorithm} {header : Wit.Header}
    (h : Wit.Header.deserialize (proofHeader algorithm).serialize
      = .ok header) :
    header.typ = Wpt.TYP := by
  -- The document is that of an identity token of this type without a key id.
  have hread := Wit.Header.deserialize_serialize
    { typ := Wpt.TYP, alg := algorithm.asStr, kid := none, crit := none }
  rw [← Outcome.ok.inj (hread.symm.trans h)]

section Kinds

variable [Base64]

/-- The text of a compact token does not start with a quote. -/
theorem head?_compact (hquote : Base64.URL_SAFE_NO_PAD.Rejects '"')
    {header claims : Str} {b : Bytes}
    (h : Base64.URL_SAFE_NO_PAD.decode header = some b) :
    (header ++ '.' :: claims).head? ≠ some '"' := by
  cases header with
  | nil => simp
  | cons c header =>
    intro hhead
    obtain rfl : c = '"' := Option.some.inj hhead
    rw [hquote _ (List.mem_cons_self ..)] at h
    cases h

/-- The first dot parts the header of a compact token from its claims. -/
theorem compact_parts
    (hbase64 : Base64.URL_SAFE_NO_PAD.Lawful Rfc4648.urlSafeAlphabet)
    {header claims : Str} {headerJson claimsJson : Bytes} (hdot : '.' ∉ header)
    (h : header ++ '.' :: claims = Base64.URL_SAFE_NO_PAD.encode headerJson ++
      '.' :: Base64.URL_SAFE_NO_PAD.encode claimsJson) :
    Base64.URL_SAFE_NO_PAD.decode header = some headerJson ∧
      Base64.URL_SAFE_NO_PAD.decode claims = some claimsJson := by
  have hnot : '.' ∉ Base64.URL_SAFE_NO_PAD.encode headerJson :=
    fun hmem => absurd (hbase64.mem_alphabet headerJson _ hmem) (by decide)
  have hsplit := congrArg (Str.splitOnce '.') h
  rw [Str.splitOnce_append_cons hdot, Str.splitOnce_append_cons hnot] at hsplit
  obtain ⟨hheader, hclaims⟩ := Prod.mk.inj (Option.some.inj hsplit)
  rw [hheader, hclaims]
  exact ⟨hbase64.decode_encode headerJson, hbase64.decode_encode claimsJson⟩

/-- A signature base is not the text of a compact token. -/
theorem not_compact_of_base [SerdeJson]
    (hbase64 : Base64.URL_SAFE_NO_PAD.Lawful Rfc4648.urlSafeAlphabet)
    (hquote : Base64.URL_SAFE_NO_PAD.Rejects '"') {M : Type} [ComponentSource M]
    {message : M} {components : List Component} {paramsValue base : Str}
    {header claims : Json}
    (h : signatureBaseFromParamsStr message components paramsValue = .ok base) :
    ¬ CompactText header claims base := by
  rintro ⟨headerJson, claimsJson, _, _, rfl⟩
  exact head?_compact hquote (hbase64.decode_encode headerJson)
    (head?_signatureBase h)

end Kinds

/-- What has a value in a request and in a response is a header field. -/
theorem header_of_both {request : HttpRequest} {exchange : HttpExchange}
    {c : Component} {value : Str}
    (hrequest : ComponentSource.componentValue request c = .ok value)
    (hresponse : ComponentSource.componentValue exchange c = .ok value) :
    ∃ name, c = .header name ∧
      headerValue exchange.response.headers name
        = headerValue request.headers name := by
  cases c with
  | header name => exact ⟨name, rfl, hresponse.trans hrequest.symm⟩
  | status => cases hrequest
  | req inner => cases hrequest
  | _ => cases hresponse

/-! ## The use of a text -/

/-- The use is over these components and parameters, and both its message and
this one have a value for each component, which is the same. -/
def Use.Shows {M : Type} [ComponentSource M] (message : M)
    (components : List Component) (params : SignatureParams) : Use → Prop
  | .request sent covered signed => covered = components ∧ signed = params ∧
      ∀ c ∈ covered, ∃ value, sent.componentValue c = .ok value ∧
        ComponentSource.componentValue message c = .ok value
  | .response sent covered signed => covered = components ∧ signed = params ∧
      ∀ c ∈ covered, ∃ value, sent.componentValue c = .ok value ∧
        ComponentSource.componentValue message c = .ok value
  | _ => False

section Shows

variable {use : Use} {components : List Component} {params : SignatureParams}

theorem Use.Shows.agrees_request {message : HttpRequest}
    (h : use.Shows message components params) :
    use.Agrees (.request message components params) := by
  cases use with
  | request sent covered signed =>
    obtain ⟨rfl, rfl, hvalues⟩ := h
    exact ⟨rfl, rfl, sameValues_of_both hvalues⟩
  | response sent covered signed =>
    obtain ⟨rfl, rfl, hvalues⟩ := h
    refine ⟨rfl, rfl, fun c hc => ?_⟩
    obtain ⟨value, hsent, hmessage⟩ := hvalues c hc
    exact header_of_both hmessage hsent
  | _ => exact absurd h id

theorem Use.Shows.agrees_response {message : HttpExchange}
    (h : use.Shows message components params) :
    use.Agrees (.response message components params) := by
  cases use with
  | request sent covered signed =>
    obtain ⟨rfl, rfl, hvalues⟩ := h
    refine ⟨rfl, rfl, fun c hc => ?_⟩
    obtain ⟨value, hsent, hmessage⟩ := hvalues c hc
    obtain ⟨name, hname, hvalue⟩ := header_of_both hsent hmessage
    exact ⟨name, hname, hvalue.symm⟩
  | response sent covered signed =>
    obtain ⟨rfl, rfl, hvalues⟩ := h
    exact ⟨rfl, rfl, sameValues_of_both hvalues⟩
  | _ => exact absurd h id

end Shows

section OfText

variable [Base64] [SerdeJson]
  (hbase64 : Base64.URL_SAFE_NO_PAD.Lawful Rfc4648.urlSafeAlphabet)
  (hquote : Base64.URL_SAFE_NO_PAD.Rejects '"')

include hbase64 hquote

/-- A use whose text is the base of a message is over what was read from the
message. -/
theorem shows_of_base {M : Type} [ComponentSource M] {message : M}
    {label rest base : Str} {member : InputMember}
    (hparse : parseInputMember label rest = .ok member)
    (hbase : signatureBaseFromParamsStr message member.components
      member.paramsValue = .ok base) {use : Use} {algorithm : Algorithm}
    (hnamed : use.WellNamed) (htext : use.HasText algorithm base) :
    use.Shows message member.components member.params := by
  cases use with
  | identity claims kid =>
    exact absurd htext (not_compact_of_base hbase64 hquote hbase)
  | proof claims =>
    exact absurd htext (not_compact_of_base hbase64 hquote hbase)
  | request sent components params =>
    obtain ⟨rfl, rfl, hvalues⟩ :=
      member_of_signatureBase hnamed hparse hbase htext
    exact ⟨rfl, rfl, hvalues⟩
  | response sent components params =>
    obtain ⟨rfl, rfl, hvalues⟩ :=
      member_of_signatureBase hnamed hparse hbase htext
    exact ⟨rfl, rfl, hvalues⟩

section Compact

variable {header claims : Str} {headerJson claimsJson : Bytes}
  (hdot : '.' ∉ header)
  (hheader : Base64.URL_SAFE_NO_PAD.decode header = some headerJson)
  (hclaims : Base64.URL_SAFE_NO_PAD.decode claims = some claimsJson)

include hdot hheader hclaims

/-- A use with the text of a compact token has the header and the claims that
are decoded from it, and is an identity token or a proof. -/
theorem use_of_compact {use : Use} {algorithm : Algorithm}
    (htext : use.HasText algorithm (header ++ '.' :: claims)) :
    (∃ signed kid, use = .identity signed kid ∧
        toVec (identityHeader algorithm kid).serialize = .ok headerJson ∧
        toVec signed.serialize = .ok claimsJson) ∨
      ∃ signed, use = .proof signed ∧
        toVec (proofHeader algorithm).serialize = .ok headerJson ∧
        toVec signed.serialize = .ok claimsJson := by
  have hparts : ∀ {headerDoc claimsDoc : Json},
      CompactText headerDoc claimsDoc (header ++ '.' :: claims) →
      toVec headerDoc = .ok headerJson ∧ toVec claimsDoc = .ok claimsJson := by
    rintro headerDoc claimsDoc
      ⟨headerJson', claimsJson', hheaderDoc, hclaimsDoc, heq⟩
    obtain ⟨hheader', hclaims'⟩ := compact_parts hbase64 hdot heq
    obtain rfl := Option.some.inj (hheader.symm.trans hheader')
    obtain rfl := Option.some.inj (hclaims.symm.trans hclaims')
    exact ⟨hheaderDoc, hclaimsDoc⟩
  cases use with
  | identity signed kid => exact Or.inl ⟨signed, kid, rfl, hparts htext⟩
  | proof signed => exact Or.inr ⟨signed, rfl, hparts htext⟩
  | request message components params =>
    exact absurd (head?_signatureBase htext) (head?_compact hquote hheader)
  | response message components params =>
    exact absurd (head?_signatureBase htext) (head?_compact hquote hheader)

variable [SerdeJson.Lawful] {use : Use} {algorithm : Algorithm}
  (htext : use.HasText algorithm (header ++ '.' :: claims))

include htext

/-- A use whose text reads as an identity token is this token. -/
theorem identity_of_text {read : Wit.Header} {witClaims : Wit.WitClaims}
    (hread : fromSlice Wit.Header.deserialize headerJson = .ok read)
    (htyp : read.typ = Wit.TYP)
    (hwit : fromSlice Wit.WitClaims.deserialize claimsJson = .ok witClaims) :
    use = .identity witClaims read.kid := by
  rcases use_of_compact hbase64 hquote hdot hheader hclaims htext with
    ⟨signed, kid, rfl, hheaderDoc, hclaimsDoc⟩ | ⟨_, _, hheaderDoc, _⟩
  · rw [fromSlice_toVec hheaderDoc, Wit.Header.deserialize_serialize] at hread
    rw [fromSlice_toVec hclaimsDoc, Wit.WitClaims.deserialize_serialize] at hwit
    rw [Outcome.ok.inj hwit, ← Outcome.ok.inj hread]
    rfl
  · rw [fromSlice_toVec hheaderDoc] at hread
    have hwrong := (typ_of_wit_header hread).symm.trans htyp
    exact absurd hwrong (by decide)

/-- A use whose text reads as a proof is this proof. -/
theorem proof_of_text {read : Wpt.Header} {wptClaims : Wpt.WptClaims}
    (hread : fromSlice Wpt.Header.deserialize headerJson = .ok read)
    (htyp : read.typ = Wpt.TYP)
    (hwpt : fromSlice Wpt.WptClaims.deserialize claimsJson = .ok wptClaims) :
    use = .proof wptClaims := by
  rcases use_of_compact hbase64 hquote hdot hheader hclaims htext with
    ⟨_, _, _, hheaderDoc, _⟩ | ⟨signed, rfl, _, hclaimsDoc⟩
  · rw [fromSlice_toVec hheaderDoc] at hread
    have hwrong := (typ_of_wpt_header hread).symm.trans htyp
    exact absurd hwrong (by decide)
  · rw [fromSlice_toVec hclaimsDoc, Wpt.WptClaims.deserialize_serialize] at hwpt
    rw [Outcome.ok.inj hwpt]

end Compact

end OfText

/-! ## What the verifiers read from a text -/

section Read

variable [Base64] [SerdeJson] [Ed25519] [P256]

/-- The compact token carries a signature of this text by the key. -/
def TokenSigns (decode : Str → Option Bytes) (token : Str) (key : VerifyingKey)
    (text : Str) : Prop :=
  ∃ header claims signature bytes,
    token.splitOn '.' = [header, claims, signature] ∧
    decode signature = some bytes ∧ text = header ++ '.' :: claims ∧
    key.verify (Str.asBytes text) bytes = .ok ()

/-- The fields of the message carry a signature of this text by the key. -/
def MessageSigns {M : Type} [ComponentSource M] (message : M)
    (signatureInput signature : Str) (key : VerifyingKey)
    (config : VerifyConfig) (text : Str) : Prop :=
  ∃ member sigBytes, selectMember signatureInput config = .ok member ∧
    parseSignature signature member.label = .ok sigBytes ∧
    signatureBaseFromParamsStr message member.components member.paramsValue
    = .ok text ∧
    key.verify (Str.asBytes text) sigBytes.toList = .ok ()

/-- The text of a token with a valid signature has been signed for the one use
that can be read from its parts. -/
theorem exists_tokenSigns {decode : Str → Option Bytes} {token : Str}
    {key : VerifyingKey} {header claims signature : Str} {bytes : Bytes}
    {read : Use} (hparts : token.splitOn '.' = [header, claims, signature])
    (hbytes : decode signature = some bytes)
    (hverify : key.verify (Str.asBytes (header ++ '.' :: claims)) bytes
      = .ok ())
    (hread : '.' ∉ header → ∀ (use : Use) algorithm,
      use.HasText algorithm (header ++ '.' :: claims) → use = read) :
    ∃ text, TokenSigns decode token key text ∧
      ∀ (use : Use) algorithm, use.HasText algorithm text → use = read := by
  have hdot : '.' ∉ header :=
    Str.not_mem_of_mem_splitOn (by rw [hparts]; simp)
  exact ⟨header ++ '.' :: claims,
    ⟨header, claims, signature, bytes, hparts, hbytes, rfl, hverify⟩,
    hread hdot⟩

variable (hbase64 : Base64.URL_SAFE_NO_PAD.Lawful Rfc4648.urlSafeAlphabet)
  (hquote : Base64.URL_SAFE_NO_PAD.Rejects '"')

include hbase64 hquote

/-- A text that is accepted as that of an identity token has been signed for
one, with the claims and the key id that are read from it. -/
theorem identity_of_authenticate [SerdeJson.Lawful] {token : Str}
    {key : VerifyingKey} {claims : Wit.WitClaims} {kid : Option Str}
    (h : Wit.authenticate token key = .ok (claims, kid)) :
    ∃ text, TokenSigns Base64.URL_SAFE_NO_PAD.decode token key text ∧
      ∀ (use : Use) algorithm, use.HasText algorithm text →
        use = .identity claims kid := by
  obtain ⟨_, _, h⟩ := Outcome.bind_eq_ok_iff.1 h
  split at h
  · rename_i header claimsB64 signature hparts
    simp only [Outcome.bind_eq_ok_iff, Outcome.okOr_eq_ok_iff,
      Outcome.mapErr_eq_ok_iff, Outcome.failIf_eq_ok_iff,
      bne_eq_false_iff_eq] at h
    obtain ⟨headerJson, hheader, read, hread, _, htyp, _, _, _, _, _, _, bytes,
      hbytes, _, _, _, hverify, claimsJson, hclaims, _, hwit, hresult⟩ := h
    obtain ⟨rfl, rfl⟩ := Prod.mk.inj (Outcome.ok.inj hresult)
    exact exists_tokenSigns hparts hbytes hverify fun hdot _ _ htext =>
      identity_of_text hbase64 hquote hdot hheader hclaims htext hread htyp hwit
  · cases h

/-- A text that is accepted as that of a proof has been signed for one, with the
claims that are read from it. -/
theorem proof_of_authenticate [SerdeJson.Lawful] {proof : Str}
    {key : VerifyingKey} {claims : Wpt.WptClaims}
    (h : Wpt.authenticate proof key = .ok claims) :
    ∃ text,
      TokenSigns (Base64.URL_SAFE_NO_PAD.decodeSlice · Wpt.SIGNATURE_BUF_LEN)
        proof key text ∧
      ∀ (use : Use) algorithm, use.HasText algorithm text →
        use = .proof claims := by
  obtain ⟨_, _, h⟩ := Outcome.bind_eq_ok_iff.1 h
  split at h
  · rename_i header claimsB64 signature hparts
    simp only [Outcome.bind_eq_ok_iff, Outcome.okOr_eq_ok_iff,
      Outcome.mapErr_eq_ok_iff, Outcome.failIf_eq_ok_iff,
      bne_eq_false_iff_eq] at h
    obtain ⟨headerJson, hheader, read, hread, _, htyp, _, _, _, _, _, _, bytes,
      hbytes, _, _, _, hverify, claimsJson, hclaims, hwpt⟩ := h
    exact exists_tokenSigns hparts hbytes hverify fun hdot _ _ htext =>
      proof_of_text hbase64 hquote hdot hheader hclaims htext hread htyp hwpt
  · cases h

/-- A text that is accepted as the base of a message has been signed for a use
over what is read from the message. -/
theorem message_of_authentic {M : Type} [ComponentSource M] {message : M}
    {signatureInput signature : Str} {key : VerifyingKey}
    {config : VerifyConfig} {member : InputMember}
    (h : Authentic message signatureInput signature key config member) :
    ∃ text, MessageSigns message signatureInput signature key config text ∧
      ∀ (use : Use) algorithm, use.WellNamed → use.HasText algorithm text →
        use.Shows message member.components member.params := by
  obtain ⟨sigBytes, base, hsig, hbase, hverify⟩ := h.signed
  obtain ⟨_, _, _, _, hparse⟩ := exists_of_selectMember h.selected
  exact ⟨base, ⟨member, sigBytes, h.selected, hsig, hbase, hverify⟩,
    fun use algorithm =>
    shows_of_base hbase64 hquote hparse hbase⟩

end Read

/-! ## One text, one purpose -/

/-- A text that a key signs for two uses says the same in both.  So the
signature that was made for an identity token, a proof, a request or a response
is worth nothing as one of another kind, unless a request and a response share
the header fields that are covered. -/
theorem one_purpose [Base64] [SerdeJson] [SerdeJson.Lawful]
    (hbase64 : Base64.URL_SAFE_NO_PAD.Lawful Rfc4648.urlSafeAlphabet)
    (hquote : Base64.URL_SAFE_NO_PAD.Rejects '"') {use use' : Use}
    {algorithm algorithm' : Algorithm} {text : Str} (hnamed : use.WellNamed)
    (hnamed' : use'.WellNamed) (h : use.HasText algorithm text)
    (h' : use'.HasText algorithm' text) : use.Agrees use' := by
  have hparse : ∀ {components : List Component} {params : SignatureParams},
      (∀ c ∈ components, c.WellNamed) →
        parseInputMember [] (serializeParamsValue components params)
        = .ok { label := [], components := components, params := params,
                paramsValue := serializeParamsValue components params } :=
    fun hnamed =>
      parseInputMember_serialize [] hnamed (trim_serializeParamsValue _ _)
  have hdot : ∀ b, '.' ∉ Base64.URL_SAFE_NO_PAD.encode b :=
    fun b hmem => absurd (hbase64.mem_alphabet b _ hmem) (by decide)
  -- The first use is read from the text of the second one.
  cases use' with
  | identity claims kid =>
    obtain ⟨headerJson, claimsJson, hheader, hclaims, rfl⟩ := h'
    have hread :=
      (fromSlice_toVec hheader).trans (Wit.Header.deserialize_serialize _)
    have hwit :=
      (fromSlice_toVec hclaims).trans (Wit.WitClaims.deserialize_serialize _)
    obtain rfl :=
      identity_of_text hbase64 hquote (hdot _) (hbase64.decode_encode _)
      (hbase64.decode_encode _) h hread rfl hwit
    exact ⟨rfl, rfl⟩
  | proof claims =>
    obtain ⟨headerJson, claimsJson, hheader, hclaims, rfl⟩ := h'
    have hread :=
      (fromSlice_toVec hheader).trans (Wpt.Header.deserialize_serialize _)
    have hwpt :=
      (fromSlice_toVec hclaims).trans (Wpt.WptClaims.deserialize_serialize _)
    obtain rfl :=
      proof_of_text hbase64 hquote (hdot _) (hbase64.decode_encode _)
      (hbase64.decode_encode _) h hread rfl hwpt
    rfl
  | request message components params =>
    exact (shows_of_base hbase64 hquote (hparse hnamed') h' hnamed
      h).agrees_request
  | response message components params =>
    exact (shows_of_base hbase64 hquote (hparse hnamed') h' hnamed
      h).agrees_response

namespace Example

open scoped Rfc4648

noncomputable local instance : SerdeJson := SerdeJson.ofTable []

local instance : SerdeJson.Lawful := SerdeJson.ofTable_lawful (by simp)

theorem signatureBase_forwarded :
    signatureBase HttpSig.Example.forwarded
      (requestComponents HttpSig.Example.request)
      HttpSig.Example.params = .ok HttpSig.Example.base := by
  decide +kernel

/-- The request and the same request behind a proxy have one base, so that they
agree. -/
theorem one_purpose_example :
    (Use.request HttpSig.Example.request
      (requestComponents HttpSig.Example.request)
      HttpSig.Example.params).Agrees
      (.request HttpSig.Example.forwarded
        (requestComponents HttpSig.Example.request)
        HttpSig.Example.params) := by
  have hsent :
      (Use.request HttpSig.Example.request
        (requestComponents HttpSig.Example.request)
      HttpSig.Example.params).HasText .edDsa HttpSig.Example.base :=
    HttpSig.Example.signatureBase_request
  have hforwarded : (Use.request HttpSig.Example.forwarded
      (requestComponents HttpSig.Example.request)
      HttpSig.Example.params).HasText .edDsa HttpSig.Example.base :=
    signatureBase_forwarded
  exact one_purpose Rfc4648.urlSafe_lawful
    (Rfc4648.engine_rejects (by decide) (by decide))
      (wellNamed_requestComponents _)
    (wellNamed_requestComponents _) hsent hforwarded

end Example

end Wimsey.Protocol
