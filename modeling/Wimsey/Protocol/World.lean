import Wimsey.Issuance.Contract
import Wimsey.Protocol.Use
import Wimsey.System.History

/-!
# Runs of the protocol

The parties are issuers, workloads that hold confirmation keys, and recipients.
Issuers and workloads sign with the code, recipients accept with the code, and
whatever stands between them decides what arrives where and when: every order of
these events is a run.

An honest key is one whose owner does nothing with it but `permits`, and names
header fields in lower case where it signs a message.  The assumption about the
signature schemes is `Unforged`: what arrives with a valid signature by an
honest key has been signed by the owner before.  It speaks of texts, not of what
they mean.

`agreement` is the result: every run is a run of a system without signatures,
where a recipient looks at what the owners of the keys have signed (`Ideal`).
What it accepts under an honest issuer was issued before with the same claims,
and what it accepts under an honest confirmation key was signed before: a proof
as this proof, and a message as one with the same covered values.  It is a
message of the same kind, unless the signature covers header fields only:
nothing in such a base tells a request from a response (`Use.Agrees`).
-/

namespace Wimsey.Protocol

open Wimsey.RustStd Wimsey.Codec Wimsey.Serde Wimsey.Jose Wimsey.HttpSig
  Wimsey.System

section World

variable [Base64] [SerdeJson] [Wpt.Sha2] [Ed25519] [P256]

/-! ## Events -/

/-- What a recipient has accepted under a confirmation key. -/
inductive Presented (popKey : VerifyingKey) where
  | proof (wpt : Str) (validation : Wpt.Validation) (verified : Wpt.VerifiedWpt)
      (accepted : Wpt.verify wpt popKey validation = .ok verified)
  | request (message : HttpRequest) (signatureInput signature : Str)
      (config : VerifyConfig) (verified : VerifiedSignature)
      (accepted : HttpSig.verify message signatureInput signature popKey config
        = .ok verified)
  | response (message : HttpExchange) (signatureInput signature : Str)
      (config : VerifyConfig) (verified : VerifiedSignature)
      (accepted : HttpSig.verify message signatureInput signature popKey config
        = .ok verified)

/-- What a recipient has accepted: an identity token, and what came with it
under the key that the token names.  A recipient is known by its own
confirmation key. -/
structure Acceptance where
  recipient : VerifyingKey
  issuerKey : VerifyingKey
  token : Str
  validation : Wit.Validation
  identity : Wit.VerifiedWit
  accepted : Wit.verify token issuerKey validation = .ok identity
  presented : Presented identity.popKey

/-- What happens in a run. -/
inductive Event where
  | signed (key : VerifyingKey) (use : Use)
  | accepted (acceptance : Acceptance)

/-- The events of a run, in their order. -/
abbrev History := List Event

/-- The code signs for this use with the key. -/
def Use.Made (key : SigningKey) : Use → Prop
  | .identity claims kid => ∃ token, Wit.issue claims kid key = .ok token
  | .proof claims => ∃ proof, Wpt.issue claims key = .ok proof
  | .request message components params =>
      ∃ label signed, sign message components params label key = .ok signed
  | .response message components params =>
      ∃ label signed, sign message components params label key = .ok signed

omit [Wpt.Sha2] in
/-- The code signs for a use exactly when the use has a text, which is what it
signs. -/
theorem Use.made_iff {key : SigningKey} {use : Use} :
    use.Made key ↔ ∃ text, use.HasText key.algorithm text := by
  cases use with
  | identity claims kid =>
    simp only [Made, wit_issue_iff]
    exact ⟨fun ⟨_, text, h, _⟩ => ⟨text, h⟩, fun ⟨text, h⟩ => ⟨_, text, h, rfl⟩⟩
  | proof claims =>
    simp only [Made, wpt_issue_iff]
    exact ⟨fun ⟨_, text, h, _⟩ => ⟨text, h⟩, fun ⟨text, h⟩ => ⟨_, text, h, rfl⟩⟩
  | request message components params =>
    simp only [Made, HasText, sign_eq_ok_iff]
    exact ⟨fun ⟨_, _, text, h, _⟩ => ⟨text, h⟩,
      fun ⟨text, h⟩ => ⟨[], _, text, h, rfl⟩⟩
  | response message components params =>
    simp only [Made, HasText, sign_eq_ok_iff]
    exact ⟨fun ⟨_, _, text, h, _⟩ => ⟨text, h⟩,
      fun ⟨text, h⟩ => ⟨[], _, text, h, rfl⟩⟩

/-! ## Rules -/

/-- The owner of the key has signed the text. -/
def Signed (history : History) (key : VerifyingKey) (text : Str) : Prop :=
  ∃ use, .signed key use ∈ history ∧ use.HasText key.algorithm text

/-- What was presented carries a signature of this text by the confirmation
key. -/
def Presented.Signs {popKey : VerifyingKey} (text : Str) :
    Presented popKey → Prop
  | .proof wpt _ _ _ =>
      TokenSigns (Base64.URL_SAFE_NO_PAD.decodeSlice · Wpt.SIGNATURE_BUF_LEN)
        wpt popKey text
  | .request message signatureInput signature config _ _ =>
      MessageSigns message signatureInput signature popKey config text
  | .response message signatureInput signature config _ _ =>
      MessageSigns message signatureInput signature popKey config text

/-- The valid signatures by honest keys are over texts that their owners have
signed. -/
structure Acceptance.Unforged (honest : VerifyingKey → Prop) (history : History)
    (a : Acceptance) : Prop where
  identity : honest a.issuerKey → ∀ text,
    TokenSigns Base64.URL_SAFE_NO_PAD.decode a.token a.issuerKey text →
      Signed history a.issuerKey text
  presented : honest a.identity.popKey → ∀ text, a.presented.Signs text →
    Signed history a.identity.popKey text

/-- What may happen after a history.  The owners of honest keys sign what they
are permitted to, with header fields in lower case, and forgeries do not
arrive. -/
def Legal (honest : VerifyingKey → Prop)
    (permits : History → VerifyingKey → Use → Prop) (history : History) :
    Event → Prop
  | .signed key use =>
      (∃ signer : SigningKey, signer.verifyingKey = key ∧ use.Made signer) ∧
        (honest key → use.WellNamed ∧ permits history key use)
  | .accepted a => a.Unforged honest history

/-! ## Agreement -/

/-- What was accepted under the confirmation key says the same as the use. -/
def Presented.Says {popKey : VerifyingKey} (use : Use) : Presented popKey → Prop
  | .proof _ _ verified _ => use = .proof verified.claims
  | .request message _ _ _ verified _ =>
      use.Agrees (.request message verified.components verified.params)
  | .response message _ _ _ verified _ =>
      use.Agrees (.response message verified.components verified.params)

/-- The owner of the key has signed for the use, as permitted at that time. -/
def SignedFor (permits : History → VerifyingKey → Use → Prop)
    (history : History) (key : VerifyingKey) (use : Use) : Prop :=
  ∃ earlier, Occurs earlier (.signed key use) history ∧ permits earlier key use

/-- What was accepted has been signed before, as what it was accepted for. -/
structure Acceptance.Justified (honest : VerifyingKey → Prop)
    (permits : History → VerifyingKey → Use → Prop) (history : History)
    (a : Acceptance) : Prop where
  identity : honest a.issuerKey →
    SignedFor permits history a.issuerKey
      (.identity a.identity.claims a.identity.kid)
  presented : honest a.identity.popKey → ∃ use,
    SignedFor permits history a.identity.popKey use ∧ a.presented.Says use

/-- What may happen after a history in a system without signatures.  A use that
is signed has a text, honest owners sign what they are permitted to, and
recipients accept what the owners have signed. -/
def Ideal (honest : VerifyingKey → Prop)
    (permits : History → VerifyingKey → Use → Prop) (history : History) :
    Event → Prop
  | .signed key use =>
      (∃ text, use.HasText key.algorithm text) ∧
        (honest key → use.WellNamed ∧ permits history key use)
  | .accepted a => a.Justified honest permits history

variable [SerdeJson.Lawful] {honest : VerifyingKey → Prop}
  {permits : History → VerifyingKey → Use → Prop} {history : History}

omit [SerdeJson.Lawful] in
/-- What an honest key has signed in a run, it was permitted to sign. -/
theorem signedFor_of_mem (hrun : Run (Legal honest permits) history)
    {key : VerifyingKey} {use : Use} (hhonest : honest key)
    (h : .signed key use ∈ history) :
    SignedFor permits history key use ∧ use.WellNamed := by
  obtain ⟨earlier, hoccurs⟩ := exists_occurs_of_mem h
  obtain ⟨_, hpermits⟩ := run_iff.1 hrun earlier _ hoccurs
  obtain ⟨hnamed, hpermitted⟩ := hpermits hhonest
  exact ⟨⟨earlier, hoccurs, hpermitted⟩, hnamed⟩

omit [SerdeJson.Lawful] [Wpt.Sha2] in
/-- An identity token that arrives as it was issued carries a signature of its
own text alone. -/
theorem hasText_of_issue
    (hbase64 : Base64.URL_SAFE_NO_PAD.Lawful Rfc4648.urlSafeAlphabet)
    {claims : Wit.WitClaims} {kid : Option Str} {key : SigningKey}
    {token text : Str} (h : Wit.issue claims kid key = .ok token)
    {decode : Str → Option Bytes} {key' : VerifyingKey}
    (hsigns : TokenSigns decode token key' text) :
    (Use.identity claims kid).HasText key.algorithm text := by
  obtain ⟨_, htext, rfl⟩ := wit_issue_iff.1 h
  obtain ⟨headerJson, claimsJson, _, _, rfl⟩ := id htext
  obtain ⟨header, claimsB64, signature, bytes, hparts, _, rfl, _⟩ := hsigns
  rw [hbase64.splitOn_dots (by decide)] at hparts
  obtain ⟨hheader, hrest⟩ := List.cons.inj hparts
  rw [← hheader, ← (List.cons.inj hrest).1]
  exact htext

omit [SerdeJson] [SerdeJson.Lawful] [Wpt.Sha2] in
/-- A message that arrives as it was signed carries a signature of its own base
alone. -/
theorem hasText_of_sign
    (hbase64 : Base64.STANDARD.Lawful (Rfc4648.standardAlphabet ++ ['=']))
    {M : Type} [ComponentSource M] {message : M} {components : List Component}
    {params : SignatureParams} {label text : Str} {key : SigningKey}
    {signed : SignedSignature} (hcomponents : ∀ c ∈ components, c.WellNamed)
    (hlabel : IsKey label)
    (h : sign message components params label key = .ok signed)
    {key' : VerifyingKey} {config : VerifyConfig}
    (hsigns : MessageSigns message signed.signatureInput signed.signature key'
      config text) :
    signatureBase message components params = .ok text := by
  obtain ⟨hsplit, _⟩ :=
    read_sign hbase64 (fun c hc => (hcomponents c hc).tokenNamed) hlabel h
  have hparse := parseInputMember_serialize label hcomponents
    (trim_serializeParamsValue components params)
  obtain ⟨member, _, hselect, _, hbase, _⟩ := hsigns
  obtain ⟨rfl, _⟩ := (selectMember_of_lone config hsplit hparse).1 hselect
  exact hbase

section Read

variable (hbase64 : Base64.URL_SAFE_NO_PAD.Lawful Rfc4648.urlSafeAlphabet)
  (hquote : Base64.URL_SAFE_NO_PAD.Rejects '"')

include hbase64 hquote

/-- What is accepted under a confirmation key says the same as every use for
which the text may have been signed. -/
theorem Presented.exists_text {popKey : VerifyingKey}
    (presented : Presented popKey) :
    ∃ text, presented.Signs text ∧ ∀ (use : Use) algorithm, use.WellNamed →
      use.HasText algorithm text → presented.Says use := by
  cases presented with
  | proof wpt validation verified accepted =>
    obtain ⟨text, hsigns, huse⟩ :=
      proof_of_authenticate hbase64 hquote (Wpt.verify_eq_ok_iff.1 accepted).1
    exact ⟨text, hsigns, fun use algorithm _ htext => huse use algorithm htext⟩
  | request message signatureInput signature config verified accepted =>
    obtain ⟨member, hauth, _, rfl⟩ := verify_eq_ok_iff.1 accepted
    obtain ⟨text, hsigns, huse⟩ := message_of_authentic hbase64 hquote hauth
    exact ⟨text, hsigns, fun use algorithm hnamed htext =>
      (huse use algorithm hnamed htext).agrees_request⟩
  | response message signatureInput signature config verified accepted =>
    obtain ⟨member, hauth, _, rfl⟩ := verify_eq_ok_iff.1 accepted
    obtain ⟨text, hsigns, huse⟩ := message_of_authentic hbase64 hquote hauth
    exact ⟨text, hsigns, fun use algorithm hnamed htext =>
      (huse use algorithm hnamed htext).agrees_response⟩

/-- A legal acceptance after a run is justified. -/
theorem justified_of_legal (hrun : Run (Legal honest permits) history)
    {a : Acceptance} (h : a.Unforged honest history) :
    a.Justified honest permits history := by
  refine ⟨fun hhonest => ?_, fun hhonest => ?_⟩
  · obtain ⟨text, hsigns, huse⟩ :=
      identity_of_authenticate hbase64 hquote
        (Wit.verify_eq_ok_iff.1 a.accepted).1
    obtain ⟨use, hmem, htext⟩ := h.identity hhonest text hsigns
    obtain rfl := huse use _ htext
    exact (signedFor_of_mem hrun hhonest hmem).1
  · obtain ⟨text, hsigns, huse⟩ := a.presented.exists_text hbase64 hquote
    obtain ⟨use, hmem, htext⟩ := h.presented hhonest text hsigns
    obtain ⟨hsigned, hnamed⟩ := signedFor_of_mem hrun hhonest hmem
    exact ⟨use, hsigned, huse use _ hnamed htext⟩

/-- What is accepted in a run is justified by what had happened before. -/
theorem justified_of_occurs (hrun : Run (Legal honest permits) history)
    {before : History} {a : Acceptance}
    (h : Occurs before (.accepted a) history) :
    a.Justified honest permits before :=
  justified_of_legal hbase64 hquote (run_before hrun h)
    (run_iff.1 hrun before _ h)

/-- Every run is one of the ideal system.  Whatever a recipient accepts was
signed before by the honest owners of the keys: an identity token was issued as
one, with the same claims, a proof was made as one, and a message signature
covers the components and the values that the recipient has found. -/
theorem agreement (hrun : Run (Legal honest permits) history) :
    Run (Ideal honest permits) history := by
  refine hrun.refines fun {history event} hrun hlegal => ?_
  cases event with
  | signed key use =>
    obtain ⟨⟨signer, rfl, hmade⟩, hpermits⟩ := hlegal
    refine ⟨?_, hpermits⟩
    rw [signer.algorithm_verifyingKey]
    exact Use.made_iff.1 hmade
  | accepted a => exact justified_of_legal hbase64 hquote hrun hlegal

end Read

end World

/-! ## A run with an identity and a request -/

namespace Example

/-- The public key of the seed `04 04 ... 04`. -/
def publicKeyOfFours : Vector UInt8 32 :=
  #v[202, 147, 172, 23, 5, 24, 112, 113, 214, 123, 131, 199, 255, 14, 254, 129,
    8, 232, 236, 69, 48, 87, 93, 119, 38, 135, 147, 51, 219, 218, 190, 124]

/-- The signature of the token by the key of that seed. -/
def tokenSignature : Vector UInt8 64 :=
  #v[132, 63, 200, 56, 139, 178, 100, 230, 242, 5, 4, 56, 65, 223, 241, 99, 223,
    83, 216, 174, 35, 99, 219, 13, 41, 36, 146, 146, 23, 217, 211, 225, 205, 97,
    206, 250, 40, 30, 188, 252, 158, 42, 120, 159, 147, 86, 203, 36, 209, 188,
    248, 212, 103, 77, 197, 63, 238, 18, 123, 19, 99, 70, 233, 8]

/-- The issuer and the workload. -/
inductive Owner where
  | issuer
  | workload
deriving DecidableEq

/-- An `ed25519_dalek` with the key pairs of the two seeds and their
signatures. -/
@[reducible] def ed25519 : Ed25519 where
  SigningKey := Owner
  VerifyingKey := Owner
  decEq := inferInstance
  signingKeyFromBytes b :=
    if b = Vector.replicate 32 4 then .issuer else .workload
  signingKeyToBytes
    | .issuer => Vector.replicate 32 4
    | .workload => Vector.replicate 32 1
  verifyingKey owner := owner
  sign := sign
  verifyingKeyFromBytes b :=
    if b = Ed25519.publicKeyOfOnes then some .workload
    else if b = publicKeyOfFours then some .issuer
    else none
  verifyingKeyToBytes
    | .issuer => publicKeyOfFours
    | .workload => Ed25519.publicKeyOfOnes
  verifyStrict owner message signature := signature = sign owner message
where
  sign : Owner → Bytes → Vector UInt8 64
    | .issuer, message =>
        if message = Str.asBytes Issuance.Example.signingInput
          then tokenSignature
        else Vector.replicate 64 0
    | .workload, message =>
        if message = Str.asBytes HttpSig.Example.base
          then HttpSig.Example.signature
        else if message = Str.asBytes HttpSig.Example.responseBase then
          HttpSig.Example.responseSignature
        else Vector.replicate 64 0

open scoped Rfc4648 P256.Keyless

scoped instance : Ed25519 := ed25519

scoped instance : Wpt.Sha2 := Wpt.Sha2.single [] (Vector.replicate 32 0)

noncomputable scoped instance : SerdeJson :=
  SerdeJson.ofTable [(Issuance.Example.claims.serialize,
    Issuance.Example.claimsJson),
    (Issuance.Example.header.serialize, Issuance.Example.headerJson)]

scoped instance : SerdeJson.Lawful :=
  SerdeJson.ofTable_lawful (by decide +kernel)

def issuerKey : SigningKey := .ed25519 .issuer

def popKey : SigningKey := .ed25519 .workload

theorem selfVerifies (owner : Owner) :
    (SigningKey.ed25519 owner).SelfVerifies := by
  intro message
  simp only [SigningKey.verifyingKey, VerifyingKey.verify, SigningKey.sign,
    SIGNATURE_LEN, tryInto_toList, Outcome.okOr_some, Outcome.ok_bind]
  show Outcome.failIf
    (!decide (ed25519.sign owner message = ed25519.sign owner message)) _ = _
  simp

/-- The token of the claims. -/
def token : Str :=
  Issuance.Example.signingInput ++ '.' ::
    Base64.URL_SAFE_NO_PAD.encode
      (issuerKey.sign (Str.asBytes Issuance.Example.signingInput)).toList

theorem issue_token :
    Wit.issue Issuance.Example.claims (some "k".toList) issuerKey
      = .ok token := by
  have hne : Issuance.Example.claims.serialize
      ≠ Issuance.Example.header.serialize := by
    simp [Wit.WitClaims.serialize, Wit.Header.serialize,
      Issuance.Example.claims, Issuance.Example.header, optMember, member]
  have hheader : toVec Issuance.Example.header.serialize
      = .ok Issuance.Example.headerJson :=
    toVec_ofTable
      (p := (Issuance.Example.header.serialize, Issuance.Example.headerJson))
      (by simp [hne]) (by simp)
  have hclaims : toVec Issuance.Example.claims.serialize
      = .ok Issuance.Example.claimsJson :=
    toVec_ofTable
      (p := (Issuance.Example.claims.serialize, Issuance.Example.claimsJson))
      (by simp [hne]) (by simp)
  have hinput : Base64.URL_SAFE_NO_PAD.encode Issuance.Example.headerJson ++
      '.' :: Base64.URL_SAFE_NO_PAD.encode Issuance.Example.claimsJson
        = Issuance.Example.signingInput := by
    unfold Issuance.Example.headerJson Issuance.Example.claimsJson
      Issuance.Example.signingInput
    repeat rw [String.toList_ofList]
    decide +kernel
  exact Wit.issue_of_toVec hheader hclaims hinput

theorem len_token : Str.len token ≤ Wit.MAX_TOKEN_LEN := by
  have hsign : ∀ message, issuerKey.sign message
      = if message = Str.asBytes Issuance.Example.signingInput
        then tokenSignature
        else Vector.replicate 64 0 := fun _ => rfl
  rw [token, hsign, if_pos rfl]
  unfold Issuance.Example.signingInput
  repeat rw [String.toList_ofList]
  decide +kernel

/-- The recipient of the token, at the time of issue. -/
def validation : Wit.Validation := (Wit.Validation.at 100).expectIssuer "i"

def identity : Wit.VerifiedWit :=
  { claims := Issuance.Example.claims
    kid := some "k"
    popKey := popKey.verifyingKey }

theorem verify_token :
    Wit.verify token issuerKey.verifyingKey validation = .ok identity := by
  have hpop : Wit.Example.jwk.toVerifyingKey = .ok popKey.verifyingKey := by
    decide +kernel
  refine Wit.verify_of_issue Rfc4648.urlSafe_lawful (selfVerifies .issuer)
    issue_token len_token ?_
  exact
    { exp := by decide
      iat iat hiat := by
        obtain rfl := Option.some.inj hiat
        decide
      iss _ hiss := hiss
      cnf := hpop }

/-- The signed request. -/
def signedRequest : SignedSignature :=
  { signatureInput := "wimse".toList ++ '=' ::
      serializeParamsValue (requestComponents HttpSig.Example.request)
        HttpSig.Example.params
    signature := "wimse".toList ++ '=' ::
      signatureText (popKey.sign (Str.asBytes HttpSig.Example.base)) }

theorem sign_request :
    sign HttpSig.Example.request (requestComponents HttpSig.Example.request)
    HttpSig.Example.params "wimse" popKey = .ok signedRequest :=
  sign_eq_ok_iff.2 ⟨_, HttpSig.Example.signatureBase_request, rfl⟩

/-- The acceptance of the request, under the key of the token. -/
def acceptedRequest : Acceptance where
  recipient := popKey.verifyingKey
  issuerKey := issuerKey.verifyingKey
  token := token
  validation := validation
  identity := identity
  accepted := verify_token
  presented := .request HttpSig.Example.request signedRequest.signatureInput
    signedRequest.signature HttpSig.Example.config _
    (verify_of_allows Rfc4648.standard_lawful (wellNamed_requestComponents _)
      HttpSig.Example.isKey sign_request (fun _ _ => selfVerifies .workload _)
      (HttpSig.Example.allows _))

def identityUse : Use := .identity Issuance.Example.claims (some "k")

def requestUse : Use :=
  .request HttpSig.Example.request (requestComponents HttpSig.Example.request)
    HttpSig.Example.params

/-- The issuer and the workload have signed, so that nothing was forged. -/
theorem unforged_request {honest : VerifyingKey → Prop} {history : History}
    (hidentity : .signed issuerKey.verifyingKey identityUse ∈ history)
    (hrequest : .signed popKey.verifyingKey requestUse ∈ history) :
    acceptedRequest.Unforged honest history where
  identity _ _ hsigns :=
    ⟨identityUse, hidentity,
      hasText_of_issue Rfc4648.urlSafe_lawful issue_token hsigns⟩
  presented _ _ hsigns :=
    ⟨requestUse, hrequest,
      hasText_of_sign Rfc4648.standard_lawful (wellNamed_requestComponents _)
      HttpSig.Example.isKey sign_request hsigns⟩

theorem legal_identity {honest : VerifyingKey → Prop}
    {permits : History → VerifyingKey → Use → Prop} {history : History}
    (h : permits history issuerKey.verifyingKey identityUse) :
    Legal honest permits history (.signed issuerKey.verifyingKey identityUse) :=
  ⟨⟨issuerKey, rfl, token, issue_token⟩, fun _ => ⟨trivial, h⟩⟩

theorem legal_request {honest : VerifyingKey → Prop}
    {permits : History → VerifyingKey → Use → Prop} {history : History}
    (h : permits history popKey.verifyingKey requestUse) :
    Legal honest permits history (.signed popKey.verifyingKey requestUse) :=
  ⟨⟨popKey, rfl, "wimse", signedRequest, sign_request⟩,
    fun _ => ⟨wellNamed_requestComponents _, h⟩⟩

/-- The token and the request have been signed. -/
def history : History :=
  [.signed issuerKey.verifyingKey identityUse,
    .signed popKey.verifyingKey requestUse]

theorem run_history {honest : VerifyingKey → Prop}
    {permits : History → VerifyingKey → Use → Prop}
    (hidentity : permits [] issuerKey.verifyingKey identityUse)
    (hrequest : permits [.signed issuerKey.verifyingKey identityUse]
      popKey.verifyingKey requestUse) :
    Run (Legal honest permits) (history ++ [.accepted acceptedRequest]) := by
  have hfirst :
      Run (Legal honest permits) [.signed issuerKey.verifyingKey identityUse] :=
    .single (.mk [] (legal_identity hidentity))
  have hboth : Run (Legal honest permits) history :=
    hfirst.tail (.mk _ (legal_request hrequest))
  have hunforged : acceptedRequest.Unforged honest history :=
    unforged_request (List.mem_cons_self ..)
      (List.mem_cons_of_mem _ (List.mem_cons_self ..))
  exact hboth.tail (.mk history hunforged)

/-- The run with the request is one of the ideal system, also where every owner
signs whatever it wants to. -/
theorem agreement_example :
    Run (Ideal (fun _ => True) (fun _ _ _ => True))
      (history ++ [.accepted acceptedRequest]) :=
  agreement Rfc4648.urlSafe_lawful
    (Rfc4648.engine_rejects (by decide) (by decide))
    (run_history trivial trivial)

end Example

end Wimsey.Protocol
