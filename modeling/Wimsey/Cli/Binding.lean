import Wimsey.Cli.Sign

/-!
# What a verified request binds

A run of `wimsey httpsig verify` reads a token, headers, a body and a signature,
each from its own argument.  The token decides the key, and it also has to be
what the headers derive for it; the body has to be what the digest among the
headers names; and both headers are under the signature, along with everything
else that a request has to cover.

`verified_request_bound` says so for every run that succeeds.
-/

namespace Wimsey.Cli

open Wimsey.RustStd Wimsey.Codec Wimsey.Serde Wimsey.Jose Wimsey.HttpSig

/-! ## Fields -/

theorem hasField_iff {headers : List (Str × Str)} {name : Str} :
    hasField headers name = true ↔ fieldValues headers name ≠ [] := by
  rw [hasField, fieldValues, ne_eq, List.map_eq_nil_iff, List.filter_eq_nil_iff,
    List.any_eq_true]
  push Not
  rfl

theorem eqIgnoreAsciiCase_lower (s name : Str) :
    Str.eqIgnoreAsciiCase s (Str.toAsciiLowercase name)
      = Str.eqIgnoreAsciiCase s name := by
  rw [Str.eqIgnoreAsciiCase, Str.eqIgnoreAsciiCase, toAsciiLowercase_idem]

/-- The value of a header component comes from the fields of its name. -/
theorem componentValue_ofHeader_eq_ok_iff {request : HttpRequest}
    {name value : Str} :
    request.componentValue (.ofHeader name) = .ok value ↔
      fieldValues request.headers name ≠ [] ∧
        ", ".toList.intercalate (fieldValues request.headers name) = value := by
  have hvalues : fieldValues request.headers (Str.toAsciiLowercase name)
      = fieldValues request.headers name := by
    simp only [fieldValues, eqIgnoreAsciiCase_lower]
  show headerValue request.headers (Str.toAsciiLowercase name) = .ok value ↔ _
  rw [headerValue, hvalues]
  cases fieldValues request.headers name <;> simp

/-- A joined value without a comma is that of one field. -/
theorem eq_singleton_of_intercalate {values : List Str} {value : Str}
    (hne : values ≠ []) (h : ", ".toList.intercalate values = value)
    (hcomma : ',' ∉ value) : values = [value] := by
  cases values with
  | nil => exact absurd rfl hne
  | cons v rest =>
    cases rest with
    | nil =>
      rw [List.intercalate_singleton] at h
      rw [h]
    | cons w rest =>
      rw [← h, List.intercalate_cons_cons] at hcomma
      simp at hcomma

/-- The components that a request signature covers when the request has them. -/
theorem ofHeader_mem_requestComponents {request : HttpRequest} {name : Str}
    (hname : name ∈ requestFields) (h : hasField request.headers name = true) :
    .ofHeader name ∈ requestComponents request :=
  List.mem_append_right _ (List.mem_map_of_mem (List.mem_filter.2 ⟨hname, h⟩))

/-! ## The token -/

/-- A token that verifies has no character that its parts could not have. -/
theorem not_mem_of_verify [Base64] [SerdeJson] [Ed25519] [P256] {token : Str}
    {key : VerifyingKey} {v : Wit.Validation} {w : Wit.VerifiedWit} {c : Char}
    (hreject : Base64.URL_SAFE_NO_PAD.Rejects c) (hdot : c ≠ '.')
    (h : Wit.verify token key v = .ok w) : c ∉ token := by
  have hauth := (Wit.verify_eq_ok_iff.1 h).1
  unfold Wit.authenticate at hauth
  obtain ⟨_, _, hauth⟩ := Outcome.bind_eq_ok_iff.1 hauth
  split at hauth
  · rename_i headerB64 claimsB64 signatureB64 hparts
    simp only [Outcome.bind_eq_ok_iff, Outcome.okOr_eq_ok_iff] at hauth
    obtain ⟨_, hheader, _, _, _, _, _, _, _, _, _, _, _, hsignature, _, _, _, _,
        _, hclaims, _⟩ :=
      hauth
    have hpart : ∀ {part : Str} {b : Bytes},
        Base64.URL_SAFE_NO_PAD.decode part = some b →
        c ∉ part := by
      intro part b hdecode hmem
      rw [hreject part hmem] at hdecode
      cases hdecode
    have htoken : ['.'].intercalate (token.splitOn '.') = token :=
      List.intercalate_splitOn '.'
    rw [hparts] at htoken
    rw [← htoken]
    simp [List.intercalate, hdot, hpart hheader, hpart hclaims,
      hpart hsignature]
  · cases hauth

/-! ## The run -/

section Run

variable [Base64] [Wpt.Sha2] [Os] [SerdeJson] [Ed25519] [P256]
  {args : VerifyArgs}

namespace Run

theorem headers_eq (run : Run args) : run.request.headers
    = withDigest (withWit run.given (Str.trim args.wit)) run.body :=
  buildRequest_headers run.built

theorem covers (run : Run args) {c : Component}
    (h : c ∈ requestComponents run.request) :
    c ∈ run.verified.components := by
  have hrequired : Component.contains run.required c = true := by
    have hlist := run.isRequired
    rw [requiredComponents_eq] at hlist
    exact componentsOr_covers hlist c h
  obtain ⟨member, hauth, hpolicy, hverified⟩ :=
    HttpSig.verify_eq_ok_iff.1 run.signed
  obtain ⟨_, chosen, _, _, hparse⟩ := exists_of_selectMember hauth.selected
  have hlower : ∀ x ∈ member.components, x.lower = x := by
    intro x hx
    obtain ⟨_, _, hword⟩ := exists_word_of_parseInputMember hparse hx
    exact Component.lower_of_fromQuotedId hword
  rw [hverified]
  exact Component.mem_of_contains hlower
    (wellNamed_requestComponents _ c h).lower_eq
    (Component.contains_trans hpolicy.required hrequired)

theorem exists_aud (run : Run args) :
    ∃ aud ∈ args.aud, run.verified.params.wimseAud = some (Str.trim aud) := by
  obtain ⟨member, _, hpolicy, hverified⟩ :=
    HttpSig.verify_eq_ok_iff.1 run.signed
  obtain ⟨aud, haud, hsigned⟩ := hpolicy.audience (Or.inl rfl)
  obtain ⟨raw, hraw, rfl⟩ := List.mem_map.1 haud
  exact ⟨raw, hraw, by rw [hverified, hsigned]⟩

theorem exists_body (run : Run args) {path : Str}
    (h : args.bodyFile = some path) :
    ∃ body, Os.read path = some body ∧
      run.request.componentValue (.ofHeader DIGEST_HEADER)
        = .ok (contentDigestSha256 body) := by
  have hread := run.bodyRead
  simp only [VerifyArgs.readBody, h] at hread
  cases hfile : Os.read path with
  | none =>
    rw [hfile] at hread
    cases hread
  | some body =>
    rw [hfile] at hread
    have hchecked := run.bodyChecked
    rw [← Outcome.ok.inj hread] at hchecked
    exact ⟨body, rfl, checkBody_eq_ok_iff.1 hchecked⟩

end Run

/-- When a run succeeds, the token verifies under the key of the issuer, it is
what the headers of the request derive for it, and no field carries another one;
the signature verifies under the confirmation key of the token, over every
component that a request has to cover, the token among them, and the digest when
there is one; the digest is that of the body; and the audience is one of those
that were given. -/
theorem verified_request_bound {report : Report}
    (h : runVerify args = .ok report) :
    ∃ key issuer wit given request required verified,
      load args.issuerJwk = .ok key ∧ key.verifyingKey = .ok issuer ∧
      Wit.verify (Str.trim args.wit) issuer (args.witValidation args.time)
        = .ok wit ∧
      args.header.mapM parseHeader = .ok given ∧ given <+: request.headers ∧
      buildRequest args.method args.authority args.path args.query
        request.headers
        = .ok request ∧
      request.componentValue (.ofHeader WIT_HEADER) = .ok (Str.trim args.wit) ∧
      (Base64.URL_SAFE_NO_PAD.Rejects ',' →
        fieldValues request.headers WIT_HEADER = [Str.trim args.wit]) ∧
      HttpSig.verify request (Str.trim args.signatureInput)
        (Str.trim args.signature) wit.popKey
        (args.verifyConfig args.time required) = .ok verified ∧
      (∀ c ∈ requestComponents request, c ∈ verified.components) ∧
      .ofHeader WIT_HEADER ∈ verified.components ∧
      (hasHeader request.headers DIGEST_HEADER = true ∨
        args.bodyFile.isSome = true →
        .ofHeader DIGEST_HEADER ∈ verified.components) ∧
      (∀ path, args.bodyFile = some path → ∃ body, Os.read path = some body ∧
        request.componentValue (.ofHeader DIGEST_HEADER)
          = .ok (contentDigestSha256 body)) ∧
      (∃ aud ∈ args.aud, verified.params.wimseAud = some (Str.trim aud)) ∧
      report = { sub := wit.claims.sub, label := verified.label } := by
  obtain ⟨run, hreport⟩ := runVerify_eq_ok_iff.1 h
  obtain ⟨hwit, hvalue⟩ := componentValue_ofHeader_eq_ok_iff.1 run.witCovered
  refine ⟨run.key, run.issuer, run.wit, run.given, run.request, run.required,
    run.verified, run.loaded, run.isIssuer, run.witVerified, run.parsed, ?_, ?_,
    run.witCovered, ?_, run.signed,
    fun c => run.covers, ?_, ?_, fun path => run.exists_body, run.exists_aud,
    hreport.symm⟩
  · rw [run.headers_eq]
    exact (prefix_withWit _ _).trans (prefix_withDigest _ _)
  · rw [run.headers_eq]
    exact run.built
  · intro hreject
    exact eq_singleton_of_intercalate hwit hvalue
      (not_mem_of_verify hreject (by decide) run.witVerified)
  · exact run.covers
      (ofHeader_mem_requestComponents (by decide) (hasField_iff.2 hwit))
  · intro hdigest
    refine run.covers (ofHeader_mem_requestComponents (by decide) ?_)
    rcases hdigest with hheader | hbody
    · exact hheader
    · obtain ⟨path, hpath⟩ := Option.isSome_iff_exists.1 hbody
      obtain ⟨body, _, hdigest⟩ := run.exists_body hpath
      exact hasField_iff.2 (componentValue_ofHeader_eq_ok_iff.1 hdigest).1

end Run

/-! ## A request that verifies -/

namespace Example

/-- The token in the request, as it is signed for another example. -/
def token : Str :=
  Wit.Example.signingInput ++
    ".e4-0nqbrhMXLlYCkVAu3xrjkpMlN2UC4ORaEnbbzeNPzD7LD2obApi_Fymsoc7nP9j0D8SDCtZIV_8GPHgdmCA"

/-- The SHA-256 hash of the body. -/
def hash : Vector UInt8 32 :=
  #v[143, 67, 67, 70, 100, 143, 107, 150, 223, 137, 221, 169, 1, 197, 23, 107,
    16, 166, 216, 57, 97, 221, 60, 26, 200, 139, 89, 178, 220, 50, 122, 164]

def paramsValue : Str :=
  ("(\"@method\" \"@path\" \"@query\" \"content-type\" \"content-digest\" " ++
    "\"workload-identity-token\");created=90;expires=110;nonce=\"n\"" ++
    ";tag=\"wimse-workload-to-workload\";wimse-aud=\"https://a.b\"")

def base : Str :=
  ("\"@method\": POST\n\"@path\": /x\n\"@query\": ?\n\"content-type\": text/plain\n" ++
    "\"content-digest\": sha-256=:j0NDRmSPa5bfid2pAcUXaxCm2Dlh3TwayItZstwyeqQ=:\n").toList ++
    "\"workload-identity-token\": ".toList ++ token ++
    "\n\"@signature-params\": ".toList ++ paramsValue

/-- The signature of the base by the key of the seed `01 01 ... 01`. -/
def signature : Vector UInt8 64 :=
  #v[142, 137, 27, 209, 235, 171, 157, 107, 87, 192, 93, 236, 211, 174, 56, 171,
    169, 135, 178, 229, 141, 108, 62, 170, 148, 117, 101, 232, 18, 91, 168, 70,
    203, 22, 151, 101, 103, 95, 59, 108, 194, 87, 95, 106, 240, 25, 234, 251,
    106, 236, 19, 45, 42, 158, 101, 217, 207, 63, 181, 122, 122, 193, 75, 6]

/-- A key file that leaves `alg` out. -/
def keyFile : Json :=
  .object (member "kty" (.str "OKP") ++ member "crv" (.str "Ed25519") ++
    member "x" (.str "iojj3XQJ8ZX9UtstPLpdcspnCb8dlBIb83SIAbQPb1w"))

def keyJson : Bytes :=
  Str.asBytes ("\x7b\"kty\":\"OKP\",\"crv\":\"Ed25519\"," ++
    "\"x\":\"iojj3XQJ8ZX9UtstPLpdcspnCb8dlBIb83SIAbQPb1w\"\x7d")

/-- A request with a body, whose token and digest are not among the headers. -/
def args : VerifyArgs :=
  { issuerJwk := "key.json"
    wit := ' ' :: token
    method := "POST"
    authority := "a.b"
    path := "/x"
    query := none
    header := ["Content-Type: text/plain"]
    bodyFile := some "body.txt"
    signatureInput := "wimse=".toList ++ paramsValue
    signature :=
      ("wimse=:jokb0eurnWtXwF3s0644q6mHsuWNbD6qlHVl6BJbqEbLFpdlZ187bMJXX2rwGer7auw" ++
      "TLSqeZdnPP7V6esFLBg==:")
    aud := [" https://a.b "]
    require := none
    expectedIss := none
    maxAge := some 60
    leeway := 5
    now := some 99 }

/-- The headers of the request. -/
def headers : List (Str × Str) :=
  [("Content-Type", "text/plain"), ("Workload-Identity-Token", token),
    ("Content-Digest",
      "sha-256=:j0NDRmSPa5bfid2pAcUXaxCm2Dlh3TwayItZstwyeqQ=:")]

def request : HttpRequest :=
  { method := "POST"
    authority := "a.b"
    path := "/x"
    query := none
    headers := headers }

def params : SignatureParams :=
  { SignatureParams.default with
    created := some 90
    expires := some 110
    nonce := some "n"
    tag := some WIMSE_TAG
    wimseAud := some "https://a.b" }

open scoped Rfc4648 P256.Keyless

local instance : Ed25519 :=
  Ed25519.signingTwo Wit.Example.signingInput Wit.Example.signature
    base signature

local instance : Wpt.Sha2 := Wpt.Sha2.single "hi" hash

local instance : Os where
  read path :=
    if path = "key.json" then some keyJson
    else if path = "body.txt" then some (Str.asBytes "hi")
    else none
  nowUnix := 0

noncomputable local instance : SerdeJson :=
  SerdeJson.ofTable [(Wit.Example.claims.serialize, Wit.Example.claimsJson),
    (Wit.Example.header.serialize, Wit.Example.headerJson), (keyFile, keyJson)]

local instance : SerdeJson.Lawful :=
  SerdeJson.ofTable_lawful (by decide +kernel)

def key : SigningKey := .ed25519 ()

/-- The file has the key, and the algorithm is filled in. -/
theorem load_key : ∃ jwk, load args.issuerJwk = .ok jwk ∧
    jwk.verifyingKey = .ok key.verifyingKey := by
  have hread : Os.read args.issuerJwk = some keyJson := if_pos rfl
  have hjson : SerdeJson.fromSlice keyJson = some keyFile :=
    fromSlice_ofTable (p := (keyFile, keyJson)) (by decide +kernel) (by simp)
  have hkey : ∃ jwk, JwkKey.deserialize keyFile = .ok jwk ∧
      jwk.verifyingKey = .ok key.verifyingKey :=
    ⟨_, rfl, by decide +kernel⟩
  obtain ⟨jwk, hjwk, hverifying⟩ := hkey
  exact ⟨jwk, load_of_deserialize hread hjson hjwk, hverifying⟩

theorem trim_wit : Str.trim args.wit = token := by
  unfold args token Wit.Example.signingInput
  repeat rw [String.toList_ofList]
  decide +kernel

theorem len_token : Str.len token ≤ Wit.MAX_TOKEN_LEN := by
  unfold token Wit.Example.signingInput
  repeat rw [String.toList_ofList]
  decide +kernel

theorem encode_signature :
    '.' :: Base64.URL_SAFE_NO_PAD.encode Wit.Example.signature.toList =
      ".e4-0nqbrhMXLlYCkVAu3xrjkpMlN2UC4ORaEnbbzeNPzD7LD2obApi_Fymsoc7nP9j0D8SDCtZIV_8GPHgdmCA".toList
    := by
  rw [String.toList_ofList]
  decide

theorem verify_token :
    Wit.verify (Str.trim args.wit) key.verifyingKey
      (args.witValidation args.time)
    = .ok
      { claims := Wit.Example.claims, kid := none, popKey := key.verifyingKey }
        := by
  have hkey : key.SelfVerifies := Ed25519.single_selfVerifies _ _ _
  have hdistinct :
      ([Wit.Example.claims.serialize, Wit.Example.header.serialize, keyFile] :
      List Json).Nodup := by
    simp [Wit.WitClaims.serialize, Wit.Header.serialize, Wit.Example.claims,
      Wit.Example.header, keyFile, optMember, member]
  have hheader : toVec (Wit.issuedHeader none key).serialize
      = .ok Wit.Example.headerJson :=
    toVec_ofTable (p := (Wit.Example.header.serialize, Wit.Example.headerJson))
      hdistinct (by simp)
  have hclaims :
      toVec Wit.Example.claims.serialize = .ok Wit.Example.claimsJson :=
    toVec_ofTable (p := (Wit.Example.claims.serialize, Wit.Example.claimsJson))
      hdistinct (by simp)
  have hsign : (key.sign (Str.asBytes Wit.Example.signingInput)).toList
      = Wit.Example.signature.toList :=
    Ed25519.sign_signingTwo_left _ _ _ _
  have htoken : Wit.Example.signingInput ++ '.' ::
      Base64.URL_SAFE_NO_PAD.encode Wit.Example.signature.toList = token := by
    rw [token, encode_signature]
  have hpop : Wit.Example.jwk.toVerifyingKey = .ok key.verifyingKey := by
    decide +kernel
  have hissue := Wit.issue_of_toVec hheader hclaims Wit.Example.encode_parts
  rw [hsign, htoken] at hissue
  rw [trim_wit]
  apply Wit.verify_of_issue Rfc4648.urlSafe_lawful hkey hissue len_token
  exact
    { exp := by decide
      iat := by simp [Wit.Example.claims]
      iss _ hiss := by cases hiss
      cnf := hpop }

theorem requestComponents_request :
    requestComponents request
      = [.method, .path, .query, .ofHeader "content-type",
      .ofHeader DIGEST_HEADER, .ofHeader WIT_HEADER] := by
  decide

theorem sign_request :
    sign request (requestComponents request) params "wimse" key
    = .ok
      { signatureInput := args.signatureInput
        signature := args.signature } := by
  have hne : base ≠ Wit.Example.signingInput := by
    unfold base Wit.Example.signingInput
    rw [String.toList_append]
    repeat rw [String.toList_ofList]
    decide +kernel
  have hsign : (key.sign (Str.asBytes base)).toList = signature.toList :=
    Ed25519.sign_signingTwo_right _ _ _ _ hne
  have hbase : signatureBase request (requestComponents request) params
      = .ok base := by
    rw [requestComponents_request]
    unfold request headers base token Wit.Example.signingInput paramsValue
    rw [String.toList_append]
    repeat rw [String.toList_ofList]
    decide +kernel
  have hinput : args.signatureInput
      = "wimse=".toList ++
        serializeParamsValue (requestComponents request) params := by
    rw [requestComponents_request]
    unfold args paramsValue
    repeat rw [String.toList_ofList]
    decide +kernel
  have htext : args.signature = "wimse=".toList ++ signatureText signature := by
    unfold args
    repeat rw [String.toList_ofList]
    decide +kernel
  refine sign_eq_ok_iff.2 ⟨base, hbase, ?_⟩
  rw [signatureText, hsign, hinput, htext]
  rfl

theorem isKey : IsKey "wimse" := by
  decide

/-- The profile for the request allows what was signed. -/
theorem allows : Allows request key.verifyingKey
    (args.verifyConfig args.time (requestComponents request)) "wimse"
      (requestComponents request)
    params where
  request _ := ⟨⟨rfl, rfl, rfl, rfl, rfl, rfl⟩, rfl⟩
  response h := by cases h
  connect _ h := by
    have hmethod : ("POST" : Str) = CONNECT := Outcome.ok.inj h
    exact absurd hmethod (by decide)
  accepted := Or.inl rfl
  alg _ h := by cases h
  required := by decide
  audience _ := ⟨"https://a.b", by decide, rfl⟩
  reqNonce _ h := by cases h
  window created hcreated expires hexpires := by
    obtain rfl := Option.some.inj hcreated
    obtain rfl := Option.some.inj hexpires
    decide
  clock _ := rfl
  expires now hnow expires hexpires := by
    obtain rfl := Option.some.inj hnow
    obtain rfl := Option.some.inj hexpires
    decide
  created now hnow created hcreated := by
    obtain rfl := Option.some.inj hnow
    obtain rfl := Option.some.inj hcreated
    decide
  maxAge now hnow maxAge hmaxAge := by
    obtain rfl := Option.some.inj hnow
    obtain rfl := Option.some.inj hmaxAge
    exact ⟨90, rfl, by decide⟩
  label h := by cases h

/-- The run verifies the token, adds it and the digest to the headers, and
verifies the signature and the body. -/
theorem exists_report : ∃ report, runVerify args = .ok report := by
  have hkey : key.SelfVerifies := Ed25519.single_selfVerifies _ _ _
  obtain ⟨jwk, hload, hverifying⟩ := load_key
  have hsigned :=
    verify_of_allows Rfc4648.standard_lawful
      (wellNamed_requestComponents request) isKey
    sign_request (fun _ _ => hkey _) allows
  have hinput : Str.trim args.signatureInput = args.signatureInput := by
    unfold args paramsValue
    repeat rw [String.toList_ofList]
    decide +kernel
  have hsignature : Str.trim args.signature = args.signature := by
    unfold args
    repeat rw [String.toList_ofList]
    decide +kernel
  have hparsed :
      args.header.mapM parseHeader = .ok [("Content-Type", "text/plain")] := by
    decide +kernel
  have hbody : args.readBody = .ok (some (Str.asBytes "hi")) := by
    decide +kernel
  have hbuilt : buildRequest args.method args.authority args.path args.query
      (withDigest (withWit [("Content-Type", "text/plain")] token)
        (some (Str.asBytes "hi")))
      = .ok request := by
    unfold request headers token Wit.Example.signingInput
    repeat rw [String.toList_ofList]
    decide +kernel
  have hcovered :
      request.componentValue (.ofHeader WIT_HEADER) = .ok token := by
    unfold request headers token Wit.Example.signingInput
    repeat rw [String.toList_ofList]
    decide +kernel
  have hchecked : checkBody request (some (Str.asBytes "hi")) = .ok () := by
    decide +kernel
  rw [← hinput, ← hsignature] at hsigned
  rw [← trim_wit] at hbuilt hcovered
  exact ⟨_, runVerify_eq_ok_iff.2
    ⟨⟨jwk, _, _, _, _, request, _, _, hload, hverifying, verify_token, hparsed,
      hbody, hbuilt, hcovered, rfl, hsigned, hchecked⟩, rfl⟩⟩

/-- The one token and the digest of the body, under the signature of the
request. -/
theorem verified_request_bound_example :
    ∃ (report : Report) (request : HttpRequest), runVerify args = .ok report ∧
      fieldValues request.headers WIT_HEADER = [Str.trim args.wit] ∧
      ∃ body, Os.read "body.txt" = some body ∧
        request.componentValue (.ofHeader DIGEST_HEADER)
          = .ok (contentDigestSha256 body) := by
  have hcomma : Base64.URL_SAFE_NO_PAD.Rejects ',' :=
    Rfc4648.engine_rejects (by decide) (by decide)
  obtain ⟨report, hrun⟩ := exists_report
  obtain ⟨_, _, _, _, request, _, _, _, _, _, _, _, _, _, honly, _, _, _, _,
      hbody, _⟩ :=
    verified_request_bound hrun
  exact ⟨report, request, hrun, honly hcomma, hbody _ rfl⟩

end Example

end Wimsey.Cli
