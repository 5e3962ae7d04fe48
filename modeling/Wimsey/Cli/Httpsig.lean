import Wimsey.Cli.Key
import Wimsey.HttpSig.Verdict
import Wimsey.Wit.RoundTrip
import Wimsey.Wpt.Token

/-!
# `wimsey httpsig verify`

The model of the verifying half of `crates/cli/src/httpsig.rs`, with the
functions for `Content-Digest` of `crates/httpsig/src/message.rs`.

`runVerify` assembles a request from the arguments: headers that were given, and
headers that it adds for the token and for the body when they were not.  It then
verifies the token, the signature and the body.  `runVerify_eq_ok_iff` lists
what holds when it succeeds.
-/

namespace Wimsey.HttpSig

open Wimsey.RustStd Wimsey.Codec

variable [Base64] [Wpt.Sha2]

/-- `content_digest_sha256`. -/
def contentDigestSha256 (body : Bytes) : Str :=
  "sha-256=:".toList ++ Base64.STANDARD.encode (Wpt.Sha2.digest body) ++ [':']

/-- `verify_content_digest`. -/
def verifyContentDigest (headerValue : Str) (body : Bytes) : Bool :=
  headerValue == contentDigestSha256 body

end Wimsey.HttpSig

namespace Wimsey.Cli

open Wimsey.RustStd Wimsey.Codec Wimsey.Serde Wimsey.Jose Wimsey.HttpSig
open Wimsey.Identifier (WorkloadIdentifier)

/-! ## The arguments -/

/-- The punctuation of a field name. -/
def tcharPunctuation : List Char := "!#$%&'*+-.^_`|~".toList

/-- `is_valid_header_name`. -/
def isValidHeaderName (name : Str) : Bool :=
  !name.isEmpty && name.all fun c => c.isAlphanum || tcharPunctuation.contains c

/-- `char::is_ascii_control`. -/
def isAsciiControl (c : Char) : Bool := c.toNat < 0x20 || c.toNat == 0x7F

/-- `is_valid_header_value`. -/
def isValidHeaderValue (value : Str) : Bool :=
  value.all fun c => c == '\t' || !isAsciiControl c

/-- `parse_header`. -/
def parseHeader (spec : Str) : Outcome CliError (Str × Str) := do
  let (name, value) ← Outcome.okOr
    (.message "header must be in `Name: Value` form")
    (Str.splitOnce ':' spec)
  let name := Str.trim name
  Outcome.failIf (!isValidHeaderName name)
    (.message ("invalid header name `".toList ++ name ++ ['`']))
  let value := Str.trim value
  Outcome.failIf (!isValidHeaderValue value)
    (.message ("header `".toList ++ name ++ "` has an invalid value".toList))
  .ok (name, value)

/-- `checked_authority`. -/
def checkedAuthority (raw : Str) : Outcome CliError Str := do
  let authority := Str.trim raw
  Outcome.failIf authority.isEmpty (.message "authority must not be empty")
  Outcome.failIf
    ((authority.any fun c => c == '/' || c == '?' || c == '#') ||
      authority.any fun c => c == ' ' || isAsciiControl c)
    (.message
      "authority must not contain `/`, `?`, `#`, spaces or control characters")
  .ok (Str.toAsciiLowercase authority)

/-- `checked_path`. -/
def checkedPath (raw : Str) : Outcome CliError Str := do
  let path := Str.trim raw
  Outcome.failIf (path.head? != some '/') (.message "path must start with `/`")
  Outcome.failIf (path.any fun c => c == '?' || c == '#')
    (.message "path must not contain a query (`?`) or fragment (`#`)")
  .ok path

/-- `checked_method`. -/
def checkedMethod (raw : Str) : Outcome CliError Str := do
  let method := Str.trim raw
  Outcome.failIf (!isValidHeaderName method)
    (.message "method must be a non-empty HTTP token")
  .ok method

/-- `parse_component`. -/
def parseComponent (token : Str) : Outcome CliError Component :=
  let token := Str.trim token
  match Str.stripPrefix ['@'] token with
  | some derived =>
      let derived := Str.toAsciiLowercase derived
      if derived = "method" then .ok .method
      else if derived = "authority" then .ok .authority
      else if derived = "path" then .ok .path
      else if derived = "query" then .ok .query
      else .err (.message ("unsupported derived component `@".toList ++
        derived ++ ['`']))
  | none => do
      Outcome.failIf (!isValidHeaderName token)
        (.message ("invalid header component `".toList ++ token ++ ['`']))
      .ok (.ofHeader token)

/-- `parse_components`. -/
def parseComponents (list : Str) : Outcome CliError (List Component) := do
  let components ← (((list.splitOn ',').map Str.trim).filter (!·.isEmpty)).mapM
      parseComponent
  Outcome.failIf components.isEmpty
    (.message "the component list must not be empty")
  .ok components

/-- `has_header`. -/
def hasHeader (headers : List (Str × Str)) (name : Str) : Bool :=
  headers.any fun h => Str.eqIgnoreAsciiCase h.1 name

/-- `ensure_covers`. -/
def ensureCovers (set : List Component) : List Component → Outcome CliError Unit
  | [] => .ok ()
  | component :: mandatory => do
      Outcome.failIf (!Component.contains set component)
        (.message ("component ".toList ++ component.quotedId ++
          " must be covered".toList))
      ensureCovers set mandatory

/-- `build_request`. -/
def buildRequest (method authority path : Str) (query : Option Str)
    (headers : List (Str × Str)) :
    Outcome CliError HttpRequest := do
  let method ← checkedMethod method
  let authority ← checkedAuthority authority
  let path ← checkedPath path
  .ok
    { method := method
      authority := authority
      path := path
      query := query.map fun q => (Str.trim q).dropWhile (· == '?')
      headers := headers }

/-- The arguments of `wimsey httpsig verify`. -/
structure VerifyArgs where
  issuerJwk : Str
  wit : Str
  method : Str
  authority : Str
  path : Str
  query : Option Str
  header : List Str
  bodyFile : Option Str
  signatureInput : Str
  signature : Str
  aud : List Str
  require : Option Str
  expectedIss : Option Str
  maxAge : Option UInt64
  leeway : UInt64
  now : Option UInt64
deriving Repr

/-- What a successful run prints. -/
structure Report where
  sub : WorkloadIdentifier
  label : Str
deriving DecidableEq

/-! ## The run -/

/-- The header that carries the token. -/
def WIT_HEADER : Str := "workload-identity-token"

/-- The header that carries the digest of the body. -/
def DIGEST_HEADER : Str := "content-digest"

namespace VerifyArgs

/-- The parameters for the verification of the token. -/
def witValidation (args : VerifyArgs) (now : UInt64) : Wit.Validation :=
  match args.expectedIss with
  | some iss => (Wit.Validation.at now).expectIssuer (Str.trim iss)
  | none => Wit.Validation.at now

/-- The parameters for the verification of the signature. -/
def verifyConfig (args : VerifyArgs) (now : UInt64)
    (required : List Component) : VerifyConfig :=
  { VerifyConfig.default with
    now := some now
    leeway := args.leeway
    requiredComponents := required
    maxAge := args.maxAge
    wimseProfile := true
    expectedAudiences := args.aud.map Str.trim }

/-- The time of the run. -/
def time [Os] (args : VerifyArgs) : UInt64 := args.now.getD Os.nowUnix

/-- The contents of the body file. -/
def readBody [Os] (args : VerifyArgs) : Outcome CliError (Option Bytes) :=
  match args.bodyFile with
  | some path => some <$> Outcome.okOr .file (Os.read path)
  | none => .ok none

/-- The components that have to be covered. -/
def requiredComponents (args : VerifyArgs) (mandatory : List Component) :
    Outcome CliError (List Component) :=
  match args.require with
  | some list => do
      let required ← parseComponents list
      ensureCovers required mandatory
      .ok required
  | none => .ok mandatory

end VerifyArgs

/-- The headers with the token, unless they have a header for it. -/
def withWit (headers : List (Str × Str)) (wit : Str) : List (Str × Str) :=
  if hasHeader headers WIT_HEADER then headers
  else headers ++ [("Workload-Identity-Token".toList, wit)]

section Run

variable [Base64] [Wpt.Sha2]

/-- The headers with the digest of a body, unless they have a header for it. -/
def withDigest (headers : List (Str × Str)) : Option Bytes → List (Str × Str)
  | some body =>
      if hasHeader headers DIGEST_HEADER then headers
      else headers ++ [("Content-Digest".toList, contentDigestSha256 body)]
  | none => headers

/-- The check that the covered digest is that of the body. -/
def checkBody (request : HttpRequest) : Option Bytes → Outcome CliError Unit
  | some body => do
      let digest ← Outcome.mapErr
        (fun _ => .message "content-digest header is missing")
        (request.componentValue (.ofHeader DIGEST_HEADER))
      Outcome.failIf (!verifyContentDigest digest body)
        (.message "content-digest does not match the body")
  | none => .ok ()

variable [Os] [SerdeJson] [Ed25519] [P256]

/-- `run_verify`. -/
def runVerify (args : VerifyArgs) : Outcome CliError Report := do
  let key ← load args.issuerJwk
  let issuer ← key.verifyingKey
  let wit := Str.trim args.wit
  let now := args.time
  let verifiedWit ←
    Outcome.mapErr .wit (Wit.verify wit issuer (args.witValidation now))
  let headers ← args.header.mapM parseHeader
  let headers := withWit headers wit
  let body ← args.readBody
  let headers := withDigest headers body
  let request ← buildRequest args.method args.authority args.path
      args.query headers
  -- The value of all fields of the name together, as the signature covers it.
  let coveredWit ← Outcome.mapErr
    (fun _ => .message "workload-identity-token header is missing")
    (request.componentValue (.ofHeader WIT_HEADER))
  Outcome.failIf (coveredWit != wit)
    (.message
      "the supplied Workload-Identity-Token header does not match --wit")
  let required ← args.requiredComponents (requestComponents request)
  let verified ← Outcome.mapErr .httpSig
    (HttpSig.verify request (Str.trim args.signatureInput)
      (Str.trim args.signature)
      verifiedWit.popKey (args.verifyConfig now required))
  checkBody request body
  .ok { sub := verifiedWit.claims.sub, label := verified.label }

/-- The values of a run that succeeds, with what each step has checked. -/
structure Run (args : VerifyArgs) where
  key : JwkKey
  issuer : VerifyingKey
  wit : Wit.VerifiedWit
  given : List (Str × Str)
  body : Option Bytes
  request : HttpRequest
  required : List Component
  verified : VerifiedSignature
  loaded : load args.issuerJwk = .ok key
  isIssuer : key.verifyingKey = .ok issuer
  witVerified :
    Wit.verify (Str.trim args.wit) issuer (args.witValidation args.time)
    = .ok wit
  parsed : args.header.mapM parseHeader = .ok given
  bodyRead : args.readBody = .ok body
  built : buildRequest args.method args.authority args.path args.query
    (withDigest (withWit given (Str.trim args.wit)) body) = .ok request
  witCovered :
    request.componentValue (.ofHeader WIT_HEADER) = .ok (Str.trim args.wit)
  isRequired : args.requiredComponents (requestComponents request)
    = .ok required
  signed :
    HttpSig.verify request (Str.trim args.signatureInput)
    (Str.trim args.signature)
    wit.popKey (args.verifyConfig args.time required) = .ok verified
  bodyChecked : checkBody request body = .ok ()

/-- What a run prints. -/
def Run.report {args : VerifyArgs} (run : Run args) : Report :=
  { sub := run.wit.claims.sub
    label := run.verified.label }

theorem runVerify_eq_ok_iff {args : VerifyArgs} {report : Report} :
    runVerify args = .ok report ↔ ∃ run : Run args, run.report = report := by
  simp only [runVerify, Outcome.bind_eq_ok_iff, Outcome.mapErr_eq_ok_iff,
    Outcome.failIf_eq_ok_iff, bne_eq_false_iff_eq, exists_const]
  constructor
  · intro ⟨key, hkey, issuer, hissuer, wit, hwit, given, hgiven, body, hbody,
      request, hrequest, _, hcovered, rfl, required, hrequired, verified,
      hverified, _, hchecked, hreport⟩
    exact ⟨⟨key, issuer, wit, given, body, request, required, verified, hkey,
      hissuer, hwit, hgiven, hbody, hrequest, hcovered, hrequired, hverified,
      hchecked⟩, Outcome.ok.inj hreport⟩
  · intro ⟨run, hreport⟩
    exact ⟨run.key, run.loaded, run.issuer, run.isIssuer, run.wit,
      run.witVerified, run.given, run.parsed, run.body, run.bodyRead,
      run.request, run.built, _, run.witCovered, rfl, run.required,
      run.isRequired, run.verified, run.signed, (), run.bodyChecked,
      congrArg Outcome.ok hreport⟩

end Run

/-! ## What the steps check -/

theorem ensureCovers_decides (set mandatory : List Component) :
    Outcome.Decides (ensureCovers set mandatory)
      (∀ c ∈ mandatory, Component.contains set c = true) := by
  induction mandatory with
  | nil => exact Or.inl ⟨rfl, by simp⟩
  | cons c mandatory ih =>
    unfold ensureCovers
    exact ((Outcome.Decides.failIf _ _).bind fun _ => ih).congr (by simp)

theorem prefix_withWit (headers : List (Str × Str)) (wit : Str) :
    headers <+: withWit headers wit := by
  rw [withWit]
  split
  · exact List.prefix_rfl
  · exact List.prefix_append headers _

section Body

variable [Base64] [Wpt.Sha2]

theorem prefix_withDigest (headers : List (Str × Str)) (body : Option Bytes) :
    headers <+: withDigest headers body := by
  cases body with
  | none => exact List.prefix_rfl
  | some body =>
    rw [withDigest]
    split
    · exact List.prefix_rfl
    · exact List.prefix_append headers _

theorem checkBody_eq_ok_iff {request : HttpRequest} {body : Bytes} {u : Unit} :
    checkBody request (some body) = .ok u ↔
      request.componentValue (.ofHeader DIGEST_HEADER)
        = .ok (contentDigestSha256 body) := by
  simp only [checkBody, Outcome.bind_eq_ok_iff, Outcome.mapErr_eq_ok_iff,
    Outcome.failIf_eq_ok_iff, verifyContentDigest, Bool.not_eq_false',
    beq_iff_eq]
  constructor
  · intro ⟨_, hvalue, hdigest⟩
    rw [hvalue, hdigest]
  · intro hvalue
    exact ⟨_, hvalue, rfl⟩

end Body

theorem buildRequest_headers {method authority path : Str} {query : Option Str}
    {headers : List (Str × Str)} {request : HttpRequest}
    (h : buildRequest method authority path query headers = .ok request) :
    request.headers = headers := by
  simp only [buildRequest, Outcome.bind_eq_ok_iff] at h
  obtain ⟨_, _, _, _, _, _, hrequest⟩ := h
  rw [← Outcome.ok.inj hrequest]

end Wimsey.Cli
