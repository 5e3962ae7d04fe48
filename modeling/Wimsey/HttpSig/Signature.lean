import Wimsey.Codec.Base64
import Wimsey.HttpSig.Message
import Wimsey.Jose.Key
import Wimsey.Scan.Scanner

/-!
# HTTP message signatures

The model of `crates/httpsig/src/signature.rs`: the signature parameters and the
WIMSE profiles, the signature base, signing, the readers of the two fields, and
verification.

The readers are scanners that know whether they stand inside a quoted string.
`unquoted` cuts at one character outside quotes, and `dictionary` at the commas
that are also outside every inner list.

`verify` runs in two phases: `authenticate` goes as far as the signature, and
`checkPolicy` compares what was signed with the rest of the configuration.
-/

namespace Wimsey.HttpSig

open Wimsey.RustStd Wimsey.Codec Wimsey.Jose Wimsey.Scan

/-- The `tag` of a WIMSE workload-to-workload signature. -/
def WIMSE_TAG : Str := "wimse-workload-to-workload"

/-- The one method whose request target is in authority-form. -/
def CONNECT : Str := "CONNECT"

/-- The signature parameters, in the order of their serialization. -/
structure SignatureParams where
  created : Option UInt64
  expires : Option UInt64
  keyid : Option Str
  alg : Option Str
  nonce : Option Str
  tag : Option Str
  wimseAud : Option Str
  wimseSignResponse : Option Bool
  wimseReqNonce : Option Str
deriving DecidableEq, Repr

/-- `Default for SignatureParams`. -/
def SignatureParams.default : SignatureParams :=
  { created := none
    expires := none
    keyid := none
    alg := none
    nonce := none
    tag := none
    wimseAud := none
    wimseSignResponse := none
    wimseReqNonce := none }

/-- The two field values that `sign` produces. -/
structure SignedSignature where
  signatureInput : Str
  signature : Str
deriving DecidableEq, Repr

/-- The outcome of a successful `verify`. -/
structure VerifiedSignature where
  label : Str
  components : List Component
  params : SignatureParams
deriving DecidableEq, Repr

/-- The options of `verify`. -/
structure VerifyConfig where
  now : Option UInt64
  leeway : UInt64
  label : Option Str
  requiredComponents : List Component
  maxAge : Option UInt64
  wimseProfile : Bool
  expectedAudiences : List Str
  wimseResponseProfile : Bool
  expectedReqNonce : Option Str
  acceptedAlgorithms : List Algorithm

/-- `Default for VerifyConfig`. -/
def VerifyConfig.default : VerifyConfig :=
  { now := none
    leeway := 0
    label := none
    requiredComponents := []
    maxAge := none
    wimseProfile := false
    expectedAudiences := []
    wimseResponseProfile := false
    expectedReqNonce := none
    acceptedAlgorithms := [] }

/-! ## The WIMSE profiles -/

/-- The rules that the two profiles share. -/
def checkProfile (params : SignatureParams) : Outcome HttpSigError Unit := do
  Outcome.failIf params.keyid.isSome (.forbiddenParameter "keyid")
  Outcome.failIf params.alg.isSome (.forbiddenParameter "alg")
  Outcome.failIf params.created.isNone (.missingParameter "created")
  Outcome.failIf params.expires.isNone (.missingParameter "expires")
  Outcome.failIf params.nonce.isNone (.missingParameter "nonce")
  match params.tag with
  | none => .err (.missingParameter "tag")
  | some tag => Outcome.failIf (tag != WIMSE_TAG) (.wrongTag tag)

/-- `check_request_profile`. -/
def checkRequestProfile (params : SignatureParams) :
    Outcome HttpSigError Unit := do
  checkProfile params
  Outcome.failIf params.wimseAud.isNone (.missingParameter "wimse-aud")

/-- `check_response_profile`. -/
def checkResponseProfile (params : SignatureParams) :
    Outcome HttpSigError Unit := do
  checkProfile params
  Outcome.failIf params.wimseAud.isSome (.forbiddenParameter "wimse-aud")
  Outcome.failIf params.wimseReqNonce.isNone
    (.missingParameter "wimse-req-nonce")

/-- The message has a field of the name. -/
def hasField (headers : List (Str × Str)) (name : Str) : Bool :=
  headers.any fun h => Str.eqIgnoreAsciiCase h.1 name

/-- The fields that a request signature covers when the request carries them. -/
def requestFields : List Str :=
  ["content-type", "content-digest", "authorization", "txn-token",
    "workload-identity-token"]

/-- `request_components`. -/
def requestComponents (request : HttpRequest) : List Component :=
  (if request.method = CONNECT then [.method, .authority]
    else [.method, .path, .query]) ++
    (requestFields.filter (hasField request.headers)).map Component.ofHeader

/-- The fields that a response signature covers when the response carries
them. -/
def responseFields : List Str :=
  ["content-type", "content-digest", "workload-identity-token"]

/-- `response_components`. -/
def responseComponents (exchange : HttpExchange) : List Component :=
  [.status, .req .method] ++
    (if exchange.request.method = CONNECT then [.req .authority]
      else [.req .path, .req .query]) ++
    (responseFields.filter (hasField exchange.response.headers)).map
      Component.ofHeader

/-- The component of the request, seen from a request or from a response. -/
def target (response : Bool) (component : Component) : Component :=
  if response then .req component else component

/-- `check_connect_components`.  A message whose method cannot be derived is not
a `CONNECT`. -/
def checkConnectComponents {M : Type} [ComponentSource M] (message : M)
    (components : List Component) (response : Bool) :
    Outcome HttpSigError Unit :=
  if ComponentSource.componentValue message (target response .method)
    = .ok CONNECT then do
    Outcome.failIf (Component.contains components (target response .path))
      (.forbiddenComponent (target response .path).quotedId)
    Outcome.failIf (Component.contains components (target response .query))
      (.forbiddenComponent (target response .query).quotedId)
  else .ok ()

/-! ## The signature base -/

/-- The characters that `sf_string` writes for one. -/
def sfChar (c : Char) : Str := if c = '\\' ∨ c = '"' then ['\\', c] else [c]

/-- `sf_string`. -/
def sfString (value : Str) : Str := '"' :: value.flatMap sfChar ++ ['"']

/-- `;name=value`, if there is a value. -/
def serializeParam {α : Type} (name : Str) (serialize : α → Str) :
    Option α → Str
  | none => []
  | some value => ';' :: name ++ '=' :: serialize value

/-- The Boolean parameter, whose value `true` is left out. -/
def serializeFlag (name : Str) : Option Bool → Str
  | none => []
  | some true => ';' :: name
  | some false => ';' :: name ++ "=?0".toList

/-- `serialize_params_value`. -/
def serializeParamsValue (components : List Component)
    (params : SignatureParams) : Str :=
  '(' :: [' '].intercalate (components.map Component.quotedId) ++ ')' ::
    (serializeParam "created"
      (fun n : UInt64 => display n.toNat) params.created ++
      serializeParam "expires"
        (fun n : UInt64 => display n.toNat) params.expires ++
      serializeParam "keyid" sfString params.keyid ++
      serializeParam "alg" sfString params.alg ++
      serializeParam "nonce" sfString params.nonce ++
      serializeParam "tag" sfString params.tag ++
      serializeParam "wimse-aud" sfString params.wimseAud ++
      serializeFlag "wimse-sign-response" params.wimseSignResponse ++
      serializeParam "wimse-req-nonce" sfString params.wimseReqNonce)

/-- `contains(['\r', '\n'])`. -/
def hasNewline (s : Str) : Bool := s.any fun c => c = '\r' || c = '\n'

section Base

variable {M : Type} [ComponentSource M]

/-- The lines of the covered components. -/
def componentLines (message : M) : List Component → Outcome HttpSigError Str
  | [] => .ok []
  | component :: components => do
      let value ← ComponentSource.componentValue message component
      Outcome.failIf (hasNewline value)
        (.invalidComponentValue component.quotedId)
      let rest ← componentLines message components
      .ok (component.quotedId ++ ": ".toList ++ value ++ '\n' :: rest)

/-- `signature_base_from_params_str`. -/
def signatureBaseFromParamsStr (message : M) (components : List Component)
    (paramsValue : Str) :
    Outcome HttpSigError Str := do
  Outcome.failIf (hasNewline paramsValue)
    (.parse "signature parameters contain CR or LF")
  let lines ← componentLines message components
  .ok (lines ++ "\"@signature-params\": ".toList ++ paramsValue)

/-- `signature_base`. -/
def signatureBase (message : M) (components : List Component)
    (params : SignatureParams) :
    Outcome HttpSigError Str :=
  signatureBaseFromParamsStr message components
    (serializeParamsValue components params)

/-- `sign`. -/
def sign [Base64] [Ed25519] [P256] (message : M) (components : List Component)
    (params : SignatureParams) (label : Str) (signingKey : SigningKey) :
    Outcome HttpSigError SignedSignature := do
  let paramsValue := serializeParamsValue components params
  let base ← signatureBaseFromParamsStr message components paramsValue
  .ok { signatureInput := label ++ '=' :: paramsValue
        signature := label ++ "=:".toList ++
          Base64.STANDARD.encode (signingKey.sign (Str.asBytes base)).toList ++
          [':'] }

end Base

/-! ## The scanners -/

/-- Whether a reader stands inside a quoted string, and after a backslash
there. -/
structure Quotes where
  inQuotes : Bool
  escaped : Bool
deriving DecidableEq, Repr

/-- The state at the start of a text. -/
def Quotes.start : Quotes :=
  { inQuotes := false
    escaped := false }

/-- The scanner that cuts at a character outside quotes. -/
def unquoted (target : Char) : Scanner Quotes Char := fun q c =>
  if q.escaped then ({ q with escaped := false }, false)
  else if q.inQuotes && c = '\\' then ({ q with escaped := true }, false)
  else if c = '"' then ({ q with inQuotes := !q.inQuotes }, false)
  else if c = target && !q.inQuotes then (q, true)
  else (q, false)

/-- The state of the dictionary reader, which also counts open inner lists. -/
structure DictState where
  inQuotes : Bool
  escaped : Bool
  depth : Nat
deriving DecidableEq, Repr

/-- The state at the start of a dictionary. -/
def DictState.start : DictState :=
  { inQuotes := false
    escaped := false
    depth := 0 }

/-- The scanner that cuts at the top-level commas. -/
def dictionary : Scanner DictState Char := fun q c =>
  if q.escaped then ({ q with escaped := false }, false)
  else if q.inQuotes && c = '\\' then ({ q with escaped := true }, false)
  else if c = '"' then ({ q with inQuotes := !q.inQuotes }, false)
  else if !q.inQuotes && c = '(' then ({ q with depth := q.depth + 1 }, false)
  else if !q.inQuotes && c = ')' then ({ q with depth := q.depth - 1 }, false)
  else if !q.inQuotes && q.depth == 0 && c = ',' then (q, true)
  else (q, false)

/-! ## The readers -/

/-- `split_member`. -/
def splitMember (value : Str) : Outcome HttpSigError (Str × Str) := do
  let value := Str.trim value
  let eq ← Outcome.okOr (.parse "missing `=` in dictionary member")
      (Str.find '=' value)
  let label ← Str.sliceTo value eq
  let label := Str.trim label
  Outcome.failIf label.isEmpty (.parse "empty signature label")
  let rest ← Str.sliceFrom value (eq + 1)
  .ok (label, rest)

/-- The loop that rejects a label seen before. -/
def checkLabels : List Str → List (Str × Str) → Outcome HttpSigError Unit
  | _, [] => .ok ()
  | seen, (label, _) :: members => do
      Outcome.failIf (seen.contains label)
        (.parse ("duplicate signature label `".toList ++ label ++ ['`']))
      checkLabels (label :: seen) members

/-- `split_dictionary`. -/
def splitDictionary (value : Str) :
    Outcome HttpSigError (List (Str × Str)) := do
  let members ← splitLoop dictionary splitMember value (Str.charIndices value)
      .start 0 []
  checkLabels [] members
  .ok members

/-- The loop of `parse_sf_string` over the text between the quotes. -/
def unescape : Str → Outcome HttpSigError Str
  | [] => .ok []
  | c :: rest =>
      if c = '\\' then
        match rest with
        | next :: rest =>
            if next = '\\' ∨ next = '"' then (next :: ·) <$> unescape rest
            else .err (.parse "bad string escape")
        | [] => .err (.parse "bad string escape")
      else (c :: ·) <$> unescape rest

/-- `parse_sf_string`. -/
def parseSfString (token : Str) : Outcome HttpSigError Str := do
  let inner ← Outcome.okOr (.parse ("not a string: ".toList ++ token))
    ((Str.stripPrefix ['"'] token).bind (Str.stripSuffix ['"']))
  unescape inner

/-- `find_unquoted`. -/
def findUnquoted (s : Str) (target : Char) : Option Nat :=
  findLoop (unquoted target) (Str.charIndices s) .start

/-- `split_unquoted_semicolons`. -/
def splitUnquotedSemicolons (s : Str) : Outcome HttpSigError (List Str) :=
  splitLoop (unquoted ';') .ok s (Str.charIndices s) .start 0 []

/-- `parse_sf_boolean`. -/
def parseSfBoolean (raw : Str) : Outcome HttpSigError Bool :=
  if raw = "?1" then .ok true
  else if raw = "?0" then .ok false
  else .err (.parse ("not a boolean: ".toList ++ raw))

/-- `parse_int`. -/
def parseInt (raw : Str) : Outcome HttpSigError UInt64 :=
  Outcome.okOr (.parse ("not an integer: ".toList ++ raw))
    (parseU64 (Str.trim raw))

/-- The `match` on the name of a parameter. -/
def setParam (params : SignatureParams) (name raw : Str) :
    Outcome HttpSigError SignatureParams :=
  if name = "created" then do
    let created ← parseInt raw
    .ok { params with created := some created }
  else if name = "expires" then do
    let expires ← parseInt raw
    .ok { params with expires := some expires }
  else if name = "keyid" then do
    let keyid ← parseSfString raw
    .ok { params with keyid := some keyid }
  else if name = "alg" then do
    let alg ← parseSfString raw
    .ok { params with alg := some alg }
  else if name = "nonce" then do
    let nonce ← parseSfString raw
    .ok { params with nonce := some nonce }
  else if name = "tag" then do
    let tag ← parseSfString raw
    .ok { params with tag := some tag }
  else if name = "wimse-aud" then do
    let wimseAud ← parseSfString raw
    .ok { params with wimseAud := some wimseAud }
  else if name = "wimse-sign-response" then do
    let wimseSignResponse ← parseSfBoolean raw
    .ok { params with wimseSignResponse := some wimseSignResponse }
  else if name = "wimse-req-nonce" then do
    let wimseReqNonce ← parseSfString raw
    .ok { params with wimseReqNonce := some wimseReqNonce }
  -- Unknown parameters are ignored.
  else .ok params

/-- The body of the loop of `parse_params`. -/
def parseParam (params : SignatureParams) (part : Str) :
    Outcome HttpSigError SignatureParams :=
  let part := Str.trim part
  if part.isEmpty then .ok params
  else
    match Str.splitOnce '=' part with
    | none =>
        -- A parameter without a value is a Boolean, and true.
        if part = "wimse-sign-response"
          then .ok { params with wimseSignResponse := some true }
        else .ok params
    | some (name, raw) => setParam params (Str.trim name) (Str.trim raw)

/-- `parse_params`. -/
def parseParams (rest : Str) (params : SignatureParams) :
    Outcome HttpSigError SignatureParams := do
  let parts ← splitUnquotedSemicolons rest
  parts.foldlM parseParam params

/-- One parsed `Signature-Input` member.  The parameters are kept verbatim for
the signature base. -/
structure InputMember where
  label : Str
  components : List Component
  params : SignatureParams
  paramsValue : Str
deriving DecidableEq, Repr

/-- `parse_input_member`. -/
def parseInputMember (label rest : Str) : Outcome HttpSigError InputMember := do
  let rest := Str.trim rest
  Outcome.failIf (rest.head? != some '(')
    (.parse "inner list must start with `(`")
  let close ← Outcome.okOr (.parse "missing `)` in inner list")
      (findUnquoted rest ')')
  let inner ← Str.slice rest 1 close
  let components ← (Str.splitWhitespace inner).mapM Component.fromQuotedId
  let after ← Str.sliceFrom rest (close + 1)
  let params ← parseParams after .default
  .ok
    { label := label
      components := components
      params := params
      paramsValue := rest }

/-- `parse_signature`. -/
def parseSignature [Base64] (value label : Str) :
    Outcome HttpSigError (Vector UInt8 SIGNATURE_LEN) := do
  let members ← splitDictionary value
  let member ← Outcome.okOr .labelMismatch (members.find? fun m => m.1 == label)
  let b64 ← Outcome.okOr (.parse "byte sequence must be wrapped in `:`")
    ((Str.stripPrefix [':'] (Str.trim member.2)).bind (Str.stripSuffix [':']))
  let bytes ← Outcome.okOr .malformedSignature (Base64.STANDARD.decode b64)
  Outcome.okOr .malformedSignature (tryInto SIGNATURE_LEN bytes)

/-- The parameter is the `tag`, and its value is the one of a WIMSE
signature. -/
def isWimseTag (part : Str) : Bool :=
  match Str.splitOnce '=' part with
  | none => false
  | some (name, raw) =>
      Str.trim name == "tag".toList && parseSfString (Str.trim raw)
        == .ok WIMSE_TAG

/-- `has_wimse_tag`. -/
def hasWimseTag (rest : Str) : Outcome HttpSigError Bool :=
  let rest := Str.trim rest
  match findUnquoted rest ')' with
  | none => .ok false
  | some close => do
      let after ← Str.sliceFrom rest (close + 1)
      let parts ← splitUnquotedSemicolons after
      .ok (parts.any isWimseTag)

/-- The members that carry the WIMSE tag. -/
def taggedMembers : List (Str × Str) → Outcome HttpSigError (List (Str × Str))
  | [] => .ok []
  | member :: members => do
      let tagged ← hasWimseTag member.2
      let rest ← taggedMembers members
      .ok (if tagged then member :: rest else rest)

/-- A WIMSE profile is enforced. -/
def VerifyConfig.profiled (config : VerifyConfig) : Bool :=
  config.wimseProfile || config.wimseResponseProfile

/-- The choice between the members in `select_member`. -/
def chooseMember (members : List (Str × Str)) (config : VerifyConfig) :
    Outcome HttpSigError (Str × Str) :=
  match members with
  | [member] => .ok member
  | _ =>
    if config.profiled then do
      let tagged ← taggedMembers members
      match tagged with
      | [member] => .ok member
      | _ :: _ :: _ => .err .ambiguousWimseSignature
      | [] => .err .noWimseSignature
    else do
      let label ← Outcome.okOr .labelMismatch config.label
      Outcome.okOr .labelMismatch (members.find? fun m => m.1 == label)

/-- `select_member`. -/
def selectMember (signatureInput : Str) (config : VerifyConfig) :
    Outcome HttpSigError InputMember := do
  let members ← splitDictionary signatureInput
  let member ← chooseMember members config
  Outcome.when (!config.profiled)
    (Outcome.ifSome config.label fun expected =>
      Outcome.failIf (expected != member.1) .labelMismatch)
  parseInputMember member.1 member.2

/-! ## Verification -/

/-- `rfc9421_alg`. -/
def rfc9421Alg : Algorithm → Option Str
  | .edDsa => some "ed25519"
  | .es256 => some "ecdsa-p256-sha256"

/-- The loop over the required components. -/
def checkRequired (components : List Component) :
    List Component → Outcome HttpSigError Unit
  | [] => .ok ()
  | required :: rest => do
      Outcome.failIf (!Component.contains components required)
        (.missingRequiredComponent required.quotedId)
      checkRequired components rest

section Verify

variable {M : Type} [ComponentSource M] [Base64] [Ed25519] [P256]

/-- `verify`. -/
def verify (message : M) (signatureInput signature : Str)
    (verifyingKey : VerifyingKey) (config : VerifyConfig) :
    Outcome HttpSigError VerifiedSignature := do
  let member ← selectMember signatureInput config
  let sigBytes ← parseSignature signature member.label
  let params := member.params
  Outcome.when config.wimseProfile (checkRequestProfile params)
  Outcome.when config.wimseResponseProfile (checkResponseProfile params)
  Outcome.when (config.wimseProfile || config.wimseResponseProfile)
    (checkConnectComponents message member.components
      config.wimseResponseProfile)
  let algorithm := verifyingKey.algorithm
  Outcome.failIf
    (!config.acceptedAlgorithms.isEmpty &&
      !config.acceptedAlgorithms.contains algorithm)
    (.unsupportedAlg algorithm.asStr)
  Outcome.ifSome params.alg fun alg =>
    Outcome.failIf (some alg != rfc9421Alg algorithm) (.unsupportedAlg alg)
  let base ← signatureBaseFromParamsStr message member.components
      member.paramsValue
  Outcome.mapErr (fun _ => .invalidSignature)
    (verifyingKey.verify (Str.asBytes base) sigBytes.toList)
  checkRequired member.components config.requiredComponents
  Outcome.failIf
    ((config.wimseProfile || !config.expectedAudiences.isEmpty) &&
      !params.wimseAud.any fun aud => config.expectedAudiences.contains aud)
    .audienceMismatch
  Outcome.ifSome config.expectedReqNonce fun expected =>
    Outcome.failIf (params.wimseReqNonce != some expected) .requestNonceMismatch
  Outcome.ifSome params.created fun created =>
    Outcome.ifSome params.expires fun expires =>
      Outcome.failIf (expires < created) .invalidTimeWindow
  Outcome.failIf (config.maxAge.isSome && config.now.isNone) .tooOld
  Outcome.ifSome config.now fun now => do
    Outcome.ifSome params.expires fun expires =>
      Outcome.failIf (saturatingAdd expires config.leeway < now) .expired
    Outcome.ifSome params.created fun created =>
      Outcome.failIf (saturatingAdd now config.leeway < created)
        .createdInFuture
    Outcome.ifSome config.maxAge fun maxAge => do
      let created ← Outcome.okOr .tooOld params.created
      Outcome.failIf (maxAge < saturatingSub now created) .tooOld
  .ok
    { label := member.label, components := member.components, params := params }

/-! ## The two phases of the verification -/

/-- `verify` up to the signature: the member that was signed. -/
def authenticate (message : M) (signatureInput signature : Str)
    (verifyingKey : VerifyingKey) (config : VerifyConfig) :
    Outcome HttpSigError InputMember := do
  let member ← selectMember signatureInput config
  let sigBytes ← parseSignature signature member.label
  Outcome.when config.wimseProfile (checkRequestProfile member.params)
  Outcome.when config.wimseResponseProfile (checkResponseProfile member.params)
  Outcome.when (config.wimseProfile || config.wimseResponseProfile)
    (checkConnectComponents message member.components
      config.wimseResponseProfile)
  let algorithm := verifyingKey.algorithm
  Outcome.failIf
    (!config.acceptedAlgorithms.isEmpty &&
      !config.acceptedAlgorithms.contains algorithm)
    (.unsupportedAlg algorithm.asStr)
  Outcome.ifSome member.params.alg fun alg =>
    Outcome.failIf (some alg != rfc9421Alg algorithm) (.unsupportedAlg alg)
  let base ← signatureBaseFromParamsStr message member.components
      member.paramsValue
  Outcome.mapErr (fun _ => .invalidSignature)
    (verifyingKey.verify (Str.asBytes base) sigBytes.toList)
  .ok member

/-- The rest of `verify`: what was signed against the configuration. -/
def checkPolicy (member : InputMember) (config : VerifyConfig) :
    Outcome HttpSigError VerifiedSignature := do
  let params := member.params
  checkRequired member.components config.requiredComponents
  Outcome.failIf
    ((config.wimseProfile || !config.expectedAudiences.isEmpty) &&
      !params.wimseAud.any fun aud => config.expectedAudiences.contains aud)
    .audienceMismatch
  Outcome.ifSome config.expectedReqNonce fun expected =>
    Outcome.failIf (params.wimseReqNonce != some expected) .requestNonceMismatch
  Outcome.ifSome params.created fun created =>
    Outcome.ifSome params.expires fun expires =>
      Outcome.failIf (expires < created) .invalidTimeWindow
  Outcome.failIf (config.maxAge.isSome && config.now.isNone) .tooOld
  Outcome.ifSome config.now fun now => do
    Outcome.ifSome params.expires fun expires =>
      Outcome.failIf (saturatingAdd expires config.leeway < now) .expired
    Outcome.ifSome params.created fun created =>
      Outcome.failIf (saturatingAdd now config.leeway < created)
        .createdInFuture
    Outcome.ifSome config.maxAge fun maxAge => do
      let created ← Outcome.okOr .tooOld params.created
      Outcome.failIf (maxAge < saturatingSub now created) .tooOld
  .ok
    { label := member.label, components := member.components, params := params }

theorem verify_eq (message : M) (signatureInput signature : Str)
    (verifyingKey : VerifyingKey) (config : VerifyConfig) :
    verify message signatureInput signature verifyingKey config = (do
      let member ←
        authenticate message signatureInput signature verifyingKey config
      checkPolicy member config) := by
  simp only [verify, authenticate, checkPolicy, bind_assoc, Outcome.ok_bind]

end Verify

end Wimsey.HttpSig
