import Wimsey.Cli.Httpsig
import Wimsey.HttpSig.Integrity
import Wimsey.HttpSig.LetterCase

/-!
# `wimsey httpsig sign`

The model of the signing half of `crates/cli/src/httpsig.rs`, with `random_id`
of `crates/cli/src/main.rs`.

`runSign` assembles a request in the same way as `runVerify`, except that a
header for the token or for the body is an error when it adds that header
itself.  The bytes of a random nonce are a parameter, `GetRandom`.
`runSign_eq_ok_iff` lists what holds when it succeeds.
-/

namespace Wimsey.Cli

open Wimsey.RustStd Wimsey.Codec Wimsey.Serde Wimsey.Jose Wimsey.HttpSig

/-! ## The nonce -/

/-- What the commands use of `getrandom`: 16 bytes, or the text of an error. -/
class GetRandom where
  fill : Except Str (Vector UInt8 16)

/-- A byte, formatted with `\x7b:02x\x7d`. -/
def formatByte (b : UInt8) : Str :=
  [Nat.digitChar (b.toNat / 16), Nat.digitChar (b.toNat % 16)]

/-- `random_id`. -/
def randomId [GetRandom] : Outcome CliError Str :=
  match GetRandom.fill with
  | .ok bytes => .ok (bytes.toList.flatMap formatByte)
  | .error e => .err (.message ("getrandom: ".toList ++ e))

/-! ## The arguments -/

/-- The arguments of `wimsey httpsig sign`. -/
structure SignArgs where
  popKey : Str
  method : Str
  authority : Str
  path : Str
  query : Option Str
  header : List Str
  wit : Option Str
  bodyFile : Option Str
  cover : Option Str
  aud : Str
  nonce : Option Str
  created : Option UInt64
  expiresIn : UInt64
  signResponse : Bool
  label : Str
deriving Repr

/-- A character of a label after the first. -/
def isLabelChar (c : Char) : Bool :=
  c.isLower || c.isDigit || c == '_' || c == '-' || c == '.' || c == '*'

/-- `checked_label`. -/
def checkedLabel (raw : Str) : Outcome CliError Str := do
  let label := Str.trim raw
  let firstOk := label.head?.any fun c => c.isLower || c == '*'
  let restOk := label.tail.all isLabelChar
  Outcome.failIf (!firstOk || !restOk)
    (.message
      ("label must be a structured-field key: a lowercase letter or `*`, " ++
      "then `[a-z0-9_.*-]`"))
  .ok label

/-- The components of a list, which have to be among those of a request, or else
the latter. -/
def componentsOr (list : Option Str) (mandatory : List Component) :
    Outcome CliError (List Component) :=
  match list with
  | some list => do
      let components ← parseComponents list
      ensureCovers components mandatory
      .ok components
  | none => .ok mandatory

/-- The verifying half has the same choice. -/
theorem requiredComponents_eq (args : VerifyArgs) :
    args.requiredComponents = componentsOr args.require := rfl

theorem componentsOr_covers {list : Option Str}
    {mandatory components : List Component}
    (h : componentsOr list mandatory = .ok components) :
    ∀ c ∈ mandatory, Component.contains components c = true := by
  unfold componentsOr at h
  cases list with
  | none =>
    rw [← Outcome.ok.inj h]
    intro c hc
    exact Component.contains_iff.2 ⟨c, hc, rfl⟩
  | some list =>
    simp only [Outcome.bind_eq_ok_iff, (ensureCovers_decides _ _).ok_iff] at h
    obtain ⟨_, _, _, hcovers, hcomponents⟩ := h
    rwa [← Outcome.ok.inj hcomponents]

namespace SignArgs

/-- The headers with the digest of the body file. -/
def withDigest [Os] [Base64] [Wpt.Sha2] (args : SignArgs)
    (headers : List (Str × Str)) :
    Outcome CliError (List (Str × Str)) :=
  match args.bodyFile with
  | some bodyFile => do
      Outcome.failIf (hasHeader headers DIGEST_HEADER)
        (.message
          "do not pass a Content-Digest header together with --body-file")
      let body ← Outcome.okOr .file (Os.read bodyFile)
      .ok (headers ++ [("Content-Digest".toList, contentDigestSha256 body)])
  | none => .ok headers

/-- The headers with the token. -/
def withWit (args : SignArgs) (headers : List (Str × Str)) :
    Outcome CliError (List (Str × Str)) :=
  match args.wit with
  | some wit => do
      Outcome.failIf (hasHeader headers WIT_HEADER)
        (.message
          "do not pass a Workload-Identity-Token header together with --wit")
      .ok (headers ++ [("Workload-Identity-Token".toList, Str.trim wit)])
  | none => .ok headers

/-- The parameters of the signature. -/
def params [Os] [GetRandom] (args : SignArgs) (aud : Str) :
    Outcome CliError SignatureParams := do
  let created := args.created.getD Os.nowUnix
  let expires ← Outcome.okOr (.message "expires-in overflows the expiry time")
    (checkedAdd created args.expiresIn)
  let nonce ← (args.nonce.map Outcome.ok).getD randomId
  .ok
    { SignatureParams.default with
      created := some created
      expires := some expires
      nonce := some nonce
      tag := some WIMSE_TAG
      wimseAud := some aud
      wimseSignResponse := if args.signResponse then some true else none }

end SignArgs

/-! ## The run -/

section Run

variable [Base64] [Wpt.Sha2] [Os] [GetRandom] [SerdeJson] [Ed25519] [P256]

/-- `run_sign`. -/
def runSign (args : SignArgs) : Outcome CliError SignedSignature := do
  let jwk ← load args.popKey
  let pop ← jwk.signingKey
  let headers ← args.header.mapM parseHeader
  let headers ← args.withDigest headers
  let headers ← args.withWit headers
  let request ← buildRequest args.method args.authority args.path
      args.query headers
  let components ← componentsOr args.cover (requestComponents request)
  let aud := Str.trim args.aud
  Outcome.failIf aud.isEmpty (.message "aud must not be empty")
  let params ← args.params aud
  let label ← checkedLabel args.label
  Outcome.mapErr .httpSig (HttpSig.sign request components params label pop)

/-- The values of a run that succeeds, with what each step has checked. -/
structure SignRun (args : SignArgs) where
  jwk : JwkKey
  pop : SigningKey
  given : List (Str × Str)
  digested : List (Str × Str)
  headers : List (Str × Str)
  request : HttpRequest
  components : List Component
  params : SignatureParams
  label : Str
  signed : SignedSignature
  loaded : load args.popKey = .ok jwk
  isPop : jwk.signingKey = .ok pop
  parsed : args.header.mapM parseHeader = .ok given
  digestAdded : args.withDigest given = .ok digested
  witAdded : args.withWit digested = .ok headers
  built : buildRequest args.method args.authority args.path args.query headers
    = .ok request
  isCover : componentsOr args.cover (requestComponents request) = .ok components
  hasAud : (Str.trim args.aud).isEmpty = false
  isParams : args.params (Str.trim args.aud) = .ok params
  isLabel : checkedLabel args.label = .ok label
  isSigned : HttpSig.sign request components params label pop = .ok signed

theorem runSign_eq_ok_iff {args : SignArgs} {signed : SignedSignature} :
    runSign args = .ok signed ↔ ∃ run : SignRun args, run.signed = signed := by
  simp only [runSign, Outcome.bind_eq_ok_iff, Outcome.mapErr_eq_ok_iff,
    Outcome.failIf_eq_ok_iff, exists_const]
  constructor
  · intro ⟨jwk, hjwk, pop, hpop, given, hgiven, digested, hdigested, headers,
      hheaders, request, hrequest, components, hcomponents, haud, params,
      hparams, label, hlabel, hsigned⟩
    exact ⟨⟨jwk, pop, given, digested, headers, request, components, params,
      label, signed, hjwk, hpop, hgiven, hdigested, hheaders, hrequest,
      hcomponents, haud, hparams, hlabel, hsigned⟩, rfl⟩
  · intro ⟨run, hsigned⟩
    exact ⟨run.jwk, run.loaded, run.pop, run.isPop, run.given, run.parsed,
      run.digested, run.digestAdded, run.headers, run.witAdded, run.request,
      run.built, run.components, run.isCover, run.hasAud, run.params,
      run.isParams, run.label, run.isLabel, hsigned ▸ run.isSigned⟩

end Run

/-! ## What a run covers -/

/-- A character of a header name, in lower case, is one of a token. -/
theorem toLower_mem_tokenChars {c : Char}
    (h : (c.isAlphanum || tcharPunctuation.contains c) = true) :
    c.toLower ∈ tokenChars := by
  have hascii : c.toNat < 0x80 := by
    rcases Bool.or_eq_true_iff.1 h with halphanum | hpunctuation
    · exact Identifier.ascii_of_isAlphanum halphanum
    · exact Identifier.ascii_of_contains (by decide) hpunctuation
  exact Str.forall_ascii (P := fun c =>
    (c.isAlphanum || tcharPunctuation.contains c) = true →
    c.toLower ∈ tokenChars) (by decide +kernel) hascii h

/-- The components of a list are in lower case, as the readers return them. -/
theorem wellNamed_of_parseComponent {token : Str} {c : Component}
    (h : parseComponent token = .ok c) : c.WellNamed := by
  simp only [parseComponent] at h
  split at h
  · -- A derived component has no name.
    split_ifs at h <;> cases h <;> trivial
  · rw [Outcome.failIf_bind] at h
    split at h
    · cases h
    · rename_i hvalid
      obtain rfl := Outcome.ok.inj h
      rw [Bool.not_eq_true', Bool.not_eq_false, isValidHeaderName,
        Bool.and_eq_true, Bool.not_eq_true', List.all_eq_true] at hvalid
      obtain ⟨hne, hchars⟩ := hvalid
      refine ⟨by simpa [Str.toAsciiLowercase] using hne, fun d hd => ?_⟩
      obtain ⟨e, he, rfl⟩ := List.mem_map.1 hd
      exact toLower_mem_tokenChars (hchars e he)

theorem wellNamed_of_parseComponents {list : Str} {components : List Component}
    (h : parseComponents list = .ok components) :
    ∀ c ∈ components, c.WellNamed := by
  simp only [parseComponents, Outcome.bind_eq_ok_iff,
    Outcome.failIf_eq_ok_iff] at h
  obtain ⟨parsed, hparsed, _, _, hcomponents⟩ := h
  rw [← Outcome.ok.inj hcomponents]
  intro c hc
  obtain ⟨token, _, htoken⟩ := Outcome.exists_of_mem_mapM hparsed hc
  exact wellNamed_of_parseComponent htoken

namespace SignRun

variable [Base64] [Wpt.Sha2] [Os] [GetRandom] [SerdeJson] [Ed25519] [P256]
  {args : SignArgs}

theorem wellNamed (run : SignRun args) : ∀ c ∈ run.components, c.WellNamed := by
  have hcover := run.isCover
  unfold componentsOr at hcover
  split at hcover
  · simp only [Outcome.bind_eq_ok_iff] at hcover
    obtain ⟨_, hparsed, _, _, hcomponents⟩ := hcover
    rw [← Outcome.ok.inj hcomponents]
    exact wellNamed_of_parseComponents hparsed
  · rw [← Outcome.ok.inj hcover]
    exact wellNamed_requestComponents run.request

/-- The signature is over every component that the request has to cover. -/
theorem covers (run : SignRun args) {c : Component}
    (h : c ∈ requestComponents run.request) :
    c ∈ run.components :=
  Component.mem_of_contains (fun x hx => (run.wellNamed x hx).lower_eq)
    (wellNamed_requestComponents _ c h).lower_eq
      (componentsOr_covers run.isCover c h)

/-- The parameters are those of the profile for requests. -/
theorem params_eq (run : SignRun args) : ∃ created expires nonce signResponse,
    checkedAdd created args.expiresIn = some expires ∧
      run.params =
        { SignatureParams.default with
          created := some created
          expires := some expires
          nonce := some nonce
          tag := some WIMSE_TAG
          wimseAud := some (Str.trim args.aud)
          wimseSignResponse := signResponse } := by
  have hparams := run.isParams
  simp only [SignArgs.params, Outcome.bind_eq_ok_iff, Outcome.okOr_eq_ok_iff]
    at hparams
  obtain ⟨expires, hexpires, nonce, _, hparams⟩ := hparams
  exact ⟨_, expires, nonce, _, hexpires, (Outcome.ok.inj hparams).symm⟩

/-- The other half allows what was signed, within its time, if that covers what
it requires and names one of its audiences. -/
theorem allows (run : SignRun args) {verifier : VerifyArgs} {now : UInt64}
    {request : HttpRequest} {required : List Component} (key : VerifyingKey)
    (hconnect : ConnectRule request run.components false)
    (hrequired : ∀ c ∈ required, Component.contains run.components c = true)
    (haud : Str.trim args.aud ∈ verifier.aud.map Str.trim)
    (hcreated : ∀ created, run.params.created = some created →
      created ≤ saturatingAdd now verifier.leeway ∧
        ∀ maxAge, verifier.maxAge = some maxAge →
        saturatingSub now created ≤ maxAge)
    (hexpires : ∀ expires, run.params.expires = some expires →
      now ≤ saturatingAdd expires verifier.leeway) :
    Allows request key (verifier.verifyConfig now required) run.label
      run.components run.params := by
  obtain ⟨created, expires, nonce, signResponse, hadd, hparams⟩ := run.params_eq
  rw [hparams] at hcreated hexpires ⊢
  obtain ⟨hcreated, hage⟩ := hcreated created rfl
  refine
    { request := fun _ => ⟨⟨rfl, rfl, rfl, rfl, rfl, rfl⟩, rfl⟩
      response := nofun
      connect := fun _ => hconnect
      accepted := Or.inl rfl
      alg := nofun
      required := hrequired
      audience := fun _ => ⟨_, haud, rfl⟩
      reqNonce := nofun
      window := fun c hc e he => ?_
      clock := fun _ => rfl
      expires := fun t ht e he => ?_
      created := fun t ht c hc => ?_
      maxAge := fun t ht m hm => ?_
      label := nofun }
  · obtain rfl := Option.some.inj hc
    obtain rfl := Option.some.inj he
    rw [UInt64.le_iff_toNat_le, checkedAdd_eq_some_iff.1 hadd]
    omega
  · obtain rfl := Option.some.inj ht
    exact hexpires e he
  · obtain rfl := Option.some.inj ht
    obtain rfl := Option.some.inj hc
    exact hcreated
  · obtain rfl := Option.some.inj ht
    exact ⟨created, rfl, hage m hm⟩

end SignRun

end Wimsey.Cli
