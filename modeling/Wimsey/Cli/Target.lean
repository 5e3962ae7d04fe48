import Wimsey.Cli.Sign

/-!
# Request targets

Both halves of `wimsey httpsig` take the method, the authority, the path and the
query of a request as arguments, and `build_request` makes the same of them.  A
`?` in front of a query is its delimiter, but `build_request` takes away every
`?` that it finds there, and those after the first are part of the query.

`derives_of_request` says what the values that a signature covers keep of a
target, and `same_target_iff` when that is the whole target: for the arguments
themselves, and for what `runVerify` accepts of `runSign`.  A `CONNECT` is
signed for its authority, and its path and query are not looked at.
-/

namespace Wimsey.Cli

open Wimsey.RustStd Wimsey.Codec Wimsey.Serde Wimsey.Jose Wimsey.HttpSig

/-! ## Targets -/

/-- The arguments of `build_request` that name a target. -/
structure Target where
  method : Str
  authority : Str
  path : Str
  query : Option Str
deriving DecidableEq, Repr

/-- The target of a request that is signed. -/
def SignArgs.target (args : SignArgs) : Target :=
  { method := args.method
    authority := args.authority
    path := args.path
    query := args.query }

/-- The target of a request that is verified. -/
def VerifyArgs.target (args : VerifyArgs) : Target :=
  { method := args.method
    authority := args.authority
    path := args.path
    query := args.query }

namespace Target

/-- The request for a target. -/
def request (t : Target) (headers : List (Str × Str)) :
    Outcome CliError HttpRequest :=
  buildRequest t.method t.authority t.path t.query headers

/-- The query without whitespace around it and without its delimiter.  An absent
one is empty. -/
def queryText (t : Target) : Str :=
  (Str.stripPrefix ['?'] (Str.trim (t.query.getD []))).getD
    (Str.trim (t.query.getD []))

/-- How many `?` the query starts with, after its delimiter. -/
def extraMarks (t : Target) : Nat := (t.queryText.takeWhile (· == '?')).length

/-- The two have the same method, path and query. -/
structure Same (a b : Target) : Prop where
  method : Str.trim a.method = Str.trim b.method
  path : Str.trim a.path = Str.trim b.path
  query : a.queryText = b.queryText

/-- What the request for a target derives for it. -/
structure Derives (t : Target) (request : HttpRequest) : Prop where
  method : request.componentValue .method = .ok (Str.trim t.method)
  authority : request.componentValue .authority
    = .ok (Str.toAsciiLowercase (Str.trim t.authority))
  path : request.componentValue .path = .ok (Str.trim t.path)
  query : request.componentValue .query
    = .ok ('?' :: t.queryText.dropWhile (· == '?'))

/-- One `?` or all of them: the rest of the query is the same. -/
theorem dropWhile_queryText (t : Target) :
    t.queryText.dropWhile (· == '?')
      = (Str.trim (t.query.getD [])).dropWhile (· == '?') := by
  unfold queryText
  cases hstrip : Str.stripPrefix ['?'] (Str.trim (t.query.getD [])) with
  | none => rfl
  | some rest =>
    rw [Str.stripPrefix_eq_some_iff.1 hstrip]
    rfl

theorem derives_of_request {t : Target} {headers : List (Str × Str)}
    {request : HttpRequest} (h : t.request headers = .ok request) :
    t.Derives request := by
  simp only [Target.request, buildRequest, checkedMethod, checkedAuthority,
    checkedPath, Outcome.bind_eq_ok_iff, Outcome.failIf_eq_ok_iff] at h
  obtain ⟨_, ⟨_, _, hmethod⟩, _, ⟨_, _, _, _, hauthority⟩, _,
    ⟨_, hslash, _, _, hpath⟩, hrequest⟩ := h
  obtain rfl := Outcome.ok.inj hmethod
  obtain rfl := Outcome.ok.inj hauthority
  obtain rfl := Outcome.ok.inj hpath
  obtain rfl := Outcome.ok.inj hrequest
  refine ⟨rfl, ?_, ?_, ?_⟩
  · exact congrArg Outcome.ok (toAsciiLowercase_idem _)
  · -- The path starts with a slash, so it is derived as it is.
    have hne : (Str.trim t.path).isEmpty = false := by
      cases hpath : Str.trim t.path with
      | nil => simp [hpath] at hslash
      | cons c path => rfl
    show Outcome.ok (HttpRequest.derivedPath _) = _
    rw [HttpRequest.derivedPath, if_neg (by simp [hne])]
  · rw [dropWhile_queryText]
    cases t.query <;> rfl

theorem request_of_checked {t : Target} {method authority path : Str}
    (hmethod : checkedMethod t.method = .ok method)
    (hauthority : checkedAuthority t.authority = .ok authority)
    (hpath : checkedPath t.path = .ok path) (headers : List (Str × Str)) :
    t.request headers = .ok
      { method := method
        authority := authority
        path := path
        query := t.query.map fun q => (Str.trim q).dropWhile (· == '?')
        headers := headers } := by
  rw [Target.request, buildRequest, hmethod, hauthority, hpath]
  rfl

/-- A query is the marks in front of it and the rest. -/
theorem queryText_eq (t : Target) :
    t.queryText
      = List.replicate t.extraMarks '?' ++
        t.queryText.dropWhile (· == '?') := by
  have hmarks :
      t.queryText.takeWhile (· == '?') = List.replicate t.extraMarks '?' := by
    refine List.eq_replicate_iff.2 ⟨rfl, fun c hc => ?_⟩
    simpa using List.mem_takeWhile_imp hc
  rw [← hmarks, List.takeWhile_append_dropWhile]

/-- The two differ in nothing but in how many `?` their queries start with. -/
structure Merged (a b : Target) : Prop where
  method : Str.trim a.method = Str.trim b.method
  path : Str.trim a.path = Str.trim b.path
  query : a.queryText.dropWhile (· == '?') = b.queryText.dropWhile (· == '?')
  marks : a.extraMarks ≠ b.extraMarks

/-- The two are a `CONNECT`, with another path or another query. -/
structure Unread (a b : Target) : Prop where
  connect : Str.trim a.method = CONNECT
  differ : Str.trim a.path ≠ Str.trim b.path ∨ a.queryText ≠ b.queryText

/-- The two requests derive the same values. -/
structure SameValues (request₁ request₂ : HttpRequest) : Prop where
  method : request₁.componentValue .method = request₂.componentValue .method
  path : request₁.componentValue .path = request₂.componentValue .path
  query : request₁.componentValue .query = request₂.componentValue .query

theorem Same.not_merged {a b : Target} (h : a.Same b) : ¬ a.Merged b := by
  intro hmerged
  apply hmerged.marks
  rw [extraMarks, extraMarks, h.query]

/-- Two targets with the same derived values are the same unless they are
merged. -/
theorem same_iff_of_derives {a b : Target} {request₁ request₂ : HttpRequest}
    (ha : a.Derives request₁) (hb : b.Derives request₂)
    (h : SameValues request₁ request₂) :
    a.Same b ↔ ¬ a.Merged b := by
  obtain ⟨hmethod, hpath, hquery⟩ := h
  rw [ha.method, hb.method] at hmethod
  rw [ha.path, hb.path] at hpath
  rw [ha.query, hb.query] at hquery
  have hrest := (List.cons.inj (Outcome.ok.inj hquery)).2
  constructor
  · exact Same.not_merged
  · intro hmerged
    have hmarks : a.extraMarks = b.extraMarks := by
      by_contra hne
      exact hmerged ⟨Outcome.ok.inj hmethod, Outcome.ok.inj hpath, hrest, hne⟩
    refine ⟨Outcome.ok.inj hmethod, Outcome.ok.inj hpath, ?_⟩
    rw [a.queryText_eq, b.queryText_eq, hmarks, hrest]

/-- Two `CONNECT` targets are the same unless their paths or queries differ. -/
theorem same_iff_of_connect {a b : Target}
    (hconnect : Str.trim a.method = CONNECT)
    (hmethod : Str.trim a.method = Str.trim b.method) :
    a.Same b ↔ ¬ (a.Merged b ∨ a.Unread b) := by
  constructor
  · intro hsame hor
    rcases hor with hmerged | ⟨_, hpath | hquery⟩
    · exact hsame.not_merged hmerged
    · exact hpath hsame.path
    · exact hquery hsame.query
  · intro hor
    refine ⟨hmethod, ?_, ?_⟩
    · by_contra hpath
      exact hor (Or.inr ⟨hconnect, Or.inl hpath⟩)
    · by_contra hquery
      exact hor (Or.inr ⟨hconnect, Or.inr hquery⟩)

theorem sameValues_of_merged {a b : Target} {request₁ request₂ : HttpRequest}
    (ha : a.Derives request₁) (hb : b.Derives request₂) (h : a.Merged b) :
    SameValues request₁ request₂ where
  method := by rw [ha.method, hb.method, h.method]
  path := by rw [ha.path, hb.path, h.path]
  query := by rw [ha.query, hb.query, h.query]

end Target

/-! ## Runs -/

section Runs

variable [Base64] [Wpt.Sha2] [Os] [GetRandom] [SerdeJson] [Ed25519] [P256]

/-- The key verifies no signature base but those of the runs of `wimsey httpsig
sign` in the log. -/
def VerifiesOnly (key : VerifyingKey) (log : Set SignArgs) : Prop :=
  ∀ (request : HttpRequest) components paramsValue base signature,
    signatureBaseFromParamsStr request components paramsValue = .ok base →
    key.verify (Str.asBytes base) signature = .ok () →
    ∃ args ∈ log, ∃ run : SignRun args,
      signatureBase run.request run.components run.params = .ok base

/-- A request that verifies derives the values of one that was signed. -/
theorem exists_sent {args : VerifyArgs} (run : Run args) {log : Set SignArgs}
    (honly : VerifiesOnly run.wit.popKey log) :
    ∃ signer ∈ log, ∃ sent : SignRun signer,
      HttpSig.SameTarget sent.request run.request := by
  obtain ⟨member, hauth, _, _⟩ := HttpSig.verify_eq_ok_iff.1 run.signed
  obtain ⟨sigBytes, base, _, hbase, hverify⟩ := hauth.signed
  obtain ⟨signer, hsigner, sent, hsent⟩ := honly _ _ _ _ _ hbase hverify
  obtain ⟨_, _, _, _, hparse⟩ := exists_of_selectMember hauth.selected
  obtain ⟨_, _, hvalues⟩ :=
    member_of_signatureBase sent.wellNamed hparse hbase hsent
  refine ⟨signer, hsigner, sent, sameTarget_of_components fun c hc => ?_⟩
  exact hvalues c (sent.covers (List.mem_append_left _ hc))

/-- Two targets whose requests derive the same method, path and query are the
same target, unless their queries differ in how many `?` they start with after
the delimiter.  What verifies was signed for the same target, unless the two are
merged so, or are a `CONNECT` with another path or query: for a `CONNECT` it is
the authority that is the same. -/
theorem same_target_iff :
    (∀ (a b : Target) (headers₁ headers₂ : List (Str × Str))
      (request₁ request₂ : HttpRequest),
      a.request headers₁ = .ok request₁ → b.request headers₂ = .ok request₂ →
      ((Target.SameValues request₁ request₂ → a.Same b) ↔ ¬ a.Merged b)) ∧
    ∀ (args : VerifyArgs) (run : Run args) (log : Set SignArgs),
      VerifiesOnly run.wit.popKey log →
      ∃ signer ∈ log, Str.trim signer.method = Str.trim args.method ∧
        (Str.trim args.method = CONNECT →
          Str.toAsciiLowercase (Str.trim signer.authority)
            = Str.toAsciiLowercase (Str.trim args.authority)) ∧
        (signer.target.Same args.target ↔
          ¬ (signer.target.Merged args.target ∨
            signer.target.Unread args.target)) := by
  constructor
  · intro a b headers₁ headers₂ request₁ request₂ h₁ h₂
    have ha := Target.derives_of_request h₁
    have hb := Target.derives_of_request h₂
    constructor
    · intro hsame hmerged
      have hvalues := Target.sameValues_of_merged ha hb hmerged
      exact (Target.same_iff_of_derives ha hb hvalues).1 (hsame hvalues) hmerged
    · intro hmerged hvalues
      exact (Target.same_iff_of_derives ha hb hvalues).2 hmerged
  · intro args run log honly
    obtain ⟨signer, hsigner, sent, htarget⟩ := exists_sent run honly
    have hsent : signer.target.Derives sent.request :=
      Target.derives_of_request sent.built
    have hreceived : args.target.Derives run.request :=
      Target.derives_of_request run.built
    have hvalue := congrArg (Outcome.ok (ε := HttpSigError)) htarget.method
    have hmethod : Str.trim signer.method = Str.trim args.method :=
      Outcome.ok.inj (hsent.method.symm.trans (hvalue.trans hreceived.method))
    have hname : run.request.method = Str.trim args.method :=
      Outcome.ok.inj hreceived.method
    refine ⟨signer, hsigner, hmethod, fun hconnect => ?_, ?_⟩
    · rw [← hname] at hconnect
      have hauthority :=
        congrArg (Outcome.ok (ε := HttpSigError)) (htarget.authority hconnect)
      exact Outcome.ok.inj
        (hsent.authority.symm.trans (hauthority.trans hreceived.authority))
    · by_cases hconnect : Str.trim signer.method = CONNECT
      · exact Target.same_iff_of_connect hconnect hmethod
      · have hunread : ¬ signer.target.Unread args.target :=
          fun h => hconnect h.connect
        rw [hmethod, ← hname] at hconnect
        rw [or_iff_left hunread]
        refine Target.same_iff_of_derives hsent hreceived ⟨hvalue, ?_, ?_⟩
        · exact congrArg Outcome.ok (htarget.path hconnect)
        · exact congrArg Outcome.ok (htarget.query hconnect)

end Runs

/-! ## A signature for two targets -/

namespace Example.Target

def token : Str :=
  Wit.Example.signingInput ++
    ".xnW2Wia64GJk17WPmHoG8TlXBfFJGNWQRa5voGxEMyuRfwpv96SGO436JM9ReOJvqfr6Ueg9TNEB__6_1ebjCA"

/-- The signature of the token by the key of the seed `02 02 ... 02`, the
issuer. -/
def tokenSignature : Vector UInt8 64 :=
  #v[198, 117, 182, 90, 38, 186, 224, 98, 100, 215, 181, 143, 152, 122, 6, 241,
    57, 87, 5, 241, 73, 24, 213, 144, 69, 174, 111, 160, 108, 68, 51, 43, 145,
    127, 10, 111, 247, 164, 134, 59, 141, 250, 36, 207, 81, 120, 226, 111, 169,
    250, 250, 81, 232, 61, 76, 209, 1, 255, 254, 191, 213, 230, 227, 8]

def paramsValue : Str :=
  ("(\"@method\" \"@path\" \"@query\" \"workload-identity-token\");created=90;expires=110" ++
    ";nonce=\"n\";tag=\"wimse-workload-to-workload\";wimse-aud=\"https://a.b\"")

def base : Str :=
  "\"@method\": POST\n\"@path\": /x\n\"@query\": ?\n\"workload-identity-token\": ".toList ++
    token ++ "\n\"@signature-params\": ".toList ++ paramsValue

/-- The signature of the base by the key of the seed `01 01 ... 01`, the
workload. -/
def signature : Vector UInt8 64 :=
  #v[233, 180, 56, 77, 99, 125, 211, 193, 190, 2, 191, 146, 113, 60, 233, 192,
    99, 48, 80, 16, 56, 51, 229, 92, 170, 242, 198, 204, 198, 255, 174, 141,
    162, 81, 131, 188, 122, 128, 192, 103, 58, 160, 182, 255, 33, 23, 85, 104,
    117, 189, 234, 196, 85, 13, 59, 39, 63, 184, 42, 100, 235, 199, 229, 12]

/-- The public keys of the two seeds. -/
def publicKey : Bool → Vector UInt8 32
  | true =>
      #v[129, 57, 119, 14, 168, 125, 23, 95, 86, 163, 84, 102, 195, 76, 126,
        204, 203, 141, 138,
      145, 180, 238, 55, 162, 93, 246, 15, 91, 143, 201, 179, 148]
  | false => Ed25519.publicKeyOfOnes

/-- The real signature of the one message that each of the keys signs. -/
def signatureBy : Bool → Bytes → Vector UInt8 64
  | true, message =>
      if message = Str.asBytes Wit.Example.signingInput then tokenSignature
      else Vector.replicate 64 0
  | false, message =>
    if message = Str.asBytes base then signature else Vector.replicate 64 0

/-- An `ed25519_dalek` with the two key pairs, where nothing else verifies under
the key of the workload. -/
local instance : Ed25519 where
  SigningKey := Bool
  VerifyingKey := Bool
  decEq := inferInstance
  signingKeyFromBytes seed := seed = Vector.replicate 32 2
  signingKeyToBytes key := Vector.replicate 32 (if key then 2 else 1)
  verifyingKey key := key
  sign := signatureBy
  verifyingKeyFromBytes b :=
    if b = publicKey true then some true else if b = publicKey false
      then some false else none
  verifyingKeyToBytes := publicKey
  verifyStrict
    | true, message, s => s = signatureBy true message
    | false, message, s => message = Str.asBytes base ∧ s = signature

open scoped Rfc4648 P256.Keyless

local instance : Wpt.Sha2 := Wpt.Sha2.single "" (Vector.replicate 32 0)

local instance : GetRandom where
  fill := .ok (Vector.replicate 16 0)

/-- The public key file of the issuer. -/
def issuerFile : Json :=
  .object (member "kty" (.str "OKP") ++ member "crv" (.str "Ed25519") ++
    member "x" (.str "gTl3Dqh9F19Wo1Rmw0x-zMuNipG07jeiXfYPW4_Js5Q"))

def issuerJson : Bytes :=
  Str.asBytes ("\x7b\"kty\":\"OKP\",\"crv\":\"Ed25519\"," ++
    "\"x\":\"gTl3Dqh9F19Wo1Rmw0x-zMuNipG07jeiXfYPW4_Js5Q\"\x7d")

/-- The private key file of the workload. -/
def popFile : Json :=
  .object (member "kty" (.str "OKP") ++ member "crv" (.str "Ed25519") ++
    member "x" (.str "iojj3XQJ8ZX9UtstPLpdcspnCb8dlBIb83SIAbQPb1w") ++
    member "d" (.str "AQEBAQEBAQEBAQEBAQEBAQEBAQEBAQEBAQEBAQEBAQE"))

def popJson : Bytes :=
  Str.asBytes ("\x7b\"kty\":\"OKP\",\"crv\":\"Ed25519\"," ++
    "\"x\":\"iojj3XQJ8ZX9UtstPLpdcspnCb8dlBIb83SIAbQPb1w\"," ++
    "\"d\":\"AQEBAQEBAQEBAQEBAQEBAQEBAQEBAQEBAQEBAQEBAQE\"\x7d")

def table : List (Json × Bytes) :=
  [(Wit.Example.claims.serialize, Wit.Example.claimsJson),
    (Wit.Example.header.serialize, Wit.Example.headerJson),
    (issuerFile, issuerJson), (popFile, popJson)]

noncomputable local instance : SerdeJson := SerdeJson.ofTable table

theorem nodup_table : (table.map (·.2)).Nodup := by
  unfold table issuerJson popJson Wit.Example.headerJson Wit.Example.claimsJson
  repeat rw [String.toList_ofList]
  decide

local instance : SerdeJson.Lawful := SerdeJson.ofTable_lawful nodup_table

local instance : Os where
  read path :=
    if path = "issuer.json" then some issuerJson
    else if path = "pop.json" then some popJson
    else none
  nowUnix := 99

/-- The request is for `/x`, without a query. -/
def signArgs : SignArgs :=
  { popKey := "pop.json"
    method := "POST"
    authority := "a.b"
    path := "/x"
    query := none
    header := []
    wit := some token
    bodyFile := none
    cover := none
    aud := "https://a.b"
    nonce := some "n"
    created := some 90
    expiresIn := 20
    signResponse := false
    label := "wimse" }

/-- The same request with a query. -/
def verifyArgs (query : Str) : VerifyArgs :=
  { issuerJwk := "issuer.json"
    wit := token
    method := "POST"
    authority := "a.b"
    path := "/x"
    query := some query
    header := []
    bodyFile := none
    signatureInput := "wimse=".toList ++ paramsValue
    signature :=
      ("wimse=:6bQ4TWN908G+Ar+ScTzpwGMwUBA4M+VcqvLGzMb/ro2iUYO8eoDAZzqgtv8hF1Vodb3q" ++
      "xFUNOyc/uCpk68flDA==:")
    aud := ["https://a.b"]
    require := none
    expectedIss := none
    maxAge := none
    leeway := 5
    now := none }

def request (query : Option Str) : HttpRequest :=
  { method := "POST"
    authority := "a.b"
    path := "/x"
    query := query
    headers := [("Workload-Identity-Token", token)] }

def params : SignatureParams :=
  { SignatureParams.default with
    created := some 90
    expires := some 110
    nonce := some "n"
    tag := some WIMSE_TAG
    wimseAud := some "https://a.b" }

def issuer : SigningKey := .ed25519 true

def pop : SigningKey := .ed25519 false

theorem load_issuer :
    ∃ jwk, load "issuer.json" = .ok jwk ∧
    jwk.verifyingKey = .ok issuer.verifyingKey := by
  have hread : Os.read "issuer.json" = some issuerJson := if_pos rfl
  have hjson :=
    fromSlice_ofTable nodup_table (p := (issuerFile, issuerJson))
      (by simp [table])
  have hkey : ∃ jwk, JwkKey.deserialize issuerFile = .ok jwk ∧
      jwk.verifyingKey = .ok issuer.verifyingKey :=
    ⟨_, rfl, by decide⟩
  obtain ⟨jwk, hjwk, hverifying⟩ := hkey
  exact ⟨jwk, load_of_deserialize hread hjson hjwk, hverifying⟩

theorem load_pop :
    ∃ jwk, load "pop.json" = .ok jwk ∧ jwk.signingKey = .ok pop := by
  have hread : Os.read "pop.json" = some popJson :=
    (if_neg (by decide)).trans (if_pos rfl)
  have hjson :=
    fromSlice_ofTable nodup_table (p := (popFile, popJson)) (by simp [table])
  have hkey : ∃ jwk, JwkKey.deserialize popFile = .ok jwk ∧
      ∃ key, jwk.signingKey = .ok key ∧ key.toBytes = Vector.replicate 32 1 :=
    ⟨_, rfl, by decide +kernel⟩
  obtain ⟨jwk, hjwk, key, hsigning, hseed⟩ := hkey
  refine ⟨jwk, load_of_deserialize hread hjson hjwk, ?_⟩
  rw [hsigning]
  cases key with
  | ed25519 key =>
    cases key with
    | true => exact absurd hseed (by decide)
    | false => rfl
  | p256 key => cases key

theorem sign_issuer (message : Bytes) :
    issuer.sign message = signatureBy true message := rfl

theorem sign_pop (message : Bytes) :
    pop.sign message = signatureBy false message := rfl

theorem verify_pop_iff {message s : Bytes} :
    pop.verifyingKey.verify message s = .ok () ↔
      message = Str.asBytes base ∧ s = signature.toList := by
  simp only [pop, SigningKey.verifyingKey, VerifyingKey.verify,
    Outcome.bind_eq_ok_iff, Outcome.okOr_eq_ok_iff, tryInto_eq_some_iff,
    Outcome.failIf_eq_ok_iff, Bool.not_eq_false']
  constructor
  · rintro ⟨(v : Vector UInt8 64), hs, hverify⟩
    obtain ⟨hmessage, hv⟩ : message = Str.asBytes base ∧ v = signature :=
      of_decide_eq_true hverify
    exact ⟨hmessage,
      hs.trans (congrArg (fun v : Vector UInt8 64 => v.toList) hv)⟩
  · rintro ⟨hmessage, hs⟩
    exact ⟨signature, hs,
      decide_eq_true (⟨hmessage, rfl⟩ : message = Str.asBytes base ∧ _)⟩

theorem issuer_selfVerifies : issuer.SelfVerifies := by
  intro message
  simp only [issuer, SigningKey.verifyingKey, VerifyingKey.verify,
    SigningKey.sign, SIGNATURE_LEN, tryInto_toList, Outcome.okOr_some,
    Outcome.ok_bind]
  show Outcome.failIf
    (!decide (signatureBy true message = signatureBy true message)) _ = _
  simp

theorem encode_tokenSignature :
    '.' :: Base64.URL_SAFE_NO_PAD.encode tokenSignature.toList =
      ".xnW2Wia64GJk17WPmHoG8TlXBfFJGNWQRa5voGxEMyuRfwpv96SGO436JM9ReOJvqfr6Ueg9TNEB__6_1ebjCA".toList
    := by
  rw [String.toList_ofList]
  decide

theorem trim_token : Str.trim token = token := by
  unfold token Wit.Example.signingInput
  repeat rw [String.toList_ofList]
  decide +kernel

theorem len_token : Str.len token ≤ Wit.MAX_TOKEN_LEN := by
  unfold token Wit.Example.signingInput
  repeat rw [String.toList_ofList]
  decide +kernel

theorem verify_token :
    Wit.verify token issuer.verifyingKey (Wit.Validation.at 99)
    = .ok
      { claims := Wit.Example.claims, kid := none, popKey := pop.verifyingKey }
        := by
  have hdistinct : (table.map (·.1)).Nodup := by
    simp [table, Wit.WitClaims.serialize, Wit.Header.serialize,
      Wit.Example.claims, Wit.Example.header, issuerFile, popFile,
      optMember, member]
  have hheader : toVec (Wit.issuedHeader none issuer).serialize
      = .ok Wit.Example.headerJson :=
    toVec_ofTable
      (p := (Wit.Example.header.serialize, Wit.Example.headerJson)) hdistinct
      (by simp [table])
  have hclaims :
      toVec Wit.Example.claims.serialize = .ok Wit.Example.claimsJson :=
    toVec_ofTable
      (p := (Wit.Example.claims.serialize, Wit.Example.claimsJson)) hdistinct
      (by simp [table])
  have hsign : (issuer.sign (Str.asBytes Wit.Example.signingInput)).toList
      = tokenSignature.toList := by
    rw [sign_issuer, signatureBy, if_pos rfl]
    rfl
  have htoken : Wit.Example.signingInput ++ '.' ::
      Base64.URL_SAFE_NO_PAD.encode tokenSignature.toList = token := by
    rw [token, encode_tokenSignature]
  have hpop : Wit.Example.jwk.toVerifyingKey = .ok pop.verifyingKey := by
    decide +kernel
  have hissue := Wit.issue_of_toVec hheader hclaims Wit.Example.encode_parts
  rw [hsign, htoken] at hissue
  apply Wit.verify_of_issue Rfc4648.urlSafe_lawful issuer_selfVerifies
    hissue len_token
  exact
    { exp := by decide
      iat := by simp [Wit.Example.claims]
      iss := by simp [Wit.Validation.at]
      cnf := hpop }

theorem requestComponents_request :
    requestComponents (request none)
      = [.method, .path, .query, .ofHeader WIT_HEADER] := by
  decide

/-- Both requests have the base that is signed. -/
theorem signatureBase_request {query : Option Str}
    (h : query = none ∨ query = some []) :
    signatureBase (request query) (requestComponents (request none)) params
      = .ok base := by
  have hnone :
      signatureBase (request none) (requestComponents (request none)) params
      = .ok base := by
    rw [requestComponents_request]
    unfold request base token Wit.Example.signingInput paramsValue
    repeat rw [String.toList_ofList]
    decide +kernel
  rcases h with rfl | rfl
  · exact hnone
  · rw [← hnone, requestComponents_request]
    rfl

/-- The request for `/x`, with any query and any headers. -/
theorem request_eq (query : Option Str) (headers : List (Str × Str)) :
    buildRequest "POST" "a.b" "/x" query headers = .ok
      { request (query.map fun q => (Str.trim q).dropWhile (· == '?')) with
        headers := headers } := by
  have hmethod : checkedMethod "POST" = .ok "POST".toList := by decide
  have hauthority : checkedAuthority "a.b" = .ok "a.b".toList := by decide
  have hpath : checkedPath "/x" = .ok "/x".toList := by decide
  exact Target.request_of_checked (t := ⟨"POST", "a.b", "/x", query⟩) hmethod
    hauthority hpath headers

theorem sign_request {query : Option Str} (h : query = none ∨ query = some []) :
    HttpSig.sign (request query) (requestComponents (request none)) params
      "wimse" pop
      = .ok
        { signatureInput := (verifyArgs []).signatureInput
          signature := (verifyArgs []).signature } := by
  have hsign : (pop.sign (Str.asBytes base)).toList = signature.toList := by
    rw [sign_pop, signatureBy, if_pos rfl]
    rfl
  have hinput : (verifyArgs []).signatureInput
      = "wimse=".toList ++
        serializeParamsValue (requestComponents (request none)) params := by
    rw [requestComponents_request]
    unfold verifyArgs paramsValue
    repeat rw [String.toList_ofList]
    decide +kernel
  have htext : (verifyArgs []).signature = "wimse=".toList ++
      signatureText signature := by
    unfold verifyArgs
    repeat rw [String.toList_ofList]
    decide +kernel
  refine sign_eq_ok_iff.2 ⟨base, signatureBase_request h, ?_⟩
  rw [signatureText, hsign, hinput, htext]
  rfl

theorem exists_signRun : ∃ run :
    SignRun signArgs, run.pop = pop ∧ run.request = request none ∧
    run.components = requestComponents (request none) ∧ run.params = params ∧
      run.label = "wimse" ∧ run.signed =
        { signatureInput := (verifyArgs []).signatureInput
          signature := (verifyArgs []).signature } := by
  obtain ⟨jwk, hload, hpop⟩ := load_pop
  have hwit : signArgs.withWit []
      = .ok [("Workload-Identity-Token".toList, token)] := by
    show Outcome.ok [("Workload-Identity-Token".toList, Str.trim token)] = _
    rw [trim_token]
  have heval : signArgs.params (Str.trim signArgs.aud) = .ok params ∧
      checkedLabel signArgs.label = .ok "wimse".toList := by
    decide
  obtain ⟨hparams, hlabel⟩ := heval
  exact ⟨⟨jwk, pop, [], [], _, request none, _, params, _, _, hload, hpop, rfl,
    rfl, hwit, request_eq none _, rfl, by decide, hparams, hlabel,
    sign_request (Or.inl rfl)⟩, rfl, rfl, rfl,
    rfl, rfl, rfl⟩

/-- The key of the workload has signed this one request. -/
theorem verifiesOnly_pop : VerifiesOnly pop.verifyingKey {signArgs} := by
  intro _ _ _ b _ _ hverify
  obtain ⟨run, _, hrequest, hcomponents, hparams, _⟩ := exists_signRun
  refine ⟨signArgs, rfl, run, ?_⟩
  rw [hrequest, hcomponents, hparams,
    Str.asBytes_injective (verify_pop_iff.1 hverify).1]
  exact signatureBase_request (Or.inl rfl)

theorem isKey : IsKey "wimse" := by
  decide

/-- The other half allows the signature. -/
theorem allows (query : Str) :
    Allows (request (some [])) pop.verifyingKey
      ((verifyArgs query).verifyConfig 99
        (requestComponents (request (some []))))
      "wimse" (requestComponents (request none)) params := by
  obtain ⟨sent, _, _, hcomponents, hparams, hlabel, _⟩ := exists_signRun
  rw [← hcomponents, ← hparams, ← hlabel]
  refine sent.allows _ ?_ ?_ ?_ ?_ ?_
  · intro hconnect
    have hmethod : ("POST" : Str) = CONNECT := Outcome.ok.inj hconnect
    exact absurd hmethod (by decide)
  · rw [hcomponents]
    decide
  · show Str.trim signArgs.aud ∈ ["https://a.b".toList].map Str.trim
    decide
  · rw [hparams]
    intro created hcreated
    obtain rfl := Option.some.inj hcreated
    have hle : (90 : UInt64) ≤ saturatingAdd 99 5 := by decide
    exact ⟨hle, nofun⟩
  · rw [hparams]
    intro expires hexpires
    obtain rfl := Option.some.inj hexpires
    show (99 : UInt64) ≤ saturatingAdd 110 5
    decide

/-- The other half verifies the signature for every query of nothing but `?`. -/
theorem exists_run {query : Str}
    (h : (Str.trim query).dropWhile (· == '?') = []) :
    ∃ run : Run (verifyArgs query), run.wit.popKey = pop.verifyingKey := by
  obtain ⟨jwk, hload, hissuer⟩ := load_issuer
  have hinput : Str.trim (verifyArgs []).signatureInput
      = (verifyArgs []).signatureInput := by
    unfold verifyArgs paramsValue
    repeat rw [String.toList_ofList]
    decide +kernel
  have hsignature :
      Str.trim (verifyArgs []).signature = (verifyArgs []).signature := by
    unfold verifyArgs
    repeat rw [String.toList_ofList]
    decide +kernel
  have hcovered : (request (some [])).componentValue (.ofHeader WIT_HEADER)
      = .ok token := by
    unfold request token Wit.Example.signingInput
    repeat rw [String.toList_ofList]
    decide +kernel
  have hheaders : withDigest (withWit [] (Str.trim token)) none
      = [("Workload-Identity-Token".toList, token)] := by
    rw [trim_token]
    rfl
  have hbuilt : buildRequest "POST" "a.b" "/x" (some query)
      (withDigest (withWit [] (Str.trim token)) none)
        = .ok (request (some [])) := by
    rw [hheaders, request_eq, Option.map_some, h]
    rfl
  have hself : ∀ b,
      signatureBase (request (some [])) (requestComponents (request none))
        params = .ok b →
      pop.verifyingKey.verify (Str.asBytes b)
        (pop.sign (Str.asBytes b)).toList = .ok () := by
    intro b hb
    obtain rfl :=
      Outcome.ok.inj ((signatureBase_request (Or.inr rfl)).symm.trans hb)
    refine verify_pop_iff.2 ⟨rfl, ?_⟩
    rw [sign_pop, signatureBy, if_pos rfl]
    rfl
  have hsigned :=
    verify_of_allows Rfc4648.standard_lawful
      (wellNamed_requestComponents _) isKey
    (sign_request (Or.inr rfl)) hself (allows query)
  have hverified := verify_token
  rw [← trim_token] at hcovered hverified
  rw [← hinput, ← hsignature] at hsigned
  exact ⟨⟨jwk, issuer.verifyingKey, _, [], none, request (some []), _, _, hload,
    hissuer, hverified, rfl, rfl, hbuilt, hcovered, rfl, hsigned, rfl⟩, rfl⟩

theorem not_merged :
    ¬ signArgs.target.Merged (verifyArgs "?").target := fun h =>
  h.marks (by decide)

theorem not_unread :
    ¬ signArgs.target.Unread (verifyArgs "?").target := fun h =>
  absurd h.connect (by decide)

/-- What is signed for `/x` without a query verifies for `/x` with the query
`??`, which derives the same values, although one `?` of it is not the
delimiter. -/
theorem merged_targets :
    ∃ signed report request₁ request₂, runSign signArgs = .ok signed ∧
      (verifyArgs "??").signatureInput = signed.signatureInput ∧
      (verifyArgs "??").signature = signed.signature ∧
      runVerify (verifyArgs "??") = .ok report ∧
      signArgs.target.request [] = .ok request₁ ∧
      (verifyArgs "??").target.request [] = .ok request₂ ∧
      Target.SameValues request₁ request₂ ∧
      ¬ signArgs.target.Same (verifyArgs "??").target := by
  obtain ⟨sent, _, _, _, _, _, hsigned⟩ := exists_signRun
  have hquery : (Str.trim "??").dropWhile (· == '?') = [] := by decide
  obtain ⟨run, _⟩ := exists_run hquery
  have hsign := runSign_eq_ok_iff.2 ⟨sent, hsigned⟩
  have hverify := runVerify_eq_ok_iff.2 ⟨run, rfl⟩
  refine ⟨_, _, { request none with headers := [] },
    { request (some []) with headers := [] }, hsign, rfl, rfl, hverify,
    request_eq none [], request_eq (some "??") [], ⟨rfl, rfl, rfl⟩,
    fun hsame => ?_⟩
  have hne : signArgs.target.queryText
      ≠ (verifyArgs "??").target.queryText := by decide
  exact hne hsame.query

/-- The query `?` is only the delimiter. -/
theorem same_target_iff_example :
    (Target.SameValues (request none) (request (some [])) →
      signArgs.target.Same (verifyArgs "?").target) ∧
    ∃ report, runVerify (verifyArgs "?") = .ok report ∧
      ∃ signer ∈ ({signArgs} : Set SignArgs),
      signer.target.Same (verifyArgs "?").target := by
  obtain ⟨htargets, hruns⟩ := same_target_iff
  have hquery : (Str.trim "?").dropWhile (· == '?') = [] := by decide
  obtain ⟨run, hpop⟩ := exists_run hquery
  have honly : VerifiesOnly run.wit.popKey {signArgs} := by
    rw [hpop]
    exact verifiesOnly_pop
  obtain ⟨signer, hsigner, _, _, hsame⟩ := hruns _ run {signArgs} honly
  have hsent : signArgs.target.request [("Workload-Identity-Token", token)]
      = .ok (request none) :=
    request_eq none _
  have hreceived :
      (verifyArgs "?").target.request [("Workload-Identity-Token", token)]
      = .ok (request (some [])) := request_eq (some "?") _
  refine ⟨(htargets _ _ _ _ _ _ hsent hreceived).2 not_merged, _,
    runVerify_eq_ok_iff.2 ⟨run, rfl⟩, signer, hsigner, ?_⟩
  obtain rfl := Set.mem_singleton_iff.1 hsigner
  exact hsame.2 (not_or.2 ⟨not_merged, not_unread⟩)

end Example.Target

end Wimsey.Cli
