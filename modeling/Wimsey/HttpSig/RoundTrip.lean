import Wimsey.HttpSig.Verdict
import Wimsey.HttpSig.Writer

/-!
# Signed messages verify

The two fields that `sign` returns are dictionaries of one member.  The member
reads back as the label, the components and the parameters that were signed, and
the signature is the key's own.  So the verification of a signed message is
decided by the configuration alone: it succeeds exactly when `Allows` holds of
what was signed.
-/

namespace Wimsey.HttpSig

open Wimsey.RustStd Wimsey.Codec Wimsey.Jose Wimsey.Scan

/-! ## The members that are signed -/

section Members

variable {components : List Component} {label : Str}

/-- The `Signature-Input` member of a signature, with whitespace before it. -/
def inputMember (pad : Str) (hpad : ∀ c ∈ pad, Str.isWhitespace c = true)
    (hlabel : IsKey label) (hcomponents : ∀ c ∈ components, c.TokenNamed)
    (params : SignatureParams) : DictMember where
  pad := pad
  label := label
  text := serializeParamsValue components params
  isPad := hpad
  isKey := hlabel
  neutral := dictionary_serialize hcomponents params

variable [Base64]

/-- The signature as it stands in the `Signature` field. -/
def signatureText (sigBytes : Vector UInt8 SIGNATURE_LEN) : Str :=
  ':' :: Base64.STANDARD.encode sigBytes.toList ++ [':']

theorem pieceOk_signatureText
    (hbase64 : Base64.STANDARD.Lawful (Rfc4648.standardAlphabet ++ ['=']))
    (sigBytes : Vector UInt8 SIGNATURE_LEN) :
    PieceOk (signatureText sigBytes) := by
  have halphabet : PlainText (':' :: Rfc4648.standardAlphabet) := by decide
  apply pieceOk_of_plain
  intro c hc
  rw [signatureText, List.cons_append, List.mem_cons, List.mem_append,
    List.mem_singleton] at hc
  rcases hc with rfl | hc | rfl
  · exact Or.inl (by decide)
  · rcases List.mem_append.1 (hbase64.mem_alphabet _ c hc) with hmem | hmem
    · exact Or.inl (halphabet c (List.mem_cons_of_mem _ hmem))
    · exact Or.inr (List.mem_singleton.1 hmem)
  · exact Or.inl (by decide)

/-- The `Signature` member of a signature, with whitespace before it. -/
def signatureMember
    (hbase64 : Base64.STANDARD.Lawful (Rfc4648.standardAlphabet ++ ['=']))
    (pad : Str) (hpad : ∀ c ∈ pad, Str.isWhitespace c = true)
    (hlabel : IsKey label) (sigBytes : Vector UInt8 SIGNATURE_LEN) :
    DictMember where
  pad := pad
  label := label
  text := signatureText sigBytes
  isPad := hpad
  isKey := hlabel
  neutral := (pieceOk_signatureText hbase64 sigBytes).dictionary

theorem trim_signatureText
    (hbase64 : Base64.STANDARD.Lawful (Rfc4648.standardAlphabet ++ ['=']))
    (sigBytes : Vector UInt8 SIGNATURE_LEN) :
    Str.trim (signatureText sigBytes) = signatureText sigBytes := by
  refine Str.trim_eq_self (fun c hc => ?_)
    (pieceOk_signatureText hbase64 sigBytes).last
  obtain rfl := Option.some.inj hc
  decide

end Members

section RoundTrip

variable {M : Type} [ComponentSource M] [Base64] [Ed25519] [P256]

/-- What `sign` returns, in terms of its base. -/
theorem sign_eq_ok_iff {message : M} {components : List Component}
    {params : SignatureParams} {label : Str} {key : SigningKey}
    {signed : SignedSignature} :
    sign message components params label key = .ok signed ↔
      ∃ base, signatureBase message components params = .ok base ∧
        signed =
          { signatureInput :=
              label ++ '=' :: serializeParamsValue components params
            signature := label ++
              '=' :: signatureText (key.sign (Str.asBytes base)) } := by
  unfold sign signatureBase
  simp only [Outcome.bind_eq_ok_iff, Outcome.ok.injEq, signatureText]
  constructor
  · intro ⟨base, hbase, hsigned⟩
    exact ⟨base, hbase, by rw [← hsigned]; simp⟩
  · intro ⟨base, hbase, hsigned⟩
    exact ⟨base, hbase, by rw [hsigned]; simp⟩

theorem exists_sign {message : M} {components : List Component}
    {params : SignatureParams} {base : Str} (label : Str) (key : SigningKey)
    (h : signatureBase message components params = .ok base) :
    ∃ signed, sign message components params label key = .ok signed :=
  ⟨_, sign_eq_ok_iff.2 ⟨base, h, rfl⟩⟩

/-- The configuration accepts a signature of the key with this label, over these
components and with these parameters. -/
structure Allows (message : M) (key : VerifyingKey) (config : VerifyConfig)
    (label : Str) (components : List Component) (params : SignatureParams) :
    Prop extends Admits message key config components params,
    Policy config components params where
  label : config.profiled = false → ∀ expected, config.label = some expected →
    expected = label

omit [Base64] [Ed25519] [P256] in
/-- The label is looked at only when no profile is enforced. -/
theorem labelCheck_eq_ok_iff {config : VerifyConfig} {label : Str} {u : Unit} :
    Outcome.when (!config.profiled)
        (Outcome.ifSome config.label fun expected =>
          Outcome.failIf (expected != label) HttpSigError.labelMismatch)
            = .ok u ↔
      (config.profiled = false → ∀ expected, config.label = some expected →
        expected = label) := by
  simp only [Outcome.when_eq_ok_iff, Outcome.ifSome_eq_ok_iff,
    Outcome.failIf_eq_ok_iff, bne_eq_false_iff_eq, Bool.not_eq_true']

omit [Base64] [Ed25519] [P256] in
/-- A lone member is selected, unless it has to have another label. -/
theorem selectMember_of_lone {signatureInput label rest : Str}
    (config : VerifyConfig) {member m : InputMember}
    (hsplit : splitDictionary signatureInput = .ok [(label, rest)])
    (hparse : parseInputMember label rest = .ok member) :
    selectMember signatureInput config = .ok m ↔
      m = member ∧
        (config.profiled = false → ∀ expected, config.label = some expected →
          expected = label) := by
  unfold selectMember chooseMember
  rw [hsplit, Outcome.ok_bind, Outcome.ok_bind]
  simp only [Outcome.bind_eq_ok_iff, labelCheck_eq_ok_iff, hparse,
    Outcome.ok.injEq, exists_const]
  constructor
  · exact fun ⟨hlabel, hm⟩ => ⟨hm.symm, hlabel⟩
  · exact fun ⟨hm, hlabel⟩ => ⟨hlabel, hm.symm⟩

variable {message : M} {components : List Component} {params : SignatureParams}
  {label : Str} {key : SigningKey} {signed : SignedSignature}

/-- The two fields of a signed message, read back. -/
theorem read_sign
    (hbase64 : Base64.STANDARD.Lawful (Rfc4648.standardAlphabet ++ ['=']))
    (hcomponents : ∀ c ∈ components, c.TokenNamed) (hlabel : IsKey label)
    (h : sign message components params label key = .ok signed) :
    splitDictionary signed.signatureInput
        = .ok [(label, serializeParamsValue components params)] ∧
      ∃ base, signatureBase message components params = .ok base ∧
        parseSignature signed.signature label
          = .ok (key.sign (Str.asBytes base)) := by
  have hpad : ∀ c ∈ ([] : Str), Str.isWhitespace c = true := by simp
  obtain ⟨base, hbase, rfl⟩ := sign_eq_ok_iff.1 h
  let input := inputMember [] hpad hlabel hcomponents params
  let signature :=
    signatureMember hbase64 [] hpad hlabel (key.sign (Str.asBytes base))
  have hinput := splitDictionary_render (List.cons_ne_nil input []) (by simp)
  have hsignature :=
    splitDictionary_render (List.cons_ne_nil signature []) (by simp)
  have hparams :=
    Str.trimEnd_of_lastKept (lastKept_serializeParamsValue components params)
  have hsig := Str.trimEnd_of_lastKept
    (pieceOk_signatureText hbase64 (key.sign (Str.asBytes base))).last
  have hfind :
      [(label, signatureText (key.sign (Str.asBytes base)))].find?
          (fun m => m.1 == label)
        = some (label, signatureText (key.sign (Str.asBytes base))) := by
    simp
  simp only [renderDictionary, List.map_cons, List.map_nil,
    List.intercalate_singleton, DictMember.render, DictMember.read, input,
    signature, inputMember, signatureMember, List.nil_append, hparams,
    hsig] at hinput hsignature
  exact ⟨hinput, base, hbase, parseSignature_of_find hbase64 hsignature hfind
    (trim_signatureText hbase64 _)⟩

/-- A signed message verifies when the key verifies this one signature and the
configuration allows what was signed. -/
theorem verify_of_allows
    (hbase64 : Base64.STANDARD.Lawful (Rfc4648.standardAlphabet ++ ['=']))
    (hcomponents : ∀ c ∈ components, c.WellNamed) (hlabel : IsKey label)
    (h : sign message components params label key = .ok signed)
    (hverify : ∀ base, signatureBase message components params = .ok base →
      key.verifyingKey.verify (Str.asBytes base)
        (key.sign (Str.asBytes base)).toList = .ok ())
    {config : VerifyConfig}
    (hallows : Allows message key.verifyingKey config label components params) :
    verify message signed.signatureInput signed.signature
      key.verifyingKey config
      = .ok { label := label, components := components, params := params } := by
  obtain ⟨hsplit, base, hbase, hsig⟩ :=
    read_sign hbase64 (fun c hc => (hcomponents c hc).tokenNamed) hlabel h
  have hparse := parseInputMember_serialize label hcomponents
    (trim_serializeParamsValue components params)
  have hselect := (selectMember_of_lone _ hsplit hparse).2 ⟨rfl, hallows.label⟩
  exact verify_eq_ok_iff.2 ⟨_, ⟨hselect, hallows.toAdmits, _, base, hsig, hbase,
    hverify base hbase⟩, hallows.toPolicy, rfl⟩

/-- A signed message reads back as what was signed, and it verifies under its
own key exactly when the configuration allows what was signed.  Then the label,
the components and the parameters are the signed ones. -/
theorem verify_signed_message
    (hbase64 : Base64.STANDARD.Lawful (Rfc4648.standardAlphabet ++ ['=']))
    (hkey : key.SelfVerifies) (hcomponents : ∀ c ∈ components, c.WellNamed)
    (hlabel : IsKey label)
    (h : sign message components params label key = .ok signed)
    (config : VerifyConfig) :
    (∃ rest, splitDictionary signed.signatureInput = .ok [(label, rest)] ∧
      parseInputMember label rest = .ok
        { label := label
          components := components
          params := params
          paramsValue := rest }) ∧
    (∀ w,
      verify message signed.signatureInput signed.signature key.verifyingKey
          config = .ok w →
      w = { label := label, components := components, params := params }) ∧
    (verify message signed.signatureInput signed.signature
      key.verifyingKey config
        = .ok { label := label, components := components, params := params } ↔
      Allows message key.verifyingKey config label components params) := by
  obtain ⟨hsplit, _⟩ :=
    read_sign hbase64 (fun c hc => (hcomponents c hc).tokenNamed) hlabel h
  have hparse := parseInputMember_serialize label hcomponents
    (trim_serializeParamsValue components params)
  refine ⟨⟨_, hsplit, hparse⟩, fun w hw => ?_, ?_, ?_⟩
  · obtain ⟨member, hauth, _, rfl⟩ := verify_eq_ok_iff.1 hw
    obtain ⟨rfl, _⟩ := (selectMember_of_lone _ hsplit hparse).1 hauth.selected
    rfl
  · intro hw
    obtain ⟨member, hauth, hpolicy, _⟩ := verify_eq_ok_iff.1 hw
    obtain ⟨rfl, hlabel⟩ :=
      (selectMember_of_lone _ hsplit hparse).1 hauth.selected
    exact { toAdmits := hauth.admitted, toPolicy := hpolicy, label := hlabel }
  · exact verify_of_allows hbase64 hcomponents hlabel h fun _ _ => hkey _

end RoundTrip

/-! ## A signed request -/

namespace Example

def request : HttpRequest :=
  { method := "GET"
    authority := "a.b"
    path := []
    query := none
    headers := [] }

/-- Parameters with a quote in the nonce. -/
def params : SignatureParams :=
  { created := some 1
    expires := some 9
    keyid := none
    alg := none
    nonce := some "a\"b"
    tag := some WIMSE_TAG
    wimseAud := some "https://a.b"
    wimseSignResponse := none
    wimseReqNonce := none }

def base : Str :=
  ("\"@method\": GET\n\"@path\": /\n\"@query\": ?\n" ++
    "\"@signature-params\": (\"@method\" \"@path\" \"@query\");created=1;expires=9" ++
    ";nonce=\"a\\\"b\";tag=\"wimse-workload-to-workload\";wimse-aud=\"https://a.b\"")

/-- The signature of the base by the key of the seed `01 01 ... 01`. -/
def signature : Vector UInt8 64 :=
  #v[112, 51, 115, 210, 51, 27, 130, 252, 42, 3, 173, 195, 163, 227, 9, 230, 74,
    163, 194, 223, 72, 124, 186, 160, 204, 85, 130, 59, 211, 16, 233, 130, 199,
    58, 148, 194, 239, 43, 80, 43, 52, 226, 42, 56, 2, 57, 60, 205, 10, 182,
    200, 219, 201, 32, 182, 99, 34, 239, 121, 130, 16, 40, 231, 1]

/-- A recipient that enforces the request profile for the request. -/
def config : VerifyConfig :=
  { now := some 5
    leeway := 0
    label := none
    requiredComponents := requestComponents request
    maxAge := some 10
    wimseProfile := true
    expectedAudiences := ["https://a.b"]
    wimseResponseProfile := false
    expectedReqNonce := none
    acceptedAlgorithms := [] }

theorem signatureBase_request :
    signatureBase request (requestComponents request) params = .ok base := by
  decide +kernel

theorem wellNamed : ∀ c ∈ requestComponents request, c.WellNamed := by
  have hcomponents : requestComponents request = [.method, .path, .query] := by
    decide
  rw [hcomponents]
  simp [Component.WellNamed]

theorem isKey : IsKey "wimse" := by
  decide

theorem allows [Ed25519] [P256] (key : VerifyingKey) :
    Allows request key config "wimse" (requestComponents request) params where
  request _ := ⟨⟨rfl, rfl, rfl, rfl, rfl, rfl⟩, rfl⟩
  response h := by cases h
  connect _ h := by
    have hmethod : ("GET" : Str) = CONNECT := Outcome.ok.inj h
    exact absurd hmethod (by decide)
  accepted := Or.inl rfl
  alg _ h := by cases h
  required := by decide
  audience _ := ⟨"https://a.b", by simp [config], rfl⟩
  reqNonce _ h := by cases h
  window created hcreated expires hexpires := by
    obtain rfl := Option.some.inj hcreated
    obtain rfl := Option.some.inj hexpires
    decide
  clock _ := rfl
  expires now hnow expires hexpires := by
    obtain rfl := Option.some.inj hnow
    obtain rfl := Option.some.inj hexpires
    decide
  created now hnow created hcreated := by
    obtain rfl := Option.some.inj hnow
    obtain rfl := Option.some.inj hcreated
    decide
  maxAge now hnow maxAge hmaxAge := by
    obtain rfl := Option.some.inj hnow
    obtain rfl := Option.some.inj hmaxAge
    exact ⟨1, rfl, by decide⟩
  label h := by cases h

open scoped Rfc4648 P256.Keyless

local instance : Ed25519 := Ed25519.signing base signature

def key : SigningKey := .ed25519 ()

/-- The request verifies as it was signed. -/
theorem verify_signed_message_example :
    ∃ signed, sign request (requestComponents request) params "wimse" key
      = .ok signed ∧
      verify request signed.signatureInput signed.signature
        key.verifyingKey config
        = .ok
          { label := "wimse"
            components := requestComponents request
            params := params } := by
  have hkey : key.SelfVerifies := Ed25519.single_selfVerifies _ _ _
  obtain ⟨signed, hsigned⟩ := exists_sign "wimse" key signatureBase_request
  exact ⟨signed, hsigned,
    (verify_signed_message Rfc4648.standard_lawful hkey wellNamed isKey hsigned
    config).2.2.2 (allows _)⟩

end Example

end Wimsey.HttpSig
