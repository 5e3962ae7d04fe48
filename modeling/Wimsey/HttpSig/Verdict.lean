import Wimsey.HttpSig.Reader

/-!
# What a verification decides

`Admits` collects the checks that `verify` makes before it looks at the
signature, and `Policy` those that it makes after it.  `SignedBy` is the check
of the signature itself.  `verify_eq_ok_iff` puts them together: a message
verifies exactly when a member is selected from the fields, admitted, signed by
the key and within the policy.

`Authentic` is the part of this that does not mention the policy.
-/

namespace Wimsey.HttpSig

open Wimsey.RustStd Wimsey.Codec Wimsey.Jose Wimsey.Scan

/-! ## The profiles -/

/-- The rules that the two profiles share. -/
structure Profile (params : SignatureParams) : Prop where
  keyid : params.keyid = none
  alg : params.alg = none
  created : params.created.isSome = true
  expires : params.expires.isSome = true
  nonce : params.nonce.isSome = true
  tag : params.tag = some WIMSE_TAG

/-- The WIMSE profile of a request signature. -/
structure RequestProfile (params : SignatureParams) :
    Prop extends Profile params where
  wimseAud : params.wimseAud.isSome = true

/-- The WIMSE profile of a response signature. -/
structure ResponseProfile (params : SignatureParams) :
    Prop extends Profile params where
  wimseAud : params.wimseAud = none
  wimseReqNonce : params.wimseReqNonce.isSome = true

theorem checkProfile_decides (params : SignatureParams) :
    Outcome.Decides (checkProfile params) (Profile params) := by
  unfold checkProfile
  refine ((Outcome.Decides.failIf _ _).bind fun _ =>
    (Outcome.Decides.failIf _ _).bind fun _ =>
    (Outcome.Decides.failIf _ _).bind fun _ =>
    (Outcome.Decides.failIf _ _).bind fun _ =>
    (Outcome.Decides.failIf _ _).bind fun _ =>
    (?_ : Outcome.Decides _ (params.tag = some WIMSE_TAG))).congr ?_
  · cases params.tag with
    | none => exact Or.inr ⟨⟨_, rfl⟩, by simp⟩
    | some tag => exact (Outcome.Decides.failIf _ _).congr (by simp)
  · simp only [Option.isSome_eq_false_iff, Option.isNone_eq_false_iff,
      Option.isNone_iff_eq_none]
    constructor
    · rintro ⟨hkeyid, halg, hcreated, hexpires, hnonce, htag⟩
      exact ⟨hkeyid, halg, hcreated, hexpires, hnonce, htag⟩
    · intro h
      exact ⟨h.keyid, h.alg, h.created, h.expires, h.nonce, h.tag⟩

theorem checkRequestProfile_decides (params : SignatureParams) :
    Outcome.Decides (checkRequestProfile params) (RequestProfile params) := by
  unfold checkRequestProfile
  refine ((checkProfile_decides params).bind fun _ =>
    Outcome.Decides.failIf _ _).congr ?_
  simp only [Option.isNone_eq_false_iff]
  constructor
  · intro ⟨hprofile, haud⟩
    exact ⟨hprofile, haud⟩
  · intro h
    exact ⟨h.toProfile, h.wimseAud⟩

theorem checkResponseProfile_decides (params : SignatureParams) :
    Outcome.Decides (checkResponseProfile params) (ResponseProfile params) := by
  unfold checkResponseProfile
  refine ((checkProfile_decides params).bind fun _ =>
    (Outcome.Decides.failIf _ _).bind fun _ =>
    Outcome.Decides.failIf _ _).congr ?_
  simp only [Option.isSome_eq_false_iff, Option.isNone_eq_false_iff,
    Option.isNone_iff_eq_none]
  constructor
  · intro ⟨hprofile, haud, hnonce⟩
    exact ⟨hprofile, haud, hnonce⟩
  · intro h
    exact ⟨h.toProfile, h.wimseAud, h.wimseReqNonce⟩

/-! ## Before the signature -/

section Admits

variable {M : Type} [ComponentSource M]

/-- A signature over a `CONNECT` does not cover what the method has no use
for. -/
def ConnectRule (message : M) (components : List Component)
    (response : Bool) : Prop :=
  ComponentSource.componentValue message (target response .method)
    = .ok CONNECT →
    Component.contains components (target response .path) = false ∧
      Component.contains components (target response .query) = false

theorem checkConnectComponents_decides (message : M)
    (components : List Component) (response : Bool) :
    Outcome.Decides (checkConnectComponents message components response)
      (ConnectRule message components response) := by
  unfold checkConnectComponents ConnectRule
  split
  · rename_i hconnect
    exact ((Outcome.Decides.failIf _ _).bind fun _ =>
      Outcome.Decides.failIf _ _).congr (by simp only [hconnect, forall_const])
  · rename_i hconnect
    exact Or.inl ⟨rfl, fun h => absurd h hconnect⟩

variable [Base64] [Ed25519] [P256]

/-- The parameters and the key pass the checks before the signature. -/
structure Admits (message : M) (key : VerifyingKey) (config : VerifyConfig)
    (components : List Component) (params : SignatureParams) : Prop where
  request : config.wimseProfile = true → RequestProfile params
  response : config.wimseResponseProfile = true → ResponseProfile params
  connect : config.profiled = true →
    ConnectRule message components config.wimseResponseProfile
  accepted : config.acceptedAlgorithms = [] ∨
    key.algorithm ∈ config.acceptedAlgorithms
  alg : ∀ alg, params.alg = some alg → rfc9421Alg key.algorithm = some alg

/-- The checks of `authenticate` between the fields and the signature base. -/
def checkAdmission (message : M) (key : VerifyingKey) (config : VerifyConfig)
    (components : List Component) (params : SignatureParams) :
    Outcome HttpSigError Unit := do
  Outcome.when config.wimseProfile (checkRequestProfile params)
  Outcome.when config.wimseResponseProfile (checkResponseProfile params)
  Outcome.when (config.wimseProfile || config.wimseResponseProfile)
    (checkConnectComponents message components config.wimseResponseProfile)
  let algorithm := key.algorithm
  Outcome.failIf
    (!config.acceptedAlgorithms.isEmpty &&
      !config.acceptedAlgorithms.contains algorithm)
    (.unsupportedAlg algorithm.asStr)
  Outcome.ifSome params.alg fun alg =>
    Outcome.failIf (some alg != rfc9421Alg algorithm) (.unsupportedAlg alg)

omit [Base64] in
theorem checkAdmission_decides (message : M) (key : VerifyingKey)
    (config : VerifyConfig) (components : List Component)
    (params : SignatureParams) :
    Outcome.Decides (checkAdmission message key config components params)
      (Admits message key config components params) := by
  unfold checkAdmission
  refine ((Outcome.Decides.when fun _ =>
    checkRequestProfile_decides params).bind fun _ =>
    (Outcome.Decides.when fun _ =>
      checkResponseProfile_decides params).bind fun _ =>
    (Outcome.Decides.when fun _ =>
      checkConnectComponents_decides message components _).bind fun _ =>
    (Outcome.Decides.failIf _ _).bind fun _ =>
    Outcome.Decides.ifSome fun alg => Outcome.Decides.failIf _ _).congr ?_
  have haccepted : (!config.acceptedAlgorithms.isEmpty &&
      !config.acceptedAlgorithms.contains key.algorithm) = false ↔
      config.acceptedAlgorithms = [] ∨
      key.algorithm ∈ config.acceptedAlgorithms := by
    cases config.acceptedAlgorithms <;> simp [or_iff_not_imp_left]
  simp only [haccepted, bne_eq_false_iff_eq]
  constructor
  · intro ⟨hrequest, hresponse, hconnect, haccepted, halg⟩
    exact ⟨hrequest, hresponse, hconnect, haccepted,
      fun alg h => (halg alg h).symm⟩
  · intro h
    exact ⟨h.request, h.response, h.connect, h.accepted,
      fun alg hparam => (h.alg alg hparam).symm⟩

/-! ## The signature -/

/-- The signature of the member in the field is the key's, over the base of the
member. -/
def SignedBy (message : M) (signature : Str) (key : VerifyingKey)
    (member : InputMember) : Prop :=
  ∃ sigBytes base, parseSignature signature member.label = .ok sigBytes ∧
    signatureBaseFromParamsStr message member.components member.paramsValue
    = .ok base ∧
    key.verify (Str.asBytes base) sigBytes.toList = .ok ()

/-- The verification gets as far as a valid signature, which is that of the
member. -/
structure Authentic (message : M) (signatureInput signature : Str)
    (key : VerifyingKey) (config : VerifyConfig) (member : InputMember) :
    Prop where
  selected : selectMember signatureInput config = .ok member
  admitted : Admits message key config member.components member.params
  signed : SignedBy message signature key member

theorem authenticate_eq (message : M) (signatureInput signature : Str)
    (key : VerifyingKey) (config : VerifyConfig) :
    authenticate message signatureInput signature key config = (do
      let member ← selectMember signatureInput config
      let sigBytes ← parseSignature signature member.label
      checkAdmission message key config member.components member.params
      let base ← signatureBaseFromParamsStr message member.components
        member.paramsValue
      Outcome.mapErr (fun _ => .invalidSignature)
        (key.verify (Str.asBytes base) sigBytes.toList)
      .ok member) := by
  simp only [authenticate, checkAdmission, bind_assoc]

theorem authenticate_eq_ok_iff {message : M} {signatureInput signature : Str}
    {key : VerifyingKey} {config : VerifyConfig} {member : InputMember} :
    authenticate message signatureInput signature key config = .ok member ↔
      Authentic message signatureInput signature key config member := by
  simp only [authenticate_eq, Outcome.bind_eq_ok_iff, Outcome.mapErr_eq_ok_iff,
    (checkAdmission_decides _ _ _ _ _).ok_iff, exists_const]
  constructor
  · intro ⟨member', hselect, sigBytes, hsig, hadmits, base, hbase, _,
      hverify, hmember⟩
    obtain rfl := Outcome.ok.inj hmember
    exact ⟨hselect, hadmits, sigBytes, base, hsig, hbase, hverify⟩
  · intro ⟨hselect, hadmits, sigBytes, base, hsig, hbase, hverify⟩
    exact ⟨member, hselect, sigBytes, hsig, hadmits, base, hbase, (),
      hverify, rfl⟩

omit [Base64] [Ed25519] [P256] in
theorem signatureBaseFromParamsStr_ne_panic (message : M)
    (components : List Component) (paramsValue : Str) :
    signatureBaseFromParamsStr message components paramsValue ≠ .panic := by
  have hlines : componentLines message components ≠ .panic := by
    induction components with
    | nil => simp [componentLines]
    | cons c components ih =>
      unfold componentLines
      apply Outcome.bind_ne_panic
        (ComponentSource.componentValue_ne_panic message c)
      intro value _
      apply Outcome.bind_ne_panic Outcome.failIf_ne_panic
      intro _ _
      exact Outcome.bind_ne_panic ih fun rest _ => nofun
  unfold signatureBaseFromParamsStr
  apply Outcome.bind_ne_panic Outcome.failIf_ne_panic
  intro _ _
  exact Outcome.bind_ne_panic hlines fun lines _ => nofun

theorem authenticate_ne_panic (message : M) (signatureInput signature : Str)
    (key : VerifyingKey) (config : VerifyConfig) :
    authenticate message signatureInput signature key config ≠ .panic := by
  rw [authenticate_eq]
  apply Outcome.bind_ne_panic (selectMember_ne_panic signatureInput config)
  intro member _
  apply Outcome.bind_ne_panic (parseSignature_ne_panic signature member.label)
  intro sigBytes _
  apply Outcome.bind_ne_panic
    (checkAdmission_decides message key config _ _).ne_panic
  intro _ _
  apply Outcome.bind_ne_panic (signatureBaseFromParamsStr_ne_panic message _ _)
  intro base _
  apply Outcome.bind_ne_panic
    (Outcome.mapErr_ne_panic
      (key.verify_ne_panic (Str.asBytes base) sigBytes.toList))
  exact fun _ _ => nofun

end Admits

/-! ## After the signature -/

/-- What was signed is within the policy of the configuration. -/
structure Policy (config : VerifyConfig) (components : List Component)
    (params : SignatureParams) : Prop where
  required : ∀ c ∈ config.requiredComponents,
    Component.contains components c = true
  audience : config.wimseProfile = true ∨ config.expectedAudiences ≠ [] →
    ∃ aud ∈ config.expectedAudiences, params.wimseAud = some aud
  reqNonce : ∀ nonce, config.expectedReqNonce = some nonce →
    params.wimseReqNonce = some nonce
  window : ∀ created, params.created = some created →
    ∀ expires, params.expires = some expires → created ≤ expires
  clock : config.maxAge.isSome = true → config.now.isSome = true
  expires : ∀ now, config.now = some now →
    ∀ expires, params.expires = some expires →
    now ≤ saturatingAdd expires config.leeway
  created : ∀ now, config.now = some now →
    ∀ created, params.created = some created →
    created ≤ saturatingAdd now config.leeway
  maxAge : ∀ now, config.now = some now → ∀ maxAge,
    config.maxAge = some maxAge →
    ∃ created, params.created = some created ∧
    saturatingSub now created ≤ maxAge

theorem checkRequired_decides (components required : List Component) :
    Outcome.Decides (checkRequired components required)
      (∀ c ∈ required, Component.contains components c = true) := by
  induction required with
  | nil => exact Or.inl ⟨rfl, by simp⟩
  | cons c required ih =>
    unfold checkRequired
    exact ((Outcome.Decides.failIf _ _).bind fun _ => ih).congr (by simp)

theorem checkPolicy_eq_ok_iff {member : InputMember} {config : VerifyConfig}
    {w : VerifiedSignature} :
    checkPolicy member config = .ok w ↔
      Policy config member.components member.params ∧
        w =
          { label := member.label
            components := member.components
            params := member.params } := by
  have haudience :
      ((config.wimseProfile || !config.expectedAudiences.isEmpty) &&
      !member.params.wimseAud.any fun aud =>
        config.expectedAudiences.contains aud) = false ↔
      (config.wimseProfile = true ∨ config.expectedAudiences ≠ [] →
        ∃ aud ∈ config.expectedAudiences,
        member.params.wimseAud = some aud) := by
    cases member.params.wimseAud <;> cases config.wimseProfile <;>
      cases config.expectedAudiences <;> simp [or_iff_not_imp_left]
  have hclock : (config.maxAge.isSome && config.now.isNone) = false ↔
      (config.maxAge.isSome = true → config.now.isSome = true) := by
    cases config.maxAge <;> cases config.now <;> simp
  unfold checkPolicy
  simp only [Outcome.bind_eq_ok_iff, Outcome.failIf_eq_ok_iff,
    Outcome.ifSome_eq_ok_iff, Outcome.okOr_eq_ok_iff,
    (checkRequired_decides _ _).ok_iff, haudience, hclock, bne_eq_false_iff_eq,
    decide_eq_false_iff_not, UInt64.not_lt, exists_const]
  constructor
  · intro ⟨hrequired, haud, hnonce, hwindow, hclock, htimes, hw⟩
    refine ⟨⟨hrequired, haud, hnonce, hwindow, hclock, ?_, ?_, ?_⟩,
      (Outcome.ok.inj hw).symm⟩
    · exact fun now hnow => (htimes now hnow).1
    · exact fun now hnow => (htimes now hnow).2.1
    · exact fun now hnow => (htimes now hnow).2.2
  · intro ⟨h, hw⟩
    refine ⟨h.required, h.audience, h.reqNonce, h.window, h.clock,
      fun now hnow => ?_, by rw [hw]⟩
    exact ⟨h.expires now hnow, h.created now hnow, h.maxAge now hnow⟩

theorem checkPolicy_ne_panic (member : InputMember) (config : VerifyConfig) :
    checkPolicy member config ≠ .panic := by
  have hcheck : ∀ {bad : Bool} {e : HttpSigError},
      Outcome.failIf bad e ≠ .panic :=
    Outcome.failIf_ne_panic
  unfold checkPolicy
  apply Outcome.bind_ne_panic (checkRequired_decides _ _).ne_panic
  intro _ _
  apply Outcome.bind_ne_panic hcheck
  intro _ _
  apply Outcome.bind_ne_panic (Outcome.ifSome_ne_panic fun _ => hcheck)
  intro _ _
  apply Outcome.bind_ne_panic
    (Outcome.ifSome_ne_panic fun _ => Outcome.ifSome_ne_panic fun _ => hcheck)
  intro _ _
  apply Outcome.bind_ne_panic hcheck
  intro _ _
  refine Outcome.bind_ne_panic
    (Outcome.ifSome_ne_panic fun now => ?_) fun _ _ => nofun
  apply Outcome.bind_ne_panic (Outcome.ifSome_ne_panic fun _ => hcheck)
  intro _ _
  apply Outcome.bind_ne_panic (Outcome.ifSome_ne_panic fun _ => hcheck)
  intro _ _
  exact Outcome.ifSome_ne_panic fun _ =>
    Outcome.bind_ne_panic Outcome.okOr_ne_panic fun _ _ => hcheck

/-- A message verifies exactly when a member is authentic and within the policy,
and then the member is returned. -/
theorem verify_eq_ok_iff {M : Type} [ComponentSource M] [Base64] [Ed25519]
    [P256] {message : M} {signatureInput signature : Str} {key : VerifyingKey}
    {config : VerifyConfig} {w : VerifiedSignature} :
    verify message signatureInput signature key config = .ok w ↔
      ∃ member, Authentic message signatureInput signature key config member ∧
        Policy config member.components member.params ∧
        w =
          { label := member.label
            components := member.components
            params := member.params } := by
  rw [verify_eq, Outcome.bind_eq_ok_iff]
  simp only [authenticate_eq_ok_iff, checkPolicy_eq_ok_iff]

theorem verify_ne_panic {M : Type} [ComponentSource M] [Base64] [Ed25519] [P256]
    (message : M) (signatureInput signature : Str) (key : VerifyingKey)
    (config : VerifyConfig) :
    verify message signatureInput signature key config ≠ .panic := by
  rw [verify_eq]
  exact Outcome.bind_ne_panic
    (authenticate_ne_panic message signatureInput signature key config)
    fun member _ => checkPolicy_ne_panic member config

end Wimsey.HttpSig
