import Wimsey.HttpSig.Base
import Wimsey.HttpSig.Selection

/-!
# Repeated components

RFC 9421 wants the identifiers in a signature base to be distinct.  Neither
`sign` nor `verify` compares them: a component that is covered twice has two
lines in the base.  So a message of which one component can be covered has a
signature that covers it twice, and the identifiers are distinct in every
signature only where nothing can be covered at all.
-/

namespace Wimsey.HttpSig

open Wimsey.RustStd Wimsey.Codec Wimsey.Jose Wimsey.Scan

/-- The identifier of a component, in lower case. -/
def Component.identifier (c : Component) : Str :=
  Str.toAsciiLowercase c.quotedId

/-- No identifier is covered twice. -/
def Distinct (components : List Component) : Prop :=
  (components.map Component.identifier).Nodup

instance : DecidablePred Distinct := fun components =>
  inferInstanceAs (Decidable (components.map Component.identifier).Nodup)

theorem toAsciiLowercase_idem (s : Str) :
    Str.toAsciiLowercase (Str.toAsciiLowercase s) = Str.toAsciiLowercase s := by
  rw [Str.toAsciiLowercase, Str.toAsciiLowercase, List.map_map]
  exact List.map_congr_left fun c _ => Char.toLower_toLower_eq_toLower c

/-! ## Writing -/

section Sign

variable {M : Type} [ComponentSource M]

/-- The base can be built: each component has a value, and there are no line
breaks. -/
structure Derivable (message : M) (components : List Component)
    (params : SignatureParams) : Prop where
  params : hasNewline (serializeParamsValue components params) = false
  values : ∀ c ∈ components, ∃ value,
    ComponentSource.componentValue message c = .ok value ∧
    hasNewline value = false

theorem exists_signatureBase_iff {message : M} {components : List Component}
    {params : SignatureParams} :
    (∃ base, signatureBase message components params = .ok base) ↔
      Derivable message components params := by
  simp only [signatureBase, signatureBaseFromParamsStr_eq_ok_iff]
  constructor
  · rintro ⟨_, hparams, values, hvalues, _⟩
    exact ⟨hparams, exists_derives_iff.1 ⟨values, hvalues⟩⟩
  · intro h
    obtain ⟨values, hvalues⟩ := exists_derives_iff.2 h.values
    exact ⟨_, h.params, values, hvalues, rfl⟩

theorem exists_sign_iff [Base64] [Ed25519] [P256] {message : M}
    {components : List Component} {params : SignatureParams} (label : Str)
    (key : SigningKey) :
    (∃ signed, sign message components params label key = .ok signed) ↔
      Derivable message components params := by
  rw [← exists_signatureBase_iff]
  constructor
  · intro ⟨_, h⟩
    obtain ⟨base, hbase, _⟩ := sign_eq_ok_iff.1 h
    exact ⟨base, hbase⟩
  · intro ⟨_, hbase⟩
    exact exists_sign label key hbase

end Sign

/-! ## Covering a component twice -/

/-- The default configuration allows a signature without parameters. -/
theorem allows_default {M : Type} [ComponentSource M] [Ed25519] [P256]
    (message : M) (key : VerifyingKey) (label : Str)
    (components : List Component) :
    Allows message key .default label components .default where
  request h := by cases h
  response h := by cases h
  connect h := by cases h
  accepted := Or.inl rfl
  alg _ h := by cases h
  required := by simp [VerifyConfig.default]
  audience h := by simp [VerifyConfig.default] at h
  reqNonce _ h := by cases h
  window _ h := by cases h
  clock h := by cases h
  expires _ h := by cases h
  created _ h := by cases h
  maxAge _ h := by cases h
  label _ _ h := by cases h

section Twice

variable {M : Type} [ComponentSource M]

/-- The component can be covered: the message has a value for it, and neither
the value nor the identifier has a line break. -/
structure Coverable (message : M) (c : Component) : Prop where
  identifier : hasNewline c.quotedId = false
  value : ∃ value, ComponentSource.componentValue message c = .ok value ∧
    hasNewline value = false

variable {message : M} {components : List Component} {params : SignatureParams}

theorem hasNewline_quotedId {c : Component} (hc : c ∈ components)
    (h : hasNewline (serializeParamsValue components params) = false) :
    hasNewline c.quotedId = false := by
  rw [hasNewline, List.any_eq_false] at h ⊢
  intro d hd
  have hinner : d ∈ innerText components :=
    Scanner.mem_intercalate_of_mem (List.mem_map_of_mem hc) hd
  apply h
  rw [serializeParamsValue_eq]
  simp [hinner]

/-- What a base covers can be covered. -/
theorem Derivable.coverable (h : Derivable message components params) :
    ∀ c ∈ components, Coverable message c :=
  fun c hc => ⟨hasNewline_quotedId hc h.params, h.values c hc⟩

/-- What can be covered can be covered twice. -/
theorem Coverable.twice {c : Component} (h : Coverable message c) :
    Derivable message [c, c] .default where
  params := by
    have hid := h.identifier
    rw [hasNewline, List.any_eq_false] at hid ⊢
    intro d hd
    rw [serializeParamsValue_eq] at hd
    have hcases : d = '(' ∨ d ∈ c.quotedId ∨ d = ' ' ∨ d = ')' := by
      have htext : paramsText .default = [] := rfl
      simp only [htext, innerText, List.map_cons, List.map_nil,
        Scanner.intercalate_eq_flatMap, List.flatMap_cons, List.flatMap_nil,
        List.append_nil, List.mem_append, List.mem_cons, List.not_mem_nil,
        or_false] at hd
      tauto
    rcases hcases with rfl | hd | rfl | rfl
    · decide
    · exact hid d hd
    · decide
    · decide
  values := by
    simpa using h.value

theorem not_distinct_twice (c : Component) : ¬ Distinct [c, c] := by
  simp [Distinct]

/-- Where nothing can be covered, only the empty list is. -/
theorem Derivable.distinct (hnone : ∀ c, ¬ Coverable message c)
    (h : Derivable message components params) : Distinct components := by
  cases components with
  | nil => exact List.nodup_nil
  | cons c components =>
    exact absurd (h.coverable c (List.mem_cons_self ..)) (hnone c)

/-- The method of a request can be covered unless it has a line break. -/
theorem coverable_method_iff {request : HttpRequest} :
    Coverable request .method ↔ hasNewline request.method = false := by
  constructor
  · intro ⟨_, value, hvalue, hline⟩
    rwa [Outcome.ok.inj hvalue]
  · exact fun h => ⟨by decide, _, rfl, h⟩

variable [Base64] [Ed25519] [P256]

/-- What a verified signature covers can be covered. -/
theorem coverable_of_verify {signatureInput signature : Str}
    {key : VerifyingKey} {config : VerifyConfig} {w : VerifiedSignature}
    (h : verify message signatureInput signature key config = .ok w) :
    ∀ c ∈ w.components, Coverable message c := by
  obtain ⟨member, hauth, _, rfl⟩ := verify_eq_ok_iff.1 h
  obtain ⟨_, base, _, hbase, _⟩ := hauth.signed
  obtain ⟨_, values, hvalues, _⟩ :=
    signatureBaseFromParamsStr_eq_ok_iff.1 hbase
  obtain ⟨_, chosen, _, _, hparse⟩ := exists_of_selectMember hauth.selected
  intro c hc
  refine ⟨(oneWord_of_parseInputMember hparse c hc).hasNewline, ?_⟩
  exact exists_derives_iff.1 ⟨values, hvalues⟩ c hc

/-- A component that can be covered is signed twice, and the signature
verifies. -/
theorem Coverable.verify_twice
    (hbase64 : Base64.STANDARD.Lawful (Rfc4648.standardAlphabet ++ ['=']))
    {c : Component} (h : Coverable message c) (hname : c.WellNamed)
    {key : SigningKey} (hkey : key.SelfVerifies) {label : Str}
    (hlabel : IsKey label) :
    ∃ signed, sign message [c, c] .default label key = .ok signed ∧
      verify message signed.signatureInput signed.signature key.verifyingKey
          .default
        = .ok { label := label, components := [c, c], params := .default } := by
  obtain ⟨signed, hsigned⟩ := (exists_sign_iff label key).2 h.twice
  have hnames : ∀ d ∈ [c, c], d.WellNamed := by
    simpa using hname
  exact ⟨signed, hsigned, verify_of_allows hbase64 hnames hlabel hsigned
    (fun _ _ => hkey _) (allows_default _ _ _ _)⟩

/-- Every list that is signed for a message, and every one that is verified, is
without repetitions exactly when no component of the message can be covered.  A
component that can be covered, under a name that is read back, is signed twice,
and what is signed verifies. -/
theorem covered_once_iff
    (hbase64 : Base64.STANDARD.Lawful (Rfc4648.standardAlphabet ++ ['=']))
    (message : M) :
    ((∀ components params base,
      signatureBase message components params = .ok base →
        Distinct components) ↔ ∀ c, ¬ Coverable message c) ∧
    (∀ label key,
      (∀ components params signed,
        sign message components params label key = .ok signed →
          Distinct components) ↔ ∀ c, ¬ Coverable message c) ∧
    ((∀ c, ¬ Coverable message c) →
      ∀ signatureInput signature key config w,
        verify message signatureInput signature key config = .ok w →
          Distinct w.components) ∧
    ∀ c, c.WellNamed → Coverable message c →
      ∀ label key, IsKey label → key.SelfVerifies →
        ∃ signed, sign message [c, c] .default label key = .ok signed ∧
          verify message signed.signatureInput signed.signature
              key.verifyingKey .default
            = .ok
              { label := label, components := [c, c], params := .default } ∧
          ¬ Distinct [c, c] := by
  refine ⟨⟨fun h c hc => ?_, ?_⟩,
    fun label key => ⟨fun h c hc => ?_, ?_⟩, ?_, ?_⟩
  · obtain ⟨base, hbase⟩ := exists_signatureBase_iff.2 hc.twice
    exact not_distinct_twice c (h _ _ base hbase)
  · intro hnone components params base hbase
    exact (exists_signatureBase_iff.1 ⟨base, hbase⟩).distinct hnone
  · obtain ⟨signed, hsigned⟩ := (exists_sign_iff label key).2 hc.twice
    exact not_distinct_twice c (h _ _ signed hsigned)
  · intro hnone components params signed hsigned
    exact ((exists_sign_iff label key).1 ⟨signed, hsigned⟩).distinct hnone
  · intro hnone signatureInput signature key config w hw
    have hnil : w.components = [] := List.eq_nil_iff_forall_not_mem.2
      fun c hc => hnone c (coverable_of_verify hw c hc)
    rw [hnil]
    exact List.nodup_nil
  · intro c hname hc label key hlabel hkey
    obtain ⟨signed, hsigned, hverify⟩ :=
      hc.verify_twice hbase64 hname hkey hlabel
    exact ⟨signed, hsigned, hverify, not_distinct_twice c⟩

end Twice

namespace Example.Unique

/-- The base of a request that covers its method twice. -/
def base : Str :=
  "\"@method\": GET\n\"@method\": GET\n\"@signature-params\": (\"@method\" \"@method\")"

/-- The signature of the base by the key of the seed `01 01 ... 01`. -/
def signature : Vector UInt8 64 :=
  #v[49, 129, 46, 235, 91, 158, 105, 75, 5, 55, 58, 151, 168, 82, 60, 11, 182,
    36, 141, 130, 91, 18, 181, 188, 201, 67, 76, 47, 190, 10, 185, 128, 243,
    213, 93, 186, 143, 143, 138, 175, 29, 80, 79, 15, 150, 129, 103, 72, 32, 43,
    136, 57, 28, 184, 212, 135, 84, 252, 71, 232, 227, 119, 217, 14]

theorem signatureBase_repeated :
    signatureBase request [.method, .method] .default = .ok base := by
  decide +kernel

theorem isKey : IsKey "a" := by
  decide

open scoped Rfc4648 P256.Keyless

local instance : Ed25519 := Ed25519.signing base signature

def key : SigningKey := .ed25519 ()

/-- The method is signed twice, and the signature verifies. -/
theorem repeated_method_verifies :
    ∃ signed, signatureBase request [.method, .method] .default = .ok base ∧
      sign request [.method, .method] .default "a" key = .ok signed ∧
      verify request signed.signatureInput signed.signature key.verifyingKey
          .default
        = .ok
          { label := "a"
            components := [.method, .method]
            params := .default } ∧
      ¬ Distinct [.method, .method] := by
  have hkey : key.SelfVerifies := Ed25519.single_selfVerifies _ _ _
  have hmethod : Coverable request .method := coverable_method_iff.2 (by decide)
  obtain ⟨signed, hsigned, hverify⟩ :=
    hmethod.verify_twice Rfc4648.standard_lawful trivial hkey isKey
  exact ⟨signed, signatureBase_repeated, hsigned, hverify, by decide⟩

/-- The method has no line break, so that it can be covered twice. -/
theorem covered_once_iff_example :
    ∃ signed, sign request [.method, .method] .default "a" key = .ok signed ∧
      ∃ w, verify request signed.signatureInput signed.signature
        key.verifyingKey .default = .ok w ∧ ¬ Distinct w.components := by
  have hkey : key.SelfVerifies := Ed25519.single_selfVerifies _ _ _
  have hmethod : Coverable request .method := coverable_method_iff.2 (by decide)
  obtain ⟨_, _, _, htwice⟩ :=
    covered_once_iff Rfc4648.standard_lawful request
  obtain ⟨signed, hsigned, hverify, hdistinct⟩ :=
    htwice .method trivial hmethod "a" key isKey hkey
  exact ⟨signed, hsigned, _, hverify, hdistinct⟩

end Example.Unique

end Wimsey.HttpSig
