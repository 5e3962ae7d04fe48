import Wimsey.HttpSig.Unique

/-!
# Letter case

`Component` is compared without letter case, header values are looked up without
it, and identifiers are read in lower case.  `quoted_id` keeps the case that it
is given, so equal components may have different lines in a base.

* `signatureBase_eq_iff`: lists of equal components have the same base exactly
  when they are the same list, or when both fail at the same component.
* `verify_signed_iff`: a signature that is valid for nothing but its own base
  verifies only if the identifiers are in lower case, since the base that the
  reader builds has them so.
-/

namespace Wimsey.HttpSig

open Wimsey.RustStd Wimsey.Codec Wimsey.Jose Wimsey.Scan

/-! ## Equal components -/

namespace Component

/-- Components are equal when they are the same in lower case. -/
theorem eq_iff_lower {a b : Component} : a.eq b = true ↔ a.lower = b.lower := by
  induction a generalizing b with
  | req inner ih => cases b <;> simp [eq, lower, ih]
  | header name => cases b <;> simp [eq, lower, Str.eqIgnoreAsciiCase]
  | _ => cases b <;> simp [eq, lower]

theorem forall₂_eq_iff_lower {as bs : List Component} :
    List.Forall₂ (fun a b => a.eq b = true) as bs ↔
    as.map lower = bs.map lower := by
  have heq : List.Forall₂ (fun a b => a = b) (as.map lower) (bs.map lower) ↔
      as.map lower = bs.map lower := by
    rw [List.forall₂_eq_eq_eq]
  rw [← heq, List.forall₂_map_left_iff, List.forall₂_map_right_iff]
  simp only [eq_iff_lower]

@[simp] theorem lower_lower (c : Component) : c.lower.lower = c.lower := by
  induction c with
  | req inner ih => rw [lower, lower, ih]
  | header name => rw [lower, lower, toAsciiLowercase_idem]
  | _ => rfl

theorem contains_map_lower (components : List Component) (c : Component) :
    contains (components.map lower) c = contains components c := by
  rw [contains, contains, List.any_map]
  refine congrArg (List.any components) (funext fun a => ?_)
  rw [Bool.eq_iff_iff, Function.comp_apply, eq_iff_lower, eq_iff_lower,
    lower_lower]

theorem contains_iff {components : List Component} {c : Component} :
    contains components c = true ↔ ∃ x ∈ components, x.lower = c.lower := by
  simp only [contains, List.any_eq_true, eq_iff_lower]

/-- What contains every component of a list contains what the list contains. -/
theorem contains_trans {outer inner : List Component} {c : Component}
    (houter : ∀ x ∈ inner, contains outer x = true)
    (hinner : contains inner c = true) :
    contains outer c = true := by
  obtain ⟨x, hx, hxc⟩ := contains_iff.1 hinner
  obtain ⟨y, hy, hyx⟩ := contains_iff.1 (houter x hx)
  exact contains_iff.2 ⟨y, hy, hyx.trans hxc⟩

/-- In lower case, the components that are contained are the members. -/
theorem mem_of_contains {components : List Component} {c : Component}
    (hlower : ∀ x ∈ components, x.lower = x) (hc : c.lower = c)
    (h : contains components c = true) : c ∈ components := by
  obtain ⟨x, hx, hxc⟩ := contains_iff.1 h
  rw [hlower x hx, hc] at hxc
  rwa [← hxc]

theorem tokenNamed_iff_lower {c : Component} :
    c.TokenNamed ↔ c.lower.WellNamed := by
  induction c with
  | req inner ih => exact ih
  | header name => simp [TokenNamed, WellNamed, lower, Str.toAsciiLowercase]
  | _ => exact Iff.rfl

theorem quotedId_lower (c : Component) : c.lower.quotedId = c.identifier := by
  unfold identifier
  induction c with
  | req inner ih =>
    rw [lower, quotedId_req, quotedId_req, ih, Str.toAsciiLowercase,
      Str.toAsciiLowercase, List.map_append]
    rfl
  | header name =>
    show '"' :: Str.toAsciiLowercase name ++
      ['"'] = Str.toAsciiLowercase ('"' :: name ++ ['"'])
    simp [Str.toAsciiLowercase]
  | _ => rfl

/-- Equal components that are written alike are the same. -/
theorem eq_of_quotedId {a b : Component} (h : a.lower = b.lower)
    (hid : a.quotedId = b.quotedId) :
    a = b := by
  induction a generalizing b with
  | req inner ih =>
    cases b with
    | req inner' =>
      rw [ih (req.inj h) (List.append_cancel_right hid)]
    | _ => simp [lower] at h
  | header name =>
    cases b with
    | header name' =>
      rw [List.append_cancel_right (List.cons.inj hid).2]
    | _ => simp [lower] at h
  | _ => cases b <;> simp [lower] at h ⊢

/-- A component that was read is in lower case. -/
theorem lower_of_fromQuotedId {token : Str} {c : Component}
    (h : fromQuotedId token = .ok c) :
    c.lower = c := by
  refine eq_of_quotedId (lower_lower c) ?_
  rw [quotedId_lower, identifier, quotedId_of_fromQuotedId h,
    toAsciiLowercase_idem]

theorem quotedId_length {a b : Component} (h : a.lower = b.lower) :
    a.quotedId.length = b.quotedId.length := by
  have hid : a.identifier = b.identifier := by
    rw [← quotedId_lower, h, quotedId_lower]
  have hlen := congrArg List.length hid
  rwa [identifier, identifier, Str.toAsciiLowercase, Str.toAsciiLowercase,
    List.length_map, List.length_map] at hlen

end Component

/-! ## Values -/

/-- A kind of message that looks headers up without letter case: equal
components that differ have the same value, or each has its own error. -/
class CaseBlind (M : Type) [ComponentSource M] : Prop where
  value : ∀ (message : M) {a b : Component}, a.lower = b.lower → a ≠ b →
    (∃ value, ComponentSource.componentValue message a = .ok value ∧
        ComponentSource.componentValue message b = .ok value) ∨
      ∃ e e', ComponentSource.componentValue message a = .err e ∧
        ComponentSource.componentValue message b = .err e' ∧ e ≠ e'

theorem headerValue_lower (headers : List (Str × Str)) {name name' : Str}
    (h : Str.toAsciiLowercase name = Str.toAsciiLowercase name')
    (hne : name ≠ name') :
    (∃ value, headerValue headers name = .ok value ∧
      headerValue headers name' = .ok value) ∨
      ∃ e e', headerValue headers name = .err e ∧
      headerValue headers name' = .err e' ∧ e ≠ e' := by
  have hvalues : fieldValues headers name' = fieldValues headers name := by
    unfold fieldValues Str.eqIgnoreAsciiCase
    rw [h]
  unfold headerValue
  rw [hvalues]
  split
  · exact Or.inr ⟨_, _, rfl, rfl,
      fun he => hne (HttpSigError.missingComponent.inj he)⟩
  · exact Or.inl ⟨_, rfl, rfl⟩

theorem HttpRequest.componentValue_lower (request : HttpRequest)
    {a b : Component} (h : a.lower = b.lower) (hne : a ≠ b) :
    (∃ value, request.componentValue a = .ok value ∧
      request.componentValue b = .ok value) ∨
      ∃ e e', request.componentValue a = .err e ∧
        request.componentValue b = .err e' ∧
        e ≠ e' := by
  cases a with
  | header name =>
    cases b with
    | header name' =>
      have hname : name ≠ name' := fun heq => hne (by rw [heq])
      exact headerValue_lower request.headers (Component.header.inj h) hname
    | _ => simp [Component.lower] at h
  | req inner =>
    cases b with
    | req inner' =>
      refine Or.inr ⟨_, _, rfl, rfl,
        fun he => hne (Component.eq_of_quotedId h ?_)⟩
      exact HttpSigError.unsupportedComponent.inj he
    | _ => simp [Component.lower] at h
  | _ => cases b <;> simp [Component.lower] at h hne

instance : CaseBlind HttpRequest where
  value request _ _ h hne := request.componentValue_lower h hne

instance : CaseBlind HttpExchange where
  value exchange a b h hne := by
    cases a with
    | header name =>
      cases b with
      | header name' =>
        have hname : name ≠ name' := fun heq => hne (by rw [heq])
        exact headerValue_lower exchange.response.headers
          (Component.header.inj h) hname
      | _ => simp [Component.lower] at h
    | req inner =>
      cases b with
      | req inner' =>
        have hinner : inner ≠ inner' := fun heq => hne (by rw [heq])
        exact exchange.request.componentValue_lower (Component.req.inj h) hinner
      | _ => simp [Component.lower] at h
    | _ => cases b <;> simp [Component.lower] at h hne

/-! ## Bases of equal components -/

section Base

variable {M : Type} [ComponentSource M] {message : M} {as bs : List Component}
  {params : SignatureParams}

/-- The value on the line of a component. -/
def lineValue (message : M) (c : Component) : Outcome HttpSigError Str := do
  let value ← ComponentSource.componentValue message c
  Outcome.failIf (hasNewline value) (.invalidComponentValue c.quotedId)
  .ok value

/-- The component can stand in a base. -/
def usable (message : M) (c : Component) : Bool :=
  match lineValue message c with
  | .ok _ => true
  | _ => false

/-- The first component that cannot. -/
def firstUnusable (message : M) (components : List Component) :
    Option Component :=
  components.find? fun c => !usable message c

theorem usable_eq_true_iff {c : Component} :
    usable message c = true ↔ ∃ value, lineValue message c = .ok value := by
  unfold usable
  cases lineValue message c <;> simp

theorem usable_eq_false_iff {c : Component} :
    usable message c = false ↔ ∃ e, lineValue message c = .err e := by
  have hpanic : lineValue message c ≠ .panic :=
    Outcome.bind_ne_panic (ComponentSource.componentValue_ne_panic message c)
      fun value _ =>
      Outcome.bind_ne_panic Outcome.failIf_ne_panic fun _ _ => nofun
  unfold usable
  cases h : lineValue message c with
  | ok value => simp
  | err e => simp
  | panic => exact absurd h hpanic

theorem componentLines_cons (message : M) (c : Component)
    (components : List Component) :
    componentLines message (c :: components) = (do
      let value ← lineValue message c
      let rest ← componentLines message components
      .ok (componentLine c value ++ '\n' :: rest)) := by
  simp only [componentLines, lineValue, bind_assoc, Outcome.ok_bind,
    componentLine]
  refine bind_congr fun value => bind_congr fun _ => bind_congr fun rest => ?_
  exact congrArg Outcome.ok (by simp)

/-- The lines end at the first component that has none. -/
theorem componentLines_of_some {components : List Component} {c : Component}
    (h : firstUnusable message components = some c) :
    ∃ e, lineValue message c = .err e ∧
    componentLines message components = .err e := by
  induction components with
  | nil => cases h
  | cons d components ih =>
    rw [firstUnusable, List.find?_cons] at h
    cases husable : usable message d with
    | false =>
      rw [husable] at h
      obtain rfl := Option.some.inj h
      obtain ⟨e, he⟩ := usable_eq_false_iff.1 husable
      exact ⟨e, he, by rw [componentLines_cons, he, Outcome.err_bind]⟩
    | true =>
      rw [husable] at h
      obtain ⟨value, hvalue⟩ := usable_eq_true_iff.1 husable
      obtain ⟨e, he, hrest⟩ := ih h
      exact ⟨e, he, by
        rw [componentLines_cons, hvalue, Outcome.ok_bind, hrest,
          Outcome.err_bind]⟩

theorem componentLines_of_none {components : List Component}
    (h : firstUnusable message components = none) :
    ∃ lines, componentLines message components = .ok lines := by
  induction components with
  | nil => exact ⟨[], rfl⟩
  | cons d components ih =>
    obtain ⟨husable, hrest⟩ := List.forall_mem_cons.1 (List.find?_eq_none.1 h)
    have husable' : usable message d = true := by simpa using husable
    obtain ⟨value, hvalue⟩ := usable_eq_true_iff.1 husable'
    obtain ⟨lines, hlines⟩ := ih (List.find?_eq_none.2 hrest)
    exact ⟨_, by
      rw [componentLines_cons, hvalue, Outcome.ok_bind, hlines,
        Outcome.ok_bind]⟩

/-- Equal components have the same value on their lines, or fail, each in its
own way. -/
theorem lineValue_lower [CaseBlind M] (message : M) {a b : Component}
    (h : a.lower = b.lower) (hne : a ≠ b) :
    (∃ value, lineValue message a = .ok value ∧
      lineValue message b = .ok value) ∨
      ∃ e e', lineValue message a = .err e ∧ lineValue message b = .err e' ∧
      e ≠ e' := by
  unfold lineValue
  rcases CaseBlind.value message h hne
    with ⟨value, ha, hb⟩ | ⟨e, e', ha, hb, he⟩
  · rw [ha, hb, Outcome.ok_bind, Outcome.ok_bind]
    cases hasNewline value with
    | false => exact Or.inl ⟨value, rfl, rfl⟩
    | true =>
      refine Or.inr ⟨_, _, rfl, rfl,
        fun he => hne (Component.eq_of_quotedId h ?_)⟩
      exact HttpSigError.invalidComponentValue.inj he
  · rw [ha, hb]
    exact Or.inr ⟨e, e', rfl, rfl, he⟩

theorem usable_lower [CaseBlind M] {a b : Component} (h : a.lower = b.lower) :
    usable message a = usable message b := by
  by_cases hne : a = b
  · rw [hne]
  · unfold usable
    rcases lineValue_lower message h hne with ⟨_, ha, hb⟩ | ⟨_, _, ha, hb, _⟩
    · rw [ha, hb]
    · rw [ha, hb]

/-- Lists of equal components fail at equal components. -/
theorem firstUnusable_lower [CaseBlind M] (message : M)
    (h : as.map Component.lower = bs.map Component.lower) :
    (firstUnusable message as).map Component.lower
      = (firstUnusable message bs).map Component.lower := by
  induction as generalizing bs with
  | nil =>
    rw [List.map_eq_nil_iff.1 h.symm]
  | cons a as ih =>
    cases bs with
    | nil => cases h
    | cons b bs =>
      obtain ⟨hlower, hrest⟩ := List.cons.inj h
      unfold firstUnusable at ih ⊢
      rw [List.find?_cons, List.find?_cons, usable_lower hlower]
      cases usable message b with
      | false => exact congrArg some hlower
      | true => exact ih hrest

theorem hasNewline_toAsciiLowercase (s : Str) :
    hasNewline (Str.toAsciiLowercase s) = hasNewline s := by
  have hcr : ∀ c : Char, c.toLower = '\r' ↔ c = '\r' :=
    fun c => toLower_eq_iff (by decide)
  have hlf : ∀ c : Char, c.toLower = '\n' ↔ c = '\n' :=
    fun c => toLower_eq_iff (by decide)
  rw [hasNewline, hasNewline, Str.toAsciiLowercase, List.any_map]
  simp only [Function.comp_def, hcr, hlf]

theorem toAsciiLowercase_innerText (components : List Component) :
    Str.toAsciiLowercase (innerText components)
      = innerText (components.map Component.lower) := by
  have hjoin : ∀ words : List Str,
      Str.toAsciiLowercase ([' '].intercalate words)
      = [' '].intercalate (words.map Str.toAsciiLowercase) := by
    intro words
    cases words with
    | nil => rfl
    | cons word words =>
      rw [List.map_cons, Scanner.intercalate_eq_flatMap,
        Scanner.intercalate_eq_flatMap, Str.toAsciiLowercase, List.map_append,
        List.map_flatMap, List.flatMap_map]
      rfl
  rw [innerText, innerText, hjoin, List.map_map, List.map_map]
  exact congrArg [' '].intercalate
    (List.map_congr_left fun c _ => (Component.quotedId_lower c).symm)

/-- What is written for lists of equal components differs in letter case
only. -/
theorem innerText_lower (h : as.map Component.lower = bs.map Component.lower) :
    Str.toAsciiLowercase (innerText as)
      = Str.toAsciiLowercase (innerText bs) := by
  rw [toAsciiLowercase_innerText, toAsciiLowercase_innerText, h]

theorem hasNewline_serialize
    (h : as.map Component.lower = bs.map Component.lower) :
    hasNewline (serializeParamsValue as params)
      = hasNewline (serializeParamsValue bs params) := by
  have hcons : ∀ (c : Char) (s : Str),
      hasNewline (c :: s) = (hasNewline [c] || hasNewline s) :=
    fun c s => hasNewline_append [c] s
  have hinner : hasNewline (innerText as) = hasNewline (innerText bs) := by
    rw [← hasNewline_toAsciiLowercase, innerText_lower h,
      hasNewline_toAsciiLowercase]
  rw [serializeParamsValue_eq, serializeParamsValue_eq, List.cons_append,
    List.cons_append, hcons, hcons '(' (innerText bs ++ _), hasNewline_append,
    hasNewline_append, hinner]

theorem length_serializeParamsValue
    (h : as.map Component.lower = bs.map Component.lower) :
    (serializeParamsValue as params).length
      = (serializeParamsValue bs params).length := by
  have hlen := congrArg List.length (innerText_lower h)
  rw [Str.toAsciiLowercase, Str.toAsciiLowercase, List.length_map,
    List.length_map] at hlen
  rw [serializeParamsValue_eq, serializeParamsValue_eq, List.length_append,
    List.length_append, List.length_cons, List.length_cons, hlen,
    List.length_cons]

/-- The parameters of a signature tell how its components are written. -/
theorem eq_of_serializeParamsValue
    (h : as.map Component.lower = bs.map Component.lower)
    (heq : serializeParamsValue as params = serializeParamsValue bs params) :
    as = bs := by
  rw [serializeParamsValue_eq, serializeParamsValue_eq] at heq
  have hlen : (as.map Component.quotedId).map List.length
      = (bs.map Component.quotedId).map List.length := by
    clear heq
    induction as generalizing bs with
    | nil => rw [List.map_eq_nil_iff.1 h.symm]
    | cons a as ih =>
      cases bs with
      | nil => cases h
      | cons b bs =>
        obtain ⟨hlower, hrest⟩ := List.cons.inj h
        simp only [List.map_cons, Component.quotedId_length hlower, ih hrest]
  have hids :=
    Scanner.intercalate_injective hlen
      (List.append_cancel_right (List.cons.inj heq).2)
  clear heq hlen
  induction as generalizing bs with
  | nil => exact (List.map_eq_nil_iff.1 h.symm).symm
  | cons a as ih =>
    cases bs with
    | nil => cases h
    | cons b bs =>
      obtain ⟨hlower, hrest⟩ := List.cons.inj h
      obtain ⟨hid, hids⟩ := List.cons.inj hids
      rw [Component.eq_of_quotedId hlower hid, ih hrest hids]

/-- Lists of equal components have the same base exactly when they are the same
list, or fail for the same reason. -/
theorem signatureBase_eq_iff [CaseBlind M]
    (h : as.map Component.lower = bs.map Component.lower) :
    signatureBase message as params = signatureBase message bs params ↔
      hasNewline (serializeParamsValue as params) = true ∨ as = bs ∨
        ∃ c, firstUnusable message as = some c ∧
        firstUnusable message bs = some c := by
  unfold signatureBase signatureBaseFromParamsStr
  rw [← hasNewline_serialize h]
  cases hasNewline (serializeParamsValue as params) with
  | true => simp
  | false =>
    rw [Outcome.failIf_false, Outcome.ok_bind, Outcome.ok_bind]
    have hfirst := firstUnusable_lower message h
    cases ha : firstUnusable message as with
    | none =>
      rw [ha] at hfirst
      have hb := Option.map_eq_none_iff.1 hfirst.symm
      obtain ⟨linesA, hlinesA⟩ := componentLines_of_none ha
      obtain ⟨linesB, hlinesB⟩ := componentLines_of_none hb
      rw [hlinesA, hlinesB]
      simp only [Outcome.ok_bind, Outcome.ok.injEq, Bool.false_eq_true,
        false_or, reduceCtorEq, false_and, exists_false, or_false]
      constructor
      · intro hbase
        have hparams := List.append_inj' hbase (length_serializeParamsValue h)
        exact eq_of_serializeParamsValue h hparams.2
      · rintro rfl
        rw [Outcome.ok.inj (hlinesA.symm.trans hlinesB)]
    | some a =>
      rw [ha] at hfirst
      obtain ⟨b, hb, hlower⟩ := Option.map_eq_some_iff.1 hfirst.symm
      obtain ⟨e, he, hlinesA⟩ := componentLines_of_some ha
      obtain ⟨e', he', hlinesB⟩ := componentLines_of_some hb
      rw [hlinesA, hlinesB, hb]
      simp only [Outcome.err_bind, Outcome.err.injEq,
        Bool.false_eq_true, false_or, Option.some.injEq, exists_eq_left']
      constructor
      · rintro rfl
        refine Or.inr (by_contra fun hne => ?_)
        rcases lineValue_lower message hlower hne with
          ⟨_, hvalue, _⟩ | ⟨_, _, hb', ha', hdiffer⟩
        · cases he'.symm.trans hvalue
        · have heb := Outcome.err.inj (he'.symm.trans hb')
          have hea := Outcome.err.inj (he.symm.trans ha')
          exact hdiffer (heb.symm.trans hea)
      · rintro (rfl | rfl)
        · obtain rfl := Option.some.inj (ha.symm.trans hb)
          exact Outcome.err.inj (he.symm.trans he')
        · exact Outcome.err.inj (he.symm.trans he')

end Base

/-! ## Signatures of equal components -/

section Sign

variable {M N : Type} [ComponentSource M] [ComponentSource N] [Base64]
  [Ed25519] [P256]

/-- The key accepts the signature for the base that the reader builds, which has
the identifiers of the components in lower case and the parameters as they are
written. -/
def AcceptsLowered (signedMessage : N) (components : List Component)
    (params : SignatureParams) (signingKey : SigningKey) (message : M)
    (key : VerifyingKey) : Prop :=
  ∃ base lowered, signatureBase signedMessage components params = .ok base ∧
    signatureBaseFromParamsStr message (components.map Component.lower)
      (serializeParamsValue components params) = .ok lowered ∧
    key.verify (Str.asBytes lowered) (signingKey.sign (Str.asBytes base)).toList
    = .ok ()

omit [Base64] in
/-- A configuration does not tell equal components apart. -/
theorem allows_map_lower {message : M} {key : VerifyingKey}
    {config : VerifyConfig} {label : Str} {components : List Component}
    {params : SignatureParams} :
    Allows message key config label (components.map Component.lower) params ↔
      Allows message key config label components params := by
  have hcontains := Component.contains_map_lower components
  constructor
  · intro h
    refine { h with
      connect := fun hprofile hmethod => ?_
      required := fun c hc => ?_ }
    · rw [← hcontains, ← hcontains]
      exact h.connect hprofile hmethod
    · rw [← hcontains]
      exact h.required c hc
  · intro h
    refine { h with
      connect := fun hprofile hmethod => ?_
      required := fun c hc => ?_ }
    · rw [hcontains, hcontains]
      exact h.connect hprofile hmethod
    · rw [hcontains]
      exact h.required c hc

/-- What is signed verifies when the configuration allows it and the key accepts
the signature for the base in lower case. -/
theorem verify_sign_iff
    (hbase64 : Base64.STANDARD.Lawful (Rfc4648.standardAlphabet ++ ['=']))
    {signedMessage : N} {components : List Component} {params : SignatureParams}
    {label : Str} {signingKey : SigningKey} {signed : SignedSignature}
    (hcomponents : ∀ c ∈ components, c.TokenNamed) (hlabel : IsKey label)
    (hsign : sign signedMessage components params label signingKey = .ok signed)
    {message : M} {key : VerifyingKey} {config : VerifyConfig} :
    (∃ w, verify message signed.signatureInput signed.signature key config
      = .ok w) ↔
      Allows message key config label components params ∧
        AcceptsLowered signedMessage components params signingKey
          message key := by
  obtain ⟨hsplit, base, hbase, hsig⟩ :=
    read_sign hbase64 hcomponents hlabel hsign
  have hparse := parseInputMember_serialize_lower label hcomponents
    (trim_serializeParamsValue components params)
  have hlone := fun m => selectMember_of_lone config (m := m) hsplit hparse
  rw [← allows_map_lower]
  constructor
  · intro ⟨w, hw⟩
    obtain ⟨member, hauth, hpolicy, _⟩ := verify_eq_ok_iff.1 hw
    obtain ⟨rfl, hlabel⟩ := (hlone member).1 hauth.selected
    obtain ⟨sigBytes, lowered, hsig', hlowered, hverify⟩ := hauth.signed
    obtain rfl := Outcome.ok.inj (hsig.symm.trans hsig')
    exact ⟨{ toAdmits := hauth.admitted, toPolicy := hpolicy, label := hlabel },
      base, lowered, hbase, hlowered, hverify⟩
  · intro ⟨hallows, base', lowered, hbase', hlowered, hverify⟩
    obtain rfl := Outcome.ok.inj (hbase.symm.trans hbase')
    have hselect := (hlone _).2 ⟨rfl, hallows.label⟩
    exact ⟨_, verify_eq_ok_iff.2 ⟨_,
      ⟨hselect, hallows.toAdmits, _, lowered, hsig, hlowered,
      hverify⟩, hallows.toPolicy, rfl⟩⟩

variable {signedMessage : N} {message : M} {components : List Component}
  {params : SignatureParams} {label : Str} {key : SigningKey}
  {signed : SignedSignature} {config : VerifyConfig}

omit [Base64] in
/-- A signature that is valid for its own base only is valid for the base of the
reader exactly when this is the same base. -/
theorem acceptsLowered_iff (hcomponents : ∀ c ∈ components, c.TokenNamed)
    (hbinds : ∀ base, signatureBase signedMessage components params = .ok base →
      Binds key (Str.asBytes base))
    (hbase : ∃ base, signatureBase signedMessage components params = .ok base) :
    AcceptsLowered signedMessage components params key message
      key.verifyingKey ↔
      (∀ c ∈ components, c.lower = c) ∧
        SameValues components signedMessage message := by
  constructor
  · intro ⟨base, lowered, hbase, hlowered, hverify⟩
    obtain rfl := Str.asBytes_injective ((hbinds base hbase _).1 hverify)
    have hwords : ∀ c ∈ components, c.OneWord :=
      fun c hc => (quotedId_word (hcomponents c hc)).2
    have hwords' : ∀ c ∈ components.map Component.lower, c.OneWord := by
      intro c hc
      obtain ⟨d, hd, rfl⟩ := List.mem_map.1 hc
      exact (Component.tokenNamed_iff_lower.1 (hcomponents d hd)).oneWord
    obtain ⟨_, hids, values, hvalues, hvalues'⟩ :=
      base_unambiguous hwords hwords' hbase hlowered
    rw [List.map_map] at hids
    have hlower : ∀ c ∈ components, c.lower = c := fun c hc =>
      (Component.eq_of_quotedId (Component.lower_lower c).symm
        (List.map_inj_left.1 hids c hc)).symm
    rw [(List.map_congr_left hlower).trans (List.map_id components)] at hvalues'
    exact ⟨hlower, sameValues_of_derives hvalues hvalues'⟩
  · intro ⟨hlower, hvalues⟩
    obtain ⟨base, hbase⟩ := hbase
    refine ⟨base, base, hbase, ?_, (hbinds base hbase _).2 rfl⟩
    rw [(List.map_congr_left hlower).trans (List.map_id components),
      ← signatureBaseFromParamsStr_congr hvalues]
    exact hbase

/-- What is signed verifies, on another message perhaps, when the configuration
allows it, the components are in lower case, and the messages have the same
values for them. -/
theorem verify_signed_iff
    (hbase64 : Base64.STANDARD.Lawful (Rfc4648.standardAlphabet ++ ['=']))
    (hcomponents : ∀ c ∈ components, c.TokenNamed) (hlabel : IsKey label)
    (hsign : sign signedMessage components params label key = .ok signed)
    (hbinds : ∀ base, signatureBase signedMessage components params = .ok base →
      Binds key (Str.asBytes base)) :
    (∃ w, verify message signed.signatureInput signed.signature
        key.verifyingKey config = .ok w) ↔
      Allows message key.verifyingKey config label components params ∧
        (∀ c ∈ components, c.lower = c) ∧
        SameValues components signedMessage message := by
  obtain ⟨base, hbase, _⟩ := sign_eq_ok_iff.1 hsign
  rw [verify_sign_iff hbase64 hcomponents hlabel hsign,
    acceptsLowered_iff hcomponents hbinds ⟨base, hbase⟩]

/-- Lists of equal components have the same base only if they are written in the
same letter case.  The signatures over two such lists verify in the same places
unless one of them is in lower case and the other is not.  What is signed
verifies exactly when the components are in lower case. -/
theorem equal_components_sign [CaseBlind M]
    (hbase64 : Base64.STANDARD.Lawful (Rfc4648.standardAlphabet ++ ['=']))
    (message : M) (params : SignatureParams) :
    (∀ as bs, List.Forall₂ (fun a b => Component.eq a b = true) as bs →
      (signatureBase message as params = signatureBase message bs params ↔
        hasNewline (serializeParamsValue as params) = true ∨ as = bs ∨
          ∃ c, firstUnusable message as = some c ∧
            firstUnusable message bs = some c)) ∧
    (∀ as bs label key signedA signedB,
      List.Forall₂ (fun a b => Component.eq a b = true) as bs →
      (∀ c ∈ as, c.TokenNamed) → IsKey label →
      (∀ base, signatureBase message as params = .ok base →
        Binds key (Str.asBytes base)) →
      (∀ base, signatureBase message bs params = .ok base →
        Binds key (Str.asBytes base)) →
      sign message as params label key = .ok signedA →
      sign message bs params label key = .ok signedB →
      ∀ (received : N) config,
        ((∃ w, verify received signedA.signatureInput signedA.signature
            key.verifyingKey config = .ok w) ↔
          ∃ w, verify received signedB.signatureInput signedB.signature
            key.verifyingKey config = .ok w) ↔
        (Allows received key.verifyingKey config label as params →
          SameValues (as.map Component.lower) message received →
            ((∀ c ∈ as, c.lower = c) ↔ ∀ c ∈ bs, c.lower = c))) ∧
    ∀ components label key signed config, (∀ c ∈ components, c.TokenNamed) →
      IsKey label →
      (∀ base, signatureBase message components params = .ok base →
        Binds key (Str.asBytes base)) →
      sign message components params label key = .ok signed →
      Allows message key.verifyingKey config label components params →
        ((∃ w, verify message signed.signatureInput signed.signature
            key.verifyingKey config = .ok w) ↔
          ∀ c ∈ components, c.lower = c) := by
  have hmap : ∀ {components : List Component},
      (∀ c ∈ components, c.lower = c) →
      components.map Component.lower = components := fun hlower =>
    (List.map_congr_left hlower).trans (List.map_id _)
  refine ⟨fun as bs h =>
    signatureBase_eq_iff (Component.forall₂_eq_iff_lower.1 h), ?_, ?_⟩
  · intro as bs label key signedA signedB h htokens hlabel hbindsA
      hbindsB hsignA hsignB received config
    have hlower := Component.forall₂_eq_iff_lower.1 h
    have htokens' : ∀ c ∈ bs, c.TokenNamed := by
      intro c hc
      have hmem : c.lower ∈ as.map Component.lower :=
        hlower ▸ List.mem_map_of_mem hc
      obtain ⟨a, ha, hac⟩ := List.mem_map.1 hmem
      rw [Component.tokenNamed_iff_lower, ← hac]
      exact Component.tokenNamed_iff_lower.1 (htokens a ha)
    have hallows : Allows received key.verifyingKey config label bs params ↔
        Allows received key.verifyingKey config label as params := by
      rw [← allows_map_lower, ← hlower, allows_map_lower]
    -- In lower case, a list is the one that both have in lower case.
    have hvalues : ∀ {components : List Component},
        components.map Component.lower = as.map Component.lower →
        ((∀ c ∈ components, c.lower = c) ∧
            SameValues components message received ↔
          (∀ c ∈ components, c.lower = c) ∧
            SameValues (as.map Component.lower) message received) := by
      intro components hcomponents
      refine and_congr_right fun hall => ?_
      rw [← hcomponents, hmap hall]
    rw [verify_signed_iff hbase64 htokens hlabel hsignA hbindsA,
      verify_signed_iff hbase64 htokens' hlabel hsignB hbindsB, hallows,
      hvalues rfl, hvalues hlower.symm]
    tauto
  · intro components label key signed config htokens hlabel hbinds hsign hallows
    rw [verify_signed_iff hbase64 htokens hlabel hsign hbinds]
    exact ⟨fun h => h.2.1, fun hlower => ⟨hallows, hlower, fun _ _ => rfl⟩⟩

end Sign

namespace Example.LetterCase

/-- A request with a date. -/
def dated : HttpRequest := { request with headers := [("Date", "x")] }

/-- The base of the request for `Date`. -/
def base : Str := "\"Date\": x\n\"@signature-params\": (\"Date\")"

/-- The signature of the base by the key of the seed `01 01 ... 01`. -/
def signature : Vector UInt8 64 :=
  #v[202, 50, 32, 169, 10, 104, 86, 253, 7, 60, 207, 25, 163, 55, 146, 57, 138,
    96, 103, 32, 43, 234, 191, 77, 218, 111, 215, 24, 131, 92, 74, 198, 29, 12,
    217, 121, 200, 138, 92, 241, 211, 88, 39, 231, 230, 226, 224, 43, 116, 60,
    65, 174, 101, 180, 151, 4, 52, 134, 61, 122, 254, 214, 143, 12]

/-- The base of the request for `date`. -/
def lowerBase : Str := "\"date\": x\n\"@signature-params\": (\"date\")"

/-- The signature of this base by the same key. -/
def lowerSignature : Vector UInt8 64 :=
  #v[64, 105, 52, 231, 23, 185, 10, 160, 81, 249, 42, 241, 115, 110, 252, 165,
    195, 27, 205, 193, 170, 41, 239, 184, 37, 232, 26, 252, 246, 10, 100, 244,
    128, 142, 117, 212, 237, 24, 53, 98, 213, 134, 14, 131, 72, 28, 177, 17,
    135, 170, 52, 139, 250, 188, 27, 185, 228, 44, 182, 88, 173, 157, 39, 12]

theorem signatureBase_dated :
    signatureBase dated [.header "Date"] .default = .ok base ∧
      signatureBase dated [.header "date"] .default = .ok lowerBase := by
  decide +kernel

theorem tokenNamed {name : Str} (hne : name ≠ [])
    (hall : name.all (fun c => decide (c.toLower ∈ tokenChars)) = true) :
    ∀ c ∈ [Component.header name], c.TokenNamed :=
  List.forall_mem_singleton.2
    ⟨hne, fun c hc => of_decide_eq_true (List.all_eq_true.1 hall c hc)⟩

open scoped Rfc4648 P256.Keyless

local instance : Ed25519 :=
  Ed25519.signingTwo base signature lowerBase lowerSignature

def key : SigningKey := .ed25519 ()

/-- The two signatures are valid for their own bases only. -/
theorem binds {b : Str} (hb : b = base ∨ b = lowerBase) :
    Binds key (Str.asBytes b) := by
  have hbases : lowerBase ≠ base := by
    decide +kernel
  have hsignatures : signature ≠ lowerSignature ∧
      signature ≠ Vector.replicate 64 0 ∧
      lowerSignature ≠ Vector.replicate 64 0 := by
    decide +kernel
  obtain ⟨hne, hzero, hlowerZero⟩ := hsignatures
  have hsign : ∀ message, key.sign message =
      if message = Str.asBytes base then signature
      else if message = Str.asBytes lowerBase then lowerSignature
      else Vector.replicate 64 0 := fun _ => rfl
  have hleft := (hsign (Str.asBytes base)).trans (if_pos rfl)
  have hright := (hsign (Str.asBytes lowerBase)).trans
    ((if_neg fun h => hbases (Str.asBytes_injective h)).trans (if_pos rfl))
  have hcases : ∀ other, other = Str.asBytes base ∨
      other = Str.asBytes lowerBase ∨
      key.sign other = Vector.replicate 64 0 := by
    intro other
    by_cases hother : other = Str.asBytes base
    · exact Or.inl hother
    · by_cases hother' : other = Str.asBytes lowerBase
      · exact Or.inr (Or.inl hother')
      · exact Or.inr (Or.inr
          ((hsign other).trans ((if_neg hother).trans (if_neg hother'))))
  intro other
  refine Ed25519.single_verify_iff.trans ⟨fun h => ?_, fun h => by rw [h]; rfl⟩
  have h : key.sign (Str.asBytes b) = key.sign other := h
  rcases hb with rfl | rfl
  · rw [hleft] at h
    rcases hcases other with hother | rfl | hother
    · exact hother
    · exact absurd (h.trans hright) hne
    · exact absurd (h.trans hother) hzero
  · rw [hright] at h
    rcases hcases other with rfl | hother | hother
    · exact absurd (h.trans hleft).symm hne
    · exact hother
    · exact absurd (h.trans hother) hlowerZero

/-- A signature over the header `Date` does not verify, and its base is not the
one of the equal component `date`. -/
theorem date_rejected :
    ∃ signed, Component.eq (.header "Date") (.header "date") = true ∧
      signatureBase dated [.header "Date"] .default
        ≠ signatureBase dated [.header "date"] .default ∧
      (∀ c ∈ [Component.header "Date"], c.TokenNamed) ∧
      (∀ b, signatureBase dated [.header "Date"] .default = .ok b →
        Binds key (Str.asBytes b)) ∧
      sign dated [.header "Date"] .default "a" key = .ok signed ∧
      ∀ w, verify dated signed.signatureInput signed.signature key.verifyingKey
        .default ≠ .ok w := by
  have htokens : ∀ c ∈ [Component.header "Date"], c.TokenNamed :=
    tokenNamed (by decide) (by decide)
  obtain ⟨hdated, _⟩ := signatureBase_dated
  obtain ⟨signed, hsigned⟩ := exists_sign "a" key hdated
  have hbinds : ∀ b, signatureBase dated [.header "Date"] .default = .ok b →
      Binds key (Str.asBytes b) := by
    intro b hb
    obtain rfl := Outcome.ok.inj (hdated.symm.trans hb)
    exact binds (Or.inl rfl)
  refine ⟨signed, by decide, by decide +kernel, htokens, hbinds, hsigned,
    fun w hw => ?_⟩
  obtain ⟨_, hlower, _⟩ := (verify_signed_iff Rfc4648.standard_lawful htokens
    Unique.isKey hsigned hbinds).1 ⟨w, hw⟩
  exact absurd (hlower _ (List.mem_singleton.2 rfl)) (by decide)

/-- A signature over the header `date` verifies. -/
theorem equal_components_sign_example :
    ∃ signed, sign dated [.header "date"] .default "a" key = .ok signed ∧
      ∃ w, verify dated signed.signatureInput signed.signature key.verifyingKey
        .default = .ok w := by
  obtain ⟨_, hdated⟩ := signatureBase_dated
  obtain ⟨signed, hsigned⟩ := exists_sign "a" key hdated
  have hbinds : ∀ b, signatureBase dated [.header "date"] .default = .ok b →
      Binds key (Str.asBytes b) := by
    intro b hb
    obtain rfl := Outcome.ok.inj (hdated.symm.trans hb)
    exact binds (Or.inr rfl)
  obtain ⟨_, _, hverifies⟩ := equal_components_sign (N := HttpRequest)
    Rfc4648.standard_lawful dated .default
  refine ⟨signed, hsigned, (hverifies _ "a" key signed .default
    (tokenNamed (by decide) (by decide)) Unique.isKey hbinds hsigned
    (allows_default _ _ _ _)).2 ?_⟩
  exact List.forall_mem_singleton.2 (by decide)

end Example.LetterCase

end Wimsey.HttpSig
