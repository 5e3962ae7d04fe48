import Wimsey.HttpSig.Writer

/-!
# The signature base is unambiguous

A signature base is one line for each covered component and a last one for the
parameters, since no identifier, value or parameter text holds a line break.
Within a line the first blank ends the identifier.  So two bases that are equal
as texts cover components with the same identifiers, have the same parameters,
and derive the same value for each component.
-/

namespace Wimsey.HttpSig

open Wimsey.RustStd Wimsey.Jose Wimsey.Scan

/-! ## Identifiers of one word -/

/-- The identifier of the component holds no whitespace. -/
def Component.OneWord (c : Component) : Prop :=
  ∀ d ∈ c.quotedId, Str.isWhitespace d = false

theorem Component.WellNamed.oneWord {c : Component} (h : c.WellNamed) :
    c.OneWord :=
  (quotedId_word h.tokenNamed).2

/-- The derived components. -/
def derived : List Component :=
  [.method, .authority, .path, .query, .requestTarget, .status]

/-- What stands between the quotes names a derived component if it starts with
an `@`, and a header otherwise. -/
theorem ofInner_cases {inner : Str} {c : Component}
    (h : Component.ofInner inner = .ok c) :
    inner.head? = some '@' ∧ c ∈ derived ∧ c.quotedId = '"' :: inner ++ ['"'] ∧
        Str.toAsciiLowercase inner = inner ∨
      inner.head? ≠ some '@' ∧ c = .header (Str.toAsciiLowercase inner) := by
  have hderived : ∀ {name : Str} {d : Component}, inner = name →
      (.ok d : Outcome HttpSigError Component) = .ok c →
      (name.head? = some '@' ∧ d ∈ derived ∧ d.quotedId = '"' :: name ++ ['"'] ∧
        Str.toAsciiLowercase name = name) →
      inner.head? = some '@' ∧ c ∈ derived ∧
        c.quotedId = '"' :: inner ++ ['"'] ∧
        Str.toAsciiLowercase inner = inner := by
    intro name d hinner hdc hname
    obtain rfl := Outcome.ok.inj hdc
    rwa [hinner]
  unfold Component.ofInner at h
  iterate 6
    split at h
    · rename_i hinner
      exact Or.inl (hderived hinner h ⟨by rfl, by decide, by rfl, by rfl⟩)
  split at h
  · cases h
  · rename_i hat
    exact Or.inr ⟨hat, (Outcome.ok.inj h).symm⟩

/-- The two forms of an identifier that was read. -/
theorem fromQuotedId_cases {token : Str} {c : Component}
    (h : Component.fromQuotedId token = .ok c) :
    (∃ base inner, token = base ++ ";req".toList ∧
      Component.fromQuotedId base = .ok inner ∧
        c = .req inner) ∨
      ∃ inner, token = '"' :: inner ++ ['"'] ∧
      Component.ofInner inner = .ok c := by
  cases hreq : Str.stripSuffix ";req" token with
  | some base =>
    obtain rfl := Str.stripSuffix_eq_some_iff.1 hreq
    rw [Component.fromQuotedId_append_req] at h
    obtain ⟨inner, hinner, hc⟩ := Outcome.bind_eq_ok_iff.1 h
    exact Or.inl ⟨base, inner, rfl, hinner, (Outcome.ok.inj hc).symm⟩
  | none =>
    rw [Component.fromQuotedId_of_not_req hreq] at h
    obtain ⟨inner, hinner, hc⟩ := Outcome.bind_eq_ok_iff.1 h
    obtain ⟨tail, htail, hstrip⟩ :=
      Option.bind_eq_some_iff.1 (Outcome.okOr_eq_ok_iff.1 hinner)
    obtain rfl := Str.stripPrefix_eq_some_iff.1 htail
    obtain rfl := Str.stripSuffix_eq_some_iff.1 hstrip
    exact Or.inr ⟨inner, rfl, hc⟩

/-- The identifier of a component that was read is the text in lower case. -/
theorem quotedId_of_fromQuotedId {token : Str} {c : Component}
    (h : Component.fromQuotedId token = .ok c) :
    c.quotedId = Str.toAsciiLowercase token := by
  induction c generalizing token with
  | req inner ih =>
    rcases fromQuotedId_cases h
      with ⟨base, inner', rfl, hbase, hc⟩ | ⟨name, _, hname⟩
    · obtain rfl := Component.req.inj hc
      rw [Component.quotedId_req, ih hbase, Str.toAsciiLowercase,
        Str.toAsciiLowercase, List.map_append]
      rfl
    · rcases ofInner_cases hname with ⟨_, hmem, _⟩ | ⟨_, hc⟩
      · simp [derived] at hmem
      · cases hc
  | _ =>
    rcases fromQuotedId_cases h
      with ⟨base, inner', _, _, hc⟩ | ⟨name, rfl, hname⟩
    · cases hc
    · have hquotes : Str.toAsciiLowercase ('"' :: name ++ ['"'])
          = '"' :: Str.toAsciiLowercase name ++ ['"'] := by
        simp [Str.toAsciiLowercase]
      rw [hquotes]
      rcases ofInner_cases hname with ⟨_, _, hid, hlower⟩ | ⟨_, hc⟩
      · rw [hid, hlower]
      · rw [hc]
        rfl

/-- A component read from one word has an identifier of one word. -/
theorem oneWord_of_fromQuotedId {token : Str} {c : Component}
    (htoken : ∀ d ∈ token, Str.isWhitespace d = false)
    (h : Component.fromQuotedId token = .ok c) : c.OneWord := by
  intro d hd
  rw [quotedId_of_fromQuotedId h] at hd
  obtain ⟨e, he, rfl⟩ := List.mem_map.1 hd
  rw [Str.isWhitespace_toLower]
  exact htoken e he

/-- The components of a member come from the words of its inner list. -/
theorem exists_word_of_parseInputMember {label rest : Str}
    {member : InputMember} (h : parseInputMember label rest = .ok member)
    {c : Component} (hc : c ∈ member.components) :
    ∃ word, (∀ d ∈ word, Str.isWhitespace d = false) ∧
    Component.fromQuotedId word = .ok c := by
  obtain ⟨_, _, inner, after, hread⟩ := parseInputMember_eq_ok_iff.1 h
  obtain ⟨word, hword, hc⟩ := Outcome.exists_of_mem_mapM hread.components hc
  exact ⟨word, Str.isWhitespace_of_mem_splitWhitespace hword, hc⟩

/-- The components of a member that was read have identifiers of one word. -/
theorem oneWord_of_parseInputMember {label rest : Str} {member : InputMember}
    (h : parseInputMember label rest = .ok member) :
    ∀ c ∈ member.components, c.OneWord := by
  intro c hc
  obtain ⟨word, hword, hread⟩ := exists_word_of_parseInputMember h hc
  exact oneWord_of_fromQuotedId hword hread

/-! ## The lines of a base -/

section Lines

variable {M : Type} [ComponentSource M]

/-- The line of a covered component. -/
def componentLine (c : Component) (value : Str) : Str :=
  c.quotedId ++ ':' :: ' ' :: value

/-- The last line. -/
def paramsLine (paramsValue : Str) : Str :=
  "\"@signature-params\": ".toList ++ paramsValue

/-- The values that the message derives for the components, none of which holds
a line break. -/
def Derives (message : M) (components : List Component)
    (values : List Str) : Prop :=
  List.Forall₂
    (fun c value => ComponentSource.componentValue message c = .ok value ∧
      hasNewline value = false)
    components values

theorem exists_derives_iff {message : M} {components : List Component} :
    (∃ values, Derives message components values) ↔
      ∀ c ∈ components, ∃ value,
        ComponentSource.componentValue message c = .ok value ∧
        hasNewline value = false := by
  unfold Derives
  induction components with
  | nil => simp
  | cons c components ih =>
    simp only [List.forall_mem_cons, ← ih, List.forall₂_cons_left_iff]
    constructor
    · rintro ⟨_, value, values, hvalue, hvalues, rfl⟩
      exact ⟨⟨value, hvalue⟩, values, hvalues⟩
    · intro ⟨⟨value, hvalue⟩, values, hvalues⟩
      exact ⟨value :: values, value, values, hvalue, hvalues, rfl⟩

theorem componentLines_eq_ok_iff {message : M} {components : List Component}
    {text : Str} :
    componentLines message components = .ok text ↔
      ∃ values, Derives message components values ∧
        text = (List.zipWith componentLine components values).flatMap
          (· ++ ['\n']) := by
  induction components generalizing text with
  | nil =>
    simp only [componentLines, Outcome.ok.injEq, Derives,
      List.forall₂_nil_left_iff, exists_eq_left, List.zipWith_nil_left,
      List.flatMap_nil]
    exact eq_comm
  | cons c components ih =>
    simp only [componentLines, Outcome.bind_eq_ok_iff, Outcome.failIf_eq_ok_iff,
      exists_const, ih, Derives, List.forall₂_cons_left_iff, Outcome.ok.injEq]
    constructor
    · rintro ⟨value, hvalue, hline, rest, ⟨values, hvalues, rfl⟩, rfl⟩
      exact ⟨value :: values, ⟨value, values, ⟨hvalue, hline⟩, hvalues, rfl⟩,
        by simp [componentLine]⟩
    · rintro ⟨_, ⟨value, values, ⟨hvalue, hline⟩, hvalues, rfl⟩, rfl⟩
      exact ⟨value, hvalue, hline, _,
        ⟨values, hvalues, rfl⟩, by simp [componentLine]⟩

/-- A base is its lines, joined by line breaks. -/
theorem signatureBaseFromParamsStr_eq_ok_iff {message : M}
    {components : List Component} {paramsValue base : Str} :
    signatureBaseFromParamsStr message components paramsValue = .ok base ↔
      hasNewline paramsValue = false ∧
      ∃ values, Derives message components values ∧
        base = ['\n'].intercalate
          (List.zipWith componentLine components values ++
            [paramsLine paramsValue]) := by
  have hjoin : ∀ (lines : List Str) (last : Str),
      ['\n'].intercalate (lines ++ [last]) = lines.flatMap (· ++ ['\n']) ++
        last := by
    intro lines last
    induction lines with
    | nil => simp
    | cons line lines ih =>
      cases lines with
      | nil => simp
      | cons line' lines =>
        rw [List.cons_append, List.cons_append, List.intercalate_cons_cons,
          ← List.cons_append, ih]
        simp only [List.flatMap_cons, List.append_assoc]
  have hbase : signatureBaseFromParamsStr message components paramsValue = (do
      Outcome.failIf (hasNewline paramsValue)
        (.parse "signature parameters contain CR or LF")
      let lines ← componentLines message components
      .ok (lines ++ paramsLine paramsValue)) := by
    unfold signatureBaseFromParamsStr
    refine bind_congr fun _ => bind_congr fun lines => ?_
    exact congrArg Outcome.ok (List.append_assoc _ _ _)
  simp only [hbase, Outcome.bind_eq_ok_iff, Outcome.failIf_eq_ok_iff,
    exists_const, componentLines_eq_ok_iff, Outcome.ok.injEq, hjoin]
  constructor
  · rintro ⟨hparams, _, ⟨values, hvalues, rfl⟩, rfl⟩
    exact ⟨hparams, values, hvalues, rfl⟩
  · rintro ⟨hparams, values, hvalues, rfl⟩
    exact ⟨hparams, _, ⟨values, hvalues, rfl⟩, rfl⟩

/-- The first blank of a line comes after its identifier and the colon. -/
theorem splitOnce_line {id value : Str}
    (h : ∀ d ∈ id, Str.isWhitespace d = false) :
    Str.splitOnce ' ' (id ++ ':' :: ' ' :: value)
      = some (id ++ [':'], value) := by
  have hblank : ' ' ∉ id ++ [':'] := by
    intro hmem
    rcases List.mem_append.1 hmem with hmem | hmem
    · exact absurd (h ' ' hmem) (by decide)
    · exact absurd hmem (by decide)
  have hline : id ++ ':' :: ' ' :: value = (id ++ [':']) ++
      ' ' :: value := by simp
  rw [hline, Str.splitOnce_append_cons hblank]

/-- Two lines that are equal are of the same identifier and of the same
value. -/
theorem line_injective {id₁ id₂ value₁ value₂ : Str}
    (h₁ : ∀ d ∈ id₁, Str.isWhitespace d = false)
    (h₂ : ∀ d ∈ id₂, Str.isWhitespace d = false)
    (h : id₁ ++ ':' :: ' ' :: value₁ = id₂ ++ ':' :: ' ' :: value₂) :
    id₁ = id₂ ∧ value₁ = value₂ := by
  have hsplit := congrArg (Str.splitOnce ' ') h
  rw [splitOnce_line h₁, splitOnce_line h₂] at hsplit
  obtain ⟨hid, hvalue⟩ := Prod.mk.inj (Option.some.inj hsplit)
  exact ⟨List.append_cancel_right hid, hvalue⟩

theorem zipWith_componentLine_injective {c₁ c₂ : List Component}
    {values₁ values₂ : List Str} (hlen₁ : c₁.length = values₁.length)
    (hlen₂ : c₂.length = values₂.length) (h₁ : ∀ c ∈ c₁, c.OneWord)
    (h₂ : ∀ c ∈ c₂, c.OneWord)
    (h : List.zipWith componentLine c₁ values₁
      = List.zipWith componentLine c₂ values₂) :
    c₁.map Component.quotedId = c₂.map Component.quotedId ∧
    values₁ = values₂ := by
  induction c₁ generalizing c₂ values₁ values₂ with
  | nil =>
    cases c₂ with
    | nil =>
      have hnil₁ := List.length_eq_zero_iff.1 hlen₁.symm
      have hnil₂ := List.length_eq_zero_iff.1 hlen₂.symm
      rw [hnil₁, hnil₂]
      exact ⟨rfl, rfl⟩
    | cons d₂ c₂ =>
      cases values₂ with
      | nil => cases hlen₂
      | cons value₂ values₂ => simp at h
  | cons d₁ c₁ ih =>
    cases values₁ with
    | nil => cases hlen₁
    | cons value₁ values₁ =>
      cases c₂ with
      | nil => simp at h
      | cons d₂ c₂ =>
        cases values₂ with
        | nil => cases hlen₂
        | cons value₂ values₂ =>
          rw [List.zipWith_cons_cons, List.zipWith_cons_cons] at h
          obtain ⟨hline, hrest⟩ := List.cons.inj h
          obtain ⟨hid, hvalue⟩ := line_injective (h₁ d₁ (List.mem_cons_self ..))
            (h₂ d₂ (List.mem_cons_self ..)) hline
          obtain ⟨hids, hvalues⟩ := ih (Nat.succ.inj hlen₁) (Nat.succ.inj hlen₂)
            (fun c hc => h₁ c (List.mem_cons_of_mem d₁ hc))
            (fun c hc => h₂ c (List.mem_cons_of_mem d₂ hc)) hrest
          rw [List.map_cons, List.map_cons, hid, hids, hvalue, hvalues]
          exact ⟨rfl, rfl⟩

theorem hasNewline_append (s t : Str) :
    hasNewline (s ++ t) = (hasNewline s || hasNewline t) :=
  List.any_append

/-- No line of a base holds a line break. -/
theorem newline_not_mem_lines {message : M} {components : List Component}
    {values : List Str} (hvalues : Derives message components values)
    (hids : ∀ c ∈ components, hasNewline c.quotedId = false) :
    ∀ line ∈ List.zipWith componentLine components values,
    hasNewline line = false := by
  induction hvalues with
  | nil => simp
  | @cons c value components values hvalue _ ih =>
    intro line hline
    rw [List.zipWith_cons_cons, List.mem_cons] at hline
    rcases hline with rfl | hline
    · rw [componentLine, hasNewline_append, hids c (List.mem_cons_self ..),
        Bool.false_or]
      exact hvalue.2
    · exact ih (fun d hd => hids d (List.mem_cons_of_mem c hd)) line hline

theorem not_mem_of_hasNewline {s : Str} (h : hasNewline s = false) :
    '\n' ∉ s ∧ '\r' ∉ s := by
  have hany := List.any_eq_false.1 h
  exact ⟨fun hmem => by simpa using hany _ hmem,
    fun hmem => by simpa using hany _ hmem⟩

theorem Component.OneWord.hasNewline {c : Component} (h : c.OneWord) :
    hasNewline c.quotedId = false := by
  apply List.any_eq_false.2
  intro d hd
  have hspace := h d hd
  have hne : ∀ e, Str.isWhitespace e = true → d ≠ e := by
    rintro _ he rfl
    rw [hspace] at he
    cases he
  simpa using ⟨hne '\r' (by decide), hne '\n' (by decide)⟩

/-- Splitting a base at the line breaks gives its lines back. -/
theorem splitOn_base {message : M} {components : List Component}
    {paramsValue base : Str}
    (hids : ∀ c ∈ components, hasNewline c.quotedId = false)
    (h : signatureBaseFromParamsStr message components paramsValue = .ok base) :
    ∃ values, Derives message components values ∧ '\r' ∉ base ∧
      base.splitOn '\n'
        = List.zipWith componentLine components values ++
          [paramsLine paramsValue] := by
  obtain ⟨hparams, values, hvalues, rfl⟩ :=
    signatureBaseFromParamsStr_eq_ok_iff.1 h
  have hlast : hasNewline (paramsLine paramsValue) = false := by
    unfold paramsLine
    refine (hasNewline_append _ _).trans ?_
    rw [hparams, Bool.or_false]
    simp [hasNewline]
  have hlines : ∀ line ∈ List.zipWith componentLine components values ++
      [paramsLine paramsValue], hasNewline line = false := by
    intro line hline
    rcases List.mem_append.1 hline with hline | hline
    · exact newline_not_mem_lines hvalues hids line hline
    · rw [List.mem_singleton.1 hline]
      exact hlast
  refine ⟨values, hvalues, fun hmem => ?_, ?_⟩
  · rcases Scanner.mem_of_mem_intercalate hmem with hmem | ⟨line, hline, hmem⟩
    · exact absurd hmem (by decide)
    · exact (not_mem_of_hasNewline (hlines line hline)).2 hmem
  · exact List.splitOn_intercalate '\n'
      (fun line hline =>
        (not_mem_of_hasNewline (hlines line hline)).1) (by simp)

end Lines

/-- Two messages with the same signature base cover components with the same
identifiers, with the same parameters, and derive the same values for them. -/
theorem base_unambiguous {M₁ M₂ : Type} [ComponentSource M₁]
    [ComponentSource M₂] {m₁ : M₁} {m₂ : M₂} {c₁ c₂ : List Component}
    {paramsValue₁ paramsValue₂ base : Str} (hwords₁ : ∀ c ∈ c₁, c.OneWord)
    (hwords₂ : ∀ c ∈ c₂, c.OneWord)
    (h₁ : signatureBaseFromParamsStr m₁ c₁ paramsValue₁ = .ok base)
    (h₂ : signatureBaseFromParamsStr m₂ c₂ paramsValue₂ = .ok base) :
    paramsValue₁ = paramsValue₂ ∧
      c₁.map Component.quotedId = c₂.map Component.quotedId ∧
      ∃ values, Derives m₁ c₁ values ∧ Derives m₂ c₂ values := by
  obtain ⟨values₁, hvalues₁, _, hlines₁⟩ :=
    splitOn_base (fun c hc => (hwords₁ c hc).hasNewline) h₁
  obtain ⟨values₂, hvalues₂, _, hlines₂⟩ :=
    splitOn_base (fun c hc => (hwords₂ c hc).hasNewline) h₂
  rw [hlines₁] at hlines₂
  obtain ⟨hcomponents, hparams⟩ := List.append_inj' hlines₂ rfl
  obtain ⟨hids, rfl⟩ :=
    zipWith_componentLine_injective hvalues₁.length_eq hvalues₂.length_eq
    hwords₁ hwords₂ hcomponents
  refine ⟨?_, hids, values₁, hvalues₁, hvalues₂⟩
  exact List.append_cancel_left (List.cons.inj hparams).1

/-! ## What a base says -/

theorem value_of_derives {M₁ M₂ : Type} [ComponentSource M₁]
    [ComponentSource M₂] {m₁ : M₁} {m₂ : M₂} {components : List Component}
    {values : List Str} (h₁ : Derives m₁ components values)
    (h₂ : Derives m₂ components values) :
    ∀ c ∈ components, ∃ value, ComponentSource.componentValue m₁ c = .ok value ∧
      ComponentSource.componentValue m₂ c = .ok value := by
  induction h₁ with
  | nil => simp
  | @cons c value components values hvalue _ ih =>
    obtain ⟨hvalue₂, hrest₂⟩ := List.forall₂_cons.1 h₂
    intro d hd
    rcases List.mem_cons.1 hd with rfl | hd
    · exact ⟨value, hvalue.1, hvalue₂.1⟩
    · exact ih hrest₂ d hd

/-! ## Messages that a signature cannot tell apart -/

section Same

variable {M N : Type} [ComponentSource M] [ComponentSource N]

/-- The two messages have the same value for each component, or the same
error. -/
def SameValues (components : List Component) (m : M) (m' : N) : Prop :=
  ∀ c ∈ components,
    ComponentSource.componentValue m c = ComponentSource.componentValue m' c

variable {components : List Component} {m : M} {m' : N}

/-- Two messages that both have a value for each component, and the same one. -/
theorem sameValues_of_both
    (h : ∀ c ∈ components, ∃ value,
      ComponentSource.componentValue m c = .ok value ∧
      ComponentSource.componentValue m' c = .ok value) :
    SameValues components m m' := by
  intro c hc
  obtain ⟨value, hvalue, hvalue'⟩ := h c hc
  exact hvalue.trans hvalue'.symm

theorem sameValues_of_derives {values : List Str}
    (h : Derives m components values) (h' : Derives m' components values) :
    SameValues components m m' :=
  sameValues_of_both (value_of_derives h h')

theorem componentLines_congr (h : SameValues components m m') :
    componentLines m components = componentLines m' components := by
  induction components with
  | nil => rfl
  | cons c components ih =>
    unfold componentLines
    rw [h c (List.mem_cons_self ..),
      ih fun d hd => h d (List.mem_cons_of_mem c hd)]

theorem signatureBaseFromParamsStr_congr (h : SameValues components m m')
    (paramsValue : Str) :
    signatureBaseFromParamsStr m components paramsValue
      = signatureBaseFromParamsStr m' components paramsValue := by
  unfold signatureBaseFromParamsStr
  rw [componentLines_congr h]

/-- The signature of these bytes is valid for them, and for nothing else. -/
def Binds [Ed25519] [P256] (key : SigningKey) (bytes : Bytes) : Prop :=
  ∀ other,
    key.verifyingKey.verify other (key.sign bytes).toList = .ok () ↔
      other = bytes

end Same

/-- Lower case takes letters to letters, and keeps every other character. -/
theorem toLower_cases (c : Char) :
    c.toLower = c ∨ c.isAlpha = true ∧ c.toLower.isAlpha = true := by
  by_cases hascii : c.toNat < 0x80
  · exact Str.forall_ascii
      (P := fun c => c.toLower = c ∨ c.isAlpha = true ∧
        c.toLower.isAlpha = true) (by decide) hascii
  · have hupper : ¬ (c.val ≥ 'A'.val ∧ c.val ≤ 'Z'.val) := by
      intro h
      have hle : c.toNat ≤ 90 := h.2
      omega
    exact Or.inl (by rw [Char.toLower, dif_neg hupper])

theorem toLower_eq_iff {c d : Char} (hd : d.isAlpha = false) :
    c.toLower = d ↔ c = d := by
  rcases toLower_cases c with hkeep | ⟨halpha, hlower⟩
  · rw [hkeep]
  · constructor
    · rintro rfl
      rw [hlower] at hd
      cases hd
    · rintro rfl
      rw [halpha] at hd
      cases hd

/-- The identifier of the last line is not that of a component. -/
theorem quotedId_ne_of_fromQuotedId {token : Str} {c : Component}
    (h : Component.fromQuotedId token = .ok c) :
    c.quotedId ≠ "\"@signature-params\"".toList := by
  intro hid
  have hlast := congrArg List.getLast? hid
  rcases fromQuotedId_cases h with ⟨base, inner, _, _, rfl⟩ | ⟨name, _, hname⟩
  · rw [Component.quotedId_req,
      List.getLast?_append_of_ne_nil _ (by simp)] at hlast
    simp at hlast
  · rcases ofInner_cases hname with ⟨_, hmem, _⟩ | ⟨hat, rfl⟩
    · have hall : ∀ d ∈ derived,
          d.quotedId ≠ "\"@signature-params\"".toList := by decide
      exact hall c hmem hid
    · have hsecond : ('"' :: Str.toAsciiLowercase name ++ ['"'])[1]?
          = some '@' :=
        (congrArg (fun id : Str => id[1]?) hid).trans (by decide)
      cases name with
      | nil => simp [Str.toAsciiLowercase] at hsecond
      | cons d name =>
        have hd : d.toLower = '@' := by
          simpa [Str.toAsciiLowercase] using hsecond
        exact hat (congrArg some ((toLower_eq_iff (by decide)).1 hd))

/-- What a member reads as depends on its trimmed text alone. -/
theorem components_of_paramsValue {label₁ label₂ rest₁ rest₂ : Str}
    {member₁ member₂ : InputMember}
    (h₁ : parseInputMember label₁ rest₁ = .ok member₁)
    (h₂ : parseInputMember label₂ rest₂ = .ok member₂)
    (h : member₁.paramsValue = member₂.paramsValue) :
    member₁.components = member₂.components := by
  obtain ⟨_, hparams₁, inner₁, after₁, hread₁⟩ :=
    parseInputMember_eq_ok_iff.1 h₁
  obtain ⟨_, hparams₂, inner₂, after₂, hread₂⟩ :=
    parseInputMember_eq_ok_iff.1 h₂
  rw [← hparams₁] at hread₁
  rw [← hparams₂, ← h] at hread₂
  have hparts := Option.some.inj (hread₁.innerList.symm.trans hread₂.innerList)
  obtain rfl := (List.cons.inj (Prod.mk.inj hparts).1).2
  exact Outcome.ok.inj (hread₁.components.symm.trans hread₂.components)

/-- Two messages with the same signature base have the same parameters, cover
the same components, and derive the same value for each.  A base has one line
for each component, and the line of the parameters last. -/
theorem base_determines_values {M₁ M₂ : Type} [ComponentSource M₁]
    [ComponentSource M₂] {m₁ : M₁} {m₂ : M₂} {label₁ label₂ rest₁ rest₂ : Str}
    {member₁ member₂ : InputMember}
    (h₁ : parseInputMember label₁ rest₁ = .ok member₁)
    (h₂ : parseInputMember label₂ rest₂ = .ok member₂) :
    (∀ base,
      signatureBaseFromParamsStr m₁ member₁.components member₁.paramsValue
        = .ok base →
      signatureBaseFromParamsStr m₂ member₂.components member₂.paramsValue
        = .ok base →
      member₁.paramsValue = member₂.paramsValue ∧
      member₁.components = member₂.components ∧
      ∀ (i : Nat) (c : Component), member₁.components[i]? = some c →
        ∃ value, ComponentSource.componentValue m₁ c = .ok value ∧
          ComponentSource.componentValue m₂ c = .ok value) ∧
    (∀ base,
      signatureBaseFromParamsStr m₁ member₁.components member₁.paramsValue
        = .ok base →
      ∃ lines, lines.length = member₁.components.length ∧ '\r' ∉ base ∧
        base.splitOn '\n' = lines ++ [paramsLine member₁.paramsValue] ∧
        ∀ line ∈ lines, ¬ "\"@signature-params\": ".toList <+: line) ∧
    (∀ components params base, signatureBase m₁ components params = .ok base →
      ∃ lines, lines.length = components.length ∧ '\r' ∉ base ∧
        base.splitOn '\n'
          = lines ++
            [paramsLine (serializeParamsValue components params)]) := by
  have hlength :
      ∀ {message : M₁} {components : List Component} {values : List Str},
      Derives message components values →
      (List.zipWith componentLine components values).length
      = components.length := by
    intro message components values hvalues
    rw [List.length_zipWith, ← hvalues.length_eq, Nat.min_self]
  refine ⟨?_, ?_, ?_⟩
  · intro base hbase₁ hbase₂
    obtain ⟨hparams, _, values, hvalues₁, hvalues₂⟩ :=
      base_unambiguous (oneWord_of_parseInputMember h₁)
        (oneWord_of_parseInputMember h₂) hbase₁ hbase₂
    have hcomponents := components_of_paramsValue h₁ h₂ hparams
    rw [← hcomponents] at hvalues₂
    refine ⟨hparams, hcomponents, fun i c hc => ?_⟩
    exact value_of_derives hvalues₁ hvalues₂ c (List.mem_of_getElem? hc)
  · intro base hbase
    obtain ⟨values, hvalues, hcr, hlines⟩ :=
      splitOn_base (fun c hc =>
        (oneWord_of_parseInputMember h₁ c hc).hasNewline) hbase
    refine ⟨_, hlength hvalues, hcr, hlines, fun line hline hprefix => ?_⟩
    rw [← List.map_uncurry_zip_eq_zipWith] at hline
    obtain ⟨⟨c, value⟩, hpair, rfl⟩ := List.mem_map.1 hline
    have hc := (List.of_mem_zip hpair).1
    obtain ⟨word, _, hread⟩ := exists_word_of_parseInputMember h₁ hc
    obtain ⟨tail, htail⟩ := hprefix
    have hall : ("\"@signature-params\"".toList.all fun d =>
        !Str.isWhitespace d) = true := by
      decide
    have hid :=
      line_injective (fun d hd => by simpa using List.all_eq_true.1 hall d hd)
      (oneWord_of_parseInputMember h₁ c hc) htail
    exact quotedId_ne_of_fromQuotedId hread hid.1.symm
  · intro components params base hbase
    have hids : ∀ c ∈ components, hasNewline c.quotedId = false := by
      intro c hc
      obtain ⟨hparams, _⟩ := signatureBaseFromParamsStr_eq_ok_iff.1 hbase
      apply List.any_eq_false.2
      intro d hd
      refine List.any_eq_false.1 hparams d
        (List.mem_cons_of_mem '(' (List.mem_append_left _ ?_))
      exact Scanner.mem_intercalate_of_mem (List.mem_map_of_mem hc) hd
    obtain ⟨values, hvalues, hcr, hlines⟩ := splitOn_base hids hbase
    exact ⟨_, hlength hvalues, hcr, hlines⟩

namespace Example.Lines

/-- A request for this path, with a date. -/
def request (path : Str) : HttpRequest :=
  { method := "GET"
    authority := "A.example"
    path := path
    query := none
    headers := [("Date", " x ")] }

def components : List Component := [.method, .authority, .header "date"]

def params : SignatureParams :=
  { SignatureParams.default with
    created := some 5
    tag := some WIMSE_TAG }

/-- The base of the two requests, which do not differ in what is covered. -/
def base : Str :=
  ("\"@method\": GET\n\"@authority\": a.example\n\"date\": x\n" ++
    "\"@signature-params\": (\"@method\" \"@authority\" \"date\")" ++
    ";created=5;tag=\"wimse-workload-to-workload\"")

theorem base_determines_values_example :
    ∃ member,
      parseInputMember "a" (serializeParamsValue components params)
        = .ok member ∧
      (∀ path ∈ ["/b".toList, "/c".toList],
        signatureBaseFromParamsStr (request path) member.components
          member.paramsValue = .ok base) ∧
      (∀ (i : Nat) (c : Component), member.components[i]? = some c →
        ∃ value, (request "/b").componentValue c = .ok value ∧
          (request "/c").componentValue c = .ok value) ∧
      ∃ lines, lines.length = 3 ∧
        base.splitOn '\n' = lines ++ [paramsLine member.paramsValue] := by
  have hall : ("date".toList.all fun d => decide (d ∈ tokenChars)) = true := by
    decide
  have hdate : (Component.header "date").WellNamed :=
    ⟨by decide, fun d hd => of_decide_eq_true (List.all_eq_true.1 hall d hd)⟩
  have hnamed : ∀ c ∈ components, c.WellNamed :=
    List.forall_mem_cons.2 ⟨trivial, List.forall_mem_cons.2
      ⟨trivial, List.forall_mem_singleton.2 hdate⟩⟩
  have hparse := parseInputMember_serialize "a" hnamed
    (trim_serializeParamsValue components params)
  have hbase : ∀ path ∈ ["/b".toList, "/c".toList],
      signatureBaseFromParamsStr (request path) components
        (serializeParamsValue components params) = .ok base := by
    decide +kernel
  obtain ⟨hb, hc⟩ := List.forall_mem_cons.1 hbase
  have hc := List.forall_mem_singleton.1 hc
  obtain ⟨hvalues, hlines, _⟩ :=
    @base_determines_values _ _ _ _ (request "/b") (request "/c") _ _ _ _ _ _
      hparse hparse
  obtain ⟨_, _, hvalue⟩ := hvalues base hb hc
  obtain ⟨lines, hlength, _, hsplit, _⟩ := hlines base hb
  exact ⟨_, hparse, hbase, hvalue, lines, hlength, hsplit⟩

end Example.Lines

end Wimsey.HttpSig
