import Wimsey.HttpSig.Reader

/-!
# What is written is read back

`sign` writes strings, component identifiers, parameters and dictionary members,
and the readers take them apart again.  The key fact about each written piece is
that the scanners go over it without a cut: `neutral_sfString` for a string,
whatever characters it holds, `neutral_quotedId` for a component, and `PieceOk`
for a parameter.

* `parseSfString_sfString` reads a string back.
* `fromQuotedId_quotedId` reads a component back, if its header names are
  tokens.
* `foldlM_paramPieces` reads the parameters back, field by field.
* `parseInputMember_serialize` reads the whole member back.
* `splitDictionary_render` reads a dictionary of members back.
-/

namespace Wimsey.HttpSig

open Wimsey.RustStd Wimsey.Codec Wimsey.Jose Wimsey.Scan

/-! ## Strings -/

theorem sfChar_cases (c : Char) :
    sfChar c = ['\\', c] ∨ sfChar c = [c] ∧ c ≠ '"' ∧ c ≠ '\\' := by
  unfold sfChar
  split
  · exact Or.inl rfl
  · rename_i h
    rw [not_or] at h
    exact Or.inr ⟨rfl, h.2, h.1⟩

theorem unescape_flatMap (value : Str) :
    unescape (value.flatMap sfChar) = .ok value := by
  induction value with
  | nil => rfl
  | cons c value ih =>
    rw [List.flatMap_cons]
    by_cases hc : c = '\\' ∨ c = '"'
    · have hwrite : sfChar c = ['\\', c] := if_pos hc
      rw [hwrite]
      show unescape ('\\' :: c :: value.flatMap sfChar) = .ok (c :: value)
      simp only [unescape, if_true, if_pos hc, ih, Outcome.map_ok]
    · have hwrite : sfChar c = [c] := if_neg hc
      rw [not_or] at hc
      rw [hwrite]
      show unescape (c :: value.flatMap sfChar) = .ok (c :: value)
      rw [unescape.eq_def]
      simp only [if_neg hc.1, ih, Outcome.map_ok]

/-- A quoted text is its own text between two quotes. -/
theorem stripQuotes (text : Str) :
    (Str.stripPrefix ['"'] ('"' :: text ++ ['"'])).bind (Str.stripSuffix ['"'])
      = some text := by
  have hprefix := Str.stripPrefix_append ['"'] (text ++ ['"'])
  rw [List.singleton_append] at hprefix
  rw [List.cons_append, hprefix, Option.bind_some, Str.stripSuffix_append]

theorem parseSfString_sfString (value : Str) :
    parseSfString (sfString value) = .ok value := by
  unfold parseSfString sfString
  rw [stripQuotes, Outcome.okOr_some, Outcome.ok_bind, unescape_flatMap]

theorem unquoted_quoting (t : Char) :
    Scanner.Quoting (unquoted t) .start { inQuotes := true, escaped := false }
      { inQuotes := true, escaped := true } where
  opening := by simp [unquoted, Quotes.start]
  closing := by simp [unquoted, Quotes.start]
  backslash := by simp [unquoted]
  escape c := by simp [unquoted]
  other c hquote hbackslash := by simp [unquoted, hquote, hbackslash]

theorem dictionary_quoting (depth : Nat) :
    Scanner.Quoting dictionary
      { inQuotes := false, escaped := false, depth := depth }
      { inQuotes := true, escaped := false, depth := depth }
        { inQuotes := true, escaped := true, depth := depth } where
  opening := by simp [dictionary]
  closing := by simp [dictionary]
  backslash := by simp [dictionary]
  escape c := by simp [dictionary]
  other c hquote hbackslash := by simp [dictionary, hquote, hbackslash]

/-- No character of a string makes a scanner cut. -/
theorem neutral_sfString {σ : Type} {S : Scanner σ Char} {q inside escaped : σ}
    (h : Scanner.Quoting S q inside escaped) (value : Str) :
    Scanner.Neutral S q (sfString value) :=
  h.neutral sfChar_cases value

/-! ## Plain characters -/

/-- The character is no whitespace, and no scanner stops at it. -/
def Plain (c : Char) : Prop :=
  Str.isWhitespace c = false ∧ c ∉ ['"', '(', ')', ',', ';', '=']

instance : DecidablePred Plain := fun c =>
  inferInstanceAs (Decidable (Str.isWhitespace c = false ∧
    c ∉ ['"', '(', ')', ',', ';', '=']))

/-- All characters of the text are plain. -/
def PlainText (s : Str) : Prop := ∀ c ∈ s, Plain c

instance : DecidablePred PlainText := fun s => List.decidableBAll Plain s

theorem plain_of_isDigit {c : Char} (h : c.isDigit = true) : Plain c := by
  have hascii : c.toNat < 0x80 := by
    simp only [Char.isDigit, Bool.and_eq_true, decide_eq_true_eq] at h
    have hle : c.toNat ≤ 57 := h.2
    omega
  exact Str.forall_ascii
    (P := fun c => c.isDigit = true → Plain c) (by decide) hascii h

theorem unquoted_other {t c : Char} (hquote : c ≠ '"') (ht : c ≠ t) :
    unquoted t .start c = (.start, false) := by
  simp [unquoted, Quotes.start, hquote, ht]

theorem dictionary_other {depth : Nat} {c : Char}
    (h : c ∉ ['"', '(', ')', ',']) :
    dictionary { inQuotes := false, escaped := false, depth := depth } c
      = ({ inQuotes := false, escaped := false, depth := depth }, false) := by
  simp only [List.mem_cons, List.not_mem_nil, or_false, not_or] at h
  simp [dictionary, h]

/-- A piece of a member that the readers of the member and of the dictionary go
over, and that does not end with whitespace. -/
structure PieceOk (piece : Str) : Prop where
  member : Scanner.Neutral (unquoted ';') .start piece
  dictionary : Scanner.Neutral dictionary .start piece
  last : Str.LastKept piece

theorem PieceOk.append {a b : Str} (ha : PieceOk a) (hb : PieceOk b) :
    PieceOk (a ++ b) where
  member := ha.member.append hb.member
  dictionary := ha.dictionary.append hb.dictionary
  last := ha.last.append hb.last

theorem pieceOk_of_plain {s : Str} (h : ∀ c ∈ s, Plain c ∨ c = '=') :
    PieceOk s := by
  have hplain : ∀ c ∈ s, Str.isWhitespace c = false ∧
      c ∉ ['"', '(', ')', ',', ';'] := by
    intro c hc
    rcases h c hc with hplain | rfl
    · have hnot := hplain.2
      simp only [List.mem_cons, List.not_mem_nil, or_false, not_or] at hnot ⊢
      exact ⟨hplain.1, hnot.1, hnot.2.1, hnot.2.2.1, hnot.2.2.2.1,
        hnot.2.2.2.2.1⟩
    · decide
  refine ⟨Scanner.Neutral.of_forall ?_, Scanner.Neutral.of_forall ?_, ?_⟩
  · intro c hc
    have hnot := (hplain c hc).2
    simp only [List.mem_cons, List.not_mem_nil, or_false, not_or] at hnot
    exact unquoted_other hnot.1 hnot.2.2.2.2
  · intro c hc
    have hnot := (hplain c hc).2
    apply dictionary_other
    simp only [List.mem_cons, List.not_mem_nil, or_false, not_or] at hnot ⊢
    exact ⟨hnot.1, hnot.2.1, hnot.2.2.1, hnot.2.2.2.1⟩
  · exact Str.lastKept_of_forall fun c hc => (hplain c hc).1

theorem pieceOk_sfString (value : Str) : PieceOk (sfString value) where
  member := neutral_sfString (unquoted_quoting ';') value
  dictionary := neutral_sfString (dictionary_quoting 0) value
  last := by
    intro c hc
    have hlast : (sfString value).getLast? = some '"' := List.getLast?_concat
    rw [hlast] at hc
    obtain rfl := Option.some.inj hc
    decide

theorem pieceOk_display (n : Nat) : PieceOk (display n) :=
  pieceOk_of_plain fun _ hc =>
    Or.inl (plain_of_isDigit (isDigit_of_mem_display hc))

theorem PieceOk.param {name value : Str} (hname : PlainText name)
    (hvalue : PieceOk value) :
    PieceOk (name ++ '=' :: value) := by
  have heq : PieceOk ['='] := pieceOk_of_plain (by simp)
  exact (pieceOk_of_plain fun c hc => Or.inl (hname c hc)).append
    (heq.append hvalue)

/-! ## Components -/

/-- The characters of a lowercase RFC 9110 token. -/
def tokenChars : List Char :=
  "!#$%&'*+-.^_`|~0123456789abcdefghijklmnopqrstuvwxyz".toList

/-- The character needs no escape in a string, and is no whitespace. -/
def NameChar (c : Char) : Prop :=
  c ≠ '"' ∧ c ≠ '\\' ∧ Str.isWhitespace c = false

instance : DecidablePred NameChar := fun c =>
  inferInstanceAs (Decidable (c ≠ '"' ∧ c ≠ '\\' ∧ Str.isWhitespace c = false))

theorem nameChar_of_mem {c : Char} (h : c ∈ tokenChars) :
    NameChar c ∧ c ≠ '@' ∧ c.toLower = c := by
  have hall :
      tokenChars.all (fun c => decide (NameChar c ∧ c ≠ '@' ∧ c.toLower = c))
      = true := by
    decide
  exact of_decide_eq_true (List.all_eq_true.1 hall c h)

/-- The header names in the component are lowercase RFC 9110 tokens. -/
def Component.WellNamed : Component → Prop
  | .header name => name ≠ [] ∧ ∀ c ∈ name, c ∈ tokenChars
  | .req inner => inner.WellNamed
  | _ => True

/-- The header names in the component are RFC 9110 tokens, in any letter
case. -/
def Component.TokenNamed : Component → Prop
  | .header name => name ≠ [] ∧ ∀ c ∈ name, c.toLower ∈ tokenChars
  | .req inner => inner.TokenNamed
  | _ => True

/-- The component with its header names in lower case. -/
def Component.lower : Component → Component
  | .header name => .header (Str.toAsciiLowercase name)
  | .req inner => .req inner.lower
  | c => c

theorem Component.WellNamed.tokenNamed {c : Component} (h : c.WellNamed) :
    c.TokenNamed := by
  induction c with
  | header name =>
    refine ⟨h.1, fun d hd => ?_⟩
    rw [(nameChar_of_mem (h.2 d hd)).2.2]
    exact h.2 d hd
  | req inner ih => exact ih h
  | _ => trivial

theorem Component.WellNamed.lower_eq {c : Component} (h : c.WellNamed) :
    c.lower = c := by
  induction c with
  | header name =>
    have hlower : Str.toAsciiLowercase name = name :=
      (List.map_congr_left fun d hd => (nameChar_of_mem (h.2 d hd)).2.2).trans
        (List.map_id name)
    rw [Component.lower, hlower]
  | req inner ih => rw [Component.lower, ih h]
  | _ => rfl

theorem Component.map_lower_of_wellNamed {components : List Component}
    (h : ∀ c ∈ components, c.WellNamed) :
    components.map Component.lower = components :=
  (List.map_congr_left fun c hc => (h c hc).lower_eq).trans
    (List.map_id components)

/-- A character of a token in any letter case. -/
theorem nameChar_of_toLower_mem {c : Char} (h : c.toLower ∈ tokenChars) :
    NameChar c ∧ c ≠ '@' := by
  obtain ⟨⟨hquote, hbackslash, hspace⟩, hat, _⟩ := nameChar_of_mem h
  have hne : ∀ d : Char, d.toLower = d → c.toLower ≠ d → c ≠ d := by
    rintro d hd hc rfl
    exact hc hd
  rw [Str.isWhitespace_toLower] at hspace
  exact ⟨⟨hne '"' (by decide) hquote, hne '\\' (by decide) hbackslash, hspace⟩,
    hne '@' (by decide) hat⟩

/-- The text between the quotes of an identifier is a name, which is read back
in lower case. -/
structure IsName (name : Str) (c : Component) : Prop where
  quotedId : c.quotedId = '"' :: name ++ ['"']
  char : ∀ d ∈ name, NameChar d
  inner : Component.ofInner name = .ok c.lower

/-- Induction over the components: one with a name, and one of the request. -/
theorem Component.TokenNamed.induction {P : Component → Prop}
    (hname : ∀ name c, IsName name c → P c)
    (hreq : ∀ inner, P inner → P (.req inner)) {c : Component}
    (h : c.TokenNamed) : P c := by
  have hliteral : ∀ name : Str, name.all (fun d => decide (NameChar d)) = true →
      ∀ d ∈ name, NameChar d := fun name hall d hd =>
    of_decide_eq_true (List.all_eq_true.1 hall d hd)
  induction c with
  | method =>
    exact hname "@method" _ ⟨rfl,
      hliteral _ (by decide), by simp [Component.ofInner, lower]⟩
  | authority =>
    exact hname "@authority" _ ⟨rfl,
      hliteral _ (by decide), by simp [Component.ofInner, lower]⟩
  | path =>
    exact hname "@path" _ ⟨rfl,
      hliteral _ (by decide), by simp [Component.ofInner, lower]⟩
  | query =>
    exact hname "@query" _ ⟨rfl,
      hliteral _ (by decide), by simp [Component.ofInner, lower]⟩
  | requestTarget =>
    exact hname "@request-target" _
      ⟨rfl, hliteral _ (by decide), by simp [Component.ofInner, lower]⟩
  | status =>
    exact hname "@status" _ ⟨rfl,
      hliteral _ (by decide), by simp [Component.ofInner, lower]⟩
  | req inner ih => exact hreq inner (ih h)
  | header name =>
    refine hname name _ ⟨rfl,
      fun d hd => (nameChar_of_toLower_mem (h.2 d hd)).1, ?_⟩
    cases name with
    | nil => exact absurd rfl h.1
    | cons d name =>
      have hat : d ≠ '@' :=
        (nameChar_of_toLower_mem (h.2 d (List.mem_cons_self ..))).2
      simp [Component.ofInner, lower, hat]

theorem fromQuotedId_quotedId {c : Component} (h : c.TokenNamed) :
    Component.fromQuotedId c.quotedId = .ok c.lower := by
  refine h.induction (P := fun c => Component.fromQuotedId c.quotedId
    = .ok c.lower) ?_ ?_
  · intro name c hname
    have hreq : Str.stripSuffix ";req" c.quotedId = none := by
      cases hstrip : Str.stripSuffix ";req" c.quotedId with
      | none => rfl
      | some base =>
        have htext := Str.stripSuffix_eq_some_iff.1 hstrip
        rw [hname.quotedId] at htext
        have hlast := congrArg List.getLast? htext
        have hquote : ('"' :: name ++ ['"']).getLast? = some '"' :=
          List.getLast?_concat
        have hq : (base ++ ";req".toList).getLast? = some 'q' := by simp
        rw [hquote, hq] at hlast
        cases hlast
    rw [Component.fromQuotedId_of_not_req hreq, hname.quotedId, stripQuotes,
      Outcome.okOr_some, Outcome.ok_bind, hname.inner]
  · intro inner ih
    rw [Component.quotedId_req, Component.fromQuotedId_append_req, ih,
      Outcome.ok_bind]
    rfl

/-- An identifier is one word. -/
theorem quotedId_word {c : Component} (h : c.TokenNamed) :
    c.quotedId ≠ [] ∧ ∀ d ∈ c.quotedId, Str.isWhitespace d = false := by
  refine h.induction
    (P := fun c => c.quotedId ≠ [] ∧ ∀ d ∈ c.quotedId,
      Str.isWhitespace d = false) ?_ ?_
  · intro name c hname
    rw [hname.quotedId]
    refine ⟨by simp, fun d hd => ?_⟩
    rw [List.cons_append, List.mem_cons, List.mem_append,
      List.mem_singleton] at hd
    rcases hd with rfl | hd | rfl
    · decide
    · exact (hname.char d hd).2.2
    · decide
  · intro inner ⟨hne, hchars⟩
    have hreq : PlainText "req" := by decide
    refine ⟨List.append_ne_nil_of_left_ne_nil hne _, fun d hd => ?_⟩
    rw [Component.quotedId_req] at hd
    rcases List.mem_append.1 hd with hd | hd
    · exact hchars d hd
    · rcases List.mem_cons.1 hd with rfl | hd
      · decide
      · exact (hreq d hd).1

/-- A scanner that reads strings goes over an identifier if it goes over
`;req`. -/
theorem neutral_quotedId {σ : Type} {S : Scanner σ Char} {q inside escaped : σ}
    (hquoting : Scanner.Quoting S q inside escaped)
    (hreq : Scanner.Neutral S q ";req".toList) {c : Component}
    (h : c.TokenNamed) : Scanner.Neutral S q c.quotedId := by
  refine h.induction (P := fun c => Scanner.Neutral S q c.quotedId) ?_ ?_
  · intro name c hname
    have hwrite : name.flatMap sfChar = name := by
      have hchar : ∀ d ∈ name, sfChar d = [d] := fun d hd =>
        if_neg (not_or.2 ⟨(hname.char d hd).2.1, (hname.char d hd).1⟩)
      rw [List.flatMap_congr hchar, List.flatMap_singleton']
    have hneutral := neutral_sfString hquoting name
    rw [sfString, hwrite] at hneutral
    rw [hname.quotedId]
    exact hneutral
  · exact fun inner ih => ih.append hreq

/-- The identifiers of the components, as in the inner list. -/
def innerText (components : List Component) : Str :=
  [' '].intercalate (components.map Component.quotedId)

theorem neutral_innerText {σ : Type} {S : Scanner σ Char} {q inside escaped : σ}
    (hquoting : Scanner.Quoting S q inside escaped)
    (hblank : S q ' ' = (q, false)) (hreq : Scanner.Neutral S q ";req".toList)
    {components : List Component} (h : ∀ c ∈ components, c.TokenNamed) :
    Scanner.Neutral S q (innerText components) := by
  apply Scanner.Neutral.intercalate
    (Scanner.Neutral.cons hblank Scanner.Neutral.nil)
  intro id hid
  obtain ⟨c, hc, rfl⟩ := List.mem_map.1 hid
  exact neutral_quotedId hquoting hreq (h c hc)

theorem mapM_fromQuotedId {components : List Component}
    (h : ∀ c ∈ components, c.TokenNamed) :
    (Str.splitWhitespace (innerText components)).mapM Component.fromQuotedId
      = .ok (components.map Component.lower) := by
  rw [innerText, Str.splitWhitespace_intercalate]
  · exact Outcome.mapM_map_eq_ok fun c hc => fromQuotedId_quotedId (h c hc)
  · intro id hid
    obtain ⟨c, hc, rfl⟩ := List.mem_map.1 hid
    exact quotedId_word (h c hc)

/-! ## Parameters -/

/-- `name=value`, if there is a value. -/
def paramPiece {α : Type} (name : Str) (serialize : α → Str) :
    Option α → List Str
  | none => []
  | some value => [name ++ '=' :: serialize value]

/-- The piece of the Boolean parameter. -/
def flagPiece (name : Str) : Option Bool → List Str
  | none => []
  | some true => [name]
  | some false => [name ++ '=' :: "?0".toList]

/-- The parameters as they stand between the semicolons. -/
def paramPieces (params : SignatureParams) : List Str :=
  paramPiece "created" (fun n : UInt64 => display n.toNat) params.created ++
    paramPiece "expires" (fun n : UInt64 => display n.toNat) params.expires ++
    paramPiece "keyid" sfString params.keyid ++
    paramPiece "alg" sfString params.alg ++
    paramPiece "nonce" sfString params.nonce ++
    paramPiece "tag" sfString params.tag ++
    paramPiece "wimse-aud" sfString params.wimseAud ++
    flagPiece "wimse-sign-response" params.wimseSignResponse ++
    paramPiece "wimse-req-nonce" sfString params.wimseReqNonce

/-- The text after the inner list. -/
def paramsText (params : SignatureParams) : Str :=
  (paramPieces params).flatMap (';' :: ·)

theorem serializeParamsValue_eq (components : List Component)
    (params : SignatureParams) :
    serializeParamsValue components params
      = '(' :: innerText components ++ ')' :: paramsText params := by
  have hparam : ∀ {α : Type} (name : Str) (serialize : α → Str) (o : Option α),
      serializeParam name serialize o
        = (paramPiece name serialize o).flatMap (';' :: ·) := by
    intro α name serialize o
    cases o <;> simp [serializeParam, paramPiece]
  have hflag : ∀ (name : Str) (o : Option Bool),
      serializeFlag name o = (flagPiece name o).flatMap (';' :: ·) := by
    intro name o
    cases o with
    | none => rfl
    | some b => cases b <;> simp [serializeFlag, flagPiece]
  simp only [serializeParamsValue, innerText, paramsText, paramPieces,
    hparam, hflag, List.flatMap_append]

theorem pieceOk_of_mem {params : SignatureParams} {piece : Str}
    (h : piece ∈ paramPieces params) :
    PieceOk piece := by
  have hparam : ∀ {α : Type} {name : Str} {serialize : α → Str} {o : Option α},
      PlainText name → (∀ value, PieceOk (serialize value)) →
      piece ∈ paramPiece name serialize o → PieceOk piece := by
    intro α name serialize o hname hvalue hpiece
    cases o with
    | none => cases hpiece
    | some value =>
      rw [List.mem_singleton.1 hpiece]
      exact PieceOk.param hname (hvalue value)
  have hflag : ∀ {name : Str} {o : Option Bool}, PlainText name →
      piece ∈ flagPiece name o → PieceOk piece := by
    intro name o hname hpiece
    have hplain : ∀ {s : Str}, PlainText s → PieceOk s := fun hs =>
      pieceOk_of_plain fun c hc => Or.inl (hs c hc)
    cases o with
    | none => cases hpiece
    | some value =>
      cases value with
      | false =>
        rw [List.mem_singleton.1 hpiece]
        exact PieceOk.param hname (hplain (by decide))
      | true =>
        rw [List.mem_singleton.1 hpiece]
        exact hplain hname
  have hdisplay : ∀ n : UInt64, PieceOk (display n.toNat) :=
    fun n => pieceOk_display n.toNat
  simp only [paramPieces, List.mem_append] at h
  rcases h with (((((((h | h) | h) | h) | h) | h) | h) | h) | h
  · exact hparam (by decide) hdisplay h
  · exact hparam (by decide) hdisplay h
  · exact hparam (by decide) pieceOk_sfString h
  · exact hparam (by decide) pieceOk_sfString h
  · exact hparam (by decide) pieceOk_sfString h
  · exact hparam (by decide) pieceOk_sfString h
  · exact hparam (by decide) pieceOk_sfString h
  · exact hflag (by decide) h
  · exact hparam (by decide) pieceOk_sfString h

/-- The parameters are split at the semicolons between them. -/
theorem split_paramsText (params : SignatureParams) :
    (unquoted ';').split .start (paramsText params) = []
      :: paramPieces params := by
  rw [paramsText, ← List.nil_append ((paramPieces params).flatMap _),
    ← Scanner.intercalate_eq_flatMap]
  apply Scanner.split_intercalate (by simp)
  · simp [unquoted, Quotes.start]
  · intro piece hpiece
    rcases List.mem_cons.1 hpiece with rfl | hpiece
    · exact Scanner.Neutral.nil
    · exact (pieceOk_of_mem hpiece).member

theorem headKept_of_plain {s t : Str} (hs : PlainText s) (hne : s ≠ []) :
    Str.HeadKept (s ++ t) := by
  cases s with
  | nil => exact absurd rfl hne
  | cons c s =>
    intro d hd
    obtain rfl := Option.some.inj hd
    exact (hs c (List.mem_cons_self ..)).1

theorem equals_not_mem {s : Str} (hs : PlainText s) : '=' ∉ s := by
  intro h
  have hnot := (hs '=' h).2
  exact absurd hnot (by decide)

/-- A parameter with a value is read as its name and its value. -/
theorem parseParam_value {params : SignatureParams} {name raw : Str}
    (hname : PlainText name) (hne : name ≠ []) (hhead : Str.HeadKept raw)
    (hlast : Str.LastKept raw) :
    parseParam params (name ++ '=' :: raw) = setParam params name raw := by
  have hlast' : Str.LastKept (name ++ '=' :: raw) :=
    (Str.lastKept_of_forall fun c hc => (hname c hc).1).append
      (hlast.cons (by decide))
  have hempty : (name ++ '=' :: raw).isEmpty = false := by simp
  unfold parseParam
  dsimp only
  rw [Str.trim_eq_self (headKept_of_plain hname hne) hlast', hempty,
    Str.splitOnce_append_cons (equals_not_mem hname)]
  simp only [Str.trim_of_forall fun c hc => (hname c hc).1,
    Str.trim_eq_self hhead hlast, Bool.false_eq_true, if_false]

theorem headKept_sfString (value : Str) : Str.HeadKept (sfString value) := by
  intro c hc
  obtain rfl := Option.some.inj hc
  decide

theorem parseInt_display (n : UInt64) : parseInt (display n.toNat) = .ok n := by
  have htrim : Str.trim (display n.toNat) = display n.toNat :=
    Str.trim_of_forall fun c hc =>
      (plain_of_isDigit (isDigit_of_mem_display hc)).1
  rw [parseInt, htrim, parseU64_display, Outcome.okOr_some]

/-- A field that is absent is left as it is, and one that is present is set. -/
theorem foldlM_paramPiece {α : Type} {name : Str} {serialize : α → Str}
    {f : Option α → SignatureParams}
    (h : ∀ value, parseParam (f none) (name ++ '=' :: serialize value)
      = .ok (f (some value)))
    (o : Option α) :
    (paramPiece name serialize o).foldlM parseParam (f none) = .ok (f o) := by
  cases o with
  | none => rfl
  | some value =>
    rw [paramPiece, List.foldlM_cons, h, Outcome.ok_bind]
    rfl

theorem foldlM_string (name : Str) {f : Option Str → SignatureParams}
    (hname : PlainText name) (hne : name ≠ [])
    (hset : ∀ raw, setParam (f none) name raw = (do
      let value ← parseSfString raw
      .ok (f (some value))))
    (o : Option Str) :
    (paramPiece name sfString o).foldlM parseParam (f none) = .ok (f o) := by
  apply foldlM_paramPiece
  intro value
  rw [parseParam_value hname hne (headKept_sfString value)
    (pieceOk_sfString value).last, hset,
    parseSfString_sfString, Outcome.ok_bind]

theorem foldlM_int (name : Str) {f : Option UInt64 → SignatureParams}
    (hname : PlainText name) (hne : name ≠ [])
    (hset : ∀ raw, setParam (f none) name raw = (do
      let value ← parseInt raw
      .ok (f (some value))))
    (o : Option UInt64) :
    (paramPiece name (fun n : UInt64 => display n.toNat) o).foldlM
      parseParam (f none)
      = .ok (f o) := by
  apply foldlM_paramPiece
  intro n
  have hdigit : ∀ c ∈ display n.toNat, Str.isWhitespace c = false := fun c hc =>
    (plain_of_isDigit (isDigit_of_mem_display hc)).1
  rw [parseParam_value hname hne (fun c hc => hdigit c (List.mem_of_head? hc))
    (Str.lastKept_of_forall hdigit), hset, parseInt_display, Outcome.ok_bind]

theorem foldlM_flag {f : Option Bool → SignatureParams}
    (hset : ∀ o, f o = { f none with wimseSignResponse := o })
    (o : Option Bool) :
    (flagPiece "wimse-sign-response" o).foldlM parseParam (f none)
    = .ok (f o) := by
  have hname : PlainText "wimse-sign-response" := by decide
  cases o with
  | none => rfl
  | some value =>
    rw [hset (some value)]
    cases value with
    | false =>
      have hplain : PlainText "?0" := by decide
      have hhead : Str.HeadKept "?0" :=
        fun c hc => (hplain c (List.mem_of_head? hc)).1
      have hlast : Str.LastKept "?0" :=
        Str.lastKept_of_forall fun c hc => (hplain c hc).1
      rw [flagPiece, List.foldlM_cons,
        parseParam_value hname (by decide) hhead hlast]
      simp [setParam, parseSfBoolean]
    | true =>
      have hsplit : Str.splitOnce '=' "wimse-sign-response" = none :=
        Str.splitOnce_eq_none_iff.2 (equals_not_mem hname)
      have hparse : parseParam (f none) "wimse-sign-response"
          = .ok { f none with wimseSignResponse := some true } := by
        unfold parseParam
        dsimp only
        rw [Str.trim_of_forall fun c hc => (hname c hc).1, hsplit]
        simp
      rw [flagPiece, List.foldlM_cons, hparse, Outcome.ok_bind]
      rfl

/-- Reading the parameters sets one field after the other. -/
theorem foldlM_paramPieces (params : SignatureParams) :
    (paramPieces params).foldlM parseParam .default = .ok params := by
  have hcreated :=
    foldlM_int "created" (f := fun o =>
      { SignatureParams.default with created := o })
    (by decide) (by decide) (fun raw => by simp [setParam]) params.created
  have hexpires :=
    foldlM_int "expires" (f := fun o => { SignatureParams.default with
      created := params.created
      expires := o })
    (by decide) (by decide) (fun raw => by simp [setParam]) params.expires
  have hkeyid :=
    foldlM_string "keyid" (f := fun o => { SignatureParams.default with
      created := params.created
      expires := params.expires
      keyid := o })
    (by decide) (by decide) (fun raw => by simp [setParam]) params.keyid
  have halg := foldlM_string "alg" (f := fun o => { SignatureParams.default with
      created := params.created
      expires := params.expires
      keyid := params.keyid
      alg := o })
    (by decide) (by decide) (fun raw => by simp [setParam]) params.alg
  have hnonce := foldlM_string "nonce" (f := fun o => { params with
      nonce := o
      tag := none
      wimseAud := none
      wimseSignResponse := none
      wimseReqNonce := none })
    (by decide) (by decide) (fun raw => by simp [setParam]) params.nonce
  have htag := foldlM_string "tag" (f := fun o => { params with
      tag := o
      wimseAud := none
      wimseSignResponse := none
      wimseReqNonce := none })
    (by decide) (by decide) (fun raw => by simp [setParam]) params.tag
  have haud := foldlM_string "wimse-aud" (f := fun o => { params with
      wimseAud := o
      wimseSignResponse := none
      wimseReqNonce := none })
    (by decide) (by decide) (fun raw => by simp [setParam]) params.wimseAud
  have hflag := foldlM_flag (f := fun o => { params with
      wimseSignResponse := o
      wimseReqNonce := none })
    (fun _ => rfl) params.wimseSignResponse
  have hreqNonce :=
    foldlM_string "wimse-req-nonce"
      (f := fun o => { params with wimseReqNonce := o })
      (by decide) (by decide) (fun raw => by simp [setParam])
      params.wimseReqNonce
  simp only [paramPieces, List.foldlM_append, Outcome.bind_eq_ok_iff]
  exact ⟨_,
    ⟨_, ⟨_, ⟨_, ⟨_, ⟨_, ⟨_, ⟨_, hcreated, hexpires⟩, hkeyid⟩, halg⟩, hnonce⟩,
      htag⟩, haud⟩,
    hflag⟩, hreqNonce⟩

/-! ## Members -/

theorem lastKept_paramsText (params : SignatureParams) :
    Str.LastKept (')' :: paramsText params) := by
  have hpieces : ∀ pieces : List Str, (∀ piece ∈ pieces, PieceOk piece) →
      Str.LastKept (pieces.flatMap (';' :: ·)) := by
    intro pieces
    induction pieces with
    | nil => exact fun _ _ hc => by cases hc
    | cons piece pieces ih =>
      intro h
      rw [List.flatMap_cons]
      exact ((h piece (List.mem_cons_self ..)).last.cons (by decide)).append
        (ih fun p hp => h p (List.mem_cons_of_mem piece hp))
  exact (hpieces _ fun _ => pieceOk_of_mem).cons (by decide)

theorem lastKept_serializeParamsValue (components : List Component)
    (params : SignatureParams) :
    Str.LastKept (serializeParamsValue components params) := by
  rw [serializeParamsValue_eq]
  intro c hc
  rw [List.getLast?_append_cons] at hc
  exact lastKept_paramsText params c hc

theorem trim_serializeParamsValue (components : List Component)
    (params : SignatureParams) :
    Str.trim (serializeParamsValue components params)
      = serializeParamsValue components params := by
  refine Str.trim_eq_self (fun c hc => ?_)
    (lastKept_serializeParamsValue components params)
  obtain rfl := Option.some.inj hc
  decide

/-- The first `)` outside quotes ends the inner list. -/
theorem innerList_serialize {components : List Component}
    (h : ∀ c ∈ components, c.TokenNamed) (params : SignatureParams) :
    innerList (serializeParamsValue components params)
      = some ('(' :: innerText components, paramsText params) := by
  have hother : ∀ c, c ≠ '"' → c ≠ ')' →
      unquoted ')' .start c = (.start, false) :=
    fun c => unquoted_other
  have hreq : Scanner.Neutral (unquoted ')') .start ";req".toList := by
    have hchar : (";req".toList).all (fun c => decide (c ≠ '"' ∧ c ≠ ')'))
        = true := by decide
    apply Scanner.Neutral.of_forall
    intro c hc
    have hne := of_decide_eq_true (List.all_eq_true.1 hchar c hc)
    exact hother c hne.1 hne.2
  have hneutral :
      Scanner.Neutral (unquoted ')') .start ('(' :: innerText components) :=
    Scanner.Neutral.cons (hother '(' (by decide) (by decide))
      (neutral_innerText (unquoted_quoting ')')
        (hother ' ' (by decide) (by decide)) hreq h)
  rw [serializeParamsValue_eq, innerList, Scanner.first_append_cut hneutral.1]
  rw [hneutral.2]
  simp [unquoted, Quotes.start]

/-- A member that `sign` has written, with whitespace around it or not.  Header
names come back in lower case. -/
theorem parseInputMember_serialize_lower (label : Str)
    {components : List Component} (h : ∀ c ∈ components, c.TokenNamed)
    {params : SignatureParams} {rest : Str}
    (htrim : Str.trim rest = serializeParamsValue components params) :
    parseInputMember label rest = .ok
      { label := label
        components := components.map Component.lower
        params := params
        paramsValue := serializeParamsValue components params } := by
  have hparen : (serializeParamsValue components params).head? = some '(' := rfl
  have hskip : parseParam .default [] = .ok .default := rfl
  rw [parseInputMember_eq, htrim, innerList_serialize h, hparen]
  simp only [bne_self_eq_false, Bool.false_eq_true, if_false, List.tail_cons,
    mapM_fromQuotedId h, Outcome.ok_bind, split_paramsText, List.foldlM_cons,
    hskip, foldlM_paramPieces]

theorem parseInputMember_serialize (label : Str) {components : List Component}
    (h : ∀ c ∈ components, c.WellNamed) {params : SignatureParams} {rest : Str}
    (htrim : Str.trim rest = serializeParamsValue components params) :
    parseInputMember label rest = .ok
      { label := label, components := components, params := params,
        paramsValue := serializeParamsValue components params } := by
  rw [parseInputMember_serialize_lower label
    (fun c hc => (h c hc).tokenNamed) htrim,
    Component.map_lower_of_wellNamed h]

/-- The dictionary reader goes over a member that `sign` has written. -/
theorem dictionary_serialize {components : List Component}
    (h : ∀ c ∈ components, c.TokenNamed) (params : SignatureParams) :
    Scanner.Neutral dictionary .start
      (serializeParamsValue components params) := by
  have hreq : Scanner.Neutral dictionary
      { inQuotes := false, escaped := false, depth := 1 } ";req".toList := by
    have hchar :
        (";req".toList).all (fun c => decide (c ∉ ['"', '(', ')', ',']))
        = true := by
      decide
    apply Scanner.Neutral.of_forall
    intro c hc
    exact dictionary_other (of_decide_eq_true (List.all_eq_true.1 hchar c hc))
  have hinner :=
    neutral_innerText (dictionary_quoting 1)
      (dictionary_other (by decide)) hreq h
  have hpieces : Scanner.Neutral dictionary .start (paramsText params) := by
    rw [paramsText]
    have hall : ∀ piece ∈ paramPieces params, PieceOk piece :=
      fun _ => pieceOk_of_mem
    generalize paramPieces params = pieces at hall
    induction pieces with
    | nil => exact Scanner.Neutral.nil
    | cons piece pieces ih =>
      rw [List.flatMap_cons]
      refine Scanner.Neutral.append ?_
        (ih fun p hp => hall p (List.mem_cons_of_mem piece hp))
      exact Scanner.Neutral.cons (dictionary_other (by decide))
        (hall piece (List.mem_cons_self ..)).dictionary
  have hopen : dictionary .start '('
      = ({ inQuotes := false, escaped := false, depth := 1 }, false) := by
    simp [dictionary, DictState.start]
  have hclose :
      dictionary { inQuotes := false, escaped := false, depth := 1 } ')'
      = (.start, false) := by
    simp [dictionary, DictState.start]
  rw [serializeParamsValue_eq]
  -- The `(` and the `)` open and close one level around the components.
  refine ⟨?_, ?_⟩
  · rw [List.cons_append, Scanner.quiet_cons, hopen,
      Scanner.quiet_append, hinner.2, Scanner.quiet_cons, hclose]
    exact ⟨rfl, hinner.1, rfl, hpieces.1⟩
  · rw [List.cons_append, Scanner.run_cons, hopen, Scanner.run_append, hinner.2,
      Scanner.run_cons, hclose, hpieces.2]

/-! ## Dictionaries -/

/-- The characters of an RFC 8941 key. -/
def keyChars : List Char := "_-.*0123456789abcdefghijklmnopqrstuvwxyz".toList

/-- The text is an RFC 8941 key. -/
structure IsKey (label : Str) : Prop where
  head : ∃ c, label.head? = some c ∧ (c = '*' ∨ c.isLower = true)
  char : ∀ c ∈ label, c ∈ keyChars

theorem isKey_iff {label : Str} : IsKey label ↔
    (label.head?.any fun c => c == '*' || c.isLower) = true ∧
      label.all (fun c => decide (c ∈ keyChars)) = true := by
  rw [Option.any_eq_true, List.all_eq_true]
  constructor
  · intro h
    obtain ⟨c, hc, hfirst⟩ := h.head
    exact ⟨⟨c, hc, by simpa using hfirst⟩,
      fun c hc => decide_eq_true (h.char c hc)⟩
  · intro h
    obtain ⟨⟨c, hc, hfirst⟩, hall⟩ := h
    exact ⟨⟨c, hc, by simpa using hfirst⟩,
      fun c hc => of_decide_eq_true (hall c hc)⟩

instance : DecidablePred IsKey := fun _ => decidable_of_iff _ isKey_iff.symm

theorem IsKey.plain {label : Str} (h : IsKey label) : PlainText label := by
  have hall : PlainText keyChars := by decide
  exact fun c hc => hall c (h.char c hc)

theorem IsKey.ne_nil {label : Str} (h : IsKey label) : label ≠ [] := by
  obtain ⟨c, hc, _⟩ := h.head
  rintro rfl
  cases hc

/-- One member of a dictionary as text: whitespace, a key, `=`, and a text that
the dictionary reader goes over. -/
structure DictMember where
  pad : Str
  label : Str
  text : Str
  isPad : ∀ c ∈ pad, Str.isWhitespace c = true
  isKey : IsKey label
  neutral : Scanner.Neutral dictionary .start text

namespace DictMember

/-- The member as it stands in the field. -/
def render (m : DictMember) : Str := m.pad ++ (m.label ++ '=' :: m.text)

/-- The member as it is read. -/
def read (m : DictMember) : Str × Str := (m.label, Str.trimEnd m.text)

theorem neutral_render (m : DictMember) :
    Scanner.Neutral dictionary .start m.render := by
  have hpad : Scanner.Neutral dictionary .start m.pad := by
    apply Scanner.Neutral.of_forall
    intro c hc
    apply dictionary_other
    intro hmem
    have hall : ∀ d ∈ ['"', '(', ')', ','], Str.isWhitespace d = false := by
      simp; decide
    have hspace := m.isPad c hc
    rw [hall c hmem] at hspace
    cases hspace
  have heq : PieceOk ['='] := pieceOk_of_plain (by simp)
  have hlabel : PieceOk m.label :=
    pieceOk_of_plain fun c hc => Or.inl (m.isKey.plain c hc)
  exact hpad.append (hlabel.dictionary.append (heq.dictionary.append m.neutral))

theorem splitMember_render (m : DictMember) :
    splitMember m.render = .ok m.read := by
  have hplain := m.isKey.plain
  have hempty : m.label.isEmpty = false := by simp [m.isKey.ne_nil]
  rw [splitMember_eq, render,
    Str.trim_padded m.isPad (headKept_of_plain hplain m.isKey.ne_nil),
    Str.trimEnd_append_cons (by decide),
    Str.splitOnce_append_cons (equals_not_mem hplain)]
  simp only [Str.trim_of_forall fun c hc => (hplain c hc).1, hempty,
    Bool.false_eq_true, if_false]
  rfl

end DictMember

/-- The labels pass the check when they are distinct. -/
theorem checkLabels_eq_ok_iff {seen : List Str} {members : List (Str × Str)}
    {u : Unit} :
    checkLabels seen members = .ok u ↔
      (∀ m ∈ members, m.1 ∉ seen) ∧ (members.map Prod.fst).Nodup := by
  induction members generalizing seen with
  | nil => simp [checkLabels]
  | cons m members ih =>
    rw [checkLabels, List.forall_mem_cons, List.map_cons, List.nodup_cons]
    simp only [Outcome.bind_eq_ok_iff, Outcome.failIf_eq_ok_iff, ih,
      exists_const, List.contains_eq_mem, decide_eq_false_iff_not,
      List.mem_cons, not_or, List.mem_map, not_exists, not_and]
    constructor
    · rintro ⟨hseen, hrest, hnodup⟩
      exact ⟨⟨hseen, fun m' hm' => (hrest m' hm').2⟩,
        fun m' hm' => (hrest m' hm').1, hnodup⟩
    · rintro ⟨⟨hseen, hrest⟩, hne, hnodup⟩
      exact ⟨hseen, fun m' hm' => ⟨hne m' hm', hrest m' hm'⟩, hnodup⟩

/-- A dictionary field. -/
def renderDictionary (members : List DictMember) : Str :=
  [','].intercalate (members.map DictMember.render)

/-- A dictionary of members with distinct labels is read member by member. -/
theorem splitDictionary_render {members : List DictMember} (hne : members ≠ [])
    (hnodup : (members.map DictMember.label).Nodup) :
    splitDictionary (renderDictionary members)
      = .ok (members.map DictMember.read) := by
  have hsplit : dictionary.split .start (renderDictionary members)
      = members.map DictMember.render := by
    apply Scanner.split_intercalate (by simpa using hne)
    · simp [dictionary, DictState.start]
    · intro text htext
      obtain ⟨m, _, rfl⟩ := List.mem_map.1 htext
      exact m.neutral_render
  have hmapM : (members.map DictMember.render).mapM splitMember
      = .ok (members.map DictMember.read) := by
    clear hne hnodup hsplit
    induction members with
    | nil => rfl
    | cons m members ih =>
      rw [List.map_cons, List.mapM_cons, m.splitMember_render, ih]
      rfl
  have hlabels : checkLabels [] (members.map DictMember.read) = .ok () := by
    rw [checkLabels_eq_ok_iff, List.map_map]
    exact ⟨by simp, hnodup⟩
  rw [splitDictionary_eq, hsplit, hmapM, Outcome.ok_bind, hlabels,
    Outcome.ok_bind]

/-- The `Signature` member that is found by the label, read as the bytes that
`sign` has written. -/
theorem parseSignature_of_find [Base64] {alphabet : List Char}
    (hbase64 : Base64.STANDARD.Lawful alphabet) {value label text : Str}
    {members : List (Str × Str)} {sigBytes : Vector UInt8 SIGNATURE_LEN}
    (hsplit : splitDictionary value = .ok members)
    (hfind : members.find? (fun m => m.1 == label) = some (label, text))
    (htext : Str.trim text = ':' :: Base64.STANDARD.encode sigBytes.toList ++
      [':']) :
    parseSignature value label = .ok sigBytes := by
  have hprefix := Str.stripPrefix_append [':']
    (Base64.STANDARD.encode sigBytes.toList ++ [':'])
  rw [List.singleton_append] at hprefix
  rw [parseSignature, hsplit, Outcome.ok_bind, hfind, Outcome.okOr_some,
    Outcome.ok_bind, htext, List.cons_append, hprefix, Option.bind_some,
    Str.stripSuffix_append, Outcome.okOr_some, Outcome.ok_bind,
    hbase64.decode_encode, Outcome.okOr_some, Outcome.ok_bind, tryInto_toList,
    Outcome.okOr_some]

end Wimsey.HttpSig
