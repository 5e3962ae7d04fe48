import Wimsey.HttpSig.Base
import Wimsey.HttpSig.Params
import Wimsey.HttpSig.Partition

/-!
# The grammar of a member

`InGrammar` is the shape of a `Signature-Input` member: a list of quoted
identifiers in parentheses and then parameters, each after a semicolon.  The
reader is looser.  It splits and trims, and skips what it has no use for:
`Strict` says what it would have to check besides, so that all it accepts is in
the grammar.

The reader of strings is looser than their writer in the same way: it takes a
quote inside a string for a character of its own (`sfString_parseSfString_iff`).
-/

namespace Wimsey.HttpSig

open Wimsey.RustStd Wimsey.Scan

/-! ## The grammar -/

/-- The names of the derived components. -/
def derivedNames : List Str :=
  ["@method", "@authority", "@path", "@query", "@request-target", "@status"]

/-- The name of a derived component, or of a field in lower case. -/
def IsComponentName (name : Str) : Prop :=
  name ∈ derivedNames ∨ name ≠ [] ∧ ∀ c ∈ name, c ∈ tokenChars

/-- A component name in quotes, perhaps with `;req`. -/
def IsIdentifier (word : Str) : Prop :=
  ∃ name, IsComponentName name ∧
    (word = '"' :: name ++ ['"'] ∨ word = '"' :: name ++ ['"'] ++ ";req".toList)

/-- A string, or a text of one word that needs no quotes. -/
def IsValue (raw : Str) : Prop :=
  (∃ value, raw = sfString value) ∨ raw ≠ [] ∧ ∀ c ∈ raw, NameChar c ∧ c ≠ ';'

/-- The parameter has an integer value. -/
def IntegerNamed (name : Str) : Prop :=
  name = "created".toList ∨ name = "expires".toList

/-- A key, perhaps with a value. -/
def IsParameter (piece : Str) : Prop :=
  IsKey piece ∨ ∃ key value, piece = key ++ '=' :: value ∧ IsKey key ∧
    IsValue value ∧
    (IntegerNamed key → ∀ c ∈ value, c.isDigit = true)

/-- An inner list of identifiers and parameters, and nothing else. -/
def InGrammar (text : Str) : Prop :=
  ∃ (inner : Str) (pieces : List Str),
    text = '(' :: inner ++ ')' :: pieces.flatMap (';' :: ·) ∧
    (∀ word ∈ Str.splitWhitespace inner, IsIdentifier word) ∧
    ∀ piece ∈ pieces, IsParameter piece

/-! ## What the reader does not check -/

/-- A parameter without loose ends. -/
def StrictParam (part : Str) : Prop :=
  match Str.splitOnce '=' part with
  | none => IsKey part
  | some (name, raw) =>
      IsKey name ∧ IsValue raw ∧ (IntegerNamed name → raw.head? ≠ some '+')

/-- The text from the second character of a word up to the next quote. -/
def nameText (word : Str) : Str := word.tail.takeWhile (· != '"')

/-- A word without loose ends: it has two quotes, `;req` at most once, and
between the quotes the characters of a field name, the first of which may be an
`@`. -/
structure StrictWord (word : Str) : Prop where
  quotes : word.count '"' = 2
  req : Str.stripSuffix ";req;req" word = none
  named : nameText word ≠ []
  first : ∀ c ∈ (nameText word).head?, c = '@' ∨ c ∈ tokenChars
  rest : ∀ c ∈ (nameText word).tail, c ∈ tokenChars

theorem strictWord_iff {word : Str} : StrictWord word ↔
    (word.count '"' = 2 ∧ Str.stripSuffix ";req;req" word = none) ∧
      ((nameText word).head?.any fun c =>
        c == '@' || decide (c ∈ tokenChars)) = true ∧
      (nameText word).tail.all (fun c => decide (c ∈ tokenChars)) = true := by
  rw [Option.any_eq_true, List.all_eq_true]
  constructor
  · intro h
    obtain ⟨c, hc⟩ :=
      Option.ne_none_iff_exists'.1 (mt List.head?_eq_none_iff.1 h.named)
    exact ⟨⟨h.quotes, h.req⟩, ⟨c, hc, by simpa using h.first c hc⟩,
      fun c hc => decide_eq_true (h.rest c hc)⟩
  · rintro ⟨⟨hquotes, hreq⟩, ⟨c, hc, hfirst⟩, hrest⟩
    refine ⟨hquotes, hreq, fun hnil => ?_, fun d hd => ?_,
      fun d hd => of_decide_eq_true (hrest d hd)⟩
    · rw [hnil] at hc
      cases hc
    · obtain rfl := Option.some.inj (hc.symm.trans hd)
      simpa using hfirst

instance : DecidablePred StrictWord := fun _ =>
  decidable_of_iff _ strictWord_iff.symm

/-- The text between the parentheses and the text after them have no loose ends:
the words have none, the first semicolon comes right after the parenthesis, and
the parameters come right after theirs. -/
structure Strict (inner after : Str) : Prop where
  words : ∀ word ∈ Str.splitWhitespace inner, StrictWord word
  gap : ((unquoted ';').split .start after).head? = some []
  params : ∀ part ∈ ((unquoted ';').split .start after).tail, StrictParam part

/-- The text of a member before its first `=`, without the whitespace around
it. -/
def labelText (piece : Str) : Str := Str.trim (piece.takeWhile (· != '='))

/-! ## Words -/

/-- A text of neutral words is neutral. -/
theorem neutral_of_splitWhitespace {σ : Type} {S : Scanner σ Char} {q : σ}
    (hspace : ∀ c, Str.isWhitespace c = true → S q c = (q, false)) {s : Str}
    (h : ∀ word ∈ Str.splitWhitespace s, Scanner.Neutral S q word) :
    Scanner.Neutral S q s := by
  -- The first piece may start in the middle of a word, in the state `r`.
  have hpieces : ∀ (s : Str) (r : σ) (first : Str) (rest : List Str),
      s.splitOnP Str.isWhitespace = first :: rest → Scanner.Quiet S r first →
      Scanner.run S r first = q → (∀ piece ∈ rest, Scanner.Neutral S q piece) →
      Scanner.Quiet S r s ∧ Scanner.run S r s = q := by
    intro s
    induction s with
    | nil =>
      intro r first rest hsplit hquiet hrun _
      obtain ⟨rfl, _⟩ := List.cons.inj hsplit
      exact ⟨hquiet, hrun⟩
    | cons c s ih =>
      intro r first rest hsplit hquiet hrun hrest
      rw [List.splitOnP_cons_eq_if_modifyHead] at hsplit
      split at hsplit
      · rename_i hc
        obtain ⟨rfl, rfl⟩ := List.cons.inj hsplit
        obtain rfl : r = q := hrun
        rw [Scanner.quiet_cons, Scanner.run_cons, hspace c hc]
        cases hs : s.splitOnP Str.isWhitespace with
        | nil => exact absurd hs (List.splitOnP_ne_nil _ _)
        | cons first' rest' =>
          rw [hs] at hrest
          obtain ⟨hfirst, hrest⟩ := List.forall_mem_cons.1 hrest
          obtain ⟨hquiet', hrun'⟩ :=
            ih r first' rest' hs hfirst.1 hfirst.2 hrest
          exact ⟨⟨rfl, hquiet'⟩, hrun'⟩
      · cases hs : s.splitOnP Str.isWhitespace with
        | nil => exact absurd hs (List.splitOnP_ne_nil _ _)
        | cons first' rest' =>
          rw [hs, List.modifyHead_cons] at hsplit
          obtain ⟨rfl, rfl⟩ := List.cons.inj hsplit
          rw [Scanner.quiet_cons] at hquiet ⊢
          obtain ⟨hquiet', hrun'⟩ := ih _ first' rest' hs hquiet.2 hrun hrest
          exact ⟨⟨hquiet.1, hquiet'⟩, hrun'⟩
  have hall : ∀ piece ∈ s.splitOnP Str.isWhitespace,
      Scanner.Neutral S q piece := by
    intro piece hpiece
    by_cases hempty : piece = []
    · rw [hempty]
      exact Scanner.Neutral.nil
    · exact h piece (List.mem_filter.2 ⟨hpiece, by simpa using hempty⟩)
  cases hs : s.splitOnP Str.isWhitespace with
  | nil => exact absurd hs (List.splitOnP_ne_nil _ _)
  | cons first rest =>
    rw [hs] at hall
    obtain ⟨hfirst, hrest⟩ := List.forall_mem_cons.1 hall
    exact hpieces s q first rest hs hfirst.1 hfirst.2 hrest

/-- A text that ends with a quote does not end with `;req`. -/
theorem quoted_ne_append_req (name base : Str) :
    '"' :: name ++ ['"'] ≠ base ++ ";req".toList := by
  intro h
  have hlast := congrArg List.getLast? h
  rw [List.getLast?_concat, List.getLast?_append_of_ne_nil _ (by simp)] at hlast
  simp at hlast

theorem IsComponentName.plain {name : Str} (h : IsComponentName name) :
    '"' ∉ name ∧ '\\' ∉ name := by
  rcases h with hmem | ⟨_, hchars⟩
  · have hall : ∀ n ∈ derivedNames, '"' ∉ n ∧ '\\' ∉ n := by decide
    exact hall name hmem
  · exact ⟨fun hmem => absurd (hchars _ hmem) (by decide),
      fun hmem => absurd (hchars _ hmem) (by decide)⟩

theorem IsIdentifier.neutral {word : Str} (h : IsIdentifier word) :
    Scanner.Neutral (unquoted ')') .start word := by
  obtain ⟨name, hname, hword⟩ := h
  obtain ⟨hquote, hbackslash⟩ := hname.plain
  have hquoted :
      Scanner.Neutral (unquoted ')') .start ('"' :: name ++ ['"']) := by
    have hchars : ∀ c ∈ name, sfChar c = [c] := by
      intro c hc
      have hne : ∀ {d : Char}, d ∉ name → c ≠ d := fun hd heq => hd (heq ▸ hc)
      exact if_neg (not_or.2 ⟨hne hbackslash, hne hquote⟩)
    have hneutral := neutral_sfString (unquoted_quoting ')') name
    rwa [sfString, List.flatMap_congr hchars, List.flatMap_singleton']
      at hneutral
  have hreq : Scanner.Neutral (unquoted ')') .start ";req".toList :=
    ⟨by simp [Scanner.Quiet, unquoted, Quotes.start], by decide⟩
  rcases hword with rfl | rfl
  · exact hquoted
  · exact hquoted.append hreq

theorem nameText_quoted {name : Str} (h : '"' ∉ name) (rest : Str) :
    nameText ('"' :: name ++ ['"'] ++ rest) = name := by
  have hkeep : ∀ c ∈ name, (c != '"') = true := by
    rintro c hc
    simpa using fun heq : c = '"' => h (heq ▸ hc)
  rw [nameText, List.cons_append, List.cons_append, List.tail_cons,
    List.append_assoc, List.takeWhile_append_of_pos hkeep]
  simp

/-- The name is in the word of an identifier. -/
theorem IsIdentifier.strict {word : Str} (h : IsIdentifier word) :
    StrictWord word := by
  obtain ⟨name, hname, hword⟩ := h
  obtain ⟨hquote, _⟩ := hname.plain
  have hcount : ('"' :: name ++ ['"']).count '"' = 2 := by
    simp [List.count_eq_zero.2 hquote]
  have hnone : ∀ {s : Str}, (∀ base, s ≠ base ++ ";req;req".toList) →
      Str.stripSuffix ";req;req" s = none := by
    intro s hs
    rw [Option.eq_none_iff_forall_ne_some]
    exact fun base hbase => hs base (Str.stripSuffix_eq_some_iff.1 hbase)
  have hreq : ";req;req".toList = ";req".toList ++ ";req".toList := by decide
  have hchars : name ≠ [] ∧ (∀ c ∈ name.head?, c = '@' ∨ c ∈ tokenChars) ∧
      ∀ c ∈ name.tail, c ∈ tokenChars := by
    rcases hname with hmem | ⟨hne, hall⟩
    · have hderived : derivedNames.all (fun n => n.head? == some '@' &&
          n.tail.all fun c => decide (c ∈ tokenChars)) = true := by
        decide
      have hat := List.all_eq_true.1 hderived name hmem
      rw [Bool.and_eq_true, beq_iff_eq, List.all_eq_true] at hat
      obtain ⟨hat, hrest⟩ := hat
      refine ⟨fun hnil => ?_, fun c hc => ?_,
        fun c hc => of_decide_eq_true (hrest c hc)⟩
      · rw [hnil] at hat
        cases hat
      · exact Or.inl (Option.some.inj (hc.symm.trans hat))
    · exact ⟨hne, fun c hc => Or.inr (hall c (List.mem_of_head? hc)),
        fun c hc => hall c (List.mem_of_mem_tail hc)⟩
  obtain ⟨hne, hfirst, hrest⟩ := hchars
  rcases hword with rfl | rfl
  · have htext := nameText_quoted hquote []
    rw [List.append_nil] at htext
    refine ⟨hcount, hnone fun base hbase => ?_, ?_, ?_, ?_⟩
    · rw [hreq, ← List.append_assoc] at hbase
      exact quoted_ne_append_req name _ hbase
    all_goals rwa [htext]
  · have htext := nameText_quoted hquote ";req"
    refine ⟨?_, hnone fun base hbase => ?_, ?_, ?_, ?_⟩
    · rw [List.count_append, hcount]
      decide
    · rw [hreq, ← List.append_assoc] at hbase
      exact quoted_ne_append_req name _ (List.append_cancel_right hbase)
    all_goals rwa [htext]

/-- What is read between the quotes is a component name, if its characters are
those of one. -/
theorem isComponentName_of_ofInner {name : Str} {c : Component}
    (h : Component.ofInner name = .ok c) (hne : name ≠ [])
    (hfirst : ∀ c ∈ name.head?, c = '@' ∨ c ∈ tokenChars)
    (hrest : ∀ c ∈ name.tail, c ∈ tokenChars) : IsComponentName name := by
  rcases ofInner_cases h with ⟨_, hmem, hid, _⟩ | ⟨hat, _⟩
  · have hids : derived.map Component.quotedId
        = derivedNames.map fun n => '"' :: n ++ ['"'] := by
      decide
    have hquoted : '"' :: name ++ ['"'] ∈
        derivedNames.map fun n => '"' :: n ++ ['"'] := by
      rw [← hids, ← hid]
      exact List.mem_map_of_mem hmem
    obtain ⟨n, hn, heq⟩ := List.mem_map.1 hquoted
    rw [← List.append_cancel_right (List.cons.inj heq).2]
    exact Or.inl hn
  · cases name with
    | nil => exact absurd rfl hne
    | cons d name =>
      refine Or.inr ⟨hne, List.forall_mem_cons.2 ⟨?_, hrest⟩⟩
      refine (hfirst d rfl).resolve_left ?_
      rintro rfl
      exact hat rfl

/-- A word that was read as a component is an identifier if it has no loose
ends. -/
theorem isIdentifier_of_fromQuotedId {word : Str} {c : Component}
    (h : Component.fromQuotedId word = .ok c) (hstrict : StrictWord word) :
    IsIdentifier word := by
  obtain ⟨hcount, hreq, hnamed, hfirst, hrest⟩ := hstrict
  have hquote : ∀ {name : Str}, ('"' :: name ++ ['"']).count '"' = 2 →
      '"' ∉ name := by
    intro name hname
    simpa [List.count_eq_zero] using hname
  rcases fromQuotedId_cases h
    with ⟨base, inner, rfl, hbase, _⟩ | ⟨name, rfl, hinner⟩
  · rcases fromQuotedId_cases hbase
      with ⟨base', _, rfl, _, _⟩ | ⟨name, rfl, hinner⟩
    · have htwice : base' ++ ";req".toList ++ ";req".toList = base' ++
          ";req;req".toList := by
        simp
      rw [htwice, Str.stripSuffix_append] at hreq
      cases hreq
    · rw [List.count_append] at hcount
      rw [nameText_quoted (hquote (by simpa using hcount))]
        at hnamed hfirst hrest
      exact ⟨name, isComponentName_of_ofInner hinner hnamed hfirst hrest,
        Or.inr rfl⟩
  · have htext := nameText_quoted (hquote hcount) []
    rw [List.append_nil] at htext
    rw [htext] at hnamed hfirst hrest
    exact ⟨name, isComponentName_of_ofInner hinner hnamed hfirst hrest,
      Or.inl rfl⟩

/-! ## Parameters -/

theorem IsValue.neutral {raw : Str} (h : IsValue raw) :
    Scanner.Neutral (unquoted ';') .start raw := by
  rcases h with ⟨value, rfl⟩ | ⟨_, hchars⟩
  · exact neutral_sfString (unquoted_quoting ';') value
  · exact Scanner.Neutral.of_forall fun c hc =>
      unquoted_other (hchars c hc).1.1 (hchars c hc).2

/-- A value has no whitespace at its ends. -/
theorem IsValue.kept {raw : Str} (h : IsValue raw) :
    Str.HeadKept raw ∧ Str.LastKept raw := by
  rcases h with ⟨value, rfl⟩ | ⟨_, hchars⟩
  · exact ⟨headKept_sfString value, (pieceOk_sfString value).last⟩
  · exact ⟨fun c hc => (hchars c (List.mem_of_head? hc)).1.2.2,
      Str.lastKept_of_forall fun c hc => (hchars c hc).1.2.2⟩

theorem IsParameter.neutral {piece : Str} (h : IsParameter piece) :
    Scanner.Neutral (unquoted ';') .start piece := by
  have hkey : ∀ {key : Str}, IsKey key →
      Scanner.Neutral (unquoted ';') .start key :=
    fun hkey => (pieceOk_of_plain fun c hc => Or.inl (hkey.plain c hc)).member
  rcases h with h | ⟨key, value, rfl, h, hvalue, _⟩
  · exact hkey h
  · exact (hkey h).append
      (Scanner.Neutral.cons (unquoted_other (by decide) (by decide))
      hvalue.neutral)

theorem IsParameter.strict {piece : Str} (h : IsParameter piece) :
    StrictParam piece := by
  unfold StrictParam
  rcases h with h | ⟨key, value, rfl, h, hvalue, hdigits⟩
  · rw [Str.splitOnce_eq_none_iff.2 (equals_not_mem h.plain)]
    exact h
  · rw [Str.splitOnce_append_cons (equals_not_mem h.plain)]
    refine ⟨h, hvalue, fun hname hplus => ?_⟩
    exact absurd (hdigits hname '+' (List.mem_of_head? hplus)) (by decide)

/-- A parameter that was read is in the grammar if it has no loose ends. -/
theorem isParameter_of_parseParam {part : Str} {before after : SignatureParams}
    (h : parseParam before part = .ok after) (hstrict : StrictParam part) :
    IsParameter part := by
  unfold StrictParam at hstrict
  cases hsplit : Str.splitOnce '=' part with
  | none =>
    rw [hsplit] at hstrict
    exact Or.inl hstrict
  | some p =>
    obtain ⟨name, raw⟩ := p
    rw [hsplit] at hstrict
    obtain ⟨hname, hvalue, hsign⟩ := hstrict
    obtain ⟨rfl, _⟩ := Str.splitOnce_eq_some_iff.1 hsplit
    refine Or.inr ⟨name, raw, rfl, hname, hvalue, fun hinteger => ?_⟩
    rw [parseParam_value hname.plain hname.ne_nil hvalue.kept.1 hvalue.kept.2]
      at h
    obtain ⟨n, hn⟩ := exists_parseInt_of_setParam hinteger h
    rw [parseInt, Str.trim_eq_self hvalue.kept.1 hvalue.kept.2] at hn
    exact isDigit_of_parseU64 (Outcome.okOr_eq_ok_iff.1 hn) (hsign hinteger)

/-! ## Members -/

/-- A member that was read is in the grammar exactly when it has no loose
ends. -/
theorem inGrammar_iff_strict {text inner after : Str}
    {components : List Component} {params : SignatureParams}
    (h : ReadsAs text inner after components params) :
    InGrammar text ↔ Strict inner after := by
  constructor
  · intro ⟨inner', pieces, htext, hwords, hpieces⟩
    have hspace : ∀ c, Str.isWhitespace c = true →
        unquoted ')' .start c = (.start, false) := by
      intro c hc
      have hne : ∀ d : Char, Str.isWhitespace d = false → c ≠ d := by
        rintro d hd rfl
        rw [hc] at hd
        cases hd
      exact unquoted_other (hne '"' (by decide)) (hne ')' (by decide))
    have hneutral : Scanner.Neutral (unquoted ')') .start ('(' :: inner') := by
      refine Scanner.Neutral.cons (unquoted_other (by decide) (by decide))
        (neutral_of_splitWhitespace hspace fun word hword =>
          (hwords word hword).neutral)
    have hfirst : innerList text = some
        ('(' :: inner', pieces.flatMap (';' :: ·)) := by
      rw [htext, innerList, Scanner.first_append_cut hneutral.1]
      rw [hneutral.2]
      simp [unquoted, Quotes.start]
    obtain ⟨hinner, hafter⟩ :=
      Prod.mk.inj (Option.some.inj (h.innerList.symm.trans hfirst))
    obtain rfl := (List.cons.inj hinner).2
    have hsplit : (unquoted ';').split .start after = [] :: pieces := by
      rw [hafter, ← List.nil_append (pieces.flatMap _),
        ← Scanner.intercalate_eq_flatMap]
      apply Scanner.split_intercalate (by simp)
      · simp [unquoted, Quotes.start]
      · intro piece hpiece
        rcases List.mem_cons.1 hpiece with rfl | hpiece
        · exact Scanner.Neutral.nil
        · exact (hpieces piece hpiece).neutral
    refine ⟨fun word hword => (hwords word hword).strict,
      by rw [hsplit]; rfl, ?_⟩
    rw [hsplit]
    exact fun part hpart => (hpieces part hpart).strict
  · intro hstrict
    obtain ⟨c, htext, _, hcut⟩ := Scanner.first_eq_some_iff.1 h.innerList
    obtain rfl := unquoted_cut hcut
    have hjoin : [';'].intercalate ((unquoted ';').split .start after)
        = after :=
      Scanner.intercalate_split fun q y => unquoted_cut
    cases hsplit : (unquoted ';').split .start after with
    | nil => exact absurd hsplit Scanner.split_ne_nil
    | cons first parts =>
      have hgap := hstrict.gap
      have hparts := hstrict.params
      have hread := exists_parseParam_of_foldlM h.params
      rw [hsplit] at hgap hparts hread hjoin
      obtain rfl := Option.some.inj hgap
      rw [Scanner.intercalate_eq_flatMap, List.nil_append] at hjoin
      refine ⟨inner, parts, by rw [htext, hjoin], fun word hword => ?_,
        fun part hpart => ?_⟩
      · obtain ⟨component, hcomponent⟩ :=
          Outcome.exists_of_mapM h.components hword
        exact isIdentifier_of_fromQuotedId hcomponent (hstrict.words word hword)
      · obtain ⟨before, params', hparam⟩ :=
          hread part (List.mem_cons_of_mem [] hpart)
        exact isParameter_of_parseParam hparam (hparts part hpart)

/-- The field is split into members, one is chosen, and that one is parsed. -/
structure Accepts (signatureInput : Str) (config : VerifyConfig)
    (members : List (Str × Str)) (chosen : Str × Str) (member : InputMember) :
    Prop where
  split : splitDictionary signatureInput = .ok members
  choose : chooseMember members config = .ok chosen
  parse : parseInputMember chosen.1 chosen.2 = .ok member

/-- The label of a member is the text before its `=`. -/
theorem IsMember.label_eq {piece : Str} {member : Str × Str}
    (h : IsMember piece member) : member.1 = labelText piece := by
  obtain ⟨label, hnot, htext, hlabel⟩ := h
  have hsplit :
      Str.splitOnce '=' (Str.trim piece) = some (label, member.2) := by
    rw [htext, Str.splitOnce_append_cons hnot]
  have hboth := splitOnce_trim (c := '=') (by decide) piece
  rw [hsplit, Option.map_some] at hboth
  obtain ⟨⟨before, after⟩, hpiece, hpair⟩ := Option.map_eq_some_iff.1 hboth.symm
  obtain ⟨rfl, hbefore⟩ := Str.splitOnce_eq_some_iff.1 hpiece
  have hkeep : ∀ c ∈ before, (c != '=') = true := by
    intro c hc
    simpa using fun heq : c = '=' => hbefore (heq ▸ hc)
  rw [labelText, List.takeWhile_append_of_pos hkeep, hlabel,
    ← (Prod.mk.inj hpair).1]
  simp

/-- The text of a member ends where the piece of the field has been trimmed. -/
theorem IsMember.lastKept {piece : Str} {member : Str × Str}
    (h : IsMember piece member) : Str.LastKept member.2 := by
  obtain ⟨label, _, htext, _⟩ := h
  intro c hc
  refine Str.lastKept_trim piece c ?_
  rw [htext, List.getLast?_append_of_ne_nil _ (List.cons_ne_nil _ _),
    List.getLast?_cons, Option.mem_def.1 hc]
  rfl

theorem labels_of_members {pieces : List Str} {members : List (Str × Str)}
    (h : List.Forall₂ IsMember pieces members) :
    members.map Prod.fst = pieces.map labelText ∧
      ∀ m ∈ members, Str.LastKept m.2 := by
  induction h with
  | nil => exact ⟨rfl, by simp⟩
  | cons hmember _ ih =>
    obtain ⟨hlabels, hkept⟩ := ih
    rw [List.map_cons, List.map_cons, hlabels, hmember.label_eq]
    exact ⟨rfl, List.forall_mem_cons.2 ⟨hmember.lastKept, hkept⟩⟩

/-- The labels of a field that is read are keys exactly when what stands before
the first `=` of each member is one.  The text of the chosen member is in the
grammar exactly when it starts with the parenthesis and has no loose ends. -/
theorem accepted_in_grammar_iff {signatureInput : Str} {config : VerifyConfig}
    {members : List (Str × Str)} {chosen : Str × Str} {member : InputMember}
    (h : Accepts signatureInput config members chosen member) :
    ((∀ m ∈ members, IsKey m.1) ↔
      ∀ piece ∈ dictionary.split .start signatureInput,
        IsKey (labelText piece)) ∧
    (InGrammar chosen.2 ↔
      ∃ inner after, innerList chosen.2 = some ('(' :: inner, after) ∧
        Strict inner after) := by
  obtain ⟨hmembers, _⟩ := members_of_splitDictionary h.split
  obtain ⟨hlabels, hkept⟩ := labels_of_members hmembers
  obtain ⟨_, _, inner, after, hread⟩ := parseInputMember_eq_ok_iff.1 h.parse
  constructor
  · rw [← List.forall_mem_map (f := Prod.fst) (P := IsKey), hlabels,
      List.forall_mem_map]
  · -- A text that starts with the parenthesis is not trimmed any more.
    have hself : ∀ {body : Str}, chosen.2 = '(' :: body →
        Str.trim chosen.2 = chosen.2 := by
      intro body hbody
      have hlast := hkept chosen (mem_of_chooseMember h.choose)
      refine Str.trim_eq_self (fun c hc => ?_) hlast
      rw [hbody] at hc
      obtain rfl := Option.some.inj hc
      decide
    constructor
    · intro hgrammar
      obtain ⟨inner', pieces, htext, _⟩ := id hgrammar
      rw [hself htext] at hread
      exact ⟨inner, after, hread.innerList,
        (inGrammar_iff_strict hread).1 hgrammar⟩
    · intro ⟨inner', after', hinner', hstrict⟩
      obtain ⟨_, htext, _⟩ := Scanner.first_eq_some_iff.1 hinner'
      rw [hself htext] at hread
      obtain ⟨hinner, rfl⟩ :=
        Prod.mk.inj (Option.some.inj (hread.innerList.symm.trans hinner'))
      obtain rfl := (List.cons.inj hinner).2
      exact (inGrammar_iff_strict hread).2 hstrict

namespace Example.Syntax

/-- A member with text after its parenthesis and a sign in its time. -/
def loose : Str := "()junk;created=+5"

def field : Str := "Sig=".toList ++ loose

/-- The field is read, and its member is chosen, though neither is in the
grammar. -/
theorem loose_member_read :
    ∃ member, Accepts field .default [("Sig", loose)] ("Sig", loose) member ∧
      member.params.created = some 5 ∧ ¬ IsKey "Sig" ∧ ¬ InGrammar loose := by
  have hread : splitDictionary field = .ok [("Sig", loose)] ∧
      parseInputMember "Sig" loose = .ok
        { label := "Sig"
          components := []
          params := { SignatureParams.default with created := some 5 }
          paramsValue := loose } ∧
      Str.trim loose = loose ∧
      innerList loose = some ("(".toList, "junk;created=+5".toList) ∧
      ((unquoted ';').split .start "junk;created=+5".toList).head?
      = some "junk".toList := by
    decide +kernel
  obtain ⟨hsplit, hparse, htrim, hinner, hfirst⟩ := hread
  refine ⟨_, ⟨hsplit, rfl, hparse⟩, rfl, by decide, fun hgrammar => ?_⟩
  obtain ⟨_, _, inner, after, hread⟩ := parseInputMember_eq_ok_iff.1 hparse
  rw [htrim] at hread
  have hparts :=
    Prod.mk.inj (Option.some.inj (hread.innerList.symm.trans hinner))
  have hgap := ((inGrammar_iff_strict hread).1 hgrammar).gap
  rw [hparts.2, hfirst] at hgap
  cases hgap

/-- A member that covers the method and a field of the request, with a time. -/
def strict : Str := "(\"@method\" \"date\";req);created=5"

/-- The member beside one that is not chosen. -/
def strictField : Str := "a=1, sig=".toList ++ strict

theorem accepted_in_grammar_iff_example :
    IsKey "a" ∧ IsKey "sig" ∧ InGrammar strict := by
  have hread : splitDictionary strictField = .ok [("a", "1"), ("sig", strict)] ∧
      chooseMember [("a", "1"), ("sig", strict)]
          { VerifyConfig.default with label := some "sig" }
            = .ok ("sig", strict) ∧
      parseInputMember "sig" strict = .ok
        { label := "sig"
          components := [.method, .req (.header "date")]
          params := { SignatureParams.default with created := some 5 }
          paramsValue := strict } ∧
      innerList strict
        = some ("(\"@method\" \"date\";req".toList, ";created=5".toList) := by
    decide +kernel
  have hcut : Str.splitWhitespace "\"@method\" \"date\";req".toList
        = ["\"@method\"".toList, "\"date\";req".toList] ∧
      (unquoted ';').split .start ";created=5".toList
      = [[], "created=5".toList] ∧
      Str.splitOnce '=' "created=5" = some ("created".toList, "5".toList) ∧
      ∀ piece ∈ dictionary.split .start strictField,
      IsKey (labelText piece) := by
    decide +kernel
  obtain ⟨hsplit, hchoose, hparse, hinner⟩ := hread
  obtain ⟨hwords, hparts, hparam, hlabels⟩ := hcut
  have hcreated : IsKey "created" := by decide
  have hvalue : IsValue "5" :=
    Or.inr ⟨by decide, List.forall_mem_singleton.2 (by decide)⟩
  have hmethod : StrictWord "\"@method\"".toList := by decide
  have hdate : StrictWord "\"date\";req".toList := by decide
  have hstrict :
      Strict "\"@method\" \"date\";req".toList ";created=5".toList := by
    refine ⟨?_, by rw [hparts]; rfl, ?_⟩
    · rw [hwords]
      exact List.forall_mem_cons.2 ⟨hmethod, List.forall_mem_singleton.2 hdate⟩
    · rw [hparts]
      refine List.forall_mem_singleton.2 ?_
      rw [StrictParam, hparam]
      exact ⟨hcreated, hvalue, fun _ => by decide⟩
  obtain ⟨hkeys, hgrammar⟩ := accepted_in_grammar_iff ⟨hsplit, hchoose, hparse⟩
  have hall := hkeys.2 hlabels
  exact ⟨hall _ (List.mem_cons_self ..),
    hall _ (List.mem_cons_of_mem _ (List.mem_singleton.2 rfl)),
    hgrammar.2 ⟨_, _, hinner, hstrict⟩⟩

end Example.Syntax

/-! ## Strings -/

/-- How the text between two quotes is read: a backslash takes the next
character with it, and every other character stands for itself. -/
inductive Unescapes : Str → Str → Prop where
  | nil : Unescapes [] []
  | escape {c : Char} {inner value : Str} (hc : c = '\\' ∨ c = '"')
      (h : Unescapes inner value) :
      Unescapes ('\\' :: c :: inner) (c :: value)
  | plain {c : Char} {inner value : Str} (hc : c ≠ '\\')
      (h : Unescapes inner value) :
      Unescapes (c :: inner) (c :: value)

/-- No quote in the text stands for itself. -/
def quotesEscaped : Str → Bool
  | [] => true
  | c :: rest =>
      if c = '\\' then
        match rest with
        | _ :: rest => quotesEscaped rest
        | [] => true
      else c != '"' && quotesEscaped rest

@[simp] theorem quotesEscaped_escape (c : Char) (rest : Str) :
    quotesEscaped ('\\' :: c :: rest) = quotesEscaped rest := rfl

theorem quotesEscaped_cons {c : Char} (hc : c ≠ '\\') (rest : Str) :
    quotesEscaped (c :: rest) = (c != '"' && quotesEscaped rest) := by
  rw [quotesEscaped.eq_def]
  exact if_neg hc

theorem Unescapes.unescape_eq {inner value : Str} (h : Unescapes inner value) :
    unescape inner = .ok value := by
  induction h with
  | nil => rfl
  | escape hc _ ih =>
    simp only [unescape, if_true, if_pos hc, ih, Outcome.map_ok]
  | plain hc _ ih =>
    rw [unescape.eq_def]
    simp only [if_neg hc, ih, Outcome.map_ok]

theorem unescapes_of_unescape {inner value : Str}
    (h : unescape inner = .ok value) :
    Unescapes inner value := by
  fun_induction unescape inner generalizing value with
  | case1 =>
    obtain rfl := Outcome.ok.inj h
    exact .nil
  | case2 next rest hnext ih =>
    obtain ⟨value', hvalue, rfl⟩ := Outcome.map_eq_ok_iff.1 h
    exact .escape hnext (ih hvalue)
  | case3 => cases h
  | case4 => cases h
  | case5 c rest hc ih =>
    obtain ⟨value', hvalue, rfl⟩ := Outcome.map_eq_ok_iff.1 h
    exact .plain hc (ih hvalue)

/-- The tokens that are read as a value. -/
theorem parseSfString_eq_ok_iff {token value : Str} :
    parseSfString token = .ok value ↔
      ∃ inner, token = '"' :: inner ++ ['"'] ∧ Unescapes inner value := by
  simp only [parseSfString, Outcome.bind_eq_ok_iff, Outcome.okOr_eq_ok_iff,
    Option.bind_eq_some_iff, Str.stripPrefix_eq_some_iff,
    Str.stripSuffix_eq_some_iff]
  constructor
  · intro ⟨inner, ⟨rest, htoken, hrest⟩, hread⟩
    exact ⟨inner, by rw [htoken, hrest]; rfl, unescapes_of_unescape hread⟩
  · intro ⟨inner, htoken, hread⟩
    exact ⟨inner, ⟨inner ++ ['"'], htoken, rfl⟩, hread.unescape_eq⟩

/-- The text is what is written for its value when its quotes are escaped. -/
theorem Unescapes.written_iff {inner value : Str} (h : Unescapes inner value) :
    value.flatMap sfChar = inner ↔ quotesEscaped inner = true := by
  induction h with
  | nil => simp [quotesEscaped]
  | @escape c inner value hc _ ih =>
    have hwrite : sfChar c = ['\\', c] := if_pos hc
    rw [List.flatMap_cons, hwrite]
    simp [ih]
  | @plain c inner value hc _ ih =>
    by_cases hquote : c = '"'
    · -- A quote that stands for itself is written with a backslash.
      have hwrite : sfChar c = ['\\', c] := if_pos (Or.inr hquote)
      rw [List.flatMap_cons, hwrite, quotesEscaped_cons hc]
      simp [hquote]
    · have hwrite : sfChar c = [c] := if_neg (not_or.2 ⟨hc, hquote⟩)
      rw [List.flatMap_cons, hwrite, quotesEscaped_cons hc]
      simp [hquote, ih]

theorem Unescapes.quote_mem_iff {inner value : Str}
    (h : Unescapes inner value) :
    '"' ∈ value ↔ '"' ∈ inner := by
  induction h with
  | nil => rfl
  | escape hc _ ih => simp [ih]
  | plain hc _ ih => rw [List.mem_cons, List.mem_cons, ih]

/-- A value written with its backslashes escaped, and its quotes as they are. -/
def bareQuotes (value : Str) : Str :=
  value.flatMap fun c => if c = '\\' then ['\\', c] else [c]

theorem unescapes_bareQuotes (value : Str) :
    Unescapes (bareQuotes value) value := by
  unfold bareQuotes
  induction value with
  | nil => exact .nil
  | cons c value ih =>
    rw [List.flatMap_cons]
    split
    · exact .escape (Or.inl ‹_›) ih
    · exact .plain ‹_› ih

theorem quotesEscaped_bareQuotes {value : Str} (h : '"' ∈ value) :
    quotesEscaped (bareQuotes value) = false := by
  unfold bareQuotes
  induction value with
  | nil => cases h
  | cons c value ih =>
    rw [List.flatMap_cons]
    by_cases hc : c = '\\'
    · have hmem : '"' ∈ value := by simpa [hc] using h
      rw [if_pos hc, hc]
      exact ih hmem
    · rw [if_neg hc, List.singleton_append, quotesEscaped_cons hc]
      by_cases hquote : c = '"'
      · simp [hquote]
      · have hmem : '"' ∈ value := by simpa [Ne.symm hquote] using h
        rw [ih hmem, Bool.and_false]

theorem Unescapes.quotesEscaped_of_not_mem {inner value : Str}
    (hread : Unescapes inner value) (h : '"' ∉ inner) :
    quotesEscaped inner = true := by
  induction hread with
  | nil => rfl
  | escape _ _ ih =>
    simp only [List.mem_cons, not_or] at h
    exact ih h.2.2
  | plain hc _ ih =>
    simp only [List.mem_cons, not_or] at h
    rw [quotesEscaped_cons hc, ih h.2]
    simpa using Ne.symm h.1

theorem sfString_eq_iff {token value : Str}
    (h : parseSfString token = .ok value) :
    sfString value = token ↔ quotesEscaped token.tail.dropLast = true := by
  obtain ⟨inner, rfl, hread⟩ := parseSfString_eq_ok_iff.1 h
  rw [sfString, List.append_cancel_right_eq, List.cons.injEq, List.cons_append,
    List.tail_cons, List.dropLast_concat, ← hread.written_iff]
  simp

/-- A string is what is written for its value exactly when no quote between its
own two stands for itself.  Two such strings with the same value are the same;
and a string is the only one for its value exactly when there is no quote
between its own two at all. -/
theorem sfString_parseSfString_iff {token value : Str}
    (h : parseSfString token = .ok value) :
    (sfString value = token ↔ quotesEscaped token.tail.dropLast = true) ∧
    (∀ other, parseSfString other = .ok value →
      quotesEscaped token.tail.dropLast = true →
      quotesEscaped other.tail.dropLast = true → token = other) ∧
    ((∀ other, parseSfString other = .ok value → other = token) ↔
      '"' ∉ token.tail.dropLast) := by
  refine ⟨sfString_eq_iff h, ?_, ?_⟩
  · intro other hother hquotes hquotes'
    exact ((sfString_eq_iff h).2 hquotes).symm.trans
      ((sfString_eq_iff hother).2 hquotes')
  · obtain ⟨inner, rfl, hread⟩ := parseSfString_eq_ok_iff.1 h
    rw [List.cons_append, List.tail_cons, List.dropLast_concat,
      ← hread.quote_mem_iff]
    constructor
    · intro honly hquote
      -- With a quote in the value, the text that escapes it is not the text
      -- that does not.
      have hescaped := honly _ (parseSfString_sfString value)
      have hbare :=
        honly _ (parseSfString_eq_ok_iff.2 ⟨_, rfl, unescapes_bareQuotes value⟩)
      have hsame : value.flatMap sfChar = bareQuotes value :=
        (List.cons.inj (List.append_cancel_right (hescaped.trans hbare.symm))).2
      have htrue := (unescapes_bareQuotes value).written_iff.1 hsame
      rw [quotesEscaped_bareQuotes hquote] at htrue
      cases htrue
    · intro hquote other hother
      obtain ⟨inner', rfl, hread'⟩ := parseSfString_eq_ok_iff.1 hother
      have hescaped :=
        hread.quotesEscaped_of_not_mem (mt hread.quote_mem_iff.2 hquote)
      have hescaped' :=
        hread'.quotesEscaped_of_not_mem (mt hread'.quote_mem_iff.2 hquote)
      rw [← hread.written_iff.2 hescaped, ← hread'.written_iff.2 hescaped']
      rfl

namespace Example.Strings

/-- A nonce with a quote that stands for itself has the value of one where it is
escaped. -/
theorem bare_quote_read :
    parseSfString "\"a\"b\"" = .ok "a\"b".toList ∧
      sfString "a\"b" ≠ "\"a\"b\"".toList ∧
      ∃ member₁ member₂, parseInputMember "s" "();nonce=\"a\"b\""
        = .ok member₁ ∧
        parseInputMember "s" "();nonce=\"a\\\"b\"" = .ok member₂ ∧
        member₁.params.nonce = member₂.params.nonce ∧
        member₁.paramsValue ≠ member₂.paramsValue := by
  have hread : parseSfString "\"a\"b\"" = .ok "a\"b".toList ∧
      sfString "a\"b" ≠ "\"a\"b\"".toList ∧
      parseInputMember "s" "();nonce=\"a\"b\"" = .ok
        { label := "s"
          components := []
          params := { SignatureParams.default with nonce := some "a\"b" }
          paramsValue := "();nonce=\"a\"b\"" } ∧
      parseInputMember "s" "();nonce=\"a\\\"b\"" = .ok
        { label := "s"
          components := []
          params := { SignatureParams.default with nonce := some "a\"b" }
          paramsValue := "();nonce=\"a\\\"b\"" } := by
    decide +kernel
  obtain ⟨hvalue, hwrite, hmember₁, hmember₂⟩ := hread
  exact ⟨hvalue, hwrite, _, _, hmember₁, hmember₂, rfl, by decide⟩

theorem sfString_parseSfString_iff_example :
    sfString "a\"b" = "\"a\\\"b\"".toList ∧
      ∀ other, parseSfString other = .ok "n".toList →
      other = "\"n\"".toList := by
  have hescaped : parseSfString "\"a\\\"b\"" = .ok "a\"b".toList := by decide
  have hplain : parseSfString "\"n\"" = .ok "n".toList := by decide
  obtain ⟨hwritten, _⟩ := sfString_parseSfString_iff hescaped
  obtain ⟨_, _, hunique⟩ := sfString_parseSfString_iff hplain
  exact ⟨hwritten.2 (by decide), hunique.2 (by decide)⟩

end Example.Strings

end Wimsey.HttpSig
