import Wimsey.HttpSig.Signature

/-!
# The field readers as scanners

The readers of the two fields are loops over byte offsets.  Here each is given
as a function of the text alone: `splitMember` by the text around the first `=`,
`splitDictionary` and `splitUnquotedSemicolons` by the pieces between the cuts
of their scanners, and `parseInputMember` and `hasWimseTag` by the text around
the first `)` outside quotes.  None of them panics, since every offset that the
loops slice at comes from such a split.
-/

namespace Wimsey.HttpSig

open Wimsey.RustStd Wimsey.Codec Wimsey.Jose Wimsey.Scan

/-! ## Where the scanners cut -/

theorem unquoted_cut {t : Char} {q : Quotes} {c : Char}
    (h : (unquoted t q c).2 = true) :
    c = t := by
  unfold unquoted at h
  split at h
  · cases h
  · split at h
    · cases h
    · split at h
      · cases h
      · split at h
        · rename_i hc
          simp only [Bool.and_eq_true, decide_eq_true_eq] at hc
          exact hc.1
        · cases h

theorem dictionary_cut {q : DictState} {c : Char}
    (h : (dictionary q c).2 = true) : c = ',' := by
  unfold dictionary at h
  split at h
  · cases h
  · split at h
    · cases h
    · split at h
      · cases h
      · split at h
        · cases h
        · split at h
          · cases h
          · split at h
            · rename_i hc
              simp only [Bool.and_eq_true, decide_eq_true_eq] at hc
              exact hc.2
            · cases h

/-! ## Splitting -/

theorem splitUnquotedSemicolons_eq (s : Str) :
    splitUnquotedSemicolons s = .ok ((unquoted ';').split .start s) := by
  unfold splitUnquotedSemicolons
  rw [splitLoop_eq]
  · have h := List.mapM_pure (m := Outcome HttpSigError) (f := id)
      (l := (unquoted ';').split .start s)
    simpa using h
  · intro q c h
    rw [unquoted_cut h]
    decide

theorem findUnquoted_eq (s : Str) (t : Char) :
    findUnquoted s t = ((unquoted t).first .start s).map fun p =>
      Str.len p.1 := by
  unfold findUnquoted
  rw [Str.charIndices, findLoop_eq]
  simp only [Nat.zero_add]

theorem splitDictionary_eq (value : Str) :
    splitDictionary value = (do
      let members ← (dictionary.split .start value).mapM splitMember
      checkLabels [] members
      .ok members) := by
  unfold splitDictionary
  rw [splitLoop_eq]
  intro q c h
  rw [dictionary_cut h]
  decide

/-- A member is cut at its first `=`, after trimming. -/
theorem splitMember_eq (value : Str) :
    splitMember value =
      match Str.splitOnce '=' (Str.trim value) with
      | none => .err (.parse "missing `=` in dictionary member")
      | some (label, rest) =>
          if (Str.trim label).isEmpty then .err (.parse "empty signature label")
          else .ok (Str.trim label, rest) := by
  unfold splitMember
  dsimp only
  rw [Str.find_eq_splitOnce]
  cases h : Str.splitOnce '=' (Str.trim value) with
  | none => rfl
  | some p =>
    obtain ⟨label, rest⟩ := p
    obtain ⟨htext, _⟩ := Str.splitOnce_eq_some_iff.1 h
    have hrest : Str.sliceFrom (Str.trim value) (Str.len label + 1)
        = (.ok rest : Outcome HttpSigError Str) := by
      have hslice :=
        Str.sliceFrom_len_append (ε := HttpSigError) (label ++ ['=']) rest
      have hlen : Str.len (label ++ ['=']) = Str.len label + 1 := by
        rw [Str.len_append]
        rfl
      rwa [hlen, List.append_assoc, List.singleton_append, ← htext] at hslice
    have hlabel : Str.sliceTo (Str.trim value) (Str.len label)
        = (.ok label : Outcome HttpSigError Str) := by
      rw [htext]
      exact Str.sliceTo_len_append label ('=' :: rest)
    simp only [Option.map_some, Outcome.okOr_some, Outcome.ok_bind, hlabel,
      Outcome.failIf_bind, hrest]

/-! ## The two parts of an input member -/

/-- The text before the first `)` outside quotes, and the text after it. -/
def innerList (text : Str) : Option (Str × Str) :=
  (unquoted ')').first .start text

/-- The text after the part that `innerList` answers starts one byte further. -/
theorem sliceFrom_innerList {text inner after : Str}
    (h : innerList text = some (inner, after)) :
    Str.sliceFrom text (Str.len inner + 1)
      = (.ok after : Outcome HttpSigError Str) := by
  obtain ⟨c, htext, _, hcut⟩ := Scanner.first_eq_some_iff.1 h
  obtain rfl := unquoted_cut hcut
  have hslice :=
    Str.sliceFrom_len_append (ε := HttpSigError) (inner ++ [')']) after
  have hlen : Str.len (inner ++ [')']) = Str.len inner + 1 := by
    rw [Str.len_append]
    rfl
  rwa [hlen, List.append_assoc, List.singleton_append, ← htext] at hslice

/-- The member carries the WIMSE tag. -/
def wimseTagged (rest : Str) : Bool :=
  match innerList (Str.trim rest) with
  | none => false
  | some (_, after) => ((unquoted ';').split .start after).any isWimseTag

theorem hasWimseTag_eq (rest : Str) :
    hasWimseTag rest = .ok (wimseTagged rest) := by
  unfold hasWimseTag wimseTagged
  dsimp only
  rw [findUnquoted_eq, ← innerList]
  cases h : innerList (Str.trim rest) with
  | none => rfl
  | some p =>
    have hafter := sliceFrom_innerList h
    simp only [Option.map_some, hafter, splitUnquotedSemicolons_eq,
      Outcome.ok_bind]

theorem taggedMembers_eq (members : List (Str × Str)) :
    taggedMembers members = .ok (members.filter fun m => wimseTagged m.2) := by
  induction members with
  | nil => rfl
  | cons member members ih =>
    rw [taggedMembers, hasWimseTag_eq, ih, List.filter_cons]
    rfl

theorem mem_of_chooseMember {members : List (Str × Str)} {config : VerifyConfig}
    {member : Str × Str} (h : chooseMember members config = .ok member) :
    member ∈ members := by
  unfold chooseMember at h
  split at h
  · obtain rfl := Outcome.ok.inj h
    exact List.mem_singleton.2 rfl
  · split at h
    · rw [taggedMembers_eq, Outcome.ok_bind] at h
      split at h
      · rename_i member' hsole
        obtain rfl := Outcome.ok.inj h
        have hmem : member' ∈ members.filter fun m => wimseTagged m.2 := by
          rw [hsole]
          exact List.mem_singleton.2 rfl
        exact List.mem_of_mem_filter hmem
      · cases h
      · cases h
    · obtain ⟨label, _, hfind⟩ := Outcome.bind_eq_ok_iff.1 h
      exact List.mem_of_find?_eq_some (Outcome.okOr_eq_ok_iff.1 hfind)

/-- The member that is selected is the one that is chosen, parsed. -/
theorem exists_of_selectMember {signatureInput : Str} {config : VerifyConfig}
    {member : InputMember}
    (h : selectMember signatureInput config = .ok member) :
    ∃ members chosen, splitDictionary signatureInput = .ok members ∧
      chooseMember members config = .ok chosen ∧
      parseInputMember chosen.1 chosen.2 = .ok member := by
  unfold selectMember at h
  obtain ⟨members, hsplit, h⟩ := Outcome.bind_eq_ok_iff.1 h
  obtain ⟨chosen, hchoose, h⟩ := Outcome.bind_eq_ok_iff.1 h
  obtain ⟨_, _, hparse⟩ := Outcome.bind_eq_ok_iff.1 h
  exact ⟨members, chosen, hsplit, hchoose, hparse⟩

theorem parseParams_eq (rest : Str) (params : SignatureParams) :
    parseParams rest params
      = ((unquoted ';').split .start rest).foldlM parseParam params := by
  rw [parseParams, splitUnquotedSemicolons_eq, Outcome.ok_bind]

/-- An input member is an inner list in parentheses, and its parameters. -/
theorem parseInputMember_eq (label rest : Str) :
    parseInputMember label rest =
      if (Str.trim rest).head? != some '('
        then .err (.parse "inner list must start with `(`")
      else
        match innerList (Str.trim rest) with
        | none => .err (.parse "missing `)` in inner list")
        | some (inner, after) => (do
            let components ←
              (Str.splitWhitespace inner.tail).mapM Component.fromQuotedId
            let params ←
              ((unquoted ';').split .start after).foldlM parseParam .default
            .ok { label := label, components := components, params := params,
                  paramsValue := Str.trim rest }) := by
  unfold parseInputMember
  dsimp only
  rw [Outcome.failIf_bind]
  split
  · rfl
  · rename_i hparen
    rw [findUnquoted_eq, ← innerList]
    cases h : innerList (Str.trim rest) with
    | none => rfl
    | some p =>
      obtain ⟨inner, after⟩ := p
      have hafter := sliceFrom_innerList h
      obtain ⟨c, htext, _, hcut⟩ := Scanner.first_eq_some_iff.1 h
      obtain rfl := unquoted_cut hcut
      -- The first `)` is not the first character, which is `(`.
      obtain ⟨body, rfl⟩ : ∃ body, inner = '(' :: body := by
        cases inner with
        | nil => simp [htext] at hparen
        | cons d body =>
          have hd : d = '(' := by simpa [htext] using hparen
          exact ⟨body, by rw [hd]⟩
      have hinner : Str.slice (Str.trim rest) 1 (Str.len ('(' :: body))
          = (.ok body : Outcome HttpSigError Str) := by
        have hslice :=
          Str.slice_len_append (ε := HttpSigError) ['('] body (')' :: after)
        have hparenLen : Str.len ['('] = 1 := rfl
        have hlen : Str.len ('(' :: body) = 1 + Str.len body := by
          rw [← List.singleton_append, Str.len_append, hparenLen]
        rw [htext, hlen]
        rwa [hparenLen] at hslice
      simp only [Option.map_some, Outcome.okOr_some, Outcome.ok_bind,
        hinner, hafter, parseParams_eq, List.tail_cons]

/-- What the reader finds in the trimmed text of a member: the inside of the
parentheses and what comes after them, and what the two are read as. -/
structure ReadsAs (text inner after : Str) (components : List Component)
    (params : SignatureParams) : Prop where
  innerList : innerList text = some ('(' :: inner, after)
  components : (Str.splitWhitespace inner).mapM Component.fromQuotedId
    = .ok components
  params : ((unquoted ';').split .start after).foldlM parseParam .default
    = .ok params

theorem parseInputMember_eq_ok_iff {label rest : Str} {member : InputMember} :
    parseInputMember label rest = .ok member ↔
      member.label = label ∧ member.paramsValue = Str.trim rest ∧
        ∃ inner after,
        ReadsAs (Str.trim rest) inner after member.components
          member.params := by
  rw [parseInputMember_eq]
  constructor
  · intro h
    split at h
    · cases h
    · rename_i hparen
      split at h
      · cases h
      · rename_i inner after hinner
        obtain ⟨components, hcomponents, h⟩ := Outcome.bind_eq_ok_iff.1 h
        obtain ⟨params, hparams, hmember⟩ := Outcome.bind_eq_ok_iff.1 h
        obtain rfl := Outcome.ok.inj hmember
        -- The first `)` is not the first character, which is `(`.
        obtain ⟨c, htext, _, hcut⟩ := Scanner.first_eq_some_iff.1 hinner
        obtain rfl := unquoted_cut hcut
        obtain ⟨body, rfl⟩ : ∃ body, inner = '(' :: body := by
          cases inner with
          | nil => simp [htext] at hparen
          | cons d body =>
            have hd : d = '(' := by simpa [htext] using hparen
            exact ⟨body, by rw [hd]⟩
        exact ⟨rfl, rfl, body, after, hinner, hcomponents, hparams⟩
  · intro ⟨hlabel, hparamsValue, inner, after, h⟩
    obtain ⟨c, htext, _, _⟩ := Scanner.first_eq_some_iff.1 h.innerList
    have hparen : ((Str.trim rest).head? != some '(') = false := by simp [htext]
    rw [hparen, h.innerList]
    simp only [Bool.false_eq_true, if_false, List.tail_cons,
      h.components, h.params, Outcome.ok_bind, ← hlabel, ← hparamsValue]

/-! ## No reader panics -/

theorem parseSfString_ne_panic (token : Str) :
    parseSfString token ≠ .panic := by
  have hunescape : ∀ s, unescape s ≠ .panic := by
    intro s
    fun_induction unescape s with
    | case1 => simp
    | case2 next rest _ ih => cases h : unescape rest <;> simp_all
    | case3 => simp
    | case4 => simp
    | case5 c rest _ ih => cases h : unescape rest <;> simp_all
  unfold parseSfString
  exact Outcome.bind_ne_panic Outcome.okOr_ne_panic fun inner _ =>
    hunescape inner

theorem parseInt_ne_panic (raw : Str) : parseInt raw ≠ .panic := by
  unfold parseInt
  exact Outcome.okOr_ne_panic

theorem parseSfBoolean_ne_panic (raw : Str) : parseSfBoolean raw ≠ .panic := by
  unfold parseSfBoolean
  split
  · simp
  · split <;> simp

/-- A parameter is set to a value that may fail to parse, or is left alone. -/
theorem setParam_ne_panic (params : SignatureParams) (name raw : Str) :
    setParam params name raw ≠ .panic := by
  have hstring := parseSfString_ne_panic raw
  have hint := parseInt_ne_panic raw
  have hboolean := parseSfBoolean_ne_panic raw
  have hset :
      ∀ {α : Type} {x : Outcome HttpSigError α} {f : α → SignatureParams},
      x ≠ .panic →
      (do
        let a ← x
        .ok (f a)) ≠ Outcome.panic := by
    intro α x f hx
    exact Outcome.bind_ne_panic hx fun a _ => by simp
  unfold setParam
  iterate 9
    split
    · first
      | exact hset hint
      | exact hset hstring
      | exact hset hboolean
  simp

theorem parseParam_ne_panic (params : SignatureParams) (part : Str) :
    parseParam params part ≠ .panic := by
  unfold parseParam
  dsimp only
  split
  · simp
  · split
    · split <;> simp
    · exact setParam_ne_panic params _ _

theorem Component.ofInner_ne_panic (inner : Str) : ofInner inner ≠ .panic := by
  unfold ofInner
  iterate 7
    split
    · exact nofun
  exact nofun

theorem Component.fromQuotedId_ne_panic (token : Str) :
    fromQuotedId token ≠ .panic := by
  fun_induction fromQuotedId token with
  | case1 token base _ ih => exact Outcome.bind_ne_panic ih fun inner _ => nofun
  | case2 token _ =>
    exact Outcome.bind_ne_panic Outcome.okOr_ne_panic fun inner _ =>
      ofInner_ne_panic inner

theorem parseInputMember_ne_panic (label rest : Str) :
    parseInputMember label rest ≠ .panic := by
  rw [parseInputMember_eq]
  split
  · simp
  · split
    · simp
    · apply Outcome.bind_ne_panic
        (Outcome.mapM_ne_panic Component.fromQuotedId_ne_panic _)
      intro components _
      apply Outcome.bind_ne_panic
        (Outcome.foldlM_ne_panic parseParam_ne_panic _ _)
      simp

theorem splitDictionary_ne_panic (value : Str) :
    splitDictionary value ≠ .panic := by
  have hmember : ∀ value, splitMember value ≠ .panic := by
    intro value
    rw [splitMember_eq]
    split
    · simp
    · split <;> simp
  have hlabels : ∀ members seen, checkLabels seen members ≠ .panic := by
    intro members
    induction members with
    | nil => simp [checkLabels]
    | cons member members ih =>
      intro seen
      rw [checkLabels, Outcome.failIf_bind]
      split
      · simp
      · exact ih _
  rw [splitDictionary_eq]
  apply Outcome.bind_ne_panic (Outcome.mapM_ne_panic hmember _)
  intro members _
  exact Outcome.bind_ne_panic (hlabels members []) fun _ _ => by simp

theorem parseSignature_ne_panic [Base64] (value label : Str) :
    parseSignature value label ≠ .panic := by
  unfold parseSignature
  apply Outcome.bind_ne_panic (splitDictionary_ne_panic value)
  intro members _
  apply Outcome.bind_ne_panic Outcome.okOr_ne_panic
  intro member _
  apply Outcome.bind_ne_panic Outcome.okOr_ne_panic
  intro b64 _
  apply Outcome.bind_ne_panic Outcome.okOr_ne_panic
  intro bytes _
  exact Outcome.okOr_ne_panic

theorem selectMember_ne_panic (signatureInput : Str) (config : VerifyConfig) :
    selectMember signatureInput config ≠ .panic := by
  unfold selectMember
  apply Outcome.bind_ne_panic (splitDictionary_ne_panic signatureInput)
  intro members _
  apply Outcome.bind_ne_panic
  · unfold chooseMember
    split
    · simp
    · rw [taggedMembers_eq, Outcome.ok_bind]
      split
      · split <;> simp
      · cases config.label with
        | none => simp
        | some label => exact Outcome.okOr_ne_panic
  · intro member _
    apply Outcome.bind_ne_panic
    · exact Outcome.when_ne_panic
        (Outcome.ifSome_ne_panic fun _ => Outcome.failIf_ne_panic)
    · exact fun _ _ => parseInputMember_ne_panic member.1 member.2

end Wimsey.HttpSig
