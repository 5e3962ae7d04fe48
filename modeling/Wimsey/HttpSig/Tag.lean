import Wimsey.HttpSig.Params
import Wimsey.HttpSig.Selection

/-!
# Two readings of the tag

`has_wimse_tag` looks at a member before it is chosen, and `parse_input_member`
after.  The first asks whether any `tag` parameter has the WIMSE value, and the
second keeps the last one.  The two agree unless a member repeats the parameter,
with the WIMSE value before a last one that has another value: `LastTagDecides`
excludes just that.
-/

namespace Wimsey.HttpSig

open Wimsey.RustStd Wimsey.Scan

/-! ## The texts of the tag -/

/-- The texts of the `tag` parameters of a member, in order. -/
def tagTexts (rest : Str) : List Str :=
  match innerList (Str.trim rest) with
  | none => []
  | some (_, after) =>
      ((unquoted ';').split .start after).filterMap (namedText "tag")

/-- The text reads as the WIMSE tag. -/
def ReadsWimse (raw : Str) : Prop := parseSfString raw = .ok WIMSE_TAG

instance : DecidablePred ReadsWimse := fun raw =>
  inferInstanceAs (Decidable (parseSfString raw = .ok WIMSE_TAG))

/-- If a `tag` of the member is the WIMSE one, then the last is. -/
def LastTagDecides (rest : Str) : Prop :=
  (∃ raw ∈ tagTexts rest, ReadsWimse raw) →
    ∃ raw ∈ (tagTexts rest).getLast?, ReadsWimse raw

theorem isWimseTag_eq_true_iff {part : Str} :
    isWimseTag part = true ↔ ∃ raw, namedText "tag" part = some raw ∧
    ReadsWimse raw := by
  unfold isWimseTag namedText
  cases Str.splitOnce '=' part with
  | none => simp
  | some p =>
    obtain ⟨name, raw⟩ := p
    rw [Option.bind_some]
    dsimp only
    by_cases hname : Str.trim name = "tag".toList
    · rw [if_pos hname, hname]
      simp [ReadsWimse]
    · rw [if_neg hname, beq_false_of_ne hname]
      simp

theorem wimseTagged_eq_true_iff {rest : Str} :
    wimseTagged rest = true ↔ ∃ raw ∈ tagTexts rest, ReadsWimse raw := by
  unfold wimseTagged tagTexts
  cases innerList (Str.trim rest) with
  | none => simp
  | some p =>
    simp only [List.any_eq_true, isWimseTag_eq_true_iff, List.mem_filterMap]
    constructor
    · intro ⟨part, hpart, raw, htext, hreads⟩
      exact ⟨raw, ⟨part, hpart, htext⟩, hreads⟩
    · intro ⟨raw, ⟨part, hpart, htext⟩, hreads⟩
      exact ⟨part, hpart, raw, htext, hreads⟩

/-- The tag of a member that was read is the one of its last `tag`. -/
theorem tag_eq_wimse_iff {label rest : Str} {member : InputMember}
    (h : parseInputMember label rest = .ok member) :
    member.params.tag = some WIMSE_TAG ↔ ∃ raw ∈ (tagTexts rest).getLast?,
    ReadsWimse raw := by
  obtain ⟨_, _, inner, after, hread⟩ := parseInputMember_eq_ok_iff.1 h
  unfold tagTexts
  rw [hread.innerList]
  rcases foldlM_tag hread.params with
    ⟨raw, tag, hlast, hparse, htag⟩ | ⟨hnil, htag⟩
  · rw [htag]
    dsimp only
    simp only [hlast, Option.mem_some_iff, exists_eq_left', ReadsWimse, hparse,
      Option.some.injEq, Outcome.ok.injEq]
  · rw [htag]
    dsimp only
    rw [hnil]
    simp [SignatureParams.default]

/-- The two readings of a member agree exactly when its last tag decides. -/
theorem tagged_iff_tag_iff {label rest : Str} {member : InputMember}
    (h : parseInputMember label rest = .ok member) :
    (wimseTagged rest = true ↔ member.params.tag = some WIMSE_TAG) ↔
    LastTagDecides rest := by
  rw [wimseTagged_eq_true_iff, tag_eq_wimse_iff h]
  refine ⟨fun hiff => hiff.1, fun hlast => ⟨hlast, ?_⟩⟩
  intro ⟨raw, hraw, hreads⟩
  exact ⟨raw, List.mem_of_getLast? hraw, hreads⟩

/-! ## The choice by tag -/

/-- The choice counts the members with the tag, and a member without it is not
one of them. -/
theorem taggedMembers_filter_ne {members : List (Str × Str)} {m : Str × Str}
    (h : wimseTagged m.2 = false) :
    taggedMembers (members.filter (· ≠ m)) = taggedMembers members := by
  rw [taggedMembers_eq, taggedMembers_eq, List.filter_filter]
  refine congrArg Outcome.ok (List.filter_congr fun m' _ => ?_)
  by_cases hm : m' = m
  · rw [hm, h]
    rfl
  · simp [hm]

/-- The tag that selects a member is the tag it is parsed with exactly when its
last tag decides.  When that is so for the members of a field, the one selected
is the only one that is parsed with the tag, and one that is parsed with another
tag makes no difference to the choice. -/
theorem tag_readings_agree (config : VerifyConfig) :
    (∀ label rest member, parseInputMember label rest = .ok member →
      ((hasWimseTag rest = .ok true ↔ member.params.tag = some WIMSE_TAG) ↔
        LastTagDecides rest)) ∧
    ∀ signatureInput members, splitDictionary signatureInput = .ok members →
      members.length ≠ 1 → config.profiled = true →
      (∀ m ∈ members, ∀ member, parseInputMember m.1 m.2 = .ok member →
        LastTagDecides m.2) →
      (∀ member, selectMember signatureInput config = .ok member →
        member.params.tag = some WIMSE_TAG ∧
        ∃ m ∈ members, parseInputMember m.1 m.2 = .ok member ∧
          ∀ m' ∈ members, ∀ member', parseInputMember m'.1 m'.2 = .ok member' →
            member'.params.tag = some WIMSE_TAG → m' = m) ∧
      ∀ m ∈ members, ∀ member, parseInputMember m.1 m.2 = .ok member →
        member.params.tag ≠ some WIMSE_TAG →
        chooseMember members config ≠ .ok m ∧
          taggedMembers (members.filter (· ≠ m)) = taggedMembers members := by
  refine ⟨fun label rest member h => ?_, ?_⟩
  · rw [hasWimseTag_eq, Outcome.ok.injEq]
    exact tagged_iff_tag_iff h
  · intro signatureInput members hsplit hlen hprofile hdecides
    have hagree : ∀ m ∈ members, ∀ member,
        parseInputMember m.1 m.2 = .ok member →
        (wimseTagged m.2 = true ↔ member.params.tag = some WIMSE_TAG) :=
      fun m hm member h => (tagged_iff_tag_iff h).2 (hdecides m hm member h)
    have hchoose : chooseMember members config
        = soleMember (members.filter fun m => wimseTagged m.2) := by
      rw [chooseMember_profiled hprofile, if_neg hlen]
    have hsole : ∀ {m}, chooseMember members config = .ok m →
        members.filter (fun m => wimseTagged m.2) = [m] := by
      intro m hm
      exact soleMember_eq_ok_iff.1 (hchoose.symm.trans hm)
    refine ⟨fun member hselect => ?_, fun m hm member hparse htag => ?_⟩
    · rw [selectMember_profiled hprofile, hsplit, Outcome.ok_bind] at hselect
      obtain ⟨m, hm, hparse⟩ := Outcome.bind_eq_ok_iff.1 hselect
      have hmem : ∀ m', m' ∈ members ∧ wimseTagged m'.2 = true ↔ m' = m := by
        intro m'
        have hfilter : m' ∈ members.filter (fun m => wimseTagged m.2) ↔ _ :=
          List.mem_filter
        rw [hsole hm, List.mem_singleton] at hfilter
        exact hfilter.symm
      obtain ⟨hmembers, htagged⟩ := (hmem m).2 rfl
      refine ⟨(hagree m hmembers member hparse).1 htagged, m, hmembers,
        hparse, ?_⟩
      intro m' hm' member' hparse' htag'
      exact (hmem m').1 ⟨hm', (hagree m' hm' member' hparse').2 htag'⟩
    · have hnot : wimseTagged m.2 = false := by
        rw [Bool.eq_false_iff]
        exact fun htagged => htag ((hagree m hm member hparse).1 htagged)
      refine ⟨fun hchosen => ?_, taggedMembers_filter_ne hnot⟩
      have hmem : m ∈ members.filter (fun m => wimseTagged m.2) := by
        rw [hsole hchosen]
        exact List.mem_singleton.2 rfl
      rw [(List.mem_filter.1 hmem).2] at hnot
      cases hnot

namespace Example.Tag

/-- A member with two tags, of which the parser keeps the second. -/
def repeatedTag : Str := "();tag=\"wimse-workload-to-workload\";tag=\"x\""

/-- A field with the WIMSE signature before that member. -/
def field : Str :=
  "a=();tag=\"wimse-workload-to-workload\", b=".toList ++ repeatedTag

/-- The member is parsed with the tag `x`.  Next to the WIMSE signature it makes
the field ambiguous. -/
theorem repeated_tag_misread :
    ∃ member, parseInputMember "b" repeatedTag = .ok member ∧
      member.params.tag = some "x" ∧
      hasWimseTag repeatedTag = .ok true ∧
      selectMember field Example.config = .err .ambiguousWimseSignature := by
  refine ⟨{ label := "b"
            components := []
            params := { SignatureParams.default with tag := some "x" }
            paramsValue := repeatedTag }, ?_⟩
  decide +kernel

/-- A field with another signature before the WIMSE one, which is selected. -/
def proxied : Str := "a=();tag=\"x\", b=();tag=\"wimse-workload-to-workload\""

theorem tag_readings_agree_example :
    ∃ member, selectMember proxied Example.config = .ok member ∧
      member.params.tag = some WIMSE_TAG := by
  have hfield : splitDictionary proxied
      = .ok [("a", "();tag=\"x\""),
        ("b", "();tag=\"wimse-workload-to-workload\"")] ∧
      tagTexts "();tag=\"x\"" = ["\"x\""] ∧
      tagTexts "();tag=\"wimse-workload-to-workload\""
      = ["\"wimse-workload-to-workload\""] ∧
      selectMember proxied Example.config = .ok
        { label := "b"
          components := []
          params := { SignatureParams.default with tag := some WIMSE_TAG }
          paramsValue := "();tag=\"wimse-workload-to-workload\"" } := by
    decide +kernel
  obtain ⟨hsplit, hx, hwimse, hselect⟩ := hfield
  have hlast : ∀ {rest raw}, tagTexts rest = [raw] → LastTagDecides rest := by
    intro rest raw htexts ⟨raw', hmem, hreads⟩
    rw [htexts, List.mem_singleton] at hmem
    rw [htexts]
    exact ⟨raw, rfl, hmem ▸ hreads⟩
  obtain ⟨_, hchoice⟩ := tag_readings_agree Example.config
  refine ⟨_, hselect, ((hchoice _ _ hsplit (by decide) rfl ?_).1 _ hselect).1⟩
  intro m hm member _
  rcases List.mem_pair.1 hm with rfl | rfl
  · exact hlast hx
  · exact hlast hwimse

end Example.Tag

end Wimsey.HttpSig
