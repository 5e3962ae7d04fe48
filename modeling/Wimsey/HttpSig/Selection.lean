import Wimsey.HttpSig.RoundTrip
import Wimsey.RustStd.Assoc

/-!
# The tag selects the signature

Under a WIMSE profile `select_member` takes the one member with the WIMSE tag,
and `parse_signature` takes the member with its label.  Both are functions of
the set of members, up to the names of the labels:

* `verify_renamed`: when the members of the two fields are put in another order
  and their labels are renamed, the verification ends in the same way.
* `verify_insertMembers`: when members without the tag are added to a signed
  message that verifies, it still does.
-/

namespace Wimsey.HttpSig

open Wimsey.RustStd Wimsey.Codec Wimsey.Jose Wimsey.Scan

/-! ## The choice under a profile -/

section Choice

variable {config : VerifyConfig} {members members' : List (Str × Str)}

/-- The tagged member, if it is the only one. -/
def soleMember : List (Str × Str) → Outcome HttpSigError (Str × Str)
  | [member] => .ok member
  | _ :: _ :: _ => .err .ambiguousWimseSignature
  | [] => .err .noWimseSignature

theorem soleMember_eq_ok_iff {member : Str × Str} :
    soleMember members = .ok member ↔ members = [member] := by
  match members with
  | [] => simp [soleMember]
  | [m] => simp [soleMember]
  | _ :: _ :: _ => simp [soleMember]

theorem chooseMember_profiled (hprofile : config.profiled = true) :
    chooseMember members config =
      if members.length = 1 then soleMember members
      else soleMember (members.filter fun m => wimseTagged m.2) := by
  unfold chooseMember
  split
  · rfl
  · rename_i hlone
    have hlen : members.length ≠ 1 := by
      intro h
      obtain ⟨member, rfl⟩ := List.length_eq_one_iff.1 h
      exact hlone member rfl
    rw [if_pos hprofile, if_neg hlen, taggedMembers_eq, Outcome.ok_bind]
    rfl

theorem soleMember_perm {f : Str × Str → Str × Str}
    (hperm : members'.Perm (members.map f)) :
    soleMember members' = f <$> soleMember members := by
  have hlen : members'.length = members.length := by
    rw [hperm.length_eq, List.length_map]
  match members with
  | [] =>
    rw [List.length_eq_zero_iff.1 hlen]
    rfl
  | [member] =>
    rw [List.perm_singleton.1 hperm]
    rfl
  | _ :: _ :: _ =>
    match members' with
    | _ :: _ :: _ => rfl

/-- The choice does not depend on the labels and the order of the members. -/
theorem chooseMember_perm (hprofile : config.profiled = true) {f : Str → Str}
    (hperm : members'.Perm (members.map (Prod.map f id))) :
    chooseMember members' config
      = Prod.map f id <$> chooseMember members config := by
  have hlen : members'.length = members.length := by
    rw [hperm.length_eq, List.length_map]
  rw [chooseMember_profiled hprofile, chooseMember_profiled hprofile, hlen]
  split
  · exact soleMember_perm hperm
  · apply soleMember_perm
    have hfilter := hperm.filter fun m => wimseTagged m.2
    rwa [List.filter_map] at hfilter

/-- A tagged member is chosen over members without the tag. -/
theorem chooseMember_of_tagged (hprofile : config.profiled = true)
    {before after : List (Str × Str)} {member : Str × Str}
    (hmember : wimseTagged member.2 = true)
    (hothers : ∀ m ∈ before ++ after, wimseTagged m.2 = false) :
    chooseMember (before ++ member :: after) config = .ok member := by
  have hnone : ∀ {l : List (Str × Str)}, (∀ m ∈ l, m ∈ before ++ after) →
      l.filter (fun m => wimseTagged m.2) = [] := by
    intro l hl
    exact List.filter_eq_nil_iff.2 fun m hm => by simp [hothers m (hl m hm)]
  have hfilter : (before ++ member :: after).filter (fun m => wimseTagged m.2)
      = [member] := by
    rw [List.filter_append, List.filter_cons, hmember,
      hnone fun m hm => List.mem_append.2 (Or.inl hm),
      hnone fun m hm => List.mem_append.2 (Or.inr hm)]
    rfl
  rw [chooseMember_profiled hprofile, hfilter]
  split
  · rename_i hlen
    rw [List.length_append, List.length_cons] at hlen
    have hbefore : before = [] := List.length_eq_zero_iff.1 (by omega)
    have hafter : after = [] := List.length_eq_zero_iff.1 (by omega)
    rw [hbefore, hafter]
    rfl
  · rfl

end Choice

/-- Under a profile the configured label is not looked at. -/
theorem selectMember_profiled {config : VerifyConfig}
    (hprofile : config.profiled = true) (signatureInput : Str) :
    selectMember signatureInput config = (do
      let members ← splitDictionary signatureInput
      let member ← chooseMember members config
      parseInputMember member.1 member.2) := by
  simp only [selectMember, hprofile, Bool.not_true, Outcome.when_false,
    Outcome.ok_bind]

/-! ## Renamed members -/

/-- The member under another label. -/
def InputMember.rename (f : Str → Str) (member : InputMember) : InputMember :=
  { member with label := f member.label }

/-- The verified signature under another label. -/
def VerifiedSignature.rename (f : Str → Str) (w : VerifiedSignature) :
    VerifiedSignature :=
  { w with label := f w.label }

/-- The same members with their labels renamed, in any order.  The whitespace
before them may be other. -/
def Renamed (f : Str → Str) (members members' : List DictMember) : Prop :=
  (members'.map fun m => (m.label, m.text)).Perm
    (members.map fun m => (f m.label, m.text))

section Renamed

variable {f : Str → Str} {members members' : List DictMember}

theorem Renamed.read (h : Renamed f members members') :
    (members'.map DictMember.read).Perm
      ((members.map DictMember.read).map (Prod.map f id)) := by
  have hread := h.map fun p : Str × Str => (p.1, Str.trimEnd p.2)
  rw [List.map_map, List.map_map] at hread
  rw [List.map_map]
  exact hread

theorem Renamed.label (h : Renamed f members members') :
    (members'.map DictMember.label).Perm
      ((members.map DictMember.label).map f) := by
  have hlabel := h.map Prod.fst
  rw [List.map_map, List.map_map] at hlabel
  rw [List.map_map]
  exact hlabel

/-- Both dictionaries are read member by member, or both are empty. -/
theorem splitDictionary_renamed (hnodup : (members.map DictMember.label).Nodup)
    (hinj : Set.InjOn f {label | label ∈ members.map DictMember.label})
    (h : Renamed f members members') :
    members = [] ∧ members' = [] ∨
      splitDictionary (renderDictionary members)
        = .ok (members.map DictMember.read) ∧
        splitDictionary (renderDictionary members')
          = .ok (members'.map DictMember.read) := by
  have hlen : members'.length = members.length := by
    simpa using h.length_eq
  by_cases hempty : members = []
  · subst hempty
    exact Or.inl ⟨rfl, List.length_eq_zero_iff.1 hlen⟩
  · have hempty' : members' ≠ [] := by
      intro hnil
      rw [hnil] at hlen
      exact hempty (List.length_eq_zero_iff.1 hlen.symm)
    have hnodup' : (members'.map DictMember.label).Nodup :=
      h.label.nodup_iff.2 (hnodup.map_on fun a ha b hb => hinj ha hb)
    exact Or.inr ⟨splitDictionary_render hempty hnodup,
      splitDictionary_render hempty' hnodup'⟩

theorem parseInputMember_rename (f : Str → Str) (label rest : Str) :
    parseInputMember (f label) rest
      = InputMember.rename f <$> parseInputMember label rest := by
  rw [parseInputMember_eq, parseInputMember_eq]
  split
  · rfl
  · split
    · rfl
    · simp only [map_bind]
      rfl

/-- The selected member is the same, under its new label. -/
theorem selectMember_renamed {config : VerifyConfig}
    (hprofile : config.profiled = true)
    (hnodup : (members.map DictMember.label).Nodup)
    (hinj : Set.InjOn f {label | label ∈ members.map DictMember.label})
    (h : Renamed f members members') :
    selectMember (renderDictionary members') config
      = InputMember.rename f <$> selectMember (renderDictionary members)
        config := by
  rw [selectMember_profiled hprofile, selectMember_profiled hprofile]
  rcases splitDictionary_renamed hnodup hinj h
    with ⟨rfl, rfl⟩ | ⟨hsplit, hsplit'⟩
  · rfl
  · rw [hsplit, hsplit', Outcome.ok_bind, Outcome.ok_bind,
      chooseMember_perm hprofile h.read, map_bind, bind_map_left]
    exact bind_congr fun member => parseInputMember_rename f member.1 member.2

theorem label_mem_of_selectMember {config : VerifyConfig}
    (hprofile : config.profiled = true)
    (hnodup : (members.map DictMember.label).Nodup) {member : InputMember}
    (h : selectMember (renderDictionary members) config = .ok member) :
    member.label ∈ members.map DictMember.label := by
  rw [selectMember_profiled hprofile] at h
  by_cases hempty : members = []
  · rw [hempty] at h
    cases h
  · rw [splitDictionary_render hempty hnodup, Outcome.ok_bind] at h
    obtain ⟨p, hchoose, hparse⟩ := Outcome.bind_eq_ok_iff.1 h
    obtain ⟨m, hm, rfl⟩ := List.mem_map.1 (mem_of_chooseMember hchoose)
    rw [(parseInputMember_eq_ok_iff.1 hparse).1]
    exact List.mem_map_of_mem hm

/-- The `Signature` member with the label is the same under its new label. -/
theorem parseSignature_renamed [Base64]
    (hnodup : (members.map DictMember.label).Nodup) {label : Str}
    (hinj :
      Set.InjOn f (insert label {label | label ∈ members.map DictMember.label}))
    (h : Renamed f members members') :
    parseSignature (renderDictionary members') (f label)
      = parseSignature (renderDictionary members) label := by
  have hkeys : ((members.map DictMember.read).map Prod.fst).Nodup := by
    rwa [List.map_map]
  have hlabels : ∀ p ∈ members.map DictMember.read, f p.1 = f label →
      p.1 = label := by
    intro p hp hf
    obtain ⟨m, hm, rfl⟩ := List.mem_map.1 hp
    exact hinj (Or.inr (List.mem_map_of_mem hm)) (Or.inl rfl) hf
  have hfind := Assoc.find?_rename hkeys h.read hlabels
  unfold parseSignature
  rcases splitDictionary_renamed hnodup (hinj.mono (Set.subset_insert ..)) h
    with ⟨rfl, rfl⟩ | ⟨hsplit, hsplit'⟩
  · rfl
  · rw [hsplit, hsplit', Outcome.ok_bind, Outcome.ok_bind, hfind]
    cases (members.map DictMember.read).find? fun m => m.1 == label with
    | none => rfl
    | some p => rfl

theorem checkPolicy_rename (f : Str → Str) (member : InputMember)
    (config : VerifyConfig) :
    checkPolicy (member.rename f) config
      = VerifiedSignature.rename f <$> checkPolicy member config := by
  simp only [checkPolicy, map_bind]
  rfl

/-- The verification ends in the same way when the members of the fields are put
in another order and their labels are renamed. -/
theorem verify_renamed {M : Type} [ComponentSource M] [Base64] [Ed25519] [P256]
    (message : M) (key : VerifyingKey) {config : VerifyConfig}
    (hprofile : config.profiled = true)
    {inputs inputs' signatures signatures' : List DictMember}
    (hinputs : (inputs.map DictMember.label).Nodup)
    (hsignatures : (signatures.map DictMember.label).Nodup)
    (hinj :
      Set.InjOn f {label | label ∈ (inputs ++ signatures).map DictMember.label})
    (hinputs' : Renamed f inputs inputs')
    (hsignatures' : Renamed f signatures signatures') :
    verify message (renderDictionary inputs') (renderDictionary signatures')
      key config
      = VerifiedSignature.rename f <$>
          verify message (renderDictionary inputs) (renderDictionary signatures)
            key config := by
  have hsub : ∀ label ∈ inputs.map DictMember.label,
      label ∈ (inputs ++ signatures).map DictMember.label := by
    intro label hlabel
    rw [List.map_append]
    exact List.mem_append_left _ hlabel
  have hselect :=
    selectMember_renamed hprofile hinputs (hinj.mono hsub) hinputs'
  simp only [verify_eq, authenticate_eq, bind_assoc, map_bind, hselect,
    bind_map_left]
  cases hmember : selectMember (renderDictionary inputs) config with
  | err e => rfl
  | panic => rfl
  | ok member =>
    have hlabel := label_mem_of_selectMember hprofile hinputs hmember
    have hsignature :
        parseSignature (renderDictionary signatures') (f member.label)
        = parseSignature (renderDictionary signatures) member.label := by
      apply parseSignature_renamed hsignatures (hinj.mono ?_) hsignatures'
      intro label hmem
      rcases hmem with rfl | hmem
      · exact hsub _ hlabel
      · show label ∈ (inputs ++ signatures).map DictMember.label
        rw [List.map_append]
        exact List.mem_append_right _ hmem
    simp only [Outcome.ok_bind, ← checkPolicy_rename]
    rw [← hsignature]
    rfl

end Renamed

/-! ## Members beside a signed one -/

theorem wimseTagged_trimEnd (text : Str) :
    wimseTagged (Str.trimEnd text) = wimseTagged text := by
  unfold wimseTagged
  rw [Str.trim_trimEnd]

/-- What is signed with the WIMSE tag is recognised by it. -/
theorem wimseTagged_serialize {components : List Component}
    (h : ∀ c ∈ components, c.WellNamed) {params : SignatureParams}
    (htag : params.tag = some WIMSE_TAG) :
    wimseTagged (serializeParamsValue components params) = true := by
  have hname : PlainText "tag" := by decide
  have hpiece :
      ("tag".toList ++ '=' :: sfString WIMSE_TAG) ∈ paramPieces params := by
    simp [paramPieces, paramPiece, htag]
  have htagged : isWimseTag ("tag".toList ++ '=' :: sfString WIMSE_TAG)
      = true := by
    rw [isWimseTag, Str.splitOnce_append_cons (equals_not_mem hname)]
    simp only [Str.trim_of_forall fun c hc => (hname c hc).1,
      Str.trim_eq_self (headKept_sfString WIMSE_TAG)
      (pieceOk_sfString WIMSE_TAG).last, parseSfString_sfString]
    decide
  unfold wimseTagged
  rw [trim_serializeParamsValue, innerList_serialize fun c hc =>
    (h c hc).tokenNamed]
  dsimp only
  rw [split_paramsText]
  exact List.any_eq_true.2 ⟨_, List.mem_cons_of_mem [] hpiece, htagged⟩

/-- A field with members put before and after what it holds. -/
def insertMembers (before : List DictMember) (pad field : Str)
    (after : List DictMember) : Str :=
  [','].intercalate (before.map DictMember.render ++
    (pad ++ field) :: after.map DictMember.render)

theorem insertMembers_render (before after : List DictMember) (m : DictMember) :
    insertMembers before m.pad (m.label ++ '=' :: m.text) after
      = renderDictionary (before ++ m :: after) := by
  rw [insertMembers, renderDictionary, List.map_append, List.map_cons,
    DictMember.render]

theorem nodup_middle {before after : List DictMember} {m : DictMember}
    (h : (m.label :: (before ++ after).map DictMember.label).Nodup) :
    ((before ++ m :: after).map DictMember.label).Nodup := by
  have hperm : (before ++ m :: after).Perm (m :: (before ++ after)) :=
    List.perm_middle
  exact (hperm.map DictMember.label).nodup_iff.2 h

section Insert

variable {before after before' after' : List DictMember} {config : VerifyConfig}
  {components : List Component} {params : SignatureParams}

theorem selectMember_beside (hprofile : config.profiled = true)
    (hcomponents : ∀ c ∈ components, c.WellNamed)
    (hparams : params.tag = some WIMSE_TAG) {input : DictMember}
    (htext : Str.trim input.text = serializeParamsValue components params)
    (hfresh : (input.label :: (before ++ after).map DictMember.label).Nodup)
    (htag : ∀ m ∈ before ++ after, hasWimseTag m.text = .ok false) :
    selectMember (renderDictionary (before ++ input :: after)) config = .ok
      { label := input.label, components := components, params := params,
        paramsValue := serializeParamsValue components params } := by
  have htrim : Str.trim input.read.2 = serializeParamsValue components params :=
    (Str.trim_trimEnd input.text).trans htext
  have hinput : wimseTagged input.read.2 = true := by
    have hserialize := wimseTagged_serialize hcomponents hparams
    unfold wimseTagged at hserialize ⊢
    rwa [htrim, ← trim_serializeParamsValue]
  have hothers : ∀ p ∈ before.map DictMember.read ++ after.map DictMember.read,
      wimseTagged p.2 = false := by
    intro p hp
    rw [← List.map_append] at hp
    obtain ⟨m, hm, rfl⟩ := List.mem_map.1 hp
    have hfalse := htag m hm
    rw [hasWimseTag_eq, ← wimseTagged_trimEnd] at hfalse
    exact Outcome.ok.inj hfalse
  rw [selectMember_profiled hprofile,
    splitDictionary_render (by simp) (nodup_middle hfresh), Outcome.ok_bind,
    List.map_append, List.map_cons,
    chooseMember_of_tagged hprofile hinput hothers, Outcome.ok_bind]
  exact parseInputMember_serialize input.label hcomponents htrim

variable [Base64]

theorem parseSignature_beside
    (hbase64 : Base64.STANDARD.Lawful (Rfc4648.standardAlphabet ++ ['=']))
    {signature : DictMember} {sigBytes : Vector UInt8 SIGNATURE_LEN}
    (htext : Str.trim signature.text = signatureText sigBytes)
    (hfresh :
      (signature.label :: (before ++ after).map DictMember.label).Nodup) :
    parseSignature (renderDictionary (before ++ signature :: after))
      signature.label
      = .ok sigBytes := by
  have hnodup := nodup_middle hfresh
  have hkeys :
      (((before ++ signature :: after).map DictMember.read).map
        Prod.fst).Nodup := by
    rwa [List.map_map]
  have hmem :
      signature.read ∈ (before ++ signature :: after).map DictMember.read :=
    List.mem_map_of_mem (List.mem_append_right _ (List.mem_cons_self ..))
  exact parseSignature_of_find hbase64 (splitDictionary_render (by simp) hnodup)
    ((Assoc.find?_eq_some_iff hkeys (by simp)).2 ⟨hmem, rfl⟩)
    ((Str.trim_trimEnd signature.text).trans htext)

variable {M N : Type} [ComponentSource M] [ComponentSource N] [Ed25519] [P256]

/-- Fields that were signed, perhaps over another message, and that verify still
do when members without the WIMSE tag are added to them. -/
theorem verify_insertMembers
    (hbase64 : Base64.STANDARD.Lawful (Rfc4648.standardAlphabet ++ ['=']))
    {message : M} {signedMessage : N} {label : Str} {signingKey : SigningKey}
    {signed : SignedSignature} {key : VerifyingKey} {w : VerifiedSignature}
    (hprofile : config.profiled = true)
    (hcomponents : ∀ c ∈ components, c.WellNamed) (hlabel : IsKey label)
    (hsign : sign signedMessage components params label signingKey = .ok signed)
    (hverify : verify message signed.signatureInput signed.signature key
      config = .ok w)
    {pad pad' : Str} (hpad : ∀ c ∈ pad, Str.isWhitespace c = true)
    (hpad' : ∀ c ∈ pad', Str.isWhitespace c = true)
    (hfresh : (label :: (before ++ after).map DictMember.label).Nodup)
    (hfresh' : (label :: (before' ++ after').map DictMember.label).Nodup)
    (htag : ∀ m ∈ before ++ after, hasWimseTag m.text = .ok false) :
    verify message (insertMembers before pad signed.signatureInput after)
      (insertMembers before' pad' signed.signature after') key config
        = .ok w := by
  have htokens := fun c hc => (hcomponents c hc).tokenNamed
  obtain ⟨hsplit, base, hbase, hread⟩ := read_sign hbase64 htokens hlabel hsign
  obtain ⟨member, hauth, hpolicy, hw⟩ := verify_eq_ok_iff.1 hverify
  have htrim := trim_serializeParamsValue components params
  have hparse := parseInputMember_serialize label hcomponents htrim
  obtain ⟨rfl, _⟩ := (selectMember_of_lone _ hsplit hparse).1 hauth.selected
  obtain ⟨sigBytes, verifiedBase, hsig, hverifiedBase, hvalid⟩ := hauth.signed
  obtain rfl : sigBytes = signingKey.sign (Str.asBytes base) :=
    Outcome.ok.inj (hsig.symm.trans hread)
  have hparams : params.tag = some WIMSE_TAG := by
    rcases Bool.or_eq_true_iff.1 hprofile with h | h
    · exact (hauth.admitted.request h).tag
    · exact (hauth.admitted.response h).tag
  obtain ⟨signedBase, hsignedBase, rfl⟩ := sign_eq_ok_iff.1 hsign
  obtain rfl : signedBase = base :=
    Outcome.ok.inj (hsignedBase.symm.trans hbase)
  -- The two fields are those of the dictionaries with the signed members among
  -- the others.
  let input := inputMember pad hpad hlabel htokens params
  let signature :=
    signatureMember hbase64 pad' hpad' hlabel
      (signingKey.sign (Str.asBytes signedBase))
  have hselect : selectMember (insertMembers before pad
      (label ++ '=' :: serializeParamsValue components params) after) config
      = .ok _ :=
    insertMembers_render before after input ▸
      selectMember_beside hprofile hcomponents hparams htrim hfresh htag
  have hsignature : parseSignature (insertMembers before' pad'
      (label ++ '=' ::
        signatureText (signingKey.sign (Str.asBytes signedBase))) after') label
        = .ok _ :=
    insertMembers_render before' after' signature ▸
      parseSignature_beside hbase64 (trim_signatureText hbase64 _) hfresh'
  exact verify_eq_ok_iff.2 ⟨_, ⟨hselect, hauth.admitted, _, verifiedBase,
    hsignature, hverifiedBase, hvalid⟩, hpolicy, hw⟩

/-- Under a profile the signature is selected by its tag: members without the
tag do not get in its way, and neither the order of the members nor their labels
matter. -/
theorem selected_by_tag
    (hbase64 : Base64.STANDARD.Lawful (Rfc4648.standardAlphabet ++ ['=']))
    (message : M) (key : VerifyingKey) (hprofile : config.profiled = true) :
    (∀ (signedMessage : N) components params label signingKey signed w pad pad'
      before after before' after',
      (∀ c ∈ components, c.WellNamed) → IsKey label →
      sign signedMessage components params label signingKey = .ok signed →
      verify message signed.signatureInput signed.signature key config = .ok w →
      (∀ c ∈ pad, Str.isWhitespace c = true) →
      (∀ c ∈ pad', Str.isWhitespace c = true) →
      (label :: (before ++ after).map DictMember.label).Nodup →
      (label :: (before' ++ after').map DictMember.label).Nodup →
      (∀ m ∈ before ++ after, hasWimseTag m.text = .ok false) →
        verify message (insertMembers before pad signed.signatureInput after)
          (insertMembers before' pad' signed.signature after') key config
            = .ok w) ∧
    ∀ inputs signatures : List DictMember,
      (inputs.map DictMember.label).Nodup →
        (signatures.map DictMember.label).Nodup →
        (∀ inputs' signatures', inputs'.Perm inputs →
          signatures'.Perm signatures →
          verify message (renderDictionary inputs')
            (renderDictionary signatures') key config
            = verify message (renderDictionary inputs)
              (renderDictionary signatures) key config) ∧
        ∀ f inputs' signatures',
          Set.InjOn f
            {label | label ∈ (inputs ++ signatures).map DictMember.label} →
          Renamed f inputs inputs' → Renamed f signatures signatures' →
            verify message (renderDictionary inputs')
              (renderDictionary signatures') key config
              = VerifiedSignature.rename f <$>
                  verify message (renderDictionary inputs)
                    (renderDictionary signatures) key config := by
  refine ⟨?_, fun inputs signatures hinputs hsignatures => ⟨?_, ?_⟩⟩
  · intro _ _ _ _ _ _ _ _ _ _ _ _ _ hcomponents hlabel hsign hverify hpad hpad'
      hfresh hfresh' htag
    exact verify_insertMembers hbase64 hprofile hcomponents hlabel hsign hverify
      hpad hpad' hfresh hfresh' htag
  · intro inputs' signatures' hpermInputs hpermSignatures
    have hrenamed :=
      verify_renamed (f := id) message key hprofile hinputs hsignatures
      (Set.injOn_id _) (hpermInputs.map _) (hpermSignatures.map _)
    rw [hrenamed]
    exact id_map _
  · intro f inputs' signatures' hinj hinputs' hsignatures'
    exact verify_renamed message key hprofile hinputs hsignatures hinj hinputs'
      hsignatures'

end Insert

/-! ## A proxy beside the signer -/

namespace Example.Proxy

/-- A member of a proxy, which signs a component that the reader does not
know. -/
def proxyMember (text : Str) (h : Scanner.Neutral dictionary .start text) :
    DictMember where
  pad := []
  label := "proxy"
  text := text
  isPad := by simp
  isKey := by decide
  neutral := h

def proxyInput : DictMember :=
  proxyMember "(\"@target-uri\");tag=\"p\""
    ⟨by simp [Scanner.Quiet, dictionary, DictState.start], by decide⟩

def proxySignature : DictMember :=
  proxyMember ":AAAA:"
    ⟨by simp [Scanner.Quiet, dictionary, DictState.start], by decide⟩

open scoped Rfc4648 P256.Keyless

local instance : Ed25519 := Ed25519.signing base signature

/-- The signed request verifies after a proxy has put its own signature before
the one in `Signature-Input`, and after the one in `Signature`. -/
theorem selected_by_tag_example :
    ∃ signed, sign request (requestComponents request) params "wimse" key
      = .ok signed ∧
      verify request (insertMembers [proxyInput] [' '] signed.signatureInput [])
          (insertMembers [] [] signed.signature [proxySignature])
          key.verifyingKey config
        = .ok
          { label := "wimse"
            components := requestComponents request
            params := params } := by
  have hkey : key.SelfVerifies := Ed25519.single_selfVerifies _ _ _
  obtain ⟨signed, hsigned⟩ := exists_sign "wimse" key signatureBase_request
  have hverify :=
    verify_of_allows Rfc4648.standard_lawful wellNamed isKey hsigned
    (fun _ _ => hkey _) (allows _)
  have hpad : ∀ c ∈ [' '], Str.isWhitespace c = true :=
    List.forall_mem_singleton.2 (by decide)
  have htag : ∀ m ∈ [proxyInput] ++ [], hasWimseTag m.text = .ok false :=
    List.forall_mem_singleton.2 (by decide +kernel)
  exact ⟨signed, hsigned,
    (selected_by_tag Rfc4648.standard_lawful request key.verifyingKey rfl).1
      request _ _ _ _ _ _ _ _ _ _ _ _ wellNamed isKey hsigned hverify hpad
      (by simp) (by decide) (by decide) htag⟩

end Example.Proxy

end Wimsey.HttpSig
