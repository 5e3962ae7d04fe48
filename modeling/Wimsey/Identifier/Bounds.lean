import Wimsey.Identifier.Grammar
import Wimsey.RustStd.Slice

/-!
# The cursor of the path check

`validatePcharFrom` keeps the bytes that are left.  The source keeps an index,
and `pcharTurn` is the body of its loop as it stands there: every access to the
bytes is at the index and is checked.  `pcharLoop` runs it, and `pcharLoop_eq`
says that it ends, with the result of `validatePcharFrom`.

`PcharCursor` is every value that the index takes.  Each is at a character
boundary, since the loop only steps over ASCII bytes:
`isCharBoundary_of_cursor`.
-/

namespace Wimsey.Identifier

open Wimsey.RustStd
open Wimsey.Uri (isUpperHex hexVal)

/-- `decode_hex(hex[0]) * 16 + decode_hex(hex[1])`. -/
def decodeEscape {ε : Type} (h₁ h₂ : UInt8) : Outcome ε UInt8 := do
  let hi ← decodeHex h₁
  let lo ← decodeHex h₂
  let scaled ← mulU8 hi 16
  addU8 scaled lo

/-- The body of the loop of `validate_pchar_segment`, with the index at `i`: the
next index. -/
def pcharTurn (segment : Str) (i : Nat) : Outcome ParseError Nat := do
  let bytes := Str.asBytes segment
  let b ← Slice.index bytes i
  if b = Str.byte '%' then do
    let hex ← Outcome.okOr .badPercentEncoding (Slice.get bytes (i + 1) (i + 3))
    Outcome.failIf (!hex.all isAsciiHexdigit) .badPercentEncoding
    let escape := hex.map fun b => Char.ofNat b.toNat
    Outcome.failIf (hex.any isAsciiLowercase)
      (.nonNormalizedPercentEncoding escape)
    let h₁ ← Slice.index hex 0
    let h₂ ← Slice.index hex 1
    let decoded ← decodeEscape h₁ h₂
    Outcome.failIf (isUnreservedByte decoded)
      (.nonNormalizedPercentEncoding escape)
    .ok (i + 3)
  else if !isPcharByte b then do
    let tail ← Str.sliceFrom segment i
    .err (.invalidPathChar (tail.head?.getD '\uFFFD'))
  else .ok (i + 1)

/-- The loop from the index `i`, for at most so many turns. -/
def pcharLoop (segment : Str) : Nat → Nat → Option (Outcome ParseError Unit)
  | 0, i => if i < Str.len segment then none else some (.ok ())
  | turns + 1, i =>
      if i < Str.len segment then
        match pcharTurn segment i with
        | .ok j => pcharLoop segment turns j
        | .err e => some (.err e)
        | .panic => some .panic
      else some (.ok ())

/-- The index takes this value at the start of a turn or at the end of the
loop. -/
inductive PcharCursor (segment : Str) : Nat → Prop where
  | start : PcharCursor segment 0
  | turn {i j : Nat} (h : PcharCursor segment i) (hi : i < Str.len segment)
      (hj : pcharTurn segment i = .ok j) : PcharCursor segment j

/-! ## One turn -/

section Turn

variable {segment : Str} {before after : Bytes} {b : UInt8}

/-- A turn at a byte that is no percent sign. -/
theorem pcharTurn_of_ne (hbytes : Str.asBytes segment = before ++ b :: after)
    (hb : b ≠ Str.byte '%') :
    pcharTurn segment before.length =
      if !isPcharByte b then do
        let tail ← Str.sliceFrom segment before.length
        .err (.invalidPathChar (tail.head?.getD '\uFFFD'))
      else .ok (before.length + 1) := by
  rw [pcharTurn, hbytes]
  simp only [Slice.index_append, Outcome.ok_bind, if_neg hb]

/-- A turn at a percent sign with two bytes after it. -/
theorem pcharTurn_percent {h₁ h₂ : UInt8}
    (hbytes : Str.asBytes segment = before ++
      Str.byte '%' :: h₁ :: h₂ :: after) :
    pcharTurn segment before.length = (do
      let escape := [Char.ofNat h₁.toNat, Char.ofNat h₂.toNat]
      Outcome.failIf (!(isAsciiHexdigit h₁ && isAsciiHexdigit h₂))
        .badPercentEncoding
      Outcome.failIf (isAsciiLowercase h₁ || isAsciiLowercase h₂)
        (.nonNormalizedPercentEncoding escape)
      let decoded ← decodeEscape h₁ h₂
      Outcome.failIf (isUnreservedByte decoded)
        (.nonNormalizedPercentEncoding escape)
      .ok (before.length + 3)) := by
  have hget :
      Slice.get (before ++ Str.byte '%' :: h₁ :: h₂ :: after)
        (before.length + 1) (before.length + 3) = some [h₁, h₂] := by
    have happend :=
      Slice.get_append_append (a := before ++ [Str.byte '%']) (b := [h₁, h₂])
      (c := after) (i := before.length + 1) (j := before.length + 3)
        (by simp) rfl
    rwa [List.append_assoc, List.append_assoc] at happend
  have hfirst : (Slice.index [h₁, h₂] 0 : Outcome ParseError UInt8) = .ok h₁ :=
    rfl
  have hsecond : (Slice.index [h₁, h₂] 1 : Outcome ParseError UInt8) = .ok h₂ :=
    rfl
  rw [pcharTurn, hbytes]
  simp only [Slice.index_append, Outcome.ok_bind, if_true, hget,
    Outcome.okOr_some, hfirst, hsecond, List.all_cons, List.all_nil,
    Bool.and_true, List.any_cons, List.any_nil, Bool.or_false, List.map_cons,
    List.map_nil]

/-- A turn at a percent sign that is too close to the end. -/
theorem pcharTurn_percent_short
    (hbytes : Str.asBytes segment = before ++ Str.byte '%' :: after)
    (hshort : after.length < 2) :
    pcharTurn segment before.length = .err .badPercentEncoding := by
  have hget :
      Slice.get (before ++ Str.byte '%' :: after) (before.length + 1)
      (before.length + 3)
      = none := by
    apply Slice.get_eq_none
    rw [List.length_append, List.length_cons]
    omega
  rw [pcharTurn, hbytes]
  simp only [Slice.index_append, Outcome.ok_bind, if_true, hget,
    Outcome.okOr_none, Outcome.err_bind]

/-- A turn that goes on has stepped over one byte of a segment, or over a
percent sign and two hex digits. -/
theorem pcharTurn_eq_ok
    (hbytes : Str.asBytes segment = before ++ b :: after) {j : Nat}
    (h : pcharTurn segment before.length = .ok j) :
    isPcharByte b = true ∧ j = before.length + 1 ∨
      b = Str.byte '%' ∧ ∃ h₁ h₂ rest, after = h₁ :: h₂ :: rest ∧
        isAsciiHexdigit h₁ = true ∧
        isAsciiHexdigit h₂ = true ∧ j = before.length + 3 := by
  by_cases hb : b = Str.byte '%'
  · subst hb
    rcases after with _ | ⟨h₁, _ | ⟨h₂, rest⟩⟩
    · rw [pcharTurn_percent_short hbytes (by simp)] at h
      cases h
    · rw [pcharTurn_percent_short hbytes (by simp)] at h
      cases h
    · rw [pcharTurn_percent hbytes] at h
      simp only [Outcome.bind_eq_ok_iff, Outcome.failIf_eq_ok_iff,
        Bool.not_eq_false', Bool.and_eq_true] at h
      obtain ⟨_, ⟨hhex₁, hhex₂⟩, _, _, _, _, _, _, hj⟩ := h
      exact Or.inr ⟨rfl, h₁, h₂, rest, rfl, hhex₁, hhex₂,
        (Outcome.ok.inj hj).symm⟩
  · rw [pcharTurn_of_ne hbytes hb] at h
    cases hpchar : isPcharByte b with
    | false =>
      rw [hpchar, Bool.not_false, if_pos rfl, Outcome.bind_eq_ok_iff] at h
      obtain ⟨_, _, herr⟩ := h
      cases herr
    | true =>
      rw [hpchar, Bool.not_true, if_neg Bool.false_ne_true] at h
      exact Or.inl ⟨rfl, (Outcome.ok.inj h).symm⟩

/-- One turn of the loop, and the rest of it on the bytes that are left. -/
theorem validatePcharFrom_turn
    (hbytes : Str.asBytes segment = before ++ b :: after) :
    validatePcharFrom segment (b :: after) before.length = (do
      let j ← pcharTurn segment before.length
      validatePcharFrom segment ((Str.asBytes segment).drop j) j) := by
  have hdrop : ∀ skipped rest : Bytes, b :: after = skipped ++ rest →
      (Str.asBytes segment).drop (before.length + skipped.length) = rest := by
    intro skipped rest hsplit
    rw [hbytes, hsplit, ← List.append_assoc]
    exact List.drop_left' (by simp)
  by_cases hb : b = Str.byte '%'
  · subst hb
    rcases after with _ | ⟨h₁, _ | ⟨h₂, rest⟩⟩
    · rw [pcharTurn_percent_short hbytes (by simp)]
      rfl
    · rw [pcharTurn_percent_short hbytes (by simp)]
      rfl
    · have hrest := hdrop [Str.byte '%', h₁, h₂] rest rfl
      change (Str.asBytes segment).drop (before.length + 3) = rest at hrest
      rw [pcharTurn_percent hbytes, validatePcharFrom, if_pos rfl]
      simp only [decodeEscape, bind_assoc, Outcome.ok_bind, hrest]
  · have hrest := hdrop [b] after rfl
    rw [pcharTurn_of_ne hbytes hb, validatePcharFrom.eq_def]
    simp only [if_neg hb]
    split
    · rw [bind_assoc]
      rfl
    · rw [Outcome.ok_bind]
      exact congrArg (fun rest =>
        validatePcharFrom segment rest (before.length + 1)) hrest.symm

/-- Two uppercase hex digits decode without underflow or overflow. -/
theorem exists_decodeEscape {h₁ h₂ : UInt8} (hhex₁ : isAsciiHexdigit h₁ = true)
    (hhex₂ : isAsciiHexdigit h₂ = true) (hupper₁ : isAsciiLowercase h₁ = false)
    (hupper₂ : isAsciiLowercase h₂ = false) :
    ∃ decoded, (decodeEscape h₁ h₂ : Outcome ParseError UInt8)
      = .ok decoded := by
  have hdigit : ∀ {h : UInt8}, isAsciiHexdigit h = true →
      isAsciiLowercase h = false →
      ∃ c, isUpperHex c = true ∧ Str.byte c = h := by
    intro h hhex hupper
    have hascii := ascii_of_isAsciiHexdigit hhex
    have hbytes : Str.asBytes [Char.ofNat h.toNat] = [h] := by
      have hc : (Char.ofNat h.toNat).toNat = h.toNat := by
        rw [Char.toNat_ofNat, if_pos (Or.inl (by omega))]
      rw [Str.asBytes_cons_of_ascii (by omega), Str.byte, hc, UInt8.ofNat_toNat]
      rfl
    obtain ⟨c, _, _, hc, rfl, _⟩ :=
      Str.exists_cons_of_asBytes_cons hbytes hascii
    refine ⟨c, ?_, rfl⟩
    rw [← isUpperHex_byte hc, hhex, hupper]
    rfl
  obtain ⟨a, ha, rfl⟩ := hdigit hhex₁ hupper₁
  obtain ⟨b, hb, rfl⟩ := hdigit hhex₂ hupper₂
  refine ⟨UInt8.ofNat (16 * hexVal a + hexVal b), ?_⟩
  rw [decodeEscape, decodeHex_byte ha, Outcome.ok_bind, decodeHex_byte hb,
    Outcome.ok_bind]
  exact scaled_add (hexVal_lt ha) (hexVal_lt hb)

end Turn

/-! ## The whole loop -/

section Loop

variable {segment : Str} {i : Nat}

/-- The bytes around an index in range. -/
theorem exists_bytes_of_lt (hi : i < Str.len segment) : ∃ before b after,
    before.length = i ∧ Str.asBytes segment = before ++ b :: after := by
  have hlt : i < (Str.asBytes segment).length := hi
  refine ⟨(Str.asBytes segment).take i, (Str.asBytes segment)[i],
    (Str.asBytes segment).drop (i + 1),
    List.length_take_of_le (Nat.le_of_lt hlt), ?_⟩
  rw [List.getElem_cons_drop, List.take_append_drop]

theorem lt_of_pcharTurn (hi : i < Str.len segment) {j : Nat}
    (h : pcharTurn segment i = .ok j) :
    i < j := by
  obtain ⟨before, b, after, rfl, hbytes⟩ := exists_bytes_of_lt hi
  rcases pcharTurn_eq_ok hbytes h with ⟨_, rfl⟩ | ⟨_, _, _, _, _, _, _, rfl⟩
  · omega
  · omega

/-- The loop ends after at most one turn for each byte, as `validatePcharFrom`
does. -/
theorem pcharLoop_eq {turns : Nat} (h : Str.len segment ≤ i + turns) :
    pcharLoop segment turns i
      = some (validatePcharFrom segment ((Str.asBytes segment).drop i) i) := by
  have hend : ∀ i, ¬ i < Str.len segment →
      validatePcharFrom segment ((Str.asBytes segment).drop i) i = .ok () := by
    intro i hi
    rw [List.drop_of_length_le (Nat.le_of_not_lt hi)]
    rfl
  induction turns generalizing i with
  | zero =>
    have hi : ¬ i < Str.len segment := by omega
    rw [pcharLoop, if_neg hi, hend i hi]
  | succ turns ih =>
    rw [pcharLoop]
    split
    · rename_i hi
      obtain ⟨before, b, after, rfl, hbytes⟩ := exists_bytes_of_lt hi
      have hdrop : (Str.asBytes segment).drop before.length = b :: after := by
        rw [hbytes, List.drop_left]
      rw [hdrop, validatePcharFrom_turn hbytes]
      cases hturn : pcharTurn segment before.length with
      | ok j =>
        have hlt := lt_of_pcharTurn hi hturn
        rw [Outcome.ok_bind]
        exact ih (by omega)
      | err e => rfl
      | panic => rfl
    · rename_i hi
      rw [hend i hi]

/-- A turn from a character boundary ends at one, since it steps over ASCII
bytes only. -/
theorem isCharBoundary_turn (h : Str.IsCharBoundary segment i)
    (hi : i < Str.len segment) {j : Nat} (hj : pcharTurn segment i = .ok j) :
    Str.IsCharBoundary segment j := by
  obtain ⟨pre, rest, rfl, rfl⟩ := h
  have hpos : 0 < (Str.asBytes rest).length := by
    rw [Str.len_append] at hi
    change Str.len pre < Str.len pre + (Str.asBytes rest).length at hi
    omega
  obtain ⟨b, after, hrest⟩ := List.exists_cons_of_length_pos hpos
  have hbytes : Str.asBytes (pre ++ rest) = Str.asBytes pre ++ b :: after := by
    rw [Str.asBytes_append, hrest]
  rcases pcharTurn_eq_ok hbytes hj with ⟨hpchar, rfl⟩ |
    ⟨rfl, h₁, h₂, after', rfl, hhex₁, hhex₂, rfl⟩
  · have hascii : b.toNat < 0x80 := by
      by_contra hge
      rw [(isPcharByte_of_not_ascii (Nat.le_of_not_lt hge)).2] at hpchar
      cases hpchar
    obtain ⟨c, t, rfl, hc, _, _⟩ := Str.exists_cons_of_asBytes_cons hrest hascii
    refine ⟨pre ++ [c], t, by simp, ?_⟩
    simp only [Str.len_append, Str.len_cons, Str.len_nil,
      Str.utf8Size_of_ascii hc]
    rfl
  · obtain ⟨c, t, rfl, hc, _, ht⟩ :=
      Str.exists_cons_of_asBytes_cons hrest (by decide)
    obtain ⟨a, t, rfl, ha, _, ht⟩ :=
      Str.exists_cons_of_asBytes_cons ht (ascii_of_isAsciiHexdigit hhex₁)
    obtain ⟨b, t, rfl, hb, _, _⟩ :=
      Str.exists_cons_of_asBytes_cons ht (ascii_of_isAsciiHexdigit hhex₂)
    refine ⟨pre ++ [c, a, b], t, by simp, ?_⟩
    simp only [Str.len_append, Str.len_cons, Str.len_nil,
      Str.utf8Size_of_ascii hc, Str.utf8Size_of_ascii ha,
      Str.utf8Size_of_ascii hb]
    rfl

/-- Every index that the loop takes is at a character boundary. -/
theorem isCharBoundary_of_cursor (h : PcharCursor segment i) :
    Str.IsCharBoundary segment i := by
  induction h with
  | start => exact ⟨[], segment, rfl, rfl⟩
  | turn _ hi hj ih => exact isCharBoundary_turn ih hi hj

/-- No turn of the loop panics: the slice for an error starts at the index, and
everything else is in range. -/
theorem pcharTurn_ne_panic (h : PcharCursor segment i)
    (hi : i < Str.len segment) :
    pcharTurn segment i ≠ .panic := by
  have hboundary := isCharBoundary_of_cursor h
  obtain ⟨before, b, after, rfl, hbytes⟩ := exists_bytes_of_lt hi
  by_cases hb : b = Str.byte '%'
  · subst hb
    rcases after with _ | ⟨h₁, _ | ⟨h₂, rest⟩⟩
    · rw [pcharTurn_percent_short hbytes (by simp)]
      exact nofun
    · rw [pcharTurn_percent_short hbytes (by simp)]
      exact nofun
    · rw [pcharTurn_percent hbytes]
      apply Outcome.bind_ne_panic Outcome.failIf_ne_panic
      intro _ hhex
      simp only [Outcome.failIf_eq_ok_iff, Bool.not_eq_false',
        Bool.and_eq_true] at hhex
      apply Outcome.bind_ne_panic Outcome.failIf_ne_panic
      intro _ hupper
      simp only [Outcome.failIf_eq_ok_iff, Bool.or_eq_false_iff] at hupper
      obtain ⟨decoded, hdecoded⟩ :=
        exists_decodeEscape hhex.1 hhex.2 hupper.1 hupper.2
      rw [hdecoded, Outcome.ok_bind]
      exact Outcome.bind_ne_panic Outcome.failIf_ne_panic fun _ _ => nofun
  · rw [pcharTurn_of_ne hbytes hb]
    split
    · exact Outcome.bind_ne_panic (Str.sliceFrom_ne_panic_iff.2 hboundary)
        fun _ _ => nofun
    · exact nofun

end Loop

/-- Parsing and the accessors stay inside the text and on character boundaries.
Every index of the loop over a segment is at a boundary and no turn of it
panics, escapes decode within a byte, and the loop ends.  No text makes the
parser panic, and the ranges of the accessors cut the text of an identifier into
its parts. -/
theorem parse_in_bounds {ε : Type} :
    (∀ segment i, PcharCursor segment i → Str.IsCharBoundary segment i ∧
      (i < Str.len segment → pcharTurn segment i ≠ .panic)) ∧
    (∀ h₁ h₂, isAsciiHexdigit h₁ = true → isAsciiHexdigit h₂ = true →
      isAsciiLowercase h₁ = false → isAsciiLowercase h₂ = false →
      ∃ decoded, (decodeEscape h₁ h₂ : Outcome ParseError UInt8)
        = .ok decoded) ∧
    (∀ segment turns, Str.len segment ≤ turns →
      pcharLoop segment turns 0 = some (validatePcharSegment segment)) ∧
    (∀ input, parse input ≠ .panic) ∧
    ∀ id : WorkloadIdentifier, ∃ td path,
      id.uri = id.scheme.uriPrefix ++ td ++ path ∧
      Str.len td = id.trustDomainLen ∧
      Str.IsCharBoundary id.uri (Str.len id.scheme.uriPrefix) ∧
      Str.IsCharBoundary id.uri
        (Str.len id.scheme.uriPrefix + id.trustDomainLen) ∧
      (id.trustDomain : Outcome ε Str) = .ok td ∧
      (id.path : Outcome ε Str) = .ok path ∧
      (id.origin : Outcome ε Str) = .ok (id.scheme.uriPrefix ++ td) := by
  refine ⟨fun segment i h => ⟨isCharBoundary_of_cursor h, pcharTurn_ne_panic h⟩,
    ?_, ?_, parse_ne_panic, ?_⟩
  · intro h₁ h₂ hhex₁ hhex₂ hupper₁ hupper₂
    exact exists_decodeEscape hhex₁ hhex₂ hupper₁ hupper₂
  · intro segment turns hturns
    exact pcharLoop_eq (by omega)
  · intro id
    obtain ⟨td, segs, hgrammar, hid⟩ :=
      grammar_of_parse (parse_eq_ok_iff.2 id.parsed)
    have hlen : id.trustDomainLen = Str.len td := by rw [hid]
    refine ⟨td, pathOf segs, hgrammar.text, hlen.symm, ?_, ?_,
      trustDomain_of_grammar hgrammar hid, path_of_grammar hgrammar hid,
      origin_of_grammar hgrammar hid⟩
    · exact ⟨id.scheme.uriPrefix,
        td ++ pathOf segs, by rw [hgrammar.text, List.append_assoc], rfl⟩
    · refine ⟨id.scheme.uriPrefix ++ td, pathOf segs, hgrammar.text, ?_⟩
      rw [Str.len_append, hlen]

/-- A segment with an escape before a character of two bytes.  The index stops
at that character. -/
theorem parse_in_bounds_example :
    Str.IsCharBoundary "%2Fé" 3 ∧
      pcharTurn "%2Fé" 3 = .err (.invalidPathChar 'é') ∧
      pcharLoop "%2Fé" 5 0 = some (validatePcharSegment "%2Fé") := by
  obtain ⟨hcursor, _, hloop, _, _⟩ := parse_in_bounds (ε := ParseError)
  have hturn : pcharTurn "%2Fé" 0 = .ok 3 := by decide +kernel
  exact ⟨(hcursor _ 3 (.turn .start (by decide +kernel) hturn)).1,
    by decide +kernel, hloop _ 5 (by decide +kernel)⟩

end Wimsey.Identifier
