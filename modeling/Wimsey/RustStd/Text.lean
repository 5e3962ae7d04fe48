import Wimsey.RustStd.Str

/-!
# Text in files

A file is bytes, which may be text.  `fromUtf8` reads them, `findStr` finds a
text in a text, and `chunks` breaks a slice into pieces of one length.

* `fromUtf8_eq_some_iff` says which bytes are text, and
  `fromUtf8_of_continuation` that an ASCII byte is not followed by a
  continuation byte there.
* `findStr_append` finds the first occurrence of a text.
* `flatten_splitWhitespace` says what is left of a text whose words are put
  together.
-/

namespace Wimsey.RustStd

/-! ## Pieces of one length -/

section Chunks

variable {α β : Type}

/-- `slice::chunks`, for a length that is not zero. -/
def chunks (n : Nat) : List α → List (List α)
  | [] => []
  | a :: l => (a :: l.take (n - 1)) :: chunks n (l.drop (n - 1))
termination_by l => l.length
decreasing_by
  simp only [List.length_drop, List.length_cons]
  omega

/-- The pieces are the slice. -/
theorem flatten_chunks (n : Nat) (l : List α) : (chunks n l).flatten = l := by
  fun_induction chunks n l with
  | case1 => rfl
  | case2 a l ih =>
    rw [List.flatten_cons, ih, List.cons_append, List.take_append_drop]

theorem chunks_map (f : α → β) (n : Nat) (l : List α) :
    chunks n (l.map f) = (chunks n l).map (List.map f) := by
  fun_induction chunks n l with
  | case1 => simp [chunks]
  | case2 a l ih =>
    rw [List.map_cons, chunks, ← List.map_take, ← List.map_drop, ih]; rfl

theorem mem_of_mem_chunks {n : Nat} {l piece : List α}
    (h : piece ∈ chunks n l) {a : α} (ha : a ∈ piece) : a ∈ l := by
  rw [← flatten_chunks n l]
  exact List.mem_flatten_of_mem h ha

end Chunks

namespace Str

/-! ## UTF-8 -/

/-- `str::from_utf8`. -/
def fromUtf8 (b : Bytes) : Option Str :=
  b.toByteArray.utf8Decode?.map Array.toList

theorem toByteArray_asBytes (s : Str) :
    (asBytes s).toByteArray = s.utf8Encode := rfl

theorem fromUtf8_asBytes (s : Str) : fromUtf8 (asBytes s) = some s := by
  rw [fromUtf8, toByteArray_asBytes, List.utf8Decode?_utf8Encode]
  rfl

/-- The bytes that are text are those of the text. -/
theorem fromUtf8_eq_some_iff {b : Bytes} {s : Str} :
    fromUtf8 b = some s ↔ b = asBytes s := by
  constructor
  · intro h
    obtain ⟨chars, hchars, rfl⟩ := Option.map_eq_some_iff.1 h
    have hsome : b.toByteArray.utf8Decode?.isSome = true := by rw [hchars]; rfl
    have hencode : chars.toList.utf8Encode = b.toByteArray := by
      have hget := ByteArray.utf8Encode_get_utf8Decode? (h := hsome)
      simpa only [hchars, Option.get_some] using hget
    have hdata := congrArg (fun a : ByteArray => a.data.toList) hencode
    rw [← toByteArray_asBytes] at hdata
    simpa using hdata.symm
  · rintro rfl
    exact fromUtf8_asBytes s

/-- The bytes of an ASCII text are its characters. -/
theorem asBytes_of_ascii {s : Str} (h : ∀ c ∈ s, c.toNat < 0x80) :
    asBytes s = s.map byte := by
  induction s with
  | nil => rfl
  | cons c s ih =>
    rw [asBytes_cons_of_ascii (h c (List.mem_cons_self ..)),
      ih fun d hd => h d (List.mem_cons_of_mem c hd)]
    rfl

/-- A character that is not ASCII starts with a byte that leads others. -/
theorem asBytes_cons_of_leading {c : Char} (h : 0x80 ≤ c.toNat) (s : Str) :
    ∃ b bs, asBytes (c :: s) = b :: bs ∧ 0xC0 ≤ b.toNat := by
  have hc : ¬ c.val.toNat ≤ 0x7f := by
    have : 0x80 ≤ c.val.toNat := h
    omega
  have hbyte : ∀ n, 0xC0 ≤ n → n < 0x100 → 0xC0 ≤ (UInt8.ofNat n).toNat := by
    intro n hle hlt
    rw [UInt8.toNat_ofNat_of_lt' hlt]
    exact hle
  rw [asBytes_cons, String.utf8EncodeChar, if_neg hc]
  split
  · exact ⟨_, _, rfl, hbyte _ (by omega) (by omega)⟩
  · split
    · exact ⟨_, _, rfl, hbyte _ (by omega) (by omega)⟩
    · exact ⟨_, _, rfl, hbyte _ (by omega) (by omega)⟩

/-- An ASCII byte is not followed by a continuation byte in a text. -/
theorem fromUtf8_of_continuation {a b : UInt8} {rest : Bytes}
    (ha : a.toNat < 0x80) (hle : 0x80 ≤ b.toNat) (hlt : b.toNat < 0xC0) :
    fromUtf8 (a :: b :: rest) = none := by
  cases hread : fromUtf8 (a :: b :: rest) with
  | none => rfl
  | some s =>
    obtain ⟨_, t, _, _, _, ht⟩ :=
      exists_cons_of_asBytes_cons (fromUtf8_eq_some_iff.1 hread).symm ha
    cases t with
    | nil => cases ht
    | cons d u =>
      by_cases hd : d.toNat < 0x80
      · rw [asBytes_cons_of_ascii hd] at ht
        have hbyte : (byte d).toNat < 0x80 := by
          rw [byte, UInt8.toNat_ofNat_of_lt' (Nat.lt_trans hd (by decide))]
          exact hd
        rw [(List.cons.inj ht).1] at hbyte
        omega
      · obtain ⟨b', bs, hbytes, hlead⟩ :=
          asBytes_cons_of_leading (Nat.le_of_not_lt hd) u
        rw [ht] at hbytes
        rw [← (List.cons.inj hbytes).1] at hlead
        omega

/-! ## Finding a text -/

/-- `str::find`, of a text: the byte offset of its first occurrence. -/
def findStr (pat : Str) : Str → Option Nat
  | [] => if pat = [] then some 0 else none
  | c :: s =>
    if pat <+: c :: s then some 0 else (findStr pat s).map (c.utf8Size + ·)

theorem findStr_of_prefix {pat s : Str} (h : pat <+: s) :
    findStr pat s = some 0 := by
  cases s with
  | nil => exact if_pos (List.prefix_nil.1 h)
  | cons c s => exact if_pos h

/-- What is found is there. -/
theorem append_of_findStr {pat s : Str} {i : Nat} (h : findStr pat s = some i) :
    ∃ before after, s = before ++ (pat ++ after) ∧ len before = i := by
  induction s generalizing i with
  | nil =>
    rw [findStr] at h
    split at h
    · rename_i hpat
      exact ⟨[], [], by rw [hpat]; rfl, Option.some.inj h⟩
    · cases h
  | cons c s ih =>
    rw [findStr] at h
    split at h
    · rename_i hcons
      obtain ⟨after, hafter⟩ := hcons
      exact ⟨[], after, hafter.symm, Option.some.inj h⟩
    · obtain ⟨j, hj, rfl⟩ := Option.map_eq_some_iff.1 h
      obtain ⟨before, after, rfl, rfl⟩ := ih hj
      exact ⟨c :: before, after, rfl, len_cons c before⟩

/-- A text that occurs nowhere before is found. -/
theorem findStr_append {pat before after : Str}
    (h : ∀ pre, pre <+: before → pre ≠ before →
      ¬ pat <+: before.drop pre.length ++ pat ++ after) :
    findStr pat (before ++ pat ++ after) = some (len before) := by
  induction before with
  | nil => exact findStr_of_prefix (List.prefix_append pat after)
  | cons c before ih =>
    have hfirst : ¬ pat <+: c :: (before ++ pat ++ after) := by
      have hnot := h [] List.nil_prefix (List.cons_ne_nil c before).symm
      simpa using hnot
    have hrest : findStr pat (before ++ pat ++ after) = some (len before) := by
      refine ih fun pre hpre hne => ?_
      have hnot := h (c :: pre) (List.cons_prefix_cons.2 ⟨rfl, hpre⟩) fun heq =>
        hne (List.cons.inj heq).2
      simpa using hnot
    rw [List.cons_append, List.cons_append, findStr, if_neg hfirst,
      hrest, len_cons]
    rfl

/-- A text is found behind any text without its first character. -/
theorem findStr_append_of_not_mem {c : Char} {pat before after : Str}
    (h : c ∉ before) :
    findStr (c :: pat) (before ++ c :: pat ++ after) = some (len before) := by
  apply findStr_append
  intro pre hpre hne hcons
  obtain ⟨rest, rfl⟩ := hpre
  cases rest with
  | nil => simp at hne
  | cons d rest =>
    rw [List.drop_left, List.cons_append, List.cons_append,
      List.cons_prefix_cons] at hcons
    exact h (by simp [hcons.1])

/-- A text is found behind any lines that do not hold it, where it has no line
feed. -/
theorem findStr_append_lines {pat before after : Str} (hnot : ¬ pat <:+: before)
    (hlast : ∀ c ∈ before.getLast?, c ∉ pat) :
    findStr pat (before ++ pat ++ after) = some (len before) := by
  apply findStr_append
  intro pre hpre hne hcons
  obtain ⟨rest, rfl⟩ := hpre
  rw [List.drop_left, List.append_assoc] at hcons
  rcases List.prefix_or_prefix_of_prefix hcons (List.prefix_append rest _)
    with h | h
  · exact hnot (h.isInfix.trans (List.suffix_append pre rest).isInfix)
  · -- The occurrence would reach over the last character before the text.
    have hrest : rest ≠ [] := by
      rintro rfl
      simp at hne
    have hmem : rest.getLast hrest ∈ (pre ++ rest).getLast? := by
      rw [List.getLast?_append, List.getLast?_eq_some_getLast hrest]
      rfl
    exact hlast _ hmem (h.mem (List.getLast_mem hrest))

/-! ## Words put together -/

/-- The words of a text are the text without its whitespace. -/
theorem flatten_splitWhitespace (s : Str) :
    (splitWhitespace s).flatten = s.filter (!isWhitespace ·) := by
  have hfilter : ∀ l : List Str,
      (l.filter (!·.isEmpty)).flatten = l.flatten := by
    intro l
    induction l with
    | nil => rfl
    | cons word l ih => cases word <;> simp [ih]
  rw [splitWhitespace, hfilter]
  induction s with
  | nil => rfl
  | cons c s ih =>
    rw [List.splitOnP_cons_eq_if_modifyHead]
    by_cases hc : isWhitespace c = true
    · rw [if_pos hc, List.flatten_cons, ih,
        List.filter_cons_of_neg (by simp [hc])]
      rfl
    · rw [if_neg hc, List.filter_cons_of_pos (by simp [hc]), ← ih]
      cases hsplit : s.splitOnP isWhitespace with
      | nil => exact absurd hsplit (List.splitOnP_ne_nil _ _)
      | cons first rest => rfl

end Str

end Wimsey.RustStd
