import Wimsey.RustStd.Outcome

/-!
# Rust text

A Rust `str` is modelled as the list of its characters.  Its length and its
indices are byte counts of the UTF-8 encoding, as in Rust: `len` counts bytes,
`find` and `charIndices` answer byte offsets, and `slice` takes byte offsets and
panics when one is past the end or inside a character.

The second half is the part of the `str` API that splits, trims and compares.
Whitespace is the Unicode `White_Space` property, which `str::trim` and
`str::split_whitespace` use.  Letter case is ASCII only.
-/

namespace Wimsey.RustStd

/-- The text of a Rust `str` or `String`. -/
abbrev Str := List Char

/-- The contents of a Rust `[u8]` or `Vec<u8>`. -/
abbrev Bytes := List UInt8

instance : Coe String Str := ⟨String.toList⟩

namespace Str

variable {ε : Type}

/-! ## Bytes -/

/-- `str::as_bytes`. -/
def asBytes (s : Str) : Bytes := s.flatMap String.utf8EncodeChar

/-- `str::len`, in bytes. -/
def len (s : Str) : Nat := (asBytes s).length

@[simp] theorem asBytes_nil : asBytes [] = [] := rfl

theorem asBytes_cons (c : Char) (s : Str) :
    asBytes (c :: s) = String.utf8EncodeChar c ++ asBytes s := rfl

@[simp] theorem asBytes_append (s t : Str) :
    asBytes (s ++ t) = asBytes s ++ asBytes t := by
  simp [asBytes]

@[simp] theorem len_nil : len [] = 0 := rfl

@[simp] theorem len_cons (c : Char) (s : Str) :
    len (c :: s) = c.utf8Size + len s := by
  simp [len, asBytes]

@[simp] theorem len_append (s t : Str) : len (s ++ t) = len s + len t := by
  simp [len]

/-- UTF-8 loses nothing. -/
theorem asBytes_injective : Function.Injective asBytes := by
  intro s t h
  have hbytes : s.utf8Encode = t.utf8Encode := by
    simpa [List.utf8Encode, asBytes] using congrArg List.toByteArray h
  have hstring : String.ofList s = String.ofList t := by
    apply String.toByteArray_inj.1
    rw [String.toByteArray_ofList, String.toByteArray_ofList, hbytes]
  exact String.ofList_injective hstring

/-- A byte literal, as in `b'%'`. -/
def byte (c : Char) : UInt8 := UInt8.ofNat c.toNat

/-- An ASCII character is one byte, of its own value. -/
theorem asBytes_cons_of_ascii {c : Char} (h : c.toNat < 0x80) (s : Str) :
    asBytes (c :: s) = byte c :: asBytes s := by
  have hc : c.val.toNat ≤ 0x7f := by
    have : c.val.toNat < 0x80 := h
    omega
  rw [asBytes_cons, String.utf8EncodeChar, if_pos hc]
  rfl

theorem utf8Size_of_ascii {c : Char} (h : c.toNat < 0x80) : c.utf8Size = 1 := by
  have hlen := congrArg List.length (asBytes_cons_of_ascii h [])
  simpa [asBytes] using hlen

/-- Any other character starts with a byte that is not ASCII. -/
theorem asBytes_cons_of_not_ascii {c : Char} (h : 0x80 ≤ c.toNat) (s : Str) :
    ∃ b bs, asBytes (c :: s) = b :: bs ∧ 0x80 ≤ b.toNat := by
  have hc : ¬ c.val.toNat ≤ 0x7f := by
    have : 0x80 ≤ c.val.toNat := h
    omega
  have hbyte : ∀ n, 0x80 ≤ n → n < 0x100 → 0x80 ≤ (UInt8.ofNat n).toNat := by
    intro n hle hlt
    rw [UInt8.toNat_ofNat_of_lt' hlt]
    exact hle
  rw [asBytes_cons, String.utf8EncodeChar, if_neg hc]
  split
  · exact ⟨_, _, rfl, hbyte _ (by omega) (by omega)⟩
  · split
    · exact ⟨_, _, rfl, hbyte _ (by omega) (by omega)⟩
    · exact ⟨_, _, rfl, hbyte _ (by omega) (by omega)⟩

/-- A text whose bytes start with an ASCII byte starts with that character. -/
theorem exists_cons_of_asBytes_cons {s : Str} {b : UInt8} {bs : Bytes}
    (h : asBytes s = b :: bs) (hb : b.toNat < 0x80) :
    ∃ c t, s = c :: t ∧ c.toNat < 0x80 ∧ byte c = b ∧ asBytes t = bs := by
  cases s with
  | nil => cases h
  | cons c t =>
    by_cases hc : c.toNat < 0x80
    · rw [asBytes_cons_of_ascii hc] at h
      obtain ⟨hbyte, hrest⟩ := List.cons.inj h
      exact ⟨c, t, rfl, hc, hbyte, hrest⟩
    · obtain ⟨b', bs', hbytes, hle⟩ :=
        asBytes_cons_of_not_ascii (Nat.le_of_not_lt hc) t
      rw [h] at hbytes
      obtain ⟨rfl, _⟩ := List.cons.inj hbytes
      omega

/-- A property of ASCII characters is checked on the 128 of them. -/
theorem forall_ascii {P : Char → Prop} (h : ∀ n : Fin 128, P (Char.ofNat n))
    {c : Char} (hc : c.toNat < 0x80) : P c := by
  have := h ⟨c.toNat, hc⟩
  rwa [Char.ofNat_toNat] at this

/-- A text of ASCII characters has as many bytes as characters. -/
theorem len_of_ascii {s : Str} (h : ∀ c ∈ s, c.toNat < 0x80) :
    len s = s.length := by
  induction s with
  | nil => rfl
  | cons c s ih =>
    rw [len_cons, utf8Size_of_ascii (h c (List.mem_cons_self ..)),
      ih fun d hd => h d (List.mem_cons_of_mem c hd), List.length_cons,
      Nat.add_comm]

/-! ## Byte offsets -/

/-- The text cut after `n` bytes, if that is inside the text and between two
characters. -/
def cutAt : Str → Nat → Option (Str × Str)
  | s, 0 => some ([], s)
  | [], _ + 1 => none
  | c :: s, n + 1 =>
      if c.utf8Size ≤ n + 1 then
        (cutAt s (n + 1 - c.utf8Size)).map fun p => (c :: p.1, p.2)
      else none

/-- A cut at the length of a prefix is that prefix and the rest. -/
@[simp] theorem cutAt_len_append (s t : Str) :
    cutAt (s ++ t) (len s) = some (s, t) := by
  induction s with
  | nil => simp [cutAt]
  | cons c s ih =>
    have hpos : 0 < c.utf8Size := c.utf8Size_pos
    obtain ⟨n, hn⟩ : ∃ n, c.utf8Size + len s = n + 1 :=
      ⟨c.utf8Size + len s - 1, by omega⟩
    have hrest : n + 1 - c.utf8Size = len s := by omega
    rw [len_cons, hn, List.cons_append, cutAt, if_pos (by omega), hrest, ih]
    rfl

/-- `&s[..i]`. -/
def sliceTo (s : Str) (i : Nat) : Outcome ε Str :=
  Outcome.expect ((cutAt s i).map Prod.fst)

/-- `&s[i..]`. -/
def sliceFrom (s : Str) (i : Nat) : Outcome ε Str :=
  Outcome.expect ((cutAt s i).map Prod.snd)

/-- `&s[i..j]`. -/
def slice (s : Str) (i j : Nat) : Outcome ε Str := do
  let head ← sliceTo s j
  sliceFrom head i

theorem sliceTo_len_append (s t : Str) :
    (sliceTo (s ++ t) (len s) : Outcome ε Str) = .ok s := by
  simp [sliceTo]

theorem sliceFrom_len_append (s t : Str) :
    (sliceFrom (s ++ t) (len s) : Outcome ε Str) = .ok t := by
  simp [sliceFrom]

theorem slice_len_append (s t u : Str) :
    (slice (s ++ t ++ u) (len s) (len s + len t) : Outcome ε Str) = .ok t := by
  rw [slice, ← len_append, sliceTo_len_append, Outcome.ok_bind,
    sliceFrom_len_append]

/-- `str::is_char_boundary`. -/
def IsCharBoundary (s : Str) (i : Nat) : Prop :=
  ∃ pre rest, s = pre ++ rest ∧ len pre = i

theorem eq_append_of_cutAt {s a b : Str} {n : Nat}
    (h : cutAt s n = some (a, b)) :
    s = a ++ b ∧ len a = n := by
  fun_induction cutAt s n generalizing a with
  | case1 s =>
    obtain ⟨rfl, rfl⟩ := Prod.mk.inj (Option.some.inj h)
    exact ⟨rfl, rfl⟩
  | case2 n => cases h
  | case3 c s n hle ih =>
    obtain ⟨⟨a', b'⟩, hcut, hab⟩ := Option.map_eq_some_iff.1 h
    obtain ⟨rfl, rfl⟩ : c :: a' = a ∧ b' = b := Prod.mk.inj hab
    obtain ⟨rfl, hlen⟩ := ih hcut
    refine ⟨rfl, ?_⟩
    rw [len_cons]
    omega
  | case4 c s n hlt => cases h

/-- A slice to the end panics unless it starts between two characters. -/
theorem sliceFrom_ne_panic_iff {s : Str} {i : Nat} :
    (sliceFrom s i : Outcome ε Str) ≠ .panic ↔ IsCharBoundary s i := by
  constructor
  · intro h
    cases hcut : cutAt s i with
    | none =>
      rw [sliceFrom, hcut] at h
      exact absurd rfl h
    | some p =>
      obtain ⟨hs, hlen⟩ := eq_append_of_cutAt hcut
      exact ⟨p.1, p.2, hs, hlen⟩
  · rintro ⟨pre, rest, rfl, rfl⟩
    rw [sliceFrom_len_append]
    exact nofun

/-- `str::char_indices`, from the byte offset `i` on. -/
def charIndicesFrom (i : Nat) : Str → List (Nat × Char)
  | [] => []
  | c :: s => (i, c) :: charIndicesFrom (i + c.utf8Size) s

/-- `str::char_indices`. -/
def charIndices (s : Str) : List (Nat × Char) := charIndicesFrom 0 s

/-! ## Searching and splitting -/

/-- `str::split_once`, at the first `c`. -/
def splitOnce (c : Char) : Str → Option (Str × Str)
  | [] => none
  | d :: s =>
    if d = c then some ([], s) else (splitOnce c s).map fun p => (d :: p.1, p.2)

/-- `str::find`: the byte offset of the first `c`. -/
def find (c : Char) : Str → Option Nat
  | [] => none
  | d :: s => if d = c then some 0 else (find c s).map (d.utf8Size + ·)

theorem splitOnce_append_cons {c : Char} {s t : Str} (h : c ∉ s) :
    splitOnce c (s ++ c :: t) = some (s, t) := by
  induction s with
  | nil => simp [splitOnce]
  | cons d s ih =>
    simp only [List.mem_cons, not_or] at h
    rw [List.cons_append, splitOnce, if_neg (Ne.symm h.1), ih h.2]
    rfl

theorem splitOnce_eq_none_iff {c : Char} {s : Str} :
    splitOnce c s = none ↔ c ∉ s := by
  induction s with
  | nil => simp [splitOnce]
  | cons d s ih =>
    by_cases h : d = c
    · simp [splitOnce, h]
    · simp [splitOnce, h, ih, Ne.symm h]

/-- What `splitOnce` answers is the text around the first `c`. -/
theorem splitOnce_eq_some_iff {c : Char} {s a b : Str} :
    splitOnce c s = some (a, b) ↔ s = a ++ c :: b ∧ c ∉ a := by
  constructor
  · intro h
    induction s generalizing a with
    | nil => simp [splitOnce] at h
    | cons d s ih =>
      by_cases hd : d = c
      · simp [splitOnce, hd] at h
        simp [h.1, h.2, hd]
      · rw [splitOnce, if_neg hd, Option.map_eq_some_iff] at h
        obtain ⟨⟨a', b'⟩, hrest, hab⟩ := h
        obtain ⟨rfl, rfl⟩ := Prod.mk.inj hab
        obtain ⟨rfl, hnot⟩ := ih hrest
        exact ⟨rfl, by simp [Ne.symm hd, hnot]⟩
  · rintro ⟨rfl, h⟩
    exact splitOnce_append_cons h

/-- `find` is the byte length of the text before the first `c`. -/
theorem find_eq_splitOnce (c : Char) (s : Str) :
    find c s = (splitOnce c s).map fun p => len p.1 := by
  induction s with
  | nil => rfl
  | cons d s ih =>
    by_cases h : d = c
    · simp [find, splitOnce, h]
    · simp [find, splitOnce, h, ih, Function.comp_def]

/-- `str::split`, at the first separator. -/
theorem splitOn_append_cons {c : Char} {s t : Str} (h : c ∉ s) :
    (s ++ c :: t).splitOn c = s :: t.splitOn c := by
  induction s with
  | nil => simp [List.splitOn_cons_eq_if_modifyHead]
  | cons d s ih =>
    simp only [List.mem_cons, not_or] at h
    rw [List.cons_append, List.splitOn_cons_eq_if_modifyHead, ih h.2]
    simp [Ne.symm h.1]

theorem splitOn_of_not_mem {c : Char} {s : Str} (h : c ∉ s) :
    s.splitOn c = [s] := by
  have hsplit : ([c].intercalate [s]).splitOn c = [s] :=
    List.splitOn_intercalate c (by simpa using h) (by simp)
  simpa using hsplit

/-! ## Trimming -/

/-- `char::is_whitespace`: the Unicode `White_Space` property. -/
def isWhitespace (c : Char) : Bool :=
  (0x09 ≤ c.val && c.val ≤ 0x0D) || c.val == 0x20 || c.val == 0x85 ||
    c.val == 0xA0 ||
    c.val == 0x1680 || (0x2000 ≤ c.val && c.val ≤ 0x200A) || c.val == 0x2028 ||
    c.val == 0x2029 || c.val == 0x202F || c.val == 0x205F || c.val == 0x3000

/-- `str::trim_matches`. -/
def trimMatches (p : Char → Bool) (s : Str) : Str :=
  (s.dropWhile p).rdropWhile p

/-- `str::trim`. -/
def trim (s : Str) : Str := trimMatches isWhitespace s

/-- `str::trim_end`. -/
def trimEnd (s : Str) : Str := s.rdropWhile isWhitespace

/-- `str::split_whitespace`. -/
def splitWhitespace (s : Str) : List Str :=
  (s.splitOnP isWhitespace).filter (!·.isEmpty)

/-- The text does not start with whitespace. -/
def HeadKept (s : Str) : Prop := ∀ c ∈ s.head?, isWhitespace c = false

/-- The text does not end with whitespace. -/
def LastKept (s : Str) : Prop := ∀ c ∈ s.getLast?, isWhitespace c = false

theorem LastKept.append {s t : Str} (hs : LastKept s) (ht : LastKept t) :
    LastKept (s ++ t) := by
  intro c hc
  rw [List.getLast?_append] at hc
  cases hlast : t.getLast? with
  | none => exact hs c (by simpa [hlast] using hc)
  | some d => exact ht c (by simpa [hlast] using hc)

theorem LastKept.cons {c : Char} {s : Str} (hc : isWhitespace c = false)
    (hs : LastKept s) :
    LastKept (c :: s) := by
  have hchar : LastKept [c] := by simpa [LastKept] using hc
  exact hchar.append hs

theorem lastKept_of_forall {s : Str} (h : ∀ c ∈ s, isWhitespace c = false) :
    LastKept s :=
  fun c hc => h c (List.mem_of_getLast? hc)

theorem trimEnd_of_lastKept {s : Str} (h : LastKept s) : trimEnd s = s := by
  apply List.rdropWhile_eq_self_iff.2
  intro hne
  rw [h _ (List.getLast_mem_getLast? hne)]
  simp

theorem trimEnd_append_cons {s t : Str} {c : Char}
    (hc : isWhitespace c = false) :
    trimEnd (s ++ c :: t) = s ++ c :: trimEnd t := by
  induction t using List.reverseRecOn with
  | nil =>
    have hlast : ¬ isWhitespace c = true := by simp [hc]
    rw [trimEnd, trimEnd, List.rdropWhile_concat_neg _ _ _ hlast]
    rfl
  | append_singleton t d ih =>
    have htext : s ++ c :: (t ++ [d]) = (s ++ c :: t) ++ [d] := by simp
    unfold trimEnd at ih ⊢
    rw [htext, List.rdropWhile_concat, List.rdropWhile_concat]
    split
    · exact ih
    · simp

/-- A character that is no whitespace parts what is trimmed before it from what
is trimmed after it. -/
theorem trim_append_cons {s t : Str} {c : Char} (hc : isWhitespace c = false) :
    trim (s ++ c :: t) = s.dropWhile isWhitespace ++ c :: trimEnd t := by
  have hdrop : (s ++ c :: t).dropWhile isWhitespace
      = s.dropWhile isWhitespace ++ c :: t := by
    rw [List.dropWhile_append]
    split
    · rename_i hempty
      rw [List.isEmpty_iff.1 hempty, List.dropWhile_cons_of_neg (by simp [hc])]
      rfl
    · rfl
  rw [trim, trimMatches, hdrop, ← trimEnd, trimEnd_append_cons hc]

theorem trim_dropWhile (s : Str) :
    trim (s.dropWhile isWhitespace) = trim s := by
  rw [trim, trim, trimMatches, trimMatches, List.dropWhile_idempotent]

theorem mem_of_mem_trim {s : Str} {c : Char} (h : c ∈ trim s) : c ∈ s :=
  (List.dropWhile_suffix _).mem ((List.rdropWhile_prefix _ _).mem h)

/-- Whitespace before a text that does not start with it is all that is trimmed
there. -/
theorem trim_padded {pad s : Str} (hpad : ∀ c ∈ pad, isWhitespace c = true)
    (hs : HeadKept s) :
    trim (pad ++ s) = trimEnd s := by
  have hdrop : s.dropWhile isWhitespace = s := by
    cases s with
    | nil => rfl
    | cons c s => simp [hs c (by simp)]
  rw [trim, trimMatches, trimEnd, List.dropWhile_append_of_pos hpad, hdrop]

theorem trim_eq_self {s : Str} (hhead : HeadKept s) (hlast : LastKept s) :
    trim s = s := by
  have hpadded : trim ([] ++ s) = trimEnd s := trim_padded (by simp) hhead
  rw [List.nil_append, trimEnd_of_lastKept hlast] at hpadded
  exact hpadded

theorem headKept_trim (s : Str) : HeadKept (trim s) := by
  intro c hc
  obtain ⟨rest, hrest⟩ :=
    List.rdropWhile_prefix isWhitespace (s.dropWhile isWhitespace)
  have hhead : (s.dropWhile isWhitespace).head? = some c := by
    rw [← hrest, List.head?_append, ← trimMatches, ← trim, hc]
    rfl
  have hnot := List.head?_dropWhile_not isWhitespace s
  rw [hhead] at hnot
  exact hnot

theorem lastKept_trim (s : Str) : LastKept (trim s) := by
  intro c hc
  have hne : trim s ≠ [] := by
    intro hnil
    rw [hnil] at hc
    cases hc
  rw [List.getLast?_eq_some_getLast hne, Option.mem_some] at hc
  rw [← hc]
  exact Bool.eq_false_of_not_eq_true
    (List.rdropWhile_last_not isWhitespace _ hne)

/-- Trimming twice is trimming once. -/
theorem trim_trim (s : Str) : trim (trim s) = trim s :=
  trim_eq_self (headKept_trim s) (lastKept_trim s)

/-- A text without whitespace is not trimmed. -/
theorem trim_of_forall {s : Str} (h : ∀ c ∈ s, isWhitespace c = false) :
    trim s = s :=
  trim_eq_self (fun c hc => h c (List.mem_of_head? hc)) (lastKept_of_forall h)

/-- Trimming the end first makes no difference. -/
theorem trim_trimEnd (s : Str) : trim (trimEnd s) = trim s := by
  have hsplit : s.takeWhile isWhitespace ++ s.dropWhile isWhitespace = s :=
    List.takeWhile_append_dropWhile
  have hpad : ∀ c ∈ s.takeWhile isWhitespace, isWhitespace c = true :=
    fun c hc => List.mem_takeWhile_imp hc
  cases hrest : s.dropWhile isWhitespace with
  | nil =>
    have hall : ∀ c ∈ s, isWhitespace c = true :=
      List.dropWhile_eq_nil_iff.1 hrest
    have hend : trimEnd s = [] := List.rdropWhile_eq_nil_iff.2 hall
    rw [hend, trim, trim, trimMatches, trimMatches, hrest]
    rfl
  | cons c t =>
    have hhead := List.head?_dropWhile_not isWhitespace s
    rw [hrest] at hhead
    have hc : isWhitespace c = false := hhead
    have hkept : ∀ u, HeadKept (c :: u) := fun u d hd => by
      obtain rfl := Option.some.inj hd
      exact hc
    rw [hrest] at hsplit
    rw [← hsplit, trimEnd_append_cons hc, trim_padded hpad (hkept _),
      trim_padded hpad (hkept _)]
    have hend : ∀ u, trimEnd (c :: u) = c :: trimEnd u :=
      fun u => trimEnd_append_cons (s := []) hc
    rw [hend, hend, trimEnd, trimEnd, List.rdropWhile_idempotent]

/-- Words joined by blanks are split at the blanks. -/
theorem splitWhitespace_intercalate {words : List Str}
    (h : ∀ word ∈ words, word ≠ [] ∧ ∀ c ∈ word, isWhitespace c = false) :
    splitWhitespace ([' '].intercalate words) = words := by
  have hfilter : words.filter (!·.isEmpty) = words :=
    List.filter_eq_self.2 fun word hword => by simpa using (h word hword).1
  cases hwords : words with
  | nil => rfl
  | cons word rest =>
    have hsplit : ∀ word rest,
        (∀ w ∈ word :: rest, ∀ c ∈ w, isWhitespace c = false) →
        ([' '].intercalate (word :: rest)).splitOnP isWhitespace
          = word :: rest := by
      intro word rest
      induction rest generalizing word with
      | nil =>
        intro hplain
        simpa using List.splitOnP_eq_singleton (hplain word (by simp))
      | cons word' rest ih =>
        intro hplain
        rw [List.intercalate_cons_cons, List.append_assoc,
          List.singleton_append,
          List.splitOnP_append_cons_of_forall_mem (hplain word (by simp)) ' '
            (by decide),
          ih word' fun w hw => hplain w (List.mem_cons_of_mem word hw)]
    rw [splitWhitespace, hsplit word rest, ← hwords, hfilter]
    intro w hw
    rw [← hwords] at hw
    exact (h w hw).2

/-- No piece of a text that is split holds a character that it is split at. -/
theorem not_of_mem_splitOnP {p : Char → Bool} {s piece : Str}
    (h : piece ∈ s.splitOnP p) :
    ∀ c ∈ piece, p c = false := by
  induction s generalizing piece with
  | nil =>
    intro c hc
    rw [List.splitOnP_nil, List.mem_singleton] at h
    rw [h] at hc
    cases hc
  | cons d s ih =>
    intro c hc
    rw [List.splitOnP_cons_eq_if_modifyHead] at h
    split at h
    · rcases List.mem_cons.1 h with rfl | h
      · cases hc
      · exact ih h c hc
    · rename_i hd
      cases hsplit : s.splitOnP p with
      | nil => exact absurd hsplit (List.splitOnP_ne_nil _ _)
      | cons first rest =>
        rw [hsplit] at h ih
        rcases List.mem_cons.1 h with rfl | h
        · rcases List.mem_cons.1 hc with rfl | hc
          · simpa using hd
          · exact ih (List.mem_cons_self ..) c hc
        · exact ih (List.mem_cons_of_mem first h) c hc

/-- The pieces between the occurrences of a character do not hold it. -/
theorem not_mem_of_mem_splitOn {sep : Char} {s piece : Str}
    (h : piece ∈ s.splitOn sep) :
    sep ∉ piece := by
  intro hmem
  have hnot := not_of_mem_splitOnP h sep hmem
  simp at hnot

/-- The words of a text hold no whitespace. -/
theorem isWhitespace_of_mem_splitWhitespace {s word : Str}
    (h : word ∈ splitWhitespace s) :
    ∀ c ∈ word, isWhitespace c = false :=
  not_of_mem_splitOnP (List.mem_filter.1 h).1

/-! ## Prefixes and letter case -/

/-- `str::strip_prefix`. -/
def stripPrefix (p s : Str) : Option Str :=
  if p <+: s then some (s.drop p.length) else none

/-- `str::strip_suffix`. -/
def stripSuffix (p s : Str) : Option Str :=
  if p <:+ s then some (s.take (s.length - p.length)) else none

@[simp] theorem stripPrefix_append (p s : Str) :
    stripPrefix p (p ++ s) = some s := by
  simp [stripPrefix]

@[simp] theorem stripSuffix_append (s p : Str) :
    stripSuffix p (s ++ p) = some s := by
  simp [stripSuffix]

theorem stripPrefix_eq_some_iff {p s t : Str} :
    stripPrefix p s = some t ↔ s = p ++ t := by
  constructor
  · intro h
    rw [stripPrefix] at h
    split at h
    · rename_i hp
      obtain ⟨u, rfl⟩ := hp
      simpa using h
    · simp at h
  · rintro rfl
    exact stripPrefix_append p t

theorem stripSuffix_eq_some_iff {p s t : Str} :
    stripSuffix p s = some t ↔ s = t ++ p := by
  constructor
  · intro h
    rw [stripSuffix] at h
    split at h
    · rename_i hp
      obtain ⟨u, rfl⟩ := hp
      simpa using h
    · simp at h
  · rintro rfl
    exact stripSuffix_append t p

/-- `str::to_ascii_lowercase`. -/
def toAsciiLowercase (s : Str) : Str := s.map Char.toLower

theorem isWhitespace_toLower (c : Char) :
    isWhitespace c.toLower = isWhitespace c := by
  by_cases hascii : c.toNat < 0x80
  · exact forall_ascii (P := fun c => isWhitespace c.toLower = isWhitespace c)
      (by decide) hascii
  · have hupper : ¬ (c.val ≥ 'A'.val ∧ c.val ≤ 'Z'.val) := by
      intro h
      have hle : c.toNat ≤ 90 := h.2
      omega
    rw [Char.toLower, dif_neg hupper]

/-- `str::eq_ignore_ascii_case`. -/
def eqIgnoreAsciiCase (s t : Str) : Bool :=
  toAsciiLowercase s == toAsciiLowercase t

end Str

end Wimsey.RustStd
