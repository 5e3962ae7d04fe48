import Wimsey.Identifier.Model
import Wimsey.Uri.Rfc3986

/-!
# The grammar of workload identifiers

`Grammar` states what a workload identifier is, without a parser: a scheme
prefix, a trust domain of the characters the scheme allows, and a sequence of
segments.  This module proves that `parse` accepts exactly that, and that its
accessors cut the text back into those parts.

The parser reads a `wimse` segment byte by byte, and the grammar is over
characters.  `validatePcharFrom_ok` and `validatePcharFrom_spec` connect the
two.  The first is by induction on the derivation of the segment.  The second is
by recursion on the length of what is left to read, since an escape is three
bytes long; its invariant is that the cursor stands after the text `pre`.
-/

namespace Wimsey.Identifier

open Wimsey.RustStd
open Wimsey.Uri (Encoded isPchar isUnreserved isUpperHex hexVal escaped)

/-! ## The grammar -/

/-- `[a-z0-9._-]` -/
def tdClass (c : Char) : Bool :=
  c.isLower || c.isDigit || "._-".toList.contains c

/-- `[A-Za-z0-9._-]` -/
def segmentClass (c : Char) : Bool := c.isAlphanum || "._-".toList.contains c

/-- A path segment, up to the rule about dot segments.  A `wimse` segment is
made of `pchar` characters and of normal percent-escapes. -/
def Scheme.Segment : Scheme → Str → Prop
  | .spiffe, seg => seg ≠ [] ∧ ∀ c ∈ seg, segmentClass c = true
  | .wimse, seg => seg ≠ [] ∧ Encoded isPchar seg

/-- `path = *("/" segment)` -/
def pathOf (segs : List Str) : Str := segs.flatMap ('/' :: ·)

/-- The text `s` is the identifier with this scheme, trust domain and list of
segments. -/
structure Grammar (s : Str) (scheme : Scheme) (td : Str) (segs : List Str) :
    Prop where
  text : s = scheme.uriPrefix ++ td ++ pathOf segs
  short : Str.len s ≤ 2048
  td_ne_nil : td ≠ []
  td_chars : ∀ c ∈ td, tdClass c = true
  td_short : scheme = .spiffe → td.length ≤ 255
  segments : ∀ seg ∈ segs, scheme.Segment seg ∧ seg ≠ "." ∧ seg ≠ ".."

/-! ## Character classes -/

theorem isTrustDomainChar_eq (c : Char) : isTrustDomainChar c = tdClass c := by
  rw [Bool.eq_iff_iff]
  simp [isTrustDomainChar, tdClass, Char.isLower, Char.isDigit, Char.le_def]
  tauto

theorem isSpiffeChar_eq (c : Char) : isSpiffeChar c = segmentClass c := by
  rw [Bool.eq_iff_iff]
  simp [isSpiffeChar, segmentClass, Char.isAlphanum, Char.isAlpha, Char.isUpper,
    Char.isLower, Char.isDigit, Char.le_def]
  tauto

/-- The ranges and lists of the grammar hold ASCII characters only. -/
theorem ascii_of_isAlphanum {c : Char} (h : c.isAlphanum = true) :
    c.toNat < 0x80 := by
  simp only [Char.isAlphanum, Char.isAlpha, Char.isUpper, Char.isLower,
    Char.isDigit, Bool.or_eq_true, Bool.and_eq_true, decide_eq_true_eq,
    ge_iff_le, UInt32.le_iff_toNat_le] at h
  have hc : c.toNat = c.val.toNat := rfl
  have hZ : 'Z'.val.toNat = 90 := rfl
  have hz : 'z'.val.toNat = 122 := rfl
  have h9 : '9'.val.toNat = 57 := rfl
  omega

theorem ascii_of_contains {cs : List Char}
    (hcs : cs.all (·.toNat < 0x80) = true) {c : Char}
    (h : cs.contains c = true) : c.toNat < 0x80 := by
  have hc := List.all_eq_true.1 hcs c (List.contains_iff_mem.1 h)
  simpa using hc

theorem ascii_of_isPchar {c : Char} (h : isPchar c = true) :
    c.toNat < 0x80 := by
  simp only [isPchar, isUnreserved, Uri.isSubDelim, Bool.or_eq_true] at h
  rcases h with ((h | h) | h) | h
  · exact ascii_of_isAlphanum h
  · exact ascii_of_contains rfl h
  · exact ascii_of_contains rfl h
  · exact ascii_of_contains rfl h

theorem ascii_of_isUpperHex {c : Char} (h : isUpperHex c = true) :
    c.toNat < 0x80 := by
  simp only [isUpperHex, Char.isDigit, Bool.or_eq_true, Bool.and_eq_true,
    decide_eq_true_eq, ge_iff_le, Char.le_def, UInt32.le_iff_toNat_le] at h
  have hc : c.toNat = c.val.toNat := rfl
  have hF : 'F'.val.toNat = 70 := rfl
  have h9 : '9'.val.toNat = 57 := rfl
  omega

theorem ascii_of_tdClass {c : Char} (h : tdClass c = true) :
    c.toNat < 0x80 := by
  simp only [tdClass, Bool.or_eq_true] at h
  rcases h with (h | h) | h
  · exact ascii_of_isAlphanum (by simp [Char.isAlphanum, Char.isAlpha, h])
  · exact ascii_of_isAlphanum (by simp [Char.isAlphanum, h])
  · exact ascii_of_contains rfl h

/-! ## Bytes of the parser and characters of the grammar -/

/-- What the byte tests of the parser and the classes of the grammar say of an
ASCII character. -/
private theorem ascii_tests {c : Char} (hc : c.toNat < 0x80) :
    isPcharByte (Str.byte c) = isPchar c ∧
      (Str.byte c = Str.byte '%' ↔ c = '%') ∧
      (isAsciiHexdigit (Str.byte c) && !isAsciiLowercase (Str.byte c))
        = isUpperHex c ∧
      (isUpperHex c = true → hexVal c < 16 ∧
        (decodeHex (Str.byte c) : Outcome ParseError UInt8)
          = .ok (UInt8.ofNat (hexVal c))) ∧
      (tdClass c = true → c ∉ "/?#@:%".toList ∧ c.toLower = c) :=
  Str.forall_ascii (P := fun c =>
    isPcharByte (Str.byte c) = isPchar c ∧
      (Str.byte c = Str.byte '%' ↔ c = '%') ∧
      (isAsciiHexdigit (Str.byte c) && !isAsciiLowercase (Str.byte c))
      = isUpperHex c ∧
      (isUpperHex c = true → hexVal c < 16 ∧
        (decodeHex (Str.byte c) : Outcome ParseError UInt8)
        = .ok (UInt8.ofNat (hexVal c))) ∧
      (tdClass c = true → c ∉ "/?#@:%".toList ∧ c.toLower = c))
    (by decide +kernel) hc

theorem isPcharByte_byte {c : Char} (hc : c.toNat < 0x80) :
    isPcharByte (Str.byte c) = isPchar c :=
  (ascii_tests hc).1

theorem byte_eq_percent_iff {c : Char} (hc : c.toNat < 0x80) :
    Str.byte c = Str.byte '%' ↔ c = '%' :=
  (ascii_tests hc).2.1

/-- The two tests of a hex digit in the parser leave the uppercase ones. -/
theorem isUpperHex_byte {c : Char} (hc : c.toNat < 0x80) :
    (isAsciiHexdigit (Str.byte c) && !isAsciiLowercase (Str.byte c))
      = isUpperHex c :=
  (ascii_tests hc).2.2.1

theorem hexVal_lt {c : Char} (h : isUpperHex c = true) : hexVal c < 16 :=
  ((ascii_tests (ascii_of_isUpperHex h)).2.2.2.1 h).1

theorem decodeHex_byte {c : Char} (h : isUpperHex c = true) :
    (decodeHex (Str.byte c) : Outcome ParseError UInt8)
      = .ok (UInt8.ofNat (hexVal c)) :=
  ((ascii_tests (ascii_of_isUpperHex h)).2.2.2.1 h).2

/-- A trust domain has no delimiters, no escapes and no capitals. -/
theorem tdClass_ne {c : Char} (h : tdClass c = true) :
    c ∉ "/?#@:%".toList ∧ c.toLower = c :=
  (ascii_tests (ascii_of_tdClass h)).2.2.2.2 h

/-- What the byte tests of the parser say of any byte. -/
private theorem byte_tests {n : Nat} (hn : n < 256) :
    isUnreservedByte (UInt8.ofNat n) = isUnreserved (Char.ofNat n) ∧
      (0x80 ≤ n → UInt8.ofNat n ≠ Str.byte '%' ∧
        isPcharByte (UInt8.ofNat n) = false ∧
        isAsciiHexdigit (UInt8.ofNat n) = false) := by
  have hall : ∀ n : Fin 256,
      isUnreservedByte (UInt8.ofNat n) = isUnreserved (Char.ofNat n) ∧
        (0x80 ≤ n.val → UInt8.ofNat n ≠ Str.byte '%' ∧
          isPcharByte (UInt8.ofNat n) = false ∧
          isAsciiHexdigit (UInt8.ofNat n) = false) := by
    decide +kernel
  exact hall ⟨n, hn⟩

/-- Two hex digits decode without overflow. -/
theorem scaled_add {x y : Nat} (hx : x < 16) (hy : y < 16) :
    (do let scaled ← mulU8 (UInt8.ofNat x) 16; addU8 scaled (UInt8.ofNat y)
      : Outcome ParseError UInt8) = .ok (UInt8.ofNat (16 * x + y)) := by
  have hsize : UInt8.size = 256 := rfl
  have hx' : (UInt8.ofNat x).toNat = x := UInt8.toNat_ofNat_of_lt' (by omega)
  have hy' : (UInt8.ofNat y).toNat = y := UInt8.toNat_ofNat_of_lt' (by omega)
  have hmul : (UInt8.ofNat x * 16).toNat = 16 * x := by
    rw [UInt8.toNat_mul, hx', show (16 : UInt8).toNat = 16 from rfl]
    omega
  rw [mulU8, if_pos (by rw [hx', show (16 : UInt8).toNat = 16 from rfl]; omega),
    Outcome.ok_bind, addU8, if_pos (by rw [hmul, hy']; omega)]
  congr 1
  rw [← UInt8.toNat_inj, UInt8.toNat_add, hmul, hy',
    UInt8.toNat_ofNat_of_lt' (by omega)]
  omega

/-- The unreserved bytes are the unreserved characters of the same values. -/
theorem isUnreservedByte_ofNat {n : Nat} (hn : n < 256) :
    isUnreservedByte (UInt8.ofNat n) = isUnreserved (Char.ofNat n) :=
  (byte_tests hn).1

/-- A byte outside ASCII is neither a percent sign nor an allowed character. -/
theorem isPcharByte_of_not_ascii {b : UInt8} (hb : 0x80 ≤ b.toNat) :
    b ≠ Str.byte '%' ∧ isPcharByte b = false := by
  have h := (byte_tests b.toNat_lt).2 hb
  rw [UInt8.ofNat_toNat] at h
  exact ⟨h.1, h.2.1⟩

theorem ascii_of_isAsciiHexdigit {b : UInt8} (hb : isAsciiHexdigit b = true) :
    b.toNat < 0x80 := by
  by_contra hge
  have h := (byte_tests b.toNat_lt).2 (Nat.le_of_not_lt hge)
  rw [UInt8.ofNat_toNat, hb] at h
  cases h.2.2

/-! ## Segments -/

/-- One step of the loop at a character that may stand for itself. -/
theorem validatePcharFrom_char {segment : Str} {c : Char}
    (hc : isPchar c = true) (rest : Bytes) (i : Nat) :
    validatePcharFrom segment (Str.byte c :: rest) i
      = validatePcharFrom segment rest (i + 1) := by
  have hascii := ascii_of_isPchar hc
  have hpercent : ¬ Str.byte c = Str.byte '%' := by
    rw [byte_eq_percent_iff hascii]
    rintro rfl
    exact absurd hc (by decide)
  have hpchar : isPcharByte (Str.byte c) = true := by
    rw [isPcharByte_byte hascii, hc]
  rw [validatePcharFrom.eq_def]
  simp only [if_neg hpercent, hpchar, Bool.not_true,
    Bool.false_eq_true, if_false]

/-- One step of the loop at an escape with uppercase digits. -/
theorem validatePcharFrom_escape {segment : Str} {a b : Char}
    (ha : isUpperHex a = true) (hb : isUpperHex b = true) (rest : Bytes)
    (i : Nat) :
    validatePcharFrom segment
      (Str.byte '%' :: Str.byte a :: Str.byte b :: rest) i
      = (do
          Outcome.failIf (isUnreserved (escaped a b))
            (.nonNormalizedPercentEncoding
              [Char.ofNat (Str.byte a).toNat, Char.ofNat (Str.byte b).toNat])
          validatePcharFrom segment rest (i + 3)) := by
  have hlower := isUpperHex_byte (ascii_of_isUpperHex ha)
  have hlower' := isUpperHex_byte (ascii_of_isUpperHex hb)
  rw [ha, Bool.and_eq_true, Bool.not_eq_true'] at hlower
  rw [hb, Bool.and_eq_true, Bool.not_eq_true'] at hlower'
  have hlt := hexVal_lt ha
  have hlt' := hexVal_lt hb
  have hscaled := scaled_add hlt hlt'
  rw [Outcome.bind_eq_ok_iff] at hscaled
  obtain ⟨scaled, hmul, hadd⟩ := hscaled
  have hdecoded :=
    isUnreservedByte_ofNat (n := 16 * hexVal a + hexVal b) (by omega)
  rw [validatePcharFrom, if_pos rfl]
  simp only [hlower, hlower', decodeHex_byte ha, decodeHex_byte hb, hmul, hadd,
    hdecoded, escaped, Bool.and_self, Bool.or_self, Bool.not_true,
    Outcome.failIf_false, Outcome.ok_bind]

/-- The loop accepts a text of allowed characters and normal escapes. -/
theorem validatePcharFrom_ok {segment rest : Str} (h : Encoded isPchar rest)
    (i : Nat) :
    validatePcharFrom segment (Str.asBytes rest) i = .ok () := by
  induction h generalizing i with
  | nil => rfl
  | char hc _ ih => rw [Str.asBytes_cons_of_ascii (ascii_of_isPchar hc),
      validatePcharFrom_char hc, ih]
  | escape ha hb hreserved _ ih =>
    rw [Str.asBytes_cons_of_ascii (by decide),
      Str.asBytes_cons_of_ascii (ascii_of_isUpperHex ha),
      Str.asBytes_cons_of_ascii (ascii_of_isUpperHex hb),
      validatePcharFrom_escape ha hb, hreserved, Outcome.failIf_false,
      Outcome.ok_bind, ih]

/-- One step of the loop at a byte that is no part of a segment.  The cursor is
after the text `pre`, so the slice for the error is at a character boundary. -/
theorem validatePcharFrom_invalid {b : UInt8} (hpercent : b ≠ Str.byte '%')
    (hpchar : isPcharByte b = false) (pre rest : Str) (bytes : Bytes) :
    validatePcharFrom (pre ++ rest) (b :: bytes) (Str.len pre)
      = .err (.invalidPathChar (rest.head?.getD '\uFFFD')) := by
  rw [validatePcharFrom.eq_def]
  simp only [if_neg hpercent, hpchar, Bool.not_false, if_true,
    Str.sliceFrom_len_append, Outcome.ok_bind]

/-- The step of the loop at a percent sign, in terms of the characters after
it. -/
theorem validatePcharFrom_percent (segment t : Str) (i : Nat) :
    (∃ e, validatePcharFrom segment (Str.asBytes ('%' :: t)) i = .err e) ∨
      ∃ a b rest, t = a :: b :: rest ∧ isUpperHex a = true ∧
        isUpperHex b = true ∧
        isUnreserved (escaped a b) = false ∧
        validatePcharFrom segment (Str.asBytes ('%' :: t)) i
          = validatePcharFrom segment (Str.asBytes rest) (i + 3) := by
  rw [Str.asBytes_cons_of_ascii (by decide)]
  rcases hbytes : Str.asBytes t with _ | ⟨h₁, _ | ⟨h₂, bytes⟩⟩
  · exact Or.inl ⟨.badPercentEncoding, rfl⟩
  · exact Or.inl ⟨.badPercentEncoding, rfl⟩
  · by_cases hhex : (isAsciiHexdigit h₁ && isAsciiHexdigit h₂) = true
    · by_cases hlower : (isAsciiLowercase h₁ || isAsciiLowercase h₂) = true
      · refine Or.inl ⟨.nonNormalizedPercentEncoding
          [Char.ofNat h₁.toNat, Char.ofNat h₂.toNat], ?_⟩
        rw [validatePcharFrom, if_pos rfl]
        simp only [hhex, hlower, Bool.not_true, Outcome.failIf_false,
          Outcome.failIf_true, Outcome.ok_bind, Outcome.err_bind]
      · -- Both bytes are uppercase hex digits, hence the next two characters.
        rw [Bool.and_eq_true] at hhex
        rw [Bool.not_eq_true, Bool.or_eq_false_iff] at hlower
        obtain ⟨a, t', rfl, ha, rfl, hbytes'⟩ :=
          Str.exists_cons_of_asBytes_cons hbytes
            (ascii_of_isAsciiHexdigit hhex.1)
        obtain ⟨b, rest, rfl, hb, rfl, rfl⟩ :=
          Str.exists_cons_of_asBytes_cons hbytes'
            (ascii_of_isAsciiHexdigit hhex.2)
        have hupper : isUpperHex a = true := by
          rw [← isUpperHex_byte ha, hhex.1, hlower.1]
          rfl
        have hupper' : isUpperHex b = true := by
          rw [← isUpperHex_byte hb, hhex.2, hlower.2]
          rfl
        rw [validatePcharFrom_escape hupper hupper']
        cases hreserved : isUnreserved (escaped a b) with
        | true => exact Or.inl ⟨_, rfl⟩
        | false =>
          exact Or.inr ⟨a, b, rest, rfl, hupper, hupper', hreserved, rfl⟩
    · refine Or.inl ⟨.badPercentEncoding, ?_⟩
      rw [Bool.not_eq_true] at hhex
      rw [validatePcharFrom, if_pos rfl]
      simp only [hhex, Bool.not_false, Outcome.failIf_true, Outcome.err_bind]

/-- The loop ends in an error, or what is left to read is made of allowed
characters and normal escapes. -/
theorem validatePcharFrom_spec (pre rest : Str) :
    (∃ e, validatePcharFrom (pre ++ rest) (Str.asBytes rest) (Str.len pre)
      = .err e) ∨
      validatePcharFrom (pre ++ rest) (Str.asBytes rest) (Str.len pre)
        = .ok () ∧
        Encoded isPchar rest := by
  cases rest with
  | nil => exact Or.inr ⟨rfl, .nil⟩
  | cons c t =>
    by_cases hascii : c.toNat < 0x80
    · by_cases hpercent : c = '%'
      · subst hpercent
        rcases validatePcharFrom_percent (pre ++ '%' :: t) t (Str.len pre) with
          herr | ⟨a, b, rest, rfl, ha, hb, hreserved, hstep⟩
        · exact Or.inl herr
        · have hlen : Str.len pre + 3 = Str.len (pre ++ ['%', a, b]) := by
            simp [show '%'.utf8Size = 1 from rfl,
              Str.utf8Size_of_ascii (ascii_of_isUpperHex ha),
              Str.utf8Size_of_ascii (ascii_of_isUpperHex hb)]
          have htext : pre ++ '%' :: a :: b :: rest = pre ++ ['%', a, b] ++
              rest := by simp
          rw [hstep, hlen, htext]
          rcases validatePcharFrom_spec (pre ++ ['%', a, b]) rest
            with herr | ⟨hok, henc⟩
          · exact Or.inl herr
          · exact Or.inr ⟨hok, .escape ha hb hreserved henc⟩
      · rw [Str.asBytes_cons_of_ascii hascii]
        cases hpchar : isPchar c with
        | true =>
          have hlen : Str.len pre + 1 = Str.len (pre ++ [c]) := by
            simp [Str.utf8Size_of_ascii hascii]
          have htext : pre ++ c :: t = pre ++ [c] ++ t := by simp
          rw [validatePcharFrom_char hpchar, hlen, htext]
          rcases validatePcharFrom_spec (pre ++ [c]) t with herr | ⟨hok, henc⟩
          · exact Or.inl herr
          · exact Or.inr ⟨hok, .char hpchar henc⟩
        | false =>
          have hbyte : isPcharByte (Str.byte c) = false := by
            rw [isPcharByte_byte hascii, hpchar]
          have hne : Str.byte c ≠ Str.byte '%' :=
            mt (byte_eq_percent_iff hascii).1 hpercent
          exact Or.inl ⟨_, validatePcharFrom_invalid hne hbyte pre (c :: t) _⟩
    · obtain ⟨b, bytes, hbytes, hb⟩ :=
        Str.asBytes_cons_of_not_ascii (Nat.le_of_not_lt hascii) t
      obtain ⟨hne, hbyte⟩ := isPcharByte_of_not_ascii hb
      rw [hbytes]
      exact Or.inl ⟨_, validatePcharFrom_invalid hne hbyte pre (c :: t) bytes⟩
termination_by rest.length

/-- `validate_pchar_segment` accepts the texts of allowed characters and normal
escapes. -/
theorem validatePcharSegment_decides (segment : Str) :
    (validatePcharSegment segment).Decides (Encoded isPchar segment) := by
  rw [validatePcharSegment]
  by_cases henc : Encoded isPchar segment
  · exact Or.inl ⟨validatePcharFrom_ok henc 0, henc⟩
  · rcases validatePcharFrom_spec [] segment with herr | ⟨_, h⟩
    · exact Or.inr ⟨herr, henc⟩
    · exact absurd h henc

theorem checkChars_decides (allowed : Char → Bool) (error : Char → ParseError)
    (s : Str) :
    (checkChars allowed error s).Decides (∀ c ∈ s, allowed c = true) := by
  induction s with
  | nil => exact Or.inl ⟨rfl, by simp⟩
  | cons c s ih =>
    rw [checkChars]
    cases hc : allowed c with
    | true => exact ih.congr (by simp [hc])
    | false => exact Or.inr ⟨⟨error c, rfl⟩, by simp [hc]⟩

theorem validateSegment_decides (scheme : Scheme) (segment : Str) :
    (validateSegment scheme segment).Decides
      (scheme.Segment segment ∧ segment ≠ "." ∧ segment ≠ "..") := by
  cases scheme with
  | spiffe =>
    refine ((Outcome.Decides.failIf _ _).bind fun _ =>
      (Outcome.Decides.failIf _ _).bind fun _ =>
      checkChars_decides _ _ segment).congr ?_
    simp only [isSpiffeChar_eq]
    simp [Scheme.Segment]
    tauto
  | wimse =>
    refine ((Outcome.Decides.failIf _ _).bind fun _ =>
      (Outcome.Decides.failIf _ _).bind fun _ =>
      validatePcharSegment_decides segment).congr ?_
    simp [Scheme.Segment]
    tauto

theorem validateSegments_decides (scheme : Scheme) (segments : List Str) :
    (validateSegments scheme segments).Decides
      (∀ seg ∈ segments, scheme.Segment seg ∧ seg ≠ "." ∧ seg ≠ "..") := by
  induction segments with
  | nil => exact Or.inl ⟨rfl, by simp⟩
  | cons seg segments ih =>
    rw [validateSegments]
    exact ((validateSegment_decides scheme seg).bind fun _ => ih).congr
      (by simp)

theorem validateTrustDomain_decides (scheme : Scheme) (td : Str) :
    (validateTrustDomain scheme td).Decides
      (td ≠ [] ∧ (scheme = .spiffe → Str.len td ≤ MAX_TRUST_DOMAIN_LEN) ∧
        ∀ c ∈ td, tdClass c = true) := by
  refine ((Outcome.Decides.failIf _ _).bind fun _ =>
    (Outcome.Decides.failIf _ _).bind fun _ =>
    checkChars_decides _ _ td).congr ?_
  simp only [isTrustDomainChar_eq]
  cases scheme <;> simp

/-! ## Paths -/

/-- The segments that `validate_path` checks. -/
def segmentsOf (path : Str) : List Str :=
  if path.isEmpty then [] else (path.splitOn '/').drop 1

theorem validatePath_decides (scheme : Scheme) (path : Str) :
    (validatePath scheme path).Decides
      (∀ seg ∈ segmentsOf path, scheme.Segment seg ∧ seg ≠ "." ∧
        seg ≠ "..") := by
  rw [validatePath, segmentsOf]
  split
  · exact Or.inl ⟨rfl, by simp⟩
  · exact validateSegments_decides scheme _

theorem segmentsOf_cons (t : Str) : segmentsOf ('/' :: t) = t.splitOn '/' := by
  rw [segmentsOf, List.splitOn_cons_eq_if_modifyHead]
  rfl

theorem pathOf_eq_intercalate {segs : List Str} (hne : segs ≠ []) :
    pathOf segs = '/' :: ['/'].intercalate segs := by
  induction segs with
  | nil => exact absurd rfl hne
  | cons seg segs ih =>
    rw [pathOf, List.flatMap_cons]
    cases segs with
    | nil => simp
    | cons seg' segs =>
      have hrest := ih (by simp)
      rw [pathOf] at hrest
      rw [hrest, List.intercalate_cons_cons]
      simp

/-- A path that is empty or starts with `/` is the path of its segments. -/
theorem pathOf_segmentsOf {path : Str} (h : path = [] ∨ ∃ t, path = '/' :: t) :
    pathOf (segmentsOf path) = path := by
  rcases h with rfl | ⟨t, rfl⟩
  · rfl
  · rw [segmentsOf_cons, pathOf_eq_intercalate (List.splitOn_ne_nil '/' t),
      List.intercalate_splitOn]

/-- The segments of a path of segments without `/` are those segments. -/
theorem segmentsOf_pathOf {segs : List Str} (h : ∀ seg ∈ segs, '/' ∉ seg) :
    segmentsOf (pathOf segs) = segs := by
  by_cases hne : segs = []
  · subst hne
    rfl
  · rw [pathOf_eq_intercalate hne, segmentsOf_cons,
      List.splitOn_intercalate '/' h hne]

theorem pathOf_head (segs : List Str) :
    pathOf segs = [] ∨ ∃ t, pathOf segs = '/' :: t := by
  cases segs with
  | nil => exact Or.inl rfl
  | cons seg segs => exact Or.inr ⟨_, rfl⟩

/-! ## Delimiters -/

theorem isPchar_of_segmentClass {c : Char} (h : segmentClass c = true) :
    isPchar c = true := by
  simp only [segmentClass, isPchar, isUnreserved, Bool.or_eq_true] at h ⊢
  rcases h with h | h
  · exact Or.inl (Or.inl (Or.inl h))
  · simp only [List.contains_iff_mem] at h ⊢
    simp at h ⊢
    tauto

/-- A segment of either scheme is made of `pchar` characters and normal
escapes. -/
theorem Scheme.Segment.encoded {scheme : Scheme} {seg : Str}
    (h : scheme.Segment seg) :
    Encoded isPchar seg := by
  cases scheme with
  | spiffe =>
    exact Encoded.of_forall fun c hc => isPchar_of_segmentClass (h.2 c hc)
  | wimse => exact h.2

/-- The delimiters of a URI are no part of a segment. -/
theorem not_mem_of_encoded {seg : Str} (h : Encoded isPchar seg) :
    ∀ c ∈ seg, c ∉ "/?#".toList := by
  have hpchar : ∀ c, isPchar c = true ∨ isUpperHex c = true ∨ c = '%' →
      c ∉ "/?#".toList := by
    intro c hc hmem
    simp at hmem
    rcases hmem with rfl | rfl | rfl <;> revert hc <;> decide
  induction h with
  | nil => simp
  | char hc _ ih => exact List.forall_mem_cons.2 ⟨hpchar _ (Or.inl hc), ih⟩
  | escape ha hb _ _ ih =>
    exact List.forall_mem_cons.2 ⟨hpchar _ (Or.inr (Or.inr rfl)),
      List.forall_mem_cons.2 ⟨hpchar _ (Or.inr (Or.inl ha)),
        List.forall_mem_cons.2 ⟨hpchar _ (Or.inr (Or.inl hb)), ih⟩⟩⟩

/-- The query and fragment delimiters are no part of a path of segments. -/
theorem not_mem_pathOf {segs : List Str}
    (h : ∀ seg ∈ segs, Encoded isPchar seg) :
    '?' ∉ pathOf segs ∧ '#' ∉ pathOf segs := by
  have hall : ∀ c ∈ pathOf segs, c = '/' ∨ c ∉ "/?#".toList := by
    intro c hc
    obtain ⟨seg, hseg, hc⟩ := List.mem_flatMap.1 hc
    rcases List.mem_cons.1 hc with rfl | hc
    · exact Or.inl rfl
    · exact Or.inr (not_mem_of_encoded (h seg hseg) c hc)
  constructor
  · intro hmem
    rcases hall _ hmem with h | h <;> revert h <;> decide
  · intro hmem
    rcases hall _ hmem with h | h <;> revert h <;> decide

/-! ## The parser -/

/-- The cut is at the first `/`. -/
theorem splitAuthority_append {td path : Str} (htd : '/' ∉ td)
    (hpath : path = [] ∨ ∃ t, path = '/' :: t) :
    splitAuthority (td ++ path) = .ok (td, path) := by
  rw [splitAuthority, Str.find_eq_splitOnce]
  rcases hpath with rfl | ⟨t, rfl⟩
  · rw [List.append_nil, Str.splitOnce_eq_none_iff.2 htd]
    rfl
  · rw [Str.splitOnce_append_cons htd]
    simp only [Option.map_some, Str.sliceTo_len_append,
      Str.sliceFrom_len_append, Outcome.ok_bind]

/-- The scheme is the one whose prefix the text has. -/
theorem findSome_scheme (scheme : Scheme) (rest : Str) :
    ([Scheme.spiffe, Scheme.wimse].findSome? fun s =>
      (Str.stripPrefix s.uriPrefix (scheme.uriPrefix ++ rest)).map fun rest =>
        (s, rest))
      = some (scheme, rest) := by
  cases scheme with
  | spiffe => rw [List.findSome?_cons, Str.stripPrefix_append, Option.map_some]
  | wimse =>
    have hspiffe :
        Str.stripPrefix Scheme.spiffe.uriPrefix (Scheme.wimse.uriPrefix ++ rest)
        = none := by
      rw [Option.eq_none_iff_forall_ne_some]
      intro t h
      have hhead : some 'w' = some 's' :=
        congrArg List.head? (Str.stripPrefix_eq_some_iff.1 h)
      exact absurd hhead (by decide)
    rw [List.findSome?_cons, hspiffe, Option.map_none, List.findSome?_cons,
      Str.stripPrefix_append, Option.map_some]

/-- The checks that the parser makes of a text once it is cut into scheme, trust
domain and path. -/
def checkParts (scheme : Scheme) (td path : Str) : Outcome ParseError Unit := do
  Outcome.failIf
    (MAX_ID_LEN < Str.len (scheme.uriPrefix ++ td ++ path)) .tooLong
  Outcome.failIf ((td ++ path).contains '?') .hasQuery
  Outcome.failIf ((td ++ path).contains '#') .hasFragment
  Outcome.failIf (td.contains '@') .hasUserInfo
  Outcome.failIf (td.contains ':') .hasPort
  validateTrustDomain scheme td
  validatePath scheme path

theorem parseFields_append (scheme : Scheme) {td path : Str} (htd : '/' ∉ td)
    (hpath : path = [] ∨ ∃ t, path = '/' :: t) :
    parseFields (scheme.uriPrefix ++ td ++ path)
      = (do
          checkParts scheme td path
          .ok ⟨scheme.uriPrefix ++ td ++ path, scheme, Str.len td⟩) := by
  have hscheme := findSome_scheme scheme (td ++ path)
  rw [← List.append_assoc] at hscheme
  rw [parseFields, hscheme, checkParts]
  simp only [Outcome.okOr_some, Outcome.ok_bind,
    splitAuthority_append htd hpath, bind_assoc]

/-- The checks accept the parts of an identifier. -/
theorem checkParts_decides (scheme : Scheme) {td path : Str}
    (hpath : path = [] ∨ ∃ t, path = '/' :: t) :
    (checkParts scheme td path).Decides
      (Grammar (scheme.uriPrefix ++ td ++ path) scheme td
        (segmentsOf path)) := by
  refine ((Outcome.Decides.failIf _ _).bind fun _ =>
    (Outcome.Decides.failIf _ _).bind fun _ =>
    (Outcome.Decides.failIf _ _).bind fun _ =>
    (Outcome.Decides.failIf _ _).bind fun _ =>
    (Outcome.Decides.failIf _ _).bind fun _ =>
    (validateTrustDomain_decides scheme td).bind fun _ =>
    validatePath_decides scheme path).congr ?_
  simp only [decide_eq_false_iff_not, Nat.not_lt]
  have hascii : (∀ c ∈ td, tdClass c = true) → Str.len td = td.length :=
    fun h => Str.len_of_ascii fun c hc => ascii_of_tdClass (h c hc)
  constructor
  · rintro ⟨hlen, -, -, -, -, ⟨hne, hshort, hchars⟩, hsegs⟩
    refine ⟨by rw [pathOf_segmentsOf hpath], hlen, hne, hchars,
      fun h => ?_, hsegs⟩
    rw [← hascii hchars]
    exact hshort h
  · intro h
    have hpathchars :=
      not_mem_pathOf fun seg hseg => (h.segments seg hseg).1.encoded
    rw [pathOf_segmentsOf hpath] at hpathchars
    have htdchars : ∀ c ∈ "/?#@:%".toList, c ∉ td := fun c hc hmem =>
      (tdClass_ne (h.td_chars c hmem)).1 hc
    have hcontains : ∀ {c : Char} {s : Str}, c ∉ s → s.contains c = false :=
      fun hc => by simpa using hc
    refine ⟨h.short, hcontains ?_, hcontains ?_,
      hcontains (htdchars _ (by decide)), hcontains (htdchars _ (by decide)),
      ⟨h.td_ne_nil, fun hs => ?_, h.td_chars⟩, h.segments⟩
    · exact fun hmem =>
        (List.mem_append.1 hmem).elim (htdchars _ (by decide)) hpathchars.1
    · exact fun hmem =>
        (List.mem_append.1 hmem).elim (htdchars _ (by decide)) hpathchars.2
    · rw [hascii h.td_chars]
      exact h.td_short hs

/-- Every text is cut into parts, or its scheme is neither of the two. -/
theorem exists_parts (s : Str) :
    (∃ scheme td path, s = Scheme.uriPrefix scheme ++ td ++ path ∧ '/' ∉ td ∧
        (path = [] ∨ ∃ t, path = '/' :: t)) ∨
      (∀ scheme rest, s ≠ Scheme.uriPrefix scheme ++ rest) ∧
      ∃ e, parseFields s = .err e := by
  by_cases hscheme : ∃ scheme rest, s = Scheme.uriPrefix scheme ++ rest
  · obtain ⟨scheme, rest, rfl⟩ := hscheme
    refine Or.inl ⟨scheme, ?_⟩
    cases hcut : Str.splitOnce '/' rest with
    | none =>
      exact ⟨rest, [], by simp, Str.splitOnce_eq_none_iff.1 hcut, Or.inl rfl⟩
    | some p =>
      obtain ⟨rfl, hnot⟩ := Str.splitOnce_eq_some_iff.1 hcut
      exact ⟨p.1, '/' :: p.2, by simp, hnot, Or.inr ⟨p.2, rfl⟩⟩
  · have hnot : ∀ scheme rest, s ≠ Scheme.uriPrefix scheme ++ rest :=
      fun scheme rest h => hscheme ⟨scheme, rest, h⟩
    refine Or.inr ⟨hnot, ?_⟩
    have hnone : ∀ scheme : Scheme,
        Str.stripPrefix scheme.uriPrefix s = none := by
      intro scheme
      rw [Option.eq_none_iff_forall_ne_some]
      exact fun rest h => hnot scheme rest (Str.stripPrefix_eq_some_iff.1 h)
    rw [parseFields]
    simp only [List.findSome?_cons, hnone, Option.map_none, List.findSome?_nil,
      Outcome.okOr_none, Outcome.err_bind]
    cases decide (MAX_ID_LEN < Str.len s) with
    | true => exact ⟨_, rfl⟩
    | false => exact ⟨_, rfl⟩

theorem Grammar.slash_not_mem {s : Str} {scheme : Scheme} {td : Str}
    {segs : List Str} (h : Grammar s scheme td segs) : '/' ∉ td :=
  fun hmem => (tdClass_ne (h.td_chars _ hmem)).1 (by decide)

theorem parseFields_of_grammar {s : Str} {scheme : Scheme} {td : Str}
    {segs : List Str} (h : Grammar s scheme td segs) :
    parseFields s = .ok ⟨s, scheme, Str.len td⟩ := by
  have hsegs : segmentsOf (pathOf segs) = segs := by
    refine segmentsOf_pathOf fun seg hseg hmem => ?_
    exact not_mem_of_encoded (h.segments seg hseg).1.encoded _ hmem (by decide)
  have hchecks : (checkParts scheme td (pathOf segs)).Decides _ :=
    checkParts_decides scheme (pathOf_head segs)
  rw [hsegs, ← h.text] at hchecks
  rw [h.text, parseFields_append scheme h.slash_not_mem (pathOf_head segs),
    hchecks.ok_iff.2 h, Outcome.ok_bind]

/-- The parser accepts the identifiers of the grammar and keeps their scheme and
the length of their trust domain.  It rejects any other text with an error. -/
theorem parseFields_spec (s : Str) :
    (∃ scheme td segs, Grammar s scheme td segs ∧
        parseFields s = .ok ⟨s, scheme, Str.len td⟩) ∨
      (¬ ∃ scheme td segs, Grammar s scheme td segs) ∧
      ∃ e, parseFields s = .err e := by
  rcases exists_parts s with
    ⟨scheme, td, path, rfl, htd, hpath⟩ | ⟨hscheme, herr⟩
  · rw [parseFields_append scheme htd hpath]
    rcases checkParts_decides scheme hpath
      with ⟨hok, hgrammar⟩ | ⟨⟨e, herr⟩, hgrammar⟩
    · exact Or.inl ⟨scheme, td, segmentsOf path,
        hgrammar, by rw [hok, Outcome.ok_bind]⟩
    · have hfields := parseFields_append scheme htd hpath
      rw [herr, Outcome.err_bind] at hfields ⊢
      refine Or.inr ⟨?_, e, rfl⟩
      intro ⟨scheme', td', segs, h⟩
      rw [parseFields_of_grammar h] at hfields
      cases hfields
  · refine Or.inr ⟨?_, herr⟩
    intro ⟨scheme, td, segs, h⟩
    exact hscheme scheme (td ++ pathOf segs) (by rw [h.text, List.append_assoc])

theorem parse_ne_panic (s : Str) : parse s ≠ .panic := by
  intro h
  rcases parseFields_spec s with
    ⟨scheme, td, segs, hgrammar, hok⟩ | ⟨_, e, herr⟩
  · have hid : parse s = .ok ⟨⟨s, scheme, Str.len td⟩, hok⟩ :=
      parse_eq_ok_iff.2 hok
    rw [h] at hid
    cases hid
  · rw [parse] at h
    split at h
    · cases h
    · cases h
    · rename_i hpanic
      rw [herr] at hpanic
      cases hpanic

theorem WorkloadIdentifier.deserialize_ne_panic (j : Serde.Json) :
    deserialize j ≠ .panic := by
  unfold deserialize
  apply Outcome.bind_ne_panic (Serde.deString_ne_panic j)
  intro s _
  exact Outcome.mapErr_ne_panic (parse_ne_panic s)

/-- What `parse` accepts is an identifier of the grammar. -/
theorem grammar_of_parse {s : Str} {id : WorkloadIdentifier}
    (h : parse s = .ok id) :
    ∃ td segs, Grammar s id.scheme td segs ∧
    id.toFields = ⟨s, id.scheme, Str.len td⟩ := by
  rw [parse_eq_ok_iff] at h
  rcases parseFields_spec s with
    ⟨scheme, td, segs, hgrammar, hok⟩ | ⟨_, e, herr⟩
  · rw [h] at hok
    have hfields := Outcome.ok.inj hok
    have hscheme : id.scheme = scheme := by rw [hfields]
    exact ⟨td, segs, hscheme ▸ hgrammar, by rw [hscheme, hfields]⟩
  · rw [herr] at h
    cases h

/-! ## Only ASCII -/

theorem ascii_of_encoded {seg : Str} (h : Encoded isPchar seg) :
    ∀ c ∈ seg, c.toNat < 0x80 := by
  induction h with
  | nil => simp
  | char hc _ ih => exact List.forall_mem_cons.2 ⟨ascii_of_isPchar hc, ih⟩
  | escape ha hb _ _ ih =>
    exact List.forall_mem_cons.2 ⟨by decide,
      List.forall_mem_cons.2 ⟨ascii_of_isUpperHex ha,
      List.forall_mem_cons.2 ⟨ascii_of_isUpperHex hb, ih⟩⟩⟩

/-- The text of an identifier is ASCII. -/
theorem WorkloadIdentifier.ascii (id : WorkloadIdentifier) :
    ∀ c ∈ id.asStr, c.toNat < 0x80 := by
  obtain ⟨td, segs, hgrammar, _⟩ :=
    grammar_of_parse (parse_eq_ok_iff.2 id.parsed)
  have hprefix : id.scheme.uriPrefix.all (·.toNat < 0x80) = true := by
    cases id.scheme <;> rfl
  intro c hc
  rw [asStr, hgrammar.text, List.mem_append, List.mem_append] at hc
  rcases hc with (hc | hc) | hc
  · exact of_decide_eq_true (List.all_eq_true.1 hprefix c hc)
  · exact ascii_of_tdClass (hgrammar.td_chars c hc)
  · obtain ⟨seg, hseg, hc⟩ := List.mem_flatMap.1 hc
    rcases List.mem_cons.1 hc with rfl | hc
    · decide
    · exact ascii_of_encoded (hgrammar.segments seg hseg).1.encoded c hc

/-! ## The accessors -/

section Accessors

variable {ε : Type} {id : WorkloadIdentifier} {s td : Str} {segs : List Str}

theorem trustDomain_of_grammar (hgrammar : Grammar s id.scheme td segs)
    (hid : id.toFields = ⟨s, id.scheme, Str.len td⟩) :
    (id.trustDomain : Outcome ε Str) = .ok td := by
  have huri : id.uri = s := by rw [hid]
  have hlen : id.trustDomainLen = Str.len td := by rw [hid]
  rw [WorkloadIdentifier.trustDomain, huri, hlen, hgrammar.text,
    Str.slice_len_append]

theorem path_of_grammar (hgrammar : Grammar s id.scheme td segs)
    (hid : id.toFields = ⟨s, id.scheme, Str.len td⟩) :
    (id.path : Outcome ε Str) = .ok (pathOf segs) := by
  have huri : id.uri = s := by rw [hid]
  have hlen : id.trustDomainLen = Str.len td := by rw [hid]
  rw [WorkloadIdentifier.path, huri, hlen, hgrammar.text, ← Str.len_append,
    Str.sliceFrom_len_append]

theorem origin_of_grammar (hgrammar : Grammar s id.scheme td segs)
    (hid : id.toFields = ⟨s, id.scheme, Str.len td⟩) :
    (id.origin : Outcome ε Str) = .ok (id.scheme.uriPrefix ++ td) := by
  have huri : id.uri = s := by rw [hid]
  have hlen : id.trustDomainLen = Str.len td := by rw [hid]
  rw [WorkloadIdentifier.origin, huri, hlen, hgrammar.text, ← Str.len_append,
    Str.sliceTo_len_append]

end Accessors

/-- `parse` accepts exactly the identifiers of the grammar, and the accessors of
what it returns cut the text into those parts. -/
theorem parse_exact {ε : Type} (s : Str) :
    ((∃ id, parse s = .ok id) ↔ ∃ scheme td segs, Grammar s scheme td segs) ∧
      ∀ id, parse s = .ok id →
        ∃ td path, id.asStr = s ∧
          (id.trustDomain : Outcome ε Str) = .ok td ∧
          (id.path : Outcome ε Str) = .ok path ∧
          (id.origin : Outcome ε Str) = .ok (id.scheme.uriPrefix ++ td) ∧
          s = id.scheme.uriPrefix ++ td ++ path ∧
          (path = [] ∨ ∃ t, path = '/' :: t) ∧
          '/' ∉ td ∧
          parse id.asStr = .ok id := by
  constructor
  · constructor
    · intro ⟨id, h⟩
      obtain ⟨td, segs, hgrammar, _⟩ := grammar_of_parse h
      exact ⟨id.scheme, td, segs, hgrammar⟩
    · intro ⟨scheme, td, segs, h⟩
      exact ⟨⟨⟨s, scheme, Str.len td⟩, parseFields_of_grammar h⟩,
        parse_eq_ok_iff.2 (parseFields_of_grammar h)⟩
  · intro id h
    obtain ⟨td, segs, hgrammar, hid⟩ := grammar_of_parse h
    have hstr : id.asStr = s := by rw [WorkloadIdentifier.asStr, hid]
    exact ⟨td, pathOf segs, hstr, trustDomain_of_grammar hgrammar hid,
      path_of_grammar hgrammar hid, origin_of_grammar hgrammar hid,
      hgrammar.text, pathOf_head segs, hgrammar.slash_not_mem, by rw [hstr, h]⟩

end Wimsey.Identifier
