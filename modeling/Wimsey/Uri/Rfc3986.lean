import Mathlib

/-!
# URI syntax and normalization

The parts of RFC 3986 that the comparison of URIs needs: the character classes
of Section 2, the reference grammar of Appendix B, the dot-segment removal of
Section 5.2.4, and the syntax-based normalization of Section 6.2.2.

A text is a list of characters.  `Encoded p` says that a text is made of
characters of a class `p` and of percent-escapes in normal form: two uppercase
hex digits that do not encode an unreserved character.  The lemmas say where
each step of `normalize` is the identity: `normalizeEscapes` on an `Encoded`
text, `lowercase` on a text without capitals, and `removeDotSegments` on a path
without dot segments.  `normalize_hierarchical` puts them together for a URI
with a scheme, an authority and a path.
-/

namespace Wimsey.Uri

/-! ## Characters -/

/-- `unreserved  = ALPHA / DIGIT / "-" / "." / "_" / "~"` -/
def isUnreserved (c : Char) : Bool := c.isAlphanum || "-._~".toList.contains c

/-- `sub-delims  = "!" / "$" / "&" / "'" / "(" / ")" / "*" / "+" / "," / ";" /
"="` -/
def isSubDelim (c : Char) : Bool := "!$&'()*+,;=".toList.contains c

/-- `pchar = unreserved / pct-encoded / sub-delims / ":" / "@"`, without
`pct-encoded`. -/
def isPchar (c : Char) : Bool :=
  isUnreserved c || isSubDelim c || ":@".toList.contains c

/-- The value of a hex digit of either case. -/
def hexVal? (c : Char) : Option Nat :=
  if c.isDigit then some (c.toNat - '0'.toNat)
  else if 'A' ≤ c ∧ c ≤ 'F' then some (c.toNat - 'A'.toNat + 10)
  else if 'a' ≤ c ∧ c ≤ 'f' then some (c.toNat - 'a'.toNat + 10)
  else none

/-- A digit or one of `A` to `F`. -/
def isUpperHex (c : Char) : Bool := c.isDigit || ('A' ≤ c && c ≤ 'F')

/-- The value of an uppercase hex digit. -/
def hexVal (c : Char) : Nat :=
  if c.isDigit then c.toNat - '0'.toNat else c.toNat - 'A'.toNat + 10

/-- The character that the escape `%ab` encodes. -/
def escaped (a b : Char) : Char := Char.ofNat (16 * hexVal a + hexVal b)

/-- A text of characters of the class `p` and of percent-escapes in normal
form. -/
inductive Encoded (p : Char → Bool) : List Char → Prop where
  | nil : Encoded p []
  | char {c : Char} {rest : List Char} (hc : p c = true)
      (hrest : Encoded p rest) :
      Encoded p (c :: rest)
  | escape {a b : Char} {rest : List Char} (ha : isUpperHex a = true)
      (hb : isUpperHex b = true)
      (hreserved : isUnreserved (escaped a b) = false)
        (hrest : Encoded p rest) :
      Encoded p ('%' :: a :: b :: rest)

theorem hexVal?_of_isUpperHex {c : Char} (h : isUpperHex c = true) :
    hexVal? c = some (hexVal c) := by
  rw [hexVal?, hexVal]
  rw [isUpperHex, Bool.or_eq_true, Bool.and_eq_true, decide_eq_true_eq,
    decide_eq_true_eq] at h
  by_cases hd : c.isDigit = true
  · rw [if_pos hd, if_pos hd]
  · rw [if_neg hd, if_neg hd, if_pos (h.resolve_left hd)]

/-- An uppercase hex digit is in uppercase. -/
theorem toUpper_of_isUpperHex {c : Char} (h : isUpperHex c = true) :
    c.toUpper = c := by
  rw [Char.toUpper, dif_neg]
  rw [isUpperHex, Bool.or_eq_true, Bool.and_eq_true, decide_eq_true_eq,
    decide_eq_true_eq, Char.isDigit, Bool.and_eq_true, decide_eq_true_eq,
    decide_eq_true_eq] at h
  simp only [Char.le_def, ge_iff_le, UInt32.le_iff_toNat_le] at h ⊢
  have ha : 'a'.val.toNat = 97 := rfl
  have hF : 'F'.val.toNat = 70 := rfl
  have h9 : '9'.val.toNat = 57 := rfl
  omega

/-! ## The steps of normalization -/

/-- Sections 6.2.2.1 and 6.2.2.2 for percent-escapes: the hex digits in
uppercase, and the escapes of unreserved characters decoded. -/
def normalizeEscapes : List Char → List Char
  | '%' :: a :: b :: rest =>
      match hexVal? a, hexVal? b with
      | some x, some y =>
          if isUnreserved (Char.ofNat (16 * x + y)) then
            Char.ofNat (16 * x + y) :: normalizeEscapes rest
          else '%' :: a.toUpper :: b.toUpper :: normalizeEscapes rest
      | _, _ => '%' :: normalizeEscapes (a :: b :: rest)
  | c :: rest => c :: normalizeEscapes rest
  | [] => []

/-- The letters outside percent-escapes in lowercase. -/
def lowercase : List Char → List Char
  | '%' :: a :: b :: rest => '%' :: a :: b :: lowercase rest
  | c :: rest => c.toLower :: lowercase rest
  | [] => []

/-- The output buffer of Section 5.2.4 without its last segment and the `/`
before it. -/
def dropLastSegment (out : List Char) : List Char :=
  ((out.reverse.dropWhile (· ≠ '/')).drop 1).reverse

/-- The loop of Section 5.2.4, from an input and an output buffer. -/
def dotSegmentLoop : List Char → List Char → List Char
  | [], out => out
  | '.' :: '.' :: '/' :: rest, out => dotSegmentLoop rest out
  | '.' :: '/' :: rest, out => dotSegmentLoop rest out
  | '/' :: '.' :: '/' :: rest, out => dotSegmentLoop ('/' :: rest) out
  | ['/', '.'], out => dotSegmentLoop ['/'] out
  | '/' :: '.' :: '.' :: '/' :: rest, out =>
      dotSegmentLoop ('/' :: rest) (dropLastSegment out)
  | ['/', '.', '.'], out => dotSegmentLoop ['/'] (dropLastSegment out)
  | ['.'], out => dotSegmentLoop [] out
  | ['.', '.'], out => dotSegmentLoop [] out
  | c :: rest, out =>
      dotSegmentLoop (rest.dropWhile (· ≠ '/'))
        (out ++ c :: rest.takeWhile (· ≠ '/'))
termination_by input => input.length
decreasing_by
  all_goals simp only [List.length_cons, List.length_nil]
  all_goals try omega
  have :=
    (List.dropWhile_suffix (fun c => decide (c ≠ '/')) (l := rest)).length_le
  omega

/-- Section 5.2.4. -/
def removeDotSegments (path : List Char) : List Char := dotSegmentLoop path []

/-! ## References -/

/-- The five components of a URI reference. -/
structure Components where
  scheme : Option (List Char)
  authority : Option (List Char)
  path : List Char
  query : Option (List Char)
  fragment : Option (List Char)
deriving DecidableEq, Repr

/-- The characters of `t` up to one of the delimiters, and the rest. -/
def upTo (delims t : List Char) : List Char × List Char :=
  t.span fun c => !delims.contains c

/-- `(([^:/?#]+):)?` -/
def takeScheme (t : List Char) : Option (List Char) × List Char :=
  match upTo ":/?#".toList t with
  | (c :: s, ':' :: rest) => (some (c :: s), rest)
  | _ => (none, t)

/-- `(//([^/?#]*))?` -/
def takeAuthority (t : List Char) : Option (List Char) × List Char :=
  match t with
  | '/' :: '/' :: rest =>
      ((upTo "/?#".toList rest).1, (upTo "/?#".toList rest).2)
  | _ => (none, t)

/-- `(\?([^#]*))?(#(.*))?` -/
def takeQueryFragment (t : List Char) :
    Option (List Char) × Option (List Char) :=
  match t with
  | '?' :: rest =>
      match upTo ['#'] rest with
      | (q, _ :: f) => (some q, some f)
      | (q, []) => (some q, none)
  | '#' :: f => (none, some f)
  | _ => (none, none)

/-- The regular expression of Appendix B. -/
def components (t : List Char) : Components :=
  let scheme := takeScheme t
  let authority := takeAuthority scheme.2
  let path := upTo "?#".toList authority.2
  let tail := takeQueryFragment path.2
  ⟨scheme.1, authority.1, path.1, tail.1, tail.2⟩

/-- The recomposition of Section 5.3. -/
def Components.compose (u : Components) : List Char :=
  (u.scheme.elim [] fun s => s ++ [':']) ++
    (u.authority.elim [] fun a => '/' :: '/' :: a) ++
    u.path ++ (u.query.elim [] fun q => '?' :: q) ++
    (u.fragment.elim [] fun f => '#' :: f)

/-- The user information stays as it is, and the host is in lowercase. -/
def normalizeAuthority (a : List Char) : List Char :=
  let a := normalizeEscapes a
  match a.span (· ≠ '@') with
  | (user, '@' :: host) => user ++ '@' :: lowercase host
  | _ => lowercase a

/-- Section 6.2.2: case, percent-encoding and path segment normalization. -/
def normalize (t : List Char) : List Char :=
  let u := components t
  Components.compose
    { scheme := u.scheme.map lowercase
      authority := u.authority.map normalizeAuthority
      path := removeDotSegments (normalizeEscapes u.path)
      query := u.query.map normalizeEscapes
      fragment := u.fragment.map normalizeEscapes }

/-! ## Where the steps are the identity -/

theorem Encoded.mono {p p' : Char → Bool} (h : ∀ c, p c = true → p' c = true)
    {t : List Char} (ht : Encoded p t) : Encoded p' t := by
  induction ht with
  | nil => exact .nil
  | char hc _ ih => exact .char (h _ hc) ih
  | escape ha hb hr _ ih => exact .escape ha hb hr ih

theorem Encoded.append {p : Char → Bool} {t u : List Char} (ht : Encoded p t)
    (hu : Encoded p u) : Encoded p (t ++ u) := by
  induction ht with
  | nil => exact hu
  | char hc _ ih => exact .char hc ih
  | escape ha hb hr _ ih => exact .escape ha hb hr ih

theorem Encoded.of_forall {p : Char → Bool} {t : List Char}
    (h : ∀ c ∈ t, p c = true) :
    Encoded p t := by
  induction t with
  | nil => exact .nil
  | cons c t ih =>
    exact .char (h c (List.mem_cons_self ..))
      (ih fun d hd => h d (List.mem_cons_of_mem c hd))

/-- An ordinary character is passed over. -/
theorem normalizeEscapes_cons {c : Char} (hc : c ≠ '%') (rest : List Char) :
    normalizeEscapes (c :: rest) = c :: normalizeEscapes rest := by
  rw [normalizeEscapes.eq_def]
  split
  · rename_i h
    exact absurd (List.cons.inj h).1 hc
  · rename_i h
    obtain ⟨rfl, rfl⟩ := List.cons.inj h
    rfl
  · rename_i h
    cases h

/-- Normal escapes are left alone. -/
theorem normalizeEscapes_eq_self {p : Char → Bool} (hp : p '%' = false)
    {t : List Char} (ht : Encoded p t) : normalizeEscapes t = t := by
  induction ht with
  | nil => rfl
  | @char c rest hc _ ih =>
    have hne : c ≠ '%' := by
      rintro rfl
      rw [hp] at hc
      cases hc
    rw [normalizeEscapes_cons hne, ih]
  | escape ha hb hr _ ih =>
    rw [escaped] at hr
    rw [normalizeEscapes, hexVal?_of_isUpperHex ha, hexVal?_of_isUpperHex hb]
    simp only [hr, Bool.false_eq_true, if_false, toUpper_of_isUpperHex ha,
      toUpper_of_isUpperHex hb, ih]

/-- A text without percent signs and capitals is in lowercase. -/
theorem lowercase_eq_self {t : List Char}
    (h : ∀ c ∈ t, c ≠ '%' ∧ c.toLower = c) :
    lowercase t = t := by
  induction t with
  | nil => rfl
  | cons c t ih =>
    have hc := h c (List.mem_cons_self ..)
    have hrest := ih fun d hd => h d (List.mem_cons_of_mem c hd)
    rw [lowercase.eq_def]
    split
    · rename_i hp
      exact absurd (List.cons.inj hp).1 hc.1
    · rename_i hp
      obtain ⟨rfl, rfl⟩ := List.cons.inj hp
      rw [hc.2, hrest]
    · rename_i hp
      cases hp

/-- A segment that is not a dot segment is moved to the output as it is. -/
theorem dotSegmentLoop_segment {seg rest out : List Char} (hslash : '/' ∉ seg)
    (hdot : seg ≠ ['.']) (hdots : seg ≠ ['.', '.'])
    (hrest : rest = [] ∨ ∃ tail, rest = '/' :: tail) :
    dotSegmentLoop ('/' :: seg ++ rest) out
      = dotSegmentLoop rest (out ++ '/' :: seg) := by
  have hne : ∀ c ∈ seg, decide (c ≠ '/') = true := by
    intro c hc
    simp only [decide_eq_true_eq]
    rintro rfl
    exact hslash hc
  have htake : (seg ++ rest).takeWhile (fun c => decide (c ≠ '/')) = seg := by
    rw [List.takeWhile_append_of_pos hne]
    rcases hrest with rfl | ⟨tail, rfl⟩ <;> simp
  have hdrop : (seg ++ rest).dropWhile (fun c => decide (c ≠ '/')) = rest := by
    rw [List.dropWhile_append_of_pos hne]
    rcases hrest with rfl | ⟨tail, rfl⟩ <;> simp
  rw [List.cons_append, dotSegmentLoop.eq_def]
  -- The rules for dot segments need the segment to be one.
  split <;> rename_i h
  · cases h
  · cases h
  · cases h
  · rw [(List.cons.inj h).2] at htake
    exact absurd htake.symm hdot
  · rw [(List.cons.inj h).2] at htake
    exact absurd htake.symm hdot
  · rw [(List.cons.inj h).2] at htake
    exact absurd htake.symm hdots
  · rw [(List.cons.inj h).2] at htake
    exact absurd htake.symm hdots
  · cases h
  · cases h
  · obtain ⟨rfl, rfl⟩ := List.cons.inj h
    rw [hdrop, htake]

/-- A path of segments none of which is a dot segment is left alone. -/
theorem removeDotSegments_eq_self {segs : List (List Char)}
    (h : ∀ seg ∈ segs, '/' ∉ seg ∧ seg ≠ ['.'] ∧ seg ≠ ['.', '.']) :
    removeDotSegments (segs.flatMap ('/' :: ·)) = segs.flatMap ('/' :: ·) := by
  have hloop : ∀ out, dotSegmentLoop (segs.flatMap ('/' :: ·)) out
      = out ++ segs.flatMap ('/' :: ·) := by
    induction segs with
    | nil =>
      intro out
      rw [List.flatMap_nil, dotSegmentLoop, List.append_nil]
    | cons seg segs ih =>
      intro out
      obtain ⟨hslash, hdot, hdots⟩ := h seg (List.mem_cons_self ..)
      have hrest : segs.flatMap ('/' :: ·) = [] ∨ ∃ tail,
          segs.flatMap ('/' :: ·) = '/' :: tail := by
        cases segs with
        | nil => exact Or.inl rfl
        | cons seg' segs => exact Or.inr ⟨_, rfl⟩
      rw [List.flatMap_cons, dotSegmentLoop_segment hslash hdot hdots hrest,
        ih (fun s hs => h s (List.mem_cons_of_mem seg hs)), List.append_assoc]
  exact hloop []

/-! ## The components of a hierarchical URI -/

/-- `upTo` stops at the first delimiter. -/
theorem upTo_append {delims t u : List Char} (ht : ∀ c ∈ t, c ∉ delims)
    (hu : u = [] ∨ ∃ c rest, u = c :: rest ∧ c ∈ delims) :
    upTo delims (t ++ u) = (t, u) := by
  rw [upTo, List.span_eq_takeWhile_dropWhile,
    List.takeWhile_append_of_pos (fun c hc => by simpa using ht c hc),
    List.dropWhile_append_of_pos (fun c hc => by simpa using ht c hc)]
  rcases hu with rfl | ⟨c, rest, rfl, hc⟩
  · simp
  · simp [hc]

/-- A scheme, an authority and a path come apart as they were put together. -/
theorem components_hierarchical {scheme authority path : List Char}
    (hne : scheme ≠ []) (hscheme : ∀ c ∈ scheme, c ∉ ":/?#".toList)
    (hauthority : ∀ c ∈ authority, c ∉ "/?#".toList)
    (hpath : path = [] ∨ ∃ rest, path = '/' :: rest)
    (hpath' : ∀ c ∈ path, c ∉ "?#".toList) :
    components (scheme ++ "://".toList ++ authority ++ path)
      = ⟨some scheme, some authority, path, none, none⟩ := by
  obtain ⟨s, ss, rfl⟩ := List.exists_cons_of_ne_nil hne
  have htext : s :: ss ++ "://".toList ++ authority ++ path
      = s :: ss ++ ':' :: '/' :: '/' :: (authority ++ path) := by simp
  have h₁ : takeScheme (s :: ss ++ "://".toList ++ authority ++ path)
      = (some (s :: ss), '/' :: '/' :: (authority ++ path)) := by
    rw [takeScheme, htext,
      upTo_append hscheme (Or.inr ⟨':', _, rfl, by decide⟩)]
    rfl
  have h₂ : takeAuthority ('/' :: '/' :: (authority ++ path))
      = (some authority, path) := by
    rw [takeAuthority, upTo_append hauthority]
    rcases hpath with rfl | ⟨rest, rfl⟩
    · exact Or.inl rfl
    · exact Or.inr ⟨'/', rest, rfl, by decide⟩
  have h₃ : upTo "?#".toList path = (path, []) := by
    have := upTo_append (u := []) hpath' (Or.inl rfl)
    rwa [List.append_nil] at this
  simp only [components, h₁, h₂, h₃, takeQueryFragment]

/-- A path of encoded segments is encoded. -/
theorem encoded_path {p : Char → Bool} {segs : List (List Char)}
    (h : ∀ seg ∈ segs, Encoded p seg) :
    Encoded (fun c => p c || c == '/') (segs.flatMap ('/' :: ·)) := by
  induction segs with
  | nil => exact .nil
  | cons seg segs ih =>
    have hseg : Encoded (fun c => p c || c == '/') seg :=
      (h seg (List.mem_cons_self ..)).mono fun c hc => by simp [hc]
    rw [List.flatMap_cons, List.cons_append]
    exact .char (by simp) (hseg.append
      (ih fun s hs => h s (List.mem_cons_of_mem seg hs)))

/-- A host in lowercase without escapes is in normal form. -/
theorem normalizeAuthority_eq_self {a : List Char}
    (h : ∀ c ∈ a, c ≠ '@' ∧ c ≠ '%' ∧ c.toLower = c) :
    normalizeAuthority a = a := by
  have hescapes : normalizeEscapes a = a := by
    have hall : Encoded (· != '%') a :=
      Encoded.of_forall fun c hc => by simp [(h c hc).2.1]
    exact normalizeEscapes_eq_self (by decide) hall
  have hspan : a.span (· ≠ '@') = (a, []) := by
    rw [List.span_eq_takeWhile_dropWhile, List.takeWhile_eq_self_iff.2,
      List.dropWhile_eq_nil_iff.2]
    · intro c hc
      simpa using (h c hc).1
    · intro c hc
      simpa using (h c hc).1
  simp only [normalizeAuthority, hescapes, hspan]
  exact lowercase_eq_self fun c hc => (h c hc).2

/-- Normalization leaves a hierarchical URI alone when each of its parts is in
normal form. -/
theorem normalize_hierarchical {p : Char → Bool} {scheme authority : List Char}
    {segs : List (List Char)} (hp : p '%' = false) (hne : scheme ≠ [])
    (hscheme : ∀ c ∈ scheme, c ∉ ":/?#".toList ∧ c ≠ '%' ∧ c.toLower = c)
    (hauthority : ∀ c ∈ authority, c ∉ "/?#".toList ∧ c ≠ '@' ∧ c ≠ '%' ∧
      c.toLower = c)
    (hsegs : ∀ seg ∈ segs, Encoded p seg ∧ (∀ c ∈ seg, c ∉ "/?#".toList) ∧
      seg ≠ ['.'] ∧ seg ≠ ['.', '.']) :
    normalize (scheme ++ "://".toList ++ authority ++ segs.flatMap ('/' :: ·))
      = scheme ++ "://".toList ++ authority ++ segs.flatMap ('/' :: ·) := by
  have hpath : segs.flatMap ('/' :: ·) = [] ∨ ∃ rest,
      segs.flatMap ('/' :: ·) = '/' :: rest := by
    cases segs with
    | nil => exact Or.inl rfl
    | cons seg segs => exact Or.inr ⟨_, rfl⟩
  have hpath' : ∀ c ∈ segs.flatMap ('/' :: ·), c ∉ "?#".toList := by
    intro c hc
    obtain ⟨seg, hseg, hcseg⟩ := List.mem_flatMap.1 hc
    rcases List.mem_cons.1 hcseg with rfl | hcseg
    · decide
    · have := (hsegs seg hseg).2.1 c hcseg
      simp at this ⊢
      exact this.2
  have hcomponents := components_hierarchical hne (fun c hc => (hscheme c hc).1)
    (fun c hc => (hauthority c hc).1) hpath hpath'
  have hlower : lowercase scheme = scheme :=
    lowercase_eq_self fun c hc => (hscheme c hc).2
  have hauth : normalizeAuthority authority = authority :=
    normalizeAuthority_eq_self fun c hc => (hauthority c hc).2
  have hescapes :
      normalizeEscapes (segs.flatMap ('/' :: ·)) = segs.flatMap ('/' :: ·) :=
    normalizeEscapes_eq_self (by simp [hp])
      (encoded_path fun seg hseg => (hsegs seg hseg).1)
  have hdots : removeDotSegments (segs.flatMap ('/' :: ·))
      = segs.flatMap ('/' :: ·) := by
    refine removeDotSegments_eq_self fun seg hseg =>
      ⟨fun hmem => ?_, (hsegs seg hseg).2.2⟩
    exact (hsegs seg hseg).2.1 '/' hmem (by decide)
  simp only [normalize, hcomponents, Option.map_some, Option.map_none, hlower,
    hauth, hescapes, hdots, Components.compose]
  simp

end Wimsey.Uri
