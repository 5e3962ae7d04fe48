import Wimsey.RustStd.Str

/-!
# Scanners

A scanner reads a text from left to right, keeps a state, and says after each
element whether it cuts there.  A reader of delimited text is a scanner: its
state knows whether it stands inside a quoted string or a bracket, and it cuts
at the delimiters that stand outside both.

* `run` is the state after a text, and `Quiet` says that the scanner cuts
  nowhere in it.
* `split` is the list of pieces between cuts, and `first` is the text before
  and after the first one.
* A text is `Neutral` from a state when the scanner reads it without a cut and
  comes back to that state.  Neutral texts can be joined, and
  `split_intercalate` says that splitting a join of neutral pieces gives the
  pieces back.
* `splitLoop` and `findLoop` are the same readers written as a Rust loop over
  `char_indices` that slices the text at byte offsets.  `splitLoop_eq` and
  `findLoop_eq` say that they are `split` and `first`, so they never slice
  outside the text or inside a character.
-/

namespace Wimsey.Scan

open Wimsey.RustStd

/-- A scanner over `α` with states `σ`: the state after reading one element, and
whether the scanner cuts at that element. -/
abbrev Scanner (σ α : Type) := σ → α → σ × Bool

namespace Scanner

variable {σ α β ε : Type}

/-- The state after reading a text. -/
def run (S : Scanner σ α) (q : σ) (xs : List α) : σ :=
  xs.foldl (fun q x => (S q x).1) q

/-- The scanner cuts nowhere in the text. -/
def Quiet (S : Scanner σ α) : σ → List α → Prop
  | _, [] => True
  | q, x :: xs => (S q x).2 = false ∧ Quiet S (S q x).1 xs

/-- The scanner reads the text without a cut and comes back to its state. -/
def Neutral (S : Scanner σ α) (q : σ) (xs : List α) : Prop :=
  Quiet S q xs ∧ run S q xs = q

/-- The pieces of the text between the cuts. -/
def split (S : Scanner σ α) : σ → List α → List (List α)
  | _, [] => [[]]
  | q, x :: xs =>
      if (S q x).2 then [] :: split S (S q x).1 xs
      else (split S (S q x).1 xs).modifyHead (x :: ·)

/-- The text before and after the first cut. -/
def first (S : Scanner σ α) : σ → List α → Option (List α × List α)
  | _, [] => none
  | q, x :: xs =>
      if (S q x).2 then some ([], xs)
      else (first S (S q x).1 xs).map fun p => (x :: p.1, p.2)

variable {S : Scanner σ α} {q : σ} {x : α} {xs ys : List α}

@[simp] theorem run_nil : run S q [] = q := rfl

@[simp] theorem run_cons : run S q (x :: xs) = run S (S q x).1 xs := rfl

theorem run_append : run S q (xs ++ ys) = run S (run S q xs) ys := by
  simp [run]

@[simp] theorem quiet_nil : Quiet S q [] := trivial

theorem quiet_cons :
    Quiet S q (x :: xs) ↔ (S q x).2 = false ∧ Quiet S (S q x).1 xs := Iff.rfl

theorem quiet_append :
    Quiet S q (xs ++ ys) ↔ Quiet S q xs ∧ Quiet S (run S q xs) ys := by
  induction xs generalizing q with
  | nil => simp
  | cons x xs ih =>
    rw [List.cons_append, quiet_cons, quiet_cons, ih, run_cons, and_assoc]

/-- A scanner that cuts nowhere in a text cuts at none of its elements. -/
theorem quiet_iff : Quiet S q xs ↔
    ∀ before x after, xs = before ++ x :: after →
    (S (run S q before) x).2 = false := by
  constructor
  · rintro h before x after rfl
    exact (quiet_append.1 h).2.1
  · intro h
    induction xs generalizing q with
    | nil => trivial
    | cons x xs ih =>
      refine ⟨h [] x xs rfl, ih fun before y after hxs => ?_⟩
      exact h (x :: before) y after (by rw [hxs, List.cons_append])

/-! ## Neutral texts -/

theorem Neutral.nil : Neutral S q [] := ⟨trivial, rfl⟩

theorem Neutral.append (hx : Neutral S q xs) (hy : Neutral S q ys) :
    Neutral S q (xs ++ ys) := by
  refine ⟨quiet_append.2 ⟨hx.1, ?_⟩, ?_⟩
  · rw [hx.2]
    exact hy.1
  · rw [run_append, hx.2, hy.2]

theorem Neutral.cons (hx : S q x = (q, false)) (hxs : Neutral S q xs) :
    Neutral S q (x :: xs) := by
  refine ⟨quiet_cons.2 ?_, ?_⟩
  · rw [hx]
    exact ⟨rfl, hxs.1⟩
  · rw [run_cons, hx]
    exact hxs.2

/-- A text of elements that the scanner passes over is neutral. -/
theorem Neutral.of_forall (h : ∀ x ∈ xs, S q x = (q, false)) :
    Neutral S q xs := by
  induction xs with
  | nil => exact Neutral.nil
  | cons x xs ih =>
    exact Neutral.cons (h x (List.mem_cons_self ..))
      (ih fun y hy => h y (List.mem_cons_of_mem x hy))

/-- A join of neutral pieces is neutral when the separator is. -/
theorem Neutral.intercalate {sep : List α} {pieces : List (List α)}
    (hsep : Neutral S q sep) (h : ∀ p ∈ pieces, Neutral S q p) :
    Neutral S q (sep.intercalate pieces) := by
  induction pieces with
  | nil => exact Neutral.nil
  | cons p pieces ih =>
    have hp : Neutral S q p := h p (List.mem_cons_self ..)
    have hrest := ih fun r hr => h r (List.mem_cons_of_mem p hr)
    cases pieces with
    | nil => simpa using hp
    | cons p' pieces =>
      rw [List.intercalate_cons_cons]
      exact (hp.append hsep).append hrest

/-! ## Splitting -/

theorem split_of_quiet (h : Quiet S q xs) : split S q xs = [xs] := by
  induction xs generalizing q with
  | nil => rfl
  | cons x xs ih => simp [split, h.1, ih h.2]

/-- The first piece ends at the first cut. -/
theorem split_append_cut (h : Quiet S q xs) (hx : (S (run S q xs) x).2 = true) :
    split S q (xs ++ x :: ys) = xs :: split S (S (run S q xs) x).1 ys := by
  induction xs generalizing q with
  | nil =>
    rw [run_nil] at hx
    simp [split, hx]
  | cons y xs ih => simp [split, h.1, ih h.2 hx]

/-- Splitting a join of neutral pieces gives the pieces back. -/
theorem split_intercalate {pieces : List (List α)} (hne : pieces ≠ [])
    (hx : S q x = (q, true)) (hp : ∀ p ∈ pieces, Neutral S q p) :
    split S q ([x].intercalate pieces) = pieces := by
  induction pieces with
  | nil => exact absurd rfl hne
  | cons p pieces ih =>
    have hpn : Neutral S q p := hp p (List.mem_cons_self ..)
    cases pieces with
    | nil => simpa using split_of_quiet hpn.1
    | cons p' pieces =>
      have hrest := ih (by simp) fun r hr => hp r (List.mem_cons_of_mem p hr)
      rw [List.intercalate_cons_cons, List.append_assoc, List.singleton_append,
        split_append_cut hpn.1 (by rw [hpn.2, hx]), hpn.2, hx, hrest]

/-- A join, as the first piece and every other one after its separator. -/
theorem intercalate_eq_flatMap (x : α) (p : List α) (pieces : List (List α)) :
    [x].intercalate (p :: pieces) = p ++ pieces.flatMap (x :: ·) := by
  induction pieces generalizing p with
  | nil => simp
  | cons p' pieces ih =>
    rw [List.intercalate_cons_cons, ih p', List.flatMap_cons, List.append_assoc]
    rfl

theorem split_ne_nil : split S q xs ≠ [] := by
  induction xs generalizing q with
  | nil => exact List.cons_ne_nil _ _
  | cons y xs ih =>
    rw [split]
    split
    · exact List.cons_ne_nil _ _
    · simpa using ih

/-- The pieces of a text that is cut at one element only, joined by it, are the
text. -/
theorem intercalate_split {x : α} (hcut : ∀ q y, (S q y).2 = true → y = x) :
    [x].intercalate (split S q xs) = xs := by
  induction xs generalizing q with
  | nil => rfl
  | cons y xs ih =>
    have hrest := ih (q := (S q y).1)
    rw [split]
    cases hsplit : split S (S q y).1 xs with
    | nil => exact absurd hsplit split_ne_nil
    | cons p pieces =>
      rw [hsplit] at hrest
      split
      · rename_i hy
        rw [List.intercalate_cons_cons, hrest, hcut q y hy]
        rfl
      · rw [List.modifyHead_cons, ← hrest, intercalate_eq_flatMap,
          intercalate_eq_flatMap, List.cons_append]

/-- A scanner that starts over at its cuts reads each piece without one. -/
theorem quiet_of_mem_split {q₀ : σ}
    (hreset : ∀ q y, (S q y).2 = true → (S q y).1 = q₀) :
    ∀ p ∈ split S q₀ xs, Quiet S q₀ p := by
  -- The first piece may start in another state.
  have hpieces : ∀ q, ∃ p pieces, split S q xs = p :: pieces ∧ Quiet S q p ∧
      ∀ p' ∈ pieces, Quiet S q₀ p' := by
    induction xs with
    | nil => exact fun q => ⟨[], [], rfl, trivial, by simp⟩
    | cons y xs ih =>
      intro q
      obtain ⟨p, pieces, hsplit, hp, hrest⟩ := ih (S q y).1
      rw [split, hsplit]
      cases hy : (S q y).2 with
      | true =>
        rw [hreset q y hy] at hp
        refine ⟨[], p :: pieces, if_pos rfl, trivial, fun p' hp' => ?_⟩
        rcases List.mem_cons.1 hp' with rfl | hp'
        · exact hp
        · exact hrest p' hp'
      | false => exact ⟨y :: p, pieces, if_neg (by simp), ⟨hy, hp⟩, hrest⟩
  obtain ⟨p, pieces, hsplit, hp, hrest⟩ := hpieces q₀
  rw [hsplit]
  exact List.forall_mem_cons.2 ⟨hp, hrest⟩

/-- Joined pieces of the same lengths are the same pieces. -/
theorem intercalate_injective {sep : List α} {ps qs : List (List α)}
    (hlen : ps.map List.length = qs.map List.length)
    (h : sep.intercalate ps = sep.intercalate qs) : ps = qs := by
  induction ps generalizing qs with
  | nil => exact (List.map_eq_nil_iff.1 hlen.symm).symm
  | cons p ps ih =>
    cases qs with
    | nil => cases hlen
    | cons q qs =>
      obtain ⟨hp, hps⟩ := List.cons.inj hlen
      cases ps with
      | nil =>
        obtain rfl := List.map_eq_nil_iff.1 hps.symm
        rw [List.intercalate_singleton, List.intercalate_singleton] at h
        rw [h]
      | cons p' ps =>
        cases qs with
        | nil => cases hps
        | cons q' qs =>
          rw [List.intercalate_cons_cons, List.intercalate_cons_cons] at h
          obtain ⟨hhead, htail⟩ := List.append_inj h (by simp [hp])
          rw [(List.append_inj hhead hp).1, ih hps htail]

theorem mem_of_mem_intercalate {sep : List α} {pieces : List (List α)} {x : α}
    (h : x ∈ sep.intercalate pieces) : x ∈ sep ∨ ∃ p ∈ pieces, x ∈ p := by
  induction pieces with
  | nil => simp at h
  | cons p pieces ih =>
    have hfirst : x ∈ p → x ∈ sep ∨ ∃ r ∈ p :: pieces, x ∈ r :=
      fun hx => Or.inr ⟨p, List.mem_cons_self .., hx⟩
    cases pieces with
    | nil => exact hfirst (by simpa using h)
    | cons p' pieces =>
      rw [List.intercalate_cons_cons, List.mem_append, List.mem_append] at h
      rcases h with (hx | hx) | hx
      · exact hfirst hx
      · exact Or.inl hx
      · rcases ih hx with hx | ⟨r, hr, hx⟩
        · exact Or.inl hx
        · exact Or.inr ⟨r, List.mem_cons_of_mem p hr, hx⟩

theorem mem_intercalate_of_mem {sep p : List α} {pieces : List (List α)} {x : α}
    (hp : p ∈ pieces) (hx : x ∈ p) : x ∈ sep.intercalate pieces := by
  induction pieces with
  | nil => cases hp
  | cons r pieces ih =>
    cases pieces with
    | nil =>
      rw [List.mem_singleton.1 hp] at hx
      simpa using hx
    | cons r' pieces =>
      rw [List.intercalate_cons_cons, List.mem_append, List.mem_append]
      rcases List.mem_cons.1 hp with rfl | hp
      · exact Or.inl (Or.inl hx)
      · exact Or.inr (ih hp)

/-! ## The first cut -/

theorem first_append_cut (h : Quiet S q xs) (hx : (S (run S q xs) x).2 = true) :
    first S q (xs ++ x :: ys) = some (xs, ys) := by
  induction xs generalizing q with
  | nil =>
    rw [run_nil] at hx
    simp [first, hx]
  | cons y xs ih => simp [first, h.1, ih h.2 hx]

/-- What `first` answers is the text around a cut that no other one precedes. -/
theorem first_eq_some_iff {zs : List α} :
    first S q zs = some (xs, ys) ↔
      ∃ x, zs = xs ++ x :: ys ∧ Quiet S q xs ∧ (S (run S q xs) x).2 = true := by
  constructor
  · intro h
    induction zs generalizing q xs with
    | nil => simp [first] at h
    | cons z zs ih =>
      rw [first] at h
      split at h
      · rename_i hz
        obtain ⟨rfl, rfl⟩ := Prod.mk.inj (Option.some.inj h)
        exact ⟨z, rfl, trivial, hz⟩
      · rename_i hz
        obtain ⟨⟨xs', ys'⟩, hrest, hpair⟩ := Option.map_eq_some_iff.1 h
        obtain ⟨rfl, rfl⟩ := Prod.mk.inj hpair
        obtain ⟨x, rfl, hquiet, hcut⟩ := ih hrest
        exact ⟨x, rfl, quiet_cons.2 ⟨by simpa using hz, hquiet⟩, hcut⟩
  · rintro ⟨x, rfl, hquiet, hcut⟩
    exact first_append_cut hquiet hcut

theorem first_eq_none_iff {zs : List α} :
    first S q zs = none ↔ Quiet S q zs := by
  induction zs generalizing q with
  | nil => exact iff_of_true rfl trivial
  | cons z zs ih =>
    rw [first, quiet_cons]
    cases (S q z).2 <;> simp [ih]

/-! ## Quoted strings -/

/-- The scanner reads over quoted strings from `q`: between the quotes it is in
the state `inside`, and after a backslash there in the state `escaped`. -/
structure Quoting (S : Scanner σ Char) (q inside escaped : σ) : Prop where
  opening : S q '"' = (inside, false)
  closing : S inside '"' = (q, false)
  backslash : S inside '\\' = (escaped, false)
  escape : ∀ c, S escaped c = (inside, false)
  other : ∀ c, c ≠ '"' → c ≠ '\\' → S inside c = (inside, false)

/-- A string is neutral when each of its characters is either escaped or needs
no escape. -/
theorem Quoting.neutral {S : Scanner σ Char} {q inside escaped : σ}
    (h : Quoting S q inside escaped) {write : Char → List Char}
    (hwrite : ∀ c, write c = ['\\', c] ∨ write c = [c] ∧ c ≠ '"' ∧ c ≠ '\\')
    (value : List Char) :
    Neutral S q ('"' :: value.flatMap write ++ ['"']) := by
  have hbody : Neutral S inside (value.flatMap write) := by
    induction value with
    | nil => exact Neutral.nil
    | cons c value ih =>
      rw [List.flatMap_cons]
      refine Neutral.append ?_ ih
      rcases hwrite c with hc | ⟨hc, hquote, hbackslash⟩
      · rw [hc]
        refine ⟨⟨?_, ?_, trivial⟩, ?_⟩
        · rw [h.backslash]
        · rw [h.backslash, h.escape]
        · simp only [run_cons, run_nil, h.backslash, h.escape]
      · rw [hc]
        exact Neutral.cons (h.other c hquote hbackslash) Neutral.nil
  refine ⟨?_, ?_⟩
  · rw [List.cons_append, quiet_cons, h.opening, quiet_append, hbody.2]
    exact ⟨rfl, hbody.1, by rw [h.closing], trivial⟩
  · rw [List.cons_append, run_cons, h.opening, run_append, hbody.2, run_cons,
      h.closing, run_nil]

end Scanner

/-! ## The readers as loops over byte offsets -/

section Loops

variable {σ β ε : Type}

/-- The loop that runs a scanner over `value.char_indices()`, hands each piece
`&value[start..idx]` between two cuts to `item`, and collects the results.  The
element cut at is one byte long, so the next piece starts at `idx + 1`. -/
def splitLoop (S : Scanner σ Char) (item : Str → Outcome ε β) (value : Str) :
    List (Nat × Char) → σ → Nat → List β → Outcome ε (List β)
  | [], _, start, parts => do
      let part ← Str.sliceFrom value start
      let b ← item part
      .ok (parts ++ [b])
  | (idx, c) :: rest, q, start, parts =>
      if (S q c).2 then do
        let part ← Str.slice value start idx
        let b ← item part
        splitLoop S item value rest (S q c).1 (idx + 1) (parts ++ [b])
      else
        splitLoop S item value rest (S q c).1 start parts

/-- The loop that runs a scanner over `value.char_indices()` and returns the
offset of the first cut. -/
def findLoop (S : Scanner σ Char) : List (Nat × Char) → σ → Option Nat
  | [], _ => none
  | (idx, c) :: rest, q =>
    if (S q c).2 then some idx else findLoop S rest (S q c).1

private theorem modifyHead_nil_append (l : List Str) :
    l.modifyHead ([] ++ ·) = l := by
  cases l <;> rfl

/-- The invariant of the splitting loop.  `done` is the text before the current
piece, `piece` is what has been read of it, and `rest` is still to be read. -/
private theorem splitLoop_aux (S : Scanner σ Char) (item : Str → Outcome ε β)
    (hcut : ∀ q c, (S q c).2 = true → c.utf8Size = 1) (rest : Str) :
    ∀ (done piece : Str) (q : σ) (parts : List β),
      splitLoop S item (done ++ piece ++ rest)
          (Str.charIndicesFrom (Str.len done + Str.len piece) rest) q
            (Str.len done) parts
        = (parts ++ ·) <$> ((S.split q rest).modifyHead (piece ++ ·)).mapM
          item := by
  induction rest with
  | nil =>
    intro done piece q parts
    simp only [Str.charIndicesFrom, splitLoop, List.append_nil, Scanner.split,
      List.modifyHead_cons, Str.sliceFrom_len_append, Outcome.ok_bind,
      List.mapM_cons, List.mapM_nil]
    cases item piece <;> simp
  | cons c rest ih =>
    intro done piece q parts
    rw [Str.charIndicesFrom, splitLoop, Scanner.split]
    split
    · rename_i hc
      have hlen : Str.len (done ++ piece ++ [c])
          = Str.len done + Str.len piece + 1 := by
        simp [hcut q c hc, Nat.add_assoc]
      have htext : done ++ piece ++ c :: rest = done ++ piece ++ [c] ++ [] ++
          rest := by simp
      have hslice := Str.slice_len_append (ε := ε) done piece (c :: rest)
      rw [hslice, Outcome.ok_bind, hcut q c hc, htext, List.modifyHead_cons,
        List.append_nil piece, List.mapM_cons]
      cases item piece with
      | ok b =>
        have hloop := ih (done ++ piece ++ [c]) [] (S q c).1 (parts ++ [b])
        rw [hlen, modifyHead_nil_append, Str.len_nil, Nat.add_zero] at hloop
        rw [Outcome.ok_bind, Outcome.ok_bind, hloop]
        cases (S.split (S q c).1 rest).mapM item <;> simp
      | err e => rfl
      | panic => rfl
    · have hpiece : Str.len (piece ++ [c]) = Str.len piece + c.utf8Size := by
        simp
      have hloop := ih done (piece ++ [c]) (S q c).1 parts
      simp only [hpiece, ← Nat.add_assoc, List.append_assoc,
        List.singleton_append] at hloop
      simp only [List.append_assoc, hloop, List.modifyHead_modifyHead]
      rfl

/-- The splitting loop computes `split`, and it never panics on its own. -/
theorem splitLoop_eq (S : Scanner σ Char) (item : Str → Outcome ε β)
    (hcut : ∀ q c, (S q c).2 = true → c.utf8Size = 1) (q : σ) (value : Str) :
    splitLoop S item value (Str.charIndices value) q 0 []
      = (S.split q value).mapM item := by
  have h := splitLoop_aux S item hcut value [] [] q []
  rw [modifyHead_nil_append] at h
  rw [Str.charIndices]
  refine h.trans ?_
  cases (S.split q value).mapM item <;> rfl

/-- The search loop computes the byte length of the text before the first
cut. -/
theorem findLoop_eq (S : Scanner σ Char) (q : σ) (i : Nat) (s : Str) :
    findLoop S (Str.charIndicesFrom i s) q = (S.first q s).map fun p =>
      i + Str.len p.1 := by
  induction s generalizing q i with
  | nil => rfl
  | cons c s ih =>
    rw [Str.charIndicesFrom, findLoop, Scanner.first]
    split
    · simp
    · rw [ih]
      cases S.first (S q c).1 s with
      | none => rfl
      | some p => simp [Nat.add_assoc]

end Loops

end Wimsey.Scan
