import Wimsey.RustStd.Str

/-!
# Paths

`std::path::Path` on unix, as far as the name of a file next to another one
needs it: `file_name`, `parent` and `join`.  The reader of components goes from
the back and passes over empty pieces and `.`; a `.` at the front of a path
stays.

`sibling` says that joining a name to the parent of a file gives a sibling of
that file.
-/

namespace Wimsey.RustStd.Path

/-- A component of the body of a path. -/
inductive Component where
  | parentDir
  | normal (name : Str)
deriving DecidableEq, Repr

/-- The text before and after the last `c`. -/
def rsplitOnce (c : Char) : Str → Option (Str × Str)
  | [] => none
  | d :: s =>
    match rsplitOnce c s with
    | some (a, b) => some (d :: a, b)
    | none => if d = c then some ([], s) else none

/-- `Components::parse_single_component`. -/
def parseSingleComponent (piece : Str) : Option Component :=
  if piece = [] ∨ piece = ['.'] then none
  else if piece = ['.', '.'] then some .parentDir
  else some (.normal piece)

/-- The last piece of a body, after the part that is before it. -/
def lastPiece (body : Str) : Str × Str := (rsplitOnce '/' body).getD ([], body)

theorem rsplitOnce_eq_none_iff {c : Char} {s : Str} :
    rsplitOnce c s = none ↔ c ∉ s := by
  induction s with
  | nil => simp [rsplitOnce]
  | cons d s ih =>
    rw [rsplitOnce, List.mem_cons, not_or, ← ih]
    cases rsplitOnce c s with
    | none => by_cases hd : d = c <;> simp [hd, Ne.symm]
    | some p => simp

theorem rsplitOnce_append_cons {c : Char} {s t : Str} (h : c ∉ t) :
    rsplitOnce c (s ++ c :: t) = some (s, t) := by
  induction s with
  | nil =>
    rw [List.nil_append, rsplitOnce, rsplitOnce_eq_none_iff.2 h]
    exact if_pos rfl
  | cons d s ih => rw [List.cons_append, rsplitOnce, ih]

theorem rsplitOnce_eq_some {c : Char} {s a b : Str}
    (h : rsplitOnce c s = some (a, b)) :
    s = a ++ c :: b ∧ c ∉ b := by
  induction s generalizing a with
  | nil => cases h
  | cons d s ih =>
    rw [rsplitOnce] at h
    cases hs : rsplitOnce c s with
    | some p =>
      rw [hs] at h
      obtain ⟨rfl, rfl⟩ := Prod.mk.inj (Option.some.inj h)
      obtain ⟨hsplit, hnot⟩ := ih hs
      exact ⟨by rw [hsplit, List.cons_append], hnot⟩
    | none =>
      rw [hs] at h
      by_cases hd : d = c
      · rw [if_pos hd] at h
        obtain ⟨rfl, rfl⟩ := Prod.mk.inj (Option.some.inj h)
        exact ⟨by rw [hd, List.nil_append], rsplitOnce_eq_none_iff.1 hs⟩
      · rw [if_neg hd] at h
        cases h

theorem lastPiece_append_cons {s t : Str} (h : '/' ∉ t) :
    lastPiece (s ++ '/' :: t) = (s, t) := by
  rw [lastPiece, rsplitOnce_append_cons h, Option.getD_some]

theorem lastPiece_of_not_mem {s : Str} (h : '/' ∉ s) :
    lastPiece s = ([], s) := by
  rw [lastPiece, rsplitOnce_eq_none_iff.2 h, Option.getD_none]

theorem length_lastPiece_lt {body : Str} (h : body ≠ []) :
    (lastPiece body).1.length < body.length := by
  unfold lastPiece
  cases hsplit : rsplitOnce '/' body with
  | none => exact List.length_pos_iff.2 h
  | some p =>
    obtain ⟨hbody, _⟩ := rsplitOnce_eq_some (a := p.1) (b := p.2) hsplit
    rw [Option.getD_some, hbody, List.length_append, List.length_cons]
    omega

/-- `Components::trim_right`: the body without what is passed over at its
back. -/
def trimRight (body : Str) : Str :=
  if _h : body = [] then []
  else if (parseSingleComponent (lastPiece body).2).isSome then body
  else trimRight (lastPiece body).1
termination_by body.length
decreasing_by exact length_lastPiece_lt _h

/-- `Components::next_back`: the last component of a body, after the part that
is before it. -/
def nextBack (body : Str) : Option (Str × Component) :=
  (parseSingleComponent (lastPiece (trimRight body)).2).map
    fun component => ((lastPiece (trimRight body)).1, component)

/-- What stands before the body of a path: the root, or a leading `.`. -/
def front (path : Str) : Str :=
  if path.head? = some '/' then ['/']
  else if path = ['.'] ∨ path.take 2 = ['.', '/'] then ['.']
  else []

/-- The components that the reader goes through. -/
def body (path : Str) : Str := path.drop (front path).length

/-- `Path::file_name`. -/
def fileName (path : Str) : Option Str :=
  match nextBack (body path) with
  | some (_, .normal name) => some name
  | _ => none

/-- `Path::parent`. -/
def parent (path : Str) : Option Str :=
  match nextBack (body path) with
  | some (rest, _) => some (front path ++ trimRight rest)
  | none => if front path = ['.'] then some [] else none

/-- `Path::join`. -/
def join (dir name : Str) : Str :=
  if name.head? = some '/' then name
  else if dir = [] ∨ dir.getLast? = some '/' then dir ++ name
  else dir ++ '/' :: name

@[simp] theorem join_nil (name : Str) : join [] name = name := by
  unfold join
  split_ifs
  · rfl
  · rfl
  · rename_i h
    exact absurd (Or.inl rfl) h

/-! ## What is passed over -/

/-- The last piece of the text is a component. -/
def Trimmed (body : Str) : Prop :=
  body = [] ∨ (parseSingleComponent (lastPiece body).2).isSome = true

theorem trimRight_of_trimmed {body : Str} (h : Trimmed body) :
    trimRight body = body := by
  rw [trimRight]
  split_ifs with hnil hlast
  · exact hnil.symm
  · rfl
  · exact absurd (h.resolve_left hnil) hlast

theorem trimmed_trimRight (body : Str) : Trimmed (trimRight body) := by
  fun_induction trimRight body with
  | case1 => exact Or.inl rfl
  | case2 body _ hlast => exact Or.inr hlast
  | case3 body _ _ ih => exact ih

/-- A body goes on with a separator after the part that is kept. -/
theorem eq_append_of_trimRight {body : Str} (h : trimRight body ≠ []) :
    trimRight body = body ∨ ∃ t, body = trimRight body ++ '/' :: t := by
  fun_induction trimRight body with
  | case1 => exact absurd rfl h
  | case2 body _ _ => exact Or.inl rfl
  | case3 body _ _ ih =>
    right
    cases hsplit : rsplitOnce '/' body with
    | none =>
      have hlast : (lastPiece body).1 = [] := by
        rw [lastPiece, hsplit, Option.getD_none]
      rw [hlast, trimRight_of_trimmed (Or.inl rfl)] at h
      exact absurd rfl h
    | some p =>
      have hlast : (lastPiece body).1 = p.1 := by
        rw [lastPiece, hsplit, Option.getD_some]
      obtain ⟨hbody, _⟩ := rsplitOnce_eq_some (a := p.1) (b := p.2) hsplit
      rw [hlast] at h ih ⊢
      obtain heq | ⟨t, ht⟩ := ih h
      · exact ⟨p.2, by rw [heq, ← hbody]⟩
      · exact ⟨t ++ '/' :: p.2, by
          rw [← List.cons_append, ← List.append_assoc, ← ht, ← hbody]⟩

theorem getLast?_of_trimmed {body : Str} (h : Trimmed body) :
    body.getLast? ≠ some '/' := by
  intro hlast
  obtain ⟨t, ht⟩ := List.getLast?_eq_some_iff.1 hlast
  have hpiece : lastPiece body = (t, []) :=
    ht ▸ lastPiece_append_cons (List.not_mem_nil)
  obtain hnil | hsome := h
  · rw [hnil] at hlast
    cases hlast
  · rw [hpiece] at hsome
    exact Bool.noConfusion hsome

/-! ## Siblings -/

/-- A piece of a path that is a name of its own. -/
structure IsName (name : Str) : Prop where
  noSeparator : '/' ∉ name
  normal : parseSingleComponent name = some (.normal name)

/-- The file name of a path is a name. -/
theorem isName_of_fileName {path name : Str} (h : fileName path = some name) :
    IsName name := by
  unfold fileName at h
  split at h
  case h_2 => cases h
  case h_1 rest name' hback =>
  rw [Option.some.inj h] at hback
  obtain ⟨component, hparse, hrest⟩ := Option.map_eq_some_iff.1 hback
  obtain rfl : component = .normal name := congrArg Prod.snd hrest
  have hpiece : (lastPiece (trimRight (body path))).2 = name := by
    unfold parseSingleComponent at hparse
    split_ifs at hparse
    · cases hparse
    · exact Component.normal.inj (Option.some.inj hparse)
  refine ⟨?_, hpiece ▸ hparse⟩
  rw [← hpiece]
  unfold lastPiece
  cases hsplit : rsplitOnce '/' (trimRight (body path)) with
  | none => exact rsplitOnce_eq_none_iff.1 hsplit
  | some p => exact (rsplitOnce_eq_some (a := p.1) (b := p.2) hsplit).2

/-- A name with something of three characters after it is a name. -/
theorem IsName.append {name suffix : Str} (h : '/' ∉ name)
    (hsuffix : '/' ∉ suffix) (hlength : 3 ≤ suffix.length) :
    IsName (name ++ suffix) where
  noSeparator := by simp [h, hsuffix]
  normal := by
    have hne : ∀ short : Str, short.length ≤ 2 → name ++ suffix ≠ short := by
      rintro short hshort rfl
      rw [List.length_append] at hshort
      omega
    rw [parseSingleComponent,
      if_neg (not_or.2 ⟨hne [] (by decide), hne ['.'] (by decide)⟩),
      if_neg (hne ['.', '.'] (by decide))]

theorem nextBack_append_cons {s name : Str} (h : IsName name) :
    nextBack (s ++ '/' :: name) = some (s, .normal name) := by
  have hlast := lastPiece_append_cons (s := s) h.noSeparator
  have htrim : Trimmed (s ++ '/' :: name) :=
    Or.inr (by rw [hlast, h.normal]; rfl)
  rw [nextBack, trimRight_of_trimmed htrim, hlast, h.normal]
  rfl

theorem nextBack_name {name : Str} (h : IsName name) :
    nextBack name = some ([], .normal name) := by
  have hlast := lastPiece_of_not_mem h.noSeparator
  have htrim : Trimmed name := Or.inr (by rw [hlast, h.normal]; rfl)
  rw [nextBack, trimRight_of_trimmed htrim, hlast, h.normal]
  rfl

theorem IsName.ne_nil {name : Str} (h : IsName name) : name ≠ [] := by
  intro hnil
  have := h.normal
  rw [hnil] at this
  cases this

theorem IsName.head_ne {name : Str} (h : IsName name) : name.head? ≠ some '/' :=
  fun hhead => h.noSeparator (List.mem_of_mem_head? hhead)

/-- What stands before the body shows in the text before a separator. -/
theorem front_append_cons {dir s t : Str} (h : dir ≠ []) :
    front (dir ++ '/' :: s) = front (dir ++ '/' :: t) := by
  cases dir with
  | nil => exact absurd rfl h
  | cons c dir => cases dir <;> simp [front]

theorem front_of_isName {name : Str} (h : IsName name) : front name = [] := by
  have hnormal := h.normal
  have htake : name.take 2 ≠ ['.', '/'] := fun htake =>
    h.noSeparator (List.mem_of_mem_take (htake ▸ by simp : '/' ∈ name.take 2))
  have hdot : name ≠ ['.'] := by
    intro hdot
    rw [hdot] at hnormal
    cases hnormal
  simp [front, h.head_ne, htake, hdot]

/-- The front of a path and its body make up the path. -/
theorem front_append_body (path : Str) : front path ++ body path = path := by
  unfold body front
  split_ifs with hroot hdot
  · obtain ⟨c, s, rfl⟩ :=
      List.exists_cons_of_ne_nil (List.ne_nil_of_mem (List.mem_of_head? hroot))
    simpa using hroot.symm
  · obtain rfl | htake := hdot
    · rfl
    · rw [← List.take_append_drop 2 path, htake]
      rfl
  · rfl

theorem nextBack_nil : nextBack [] = none := by
  rw [nextBack, trimRight_of_trimmed (Or.inl rfl)]
  rfl

/-- The body goes on with a separator after the parent. -/
theorem eq_append_of_nextBack {body rest : Str} {component : Component}
    (h : nextBack body = some (rest, component))
    (hparent : trimRight rest ≠ []) :
    ∃ t, body = trimRight rest ++ '/' :: t := by
  obtain ⟨_, _, hrest⟩ := Option.map_eq_some_iff.1 h
  have hlast : (lastPiece (trimRight body)).1 = rest := congrArg Prod.fst hrest
  have htrim : ∃ t, trimRight body = trimRight rest ++ '/' :: t := by
    unfold lastPiece at hlast
    cases hsplit : rsplitOnce '/' (trimRight body) with
    | none =>
      rw [hsplit, Option.getD_none] at hlast
      rw [← hlast, trimRight_of_trimmed (Or.inl rfl)] at hparent
      exact absurd rfl hparent
    | some p =>
      rw [hsplit, Option.getD_some] at hlast
      obtain ⟨hbody, _⟩ := rsplitOnce_eq_some (a := p.1) (b := p.2) hsplit
      rw [hlast] at hbody
      obtain heq | ⟨t, ht⟩ := eq_append_of_trimRight hparent
      · exact ⟨p.2, by rw [heq, hbody]⟩
      · exact ⟨t ++ '/' :: p.2, by
          rw [← List.cons_append, ← List.append_assoc, ← ht, hbody]⟩
  obtain ⟨t, ht⟩ := htrim
  have hne : trimRight body ≠ [] := by
    rw [ht]
    exact List.append_ne_nil_of_right_ne_nil _ (List.cons_ne_nil _ _)
  obtain heq | ⟨u, hu⟩ := eq_append_of_trimRight hne
  · exact ⟨t, by rw [← ht, heq]⟩
  · exact ⟨t ++
      '/' :: u, by rw [← List.cons_append, ← List.append_assoc, ← ht, ← hu]⟩

/-- A path goes on with a separator after its parent, which is not the root. -/
theorem eq_parent_append {path rest : Str} {component : Component}
    (h : nextBack (body path) = some (rest, component))
    (hdir : front path ++ trimRight rest ≠ [])
    (hroot : front path ++ trimRight rest ≠ ['/']) :
    ∃ t, path = front path ++ trimRight rest ++ '/' :: t := by
  by_cases hparent : trimRight rest = []
  · -- Only a leading `.` is left.
    rw [hparent, List.append_nil] at hdir hroot ⊢
    unfold front at hdir hroot ⊢
    split_ifs at hdir hroot ⊢ with hslash hdot
    · exact absurd rfl hroot
    · obtain hone | htake := hdot
      · have hnone : nextBack (body path) = none := hone ▸ nextBack_nil
        rw [hnone] at h
        cases h
      · refine ⟨path.drop 2, ?_⟩
        calc path = path.take 2 ++ path.drop 2 :=
          (List.take_append_drop 2 path).symm
          _ = ['.'] ++ '/' :: path.drop 2 := by rw [htake]; rfl
    · exact absurd rfl hdir
  · obtain ⟨t, ht⟩ := eq_append_of_nextBack h hparent
    exact ⟨t, by rw [List.append_assoc, ← ht, front_append_body]⟩

theorem fileName_of_nextBack {path rest name : Str}
    (h : nextBack (body path) = some (rest, .normal name)) :
    fileName path = some name := by
  rw [fileName, h]

theorem parent_of_nextBack {path rest : Str} {component : Component}
    (h : nextBack (body path) = some (rest, component)) :
    parent path = some (front path ++ trimRight rest) := by
  rw [parent, h]

theorem exists_nextBack_of_fileName {path name : Str}
    (h : fileName path = some name) :
    ∃ rest, nextBack (body path) = some (rest, .normal name) := by
  unfold fileName at h
  split at h
  case h_1 rest name' hback => exact ⟨rest, by rw [hback, Option.some.inj h]⟩
  case h_2 => cases h

theorem nextBack_body_name {name : Str} (h : IsName name) :
    nextBack (body name) = some ([], .normal name) := by
  rw [body, front_of_isName h]
  exact nextBack_name h

theorem fileName_of_isName {name : Str} (h : IsName name) :
    fileName name = some name :=
  fileName_of_nextBack (nextBack_body_name h)

/-- The root is the only parent that ends with a separator. -/
theorem getLast?_parent {path rest : Str}
    (hroot : front path ++ trimRight rest ≠ ['/']) :
    (front path ++ trimRight rest).getLast? ≠ some '/' := by
  have htrim := getLast?_of_trimmed (trimmed_trimRight rest)
  by_cases hnil : trimRight rest = []
  · rw [hnil, List.append_nil] at hroot ⊢
    unfold front at hroot ⊢
    split_ifs at hroot ⊢
    · exact absurd rfl hroot
    · decide
    · decide
  · rw [List.getLast?_append_of_ne_nil _ hnil]
    exact htrim

/-- Joining a name to the parent of a file gives a sibling of the file. -/
theorem sibling {path name new : Str} (hname : fileName path = some name)
    (hnew : IsName new) :
    ∃ dir, parent path = some dir ∧ fileName (join dir new) = some new ∧
      parent (join dir new) = some dir := by
  obtain ⟨rest, hback⟩ := exists_nextBack_of_fileName hname
  have htrim := trimmed_trimRight rest
  refine ⟨_, parent_of_nextBack hback, ?_⟩
  unfold join
  rw [if_neg hnew.head_ne]
  by_cases hdir : front path ++ trimRight rest = []
  · obtain ⟨hfront, hnil⟩ := List.append_eq_nil_iff.1 hdir
    have hbody := nextBack_body_name hnew
    rw [if_pos (Or.inl hdir), hdir, List.nil_append]
    refine ⟨fileName_of_nextBack hbody, ?_⟩
    rw [parent_of_nextBack hbody, front_of_isName hnew,
      trimRight_of_trimmed (Or.inl rfl)]
    rfl
  by_cases hroot : front path ++ trimRight rest = ['/']
  · have hbody : nextBack (body ('/' :: new)) = some ([], .normal new) :=
      nextBack_name hnew
    rw [if_pos (Or.inr (by rw [hroot]; rfl)), hroot]
    refine ⟨fileName_of_nextBack hbody, ?_⟩
    show parent ('/' :: new) = some ['/']
    rw [parent_of_nextBack hbody, trimRight_of_trimmed (Or.inl rfl)]
    rfl
  · obtain ⟨t, ht⟩ := eq_parent_append hback hdir hroot
    have hfront : front (front path ++ trimRight rest ++ '/' :: new)
        = front path := by
      rw [front_append_cons hdir (t := t), ← ht]
    have hbody : nextBack (body (front path ++ trimRight rest ++ '/' :: new)) =
        some (trimRight rest, .normal new) := by
      rw [body, hfront, List.append_assoc, List.drop_left]
      exact nextBack_append_cons hnew
    rw [if_neg (not_or.2 ⟨hdir, getLast?_parent hroot⟩)]
    refine ⟨fileName_of_nextBack hbody, ?_⟩
    rw [parent_of_nextBack hbody, hfront, trimRight_of_trimmed htrim]

end Wimsey.RustStd.Path
