import Mathlib.Data.List.Nodup
import Wimsey.System.Files

/-!
# Replacing files

The discipline of programs that replace files by way of temporary ones.  Each
program has a `Job`: it writes a content to a new file under a temporary name,
syncs it, and renames it over its target.

The auxiliary state says which program has made a file, which program a
temporary name belongs to from the creation of the file to its end, and in which
order the renames have happened.  `Inv` is the invariant, and there is one lemma
for each step that a program may take: `guarantee_create`, `guarantee_write`,
`guarantee_sync`, `guarantee_rename` and `guarantee_remove`.

Two temporary names may collide, and a temporary name may be the target of
another program.  What is installed is complete even so.  Only the last part,
the order of the replacements, needs that no target is a temporary name
(`Jobs.Clean`).
-/

namespace Wimsey.System

/-- What a program is to do: the content of its target, and the temporary name
if it has one. -/
structure Job (Name : Type) where
  target : Name
  temp : Option Name
  content : List UInt8

/-- The jobs of the programs, with the files that there are before any of them
runs. -/
structure Jobs (Name ι : Type) where
  job : ι → Job Name
  before : Files Name
  temp_ne_target : ∀ i, (job i).temp ≠ some (job i).target

/-- The auxiliary state. -/
structure Owners (Name ι : Type) where
  maker : Nat → Option ι
  holder : Name → Option ι
  replaced : List ι

namespace Owners

/-- Before any program runs. -/
def start {Name ι : Type} : Owners Name ι where
  maker _ := none
  holder _ := none
  replaced := []

variable {Name ι : Type} [DecidableEq Name] {g : Owners Name ι} {i : ι}
  {file file' : Nat} {name name' : Name}

/-- A program has made a file, whose name belongs to it from now on. -/
def make (g : Owners Name ι) (i : ι) (file : Nat) (name : Name) :
    Owners Name ι :=
  { g with
    maker := Function.update g.maker file (some i)
    holder := Function.update g.holder name (some i) }

/-- The name belongs to no one any more. -/
def release (g : Owners Name ι) (name : Name) : Owners Name ι :=
  { g with holder := Function.update g.holder name none }

/-- The program has replaced its target. -/
def replace (g : Owners Name ι) (i : ι) : Owners Name ι :=
  { g with replaced := g.replaced ++ [i] }

@[simp] theorem maker_make_self : (g.make i file name).maker file = some i :=
  Function.update_self ..

theorem maker_make_of_ne (h : file' ≠ file) :
    (g.make i file name).maker file' = g.maker file' :=
  Function.update_of_ne h ..

@[simp] theorem holder_make_self : (g.make i file name).holder name = some i :=
  Function.update_self ..

theorem holder_make_of_ne (h : name' ≠ name) :
    (g.make i file name).holder name' = g.holder name' :=
  Function.update_of_ne h ..

/-- Who has made a file, after one more has been made. -/
theorem maker_make_eq_some {k : ι}
    (h : (g.make i file name).maker file' = some k) :
    file' = file ∧ k = i ∨ file' ≠ file ∧ g.maker file' = some k := by
  by_cases hfile : file' = file
  · subst hfile
    rw [maker_make_self] at h
    exact Or.inl ⟨rfl, (Option.some.inj h).symm⟩
  · rw [maker_make_of_ne hfile] at h
    exact Or.inr ⟨hfile, h⟩

/-- Who a name belongs to, after a file has been made. -/
theorem holder_make_eq_some {k : ι}
    (h : (g.make i file name).holder name' = some k) :
    name' = name ∧ k = i ∨ name' ≠ name ∧ g.holder name' = some k := by
  by_cases hname : name' = name
  · subst hname
    rw [holder_make_self] at h
    exact Or.inl ⟨rfl, (Option.some.inj h).symm⟩
  · rw [holder_make_of_ne hname] at h
    exact Or.inr ⟨hname, h⟩

@[simp] theorem maker_release : (g.release name).maker = g.maker := rfl

@[simp] theorem replaced_release : (g.release name).replaced = g.replaced := rfl

@[simp] theorem holder_release_self : (g.release name).holder name = none :=
  Function.update_self ..

theorem holder_release_of_ne (h : name' ≠ name) :
    (g.release name).holder name' = g.holder name' :=
  Function.update_of_ne h ..

/-- What belongs to someone after a name has been released. -/
theorem holder_release_eq_some_iff :
    (g.release name).holder name' = some i ↔ name' ≠ name ∧
    g.holder name' = some i := by
  by_cases h : name' = name
  · subst h
    simp
  · rw [holder_release_of_ne h]
    exact (and_iff_right h).symm

omit [DecidableEq Name] in
@[simp] theorem maker_replace : (g.replace i).maker = g.maker := rfl

omit [DecidableEq Name] in
@[simp] theorem holder_replace : (g.replace i).holder = g.holder := rfl

omit [DecidableEq Name] in
@[simp] theorem replaced_replace :
    (g.replace i).replaced = g.replaced ++ [i] := rfl

end Owners

namespace Jobs

variable {Name ι : Type} [DecidableEq Name] (jobs : Jobs Name ι)

/-- No target is a temporary name. -/
def Clean : Prop := ∀ i k, (jobs.job k).temp ≠ some (jobs.job i).target

/-- The file was there before. -/
def IsOld (file : Nat) : Prop := file < jobs.before.next

/-- The whole content of a job has reached the disk. -/
def IsComplete (inode : Inode) : Prop :=
  inode.synced = true ∧ ∃ i, inode.content = (jobs.job i).content

/-- The content of a name after the replacements of a list. -/
def replay (replaced : List ι) (name : Name) : Option (List UInt8) :=
  replaced.foldl
    (fun content i => if (jobs.job i).target = name
      then some (jobs.job i).content else content)
    (jobs.before.contentOf name)

theorem replay_append (replaced : List ι) (i : ι) (name : Name) :
    jobs.replay (replaced ++ [i]) name =
      if (jobs.job i).target = name then some (jobs.job i).content
      else jobs.replay replaced name := by
  simp [replay]

/-! ## The discipline -/

/-- What a name stands for: a file from before, which no program has touched, a
complete one, or the file of the program that the name belongs to. -/
inductive EntryOk (s : Files Name) (g : Owners Name ι) (name : Name)
    (file : Nat) : Prop
  | old (isOld : jobs.IsOld file) (same : jobs.before.entry name = some file)
      (free : g.holder name = none)
  | complete (isNew : ¬jobs.IsOld file) (whole : jobs.IsComplete (s.inode file))
  | temporary (i : ι) (isNew : ¬jobs.IsOld file)
      (holds : g.holder name = some i) (makes : g.maker file = some i)

/-- What holds at any time. -/
structure Inv (s : Files Name) (g : Owners Name ι) : Prop where
  grown : jobs.before.next ≤ s.next
  old : ∀ file, jobs.IsOld file → s.inode file = jobs.before.inode file
  isPrivate : ∀ file, ¬jobs.IsOld file → file < s.next →
    (s.inode file).mode.IsPrivate
  made : ∀ file i, g.maker file = some i → ¬jobs.IsOld file ∧ file < s.next
  makes_one : ∀ file file' i, g.maker file = some i → g.maker file' = some i →
    file = file'
  held : ∀ name i, g.holder name = some i → (jobs.job i).temp = some name ∧
    s.entry name ≠ none
  entries : ∀ name file, s.entry name = some file → jobs.EntryOk s g name file
  one_name : ∀ name name' file, ¬jobs.IsOld file → s.entry name = some file →
    s.entry name' = some file → name = name'
  nodup : g.replaced.Nodup
  view : jobs.Clean → ∀ name, (∀ k, (jobs.job k).temp ≠ some name) →
    s.contentOf name = jobs.replay g.replaced name

/-- What every step keeps. -/
structure Keeps (s : Files Name) (g : Owners Name ι) (s' : Files Name)
    (g' : Owners Name ι) : Prop where
  grows : s.next ≤ s'.next
  synced : ∀ file, file < s.next → (s.inode file).synced = true →
    s'.inode file = s.inode file
  replaced : g.replaced <+: g'.replaced

/-- What a program relies on about the steps of the others. -/
structure Rely (i : ι) (s : Files Name) (g : Owners Name ι) (s' : Files Name)
    (g' : Owners Name ι) : Prop where
  maker : ∀ file, g'.maker file = some i ↔ g.maker file = some i
  inode : ∀ file, g.maker file = some i → s'.inode file = s.inode file
  holder : ∀ name, g'.holder name = some i ↔ g.holder name = some i
  entry : jobs.Clean → ∀ name, g.holder name = some i →
    s'.entry name = s.entry name
  replaced : i ∈ g'.replaced ↔ i ∈ g.replaced

section

variable {s₁ s₂ s₃ : Files Name} {g₁ g₂ g₃ : Owners Name ι}

omit [DecidableEq Name] in
theorem Keeps.trans (h : Keeps s₁ g₁ s₂ g₂) (h' : Keeps s₂ g₂ s₃ g₃) :
    Keeps s₁ g₁ s₃ g₃ where
  grows := Nat.le_trans h.grows h'.grows
  synced file hlt hsynced := by
    have heq := h.synced file hlt hsynced
    have := h.grows
    rw [← heq]
    exact h'.synced file (by omega) (by rwa [heq])
  replaced := h.replaced.trans h'.replaced

omit [DecidableEq Name] in
variable {jobs} in
theorem Rely.trans {i : ι} (h : jobs.Rely i s₁ g₁ s₂ g₂)
    (h' : jobs.Rely i s₂ g₂ s₃ g₃) :
    jobs.Rely i s₁ g₁ s₃ g₃ where
  maker file := (h'.maker file).trans (h.maker file)
  inode file hfile := by
    rw [h'.inode file ((h.maker file).2 hfile), h.inode file hfile]
  holder name := (h'.holder name).trans (h.holder name)
  entry hclean name hname := by
    rw [h'.entry hclean name ((h.holder name).2 hname),
      h.entry hclean name hname]
  replaced := h'.replaced.trans h.replaced

end

/-- The discipline of the programs. -/
def discipline : Discipline (Files Name) (Owners Name ι) ι where
  inv w := jobs.Inv w.1 w.2
  keeps w w' := Keeps w.1 w.2 w'.1 w'.2
  rely i w w' := jobs.Rely i w.1 w.2 w'.1 w'.2
  keeps_refl _ := ⟨Nat.le_refl _, fun _ _ _ => rfl, List.prefix_rfl⟩
  keeps_trans := Keeps.trans
  rely_refl _ _ :=
    ⟨fun _ => Iff.rfl, fun _ _ => rfl, fun _ => Iff.rfl,
      fun _ _ _ => rfl, Iff.rfl⟩
  rely_trans := Rely.trans

/-! ## The steps of a program -/

section Steps

variable {jobs} {i : ι} {s : Files Name} {g : Owners Name ι} {temp : Name}
  {file : Nat}

/-- A file that is not complete has no name but the one that belongs to its
program. -/
theorem Inv.holder_of_entry (h : jobs.Inv s g) {name : Name}
    (hnew : ¬jobs.IsOld file) (hsynced : (s.inode file).synced = false)
    (hentry : s.entry name = some file) :
    ∃ k, (jobs.job k).temp = some name ∧ g.holder name = some k ∧
    g.maker file = some k := by
  cases h.entries name file hentry with
  | old isOld => exact absurd isOld hnew
  | complete _ whole => exact absurd (hsynced ▸ whole.1) Bool.false_ne_true
  | temporary k _ holds makes =>
    exact ⟨k, (h.held name k holds).1, holds, makes⟩

/-- A step that changes nothing. -/
theorem guarantee_refl (h : jobs.Inv s g) :
    jobs.discipline.Guarantee i (s, g) (s, g) where
  inv := h
  keeps := jobs.discipline.keeps_refl _
  rely j _ := jobs.discipline.rely_refl j _

/-- A name without an entry belongs to no one. -/
theorem Inv.holder_eq_none (h : jobs.Inv s g) {name : Name}
    (hnone : s.entry name = none) :
    g.holder name = none := by
  cases hholder : g.holder name with
  | none => rfl
  | some k => exact absurd hnone (h.held name k hholder).2

/-- The file that is made next is no program's file yet. -/
theorem Inv.maker_next (h : jobs.Inv s g) : g.maker s.next = none := by
  cases hmaker : g.maker s.next with
  | none => rfl
  | some k => exact absurd (h.made _ k hmaker).2 (Nat.lt_irrefl _)

section Create

variable {mode : Mode}

/-- What the names stand for after the program has made its file. -/
theorem Inv.entryOk_create (h : jobs.Inv s g) {name : Name}
    (hentry : (s.create temp mode).entry name = some file) :
    jobs.EntryOk (s.create temp mode) (g.make i s.next temp) name file := by
  have hgrown := h.grown
  obtain ⟨rfl, rfl⟩ | ⟨hname, hlt, hentry⟩ := Files.entry_create_eq_some hentry
  · exact .temporary i (Nat.not_lt.2 hgrown) Owners.holder_make_self
      Owners.maker_make_self
  · cases h.entries name file hentry with
    | old isOld same free =>
      exact .old isOld same (by rw [Owners.holder_make_of_ne hname, free])
    | complete isNew whole =>
      exact .complete isNew (by rwa [Files.inode_create_of_lt hlt])
    | temporary k isNew holds makes =>
      exact .temporary k isNew (by rw [Owners.holder_make_of_ne hname, holds])
        (by rw [Owners.maker_make_of_ne (Nat.ne_of_lt hlt), makes])

/-- A program has made one file at most, also after it has made its file. -/
theorem Inv.makes_one_create (h : jobs.Inv s g)
    (hfresh : ∀ file, g.maker file ≠ some i) {file file' : Nat} {k : ι}
    (hmaker : (g.make i s.next temp).maker file = some k)
    (hmaker' : (g.make i s.next temp).maker file' = some k) : file = file' := by
  obtain ⟨rfl, rfl⟩ | ⟨_, hmaker⟩ := Owners.maker_make_eq_some hmaker <;>
  obtain ⟨rfl, hk⟩ | ⟨_, hmaker'⟩ := Owners.maker_make_eq_some hmaker'
  · rfl
  · exact absurd hmaker' (hfresh file')
  · exact absurd (hk ▸ hmaker) (hfresh file)
  · exact h.makes_one file file' k hmaker hmaker'

/-- A new file has one name at most, also after the program has made its
file. -/
theorem Inv.one_name_create (h : jobs.Inv s g) {name name' : Name}
    (hnew : ¬jobs.IsOld file)
    (hentry : (s.create temp mode).entry name = some file)
    (hentry' : (s.create temp mode).entry name' = some file) :
    name = name' := by
  obtain ⟨rfl, rfl⟩ | ⟨_, hlt, hentry⟩ := Files.entry_create_eq_some hentry <;>
  obtain ⟨rfl, hfile⟩ | ⟨_, hlt', hentry'⟩ := Files.entry_create_eq_some hentry'
  · rfl
  · exact absurd hlt' (Nat.lt_irrefl _)
  · exact absurd (hfile ▸ hlt) (Nat.lt_irrefl _)
  · exact h.one_name name name' file hnew hentry hentry'

omit [DecidableEq Name] in
/-- A name other than that of the new file keeps its content. -/
theorem contentOf_create [DecidableEq Name] {name : Name} (hne : name ≠ temp) :
    (s.create temp mode).contentOf name = s.contentOf name := by
  unfold Files.contentOf
  rw [Files.entry_create_of_ne hne]
  cases hentry : s.entry name with
  | none => rfl
  | some file =>
    rw [Option.map_some, Option.map_some,
      Files.inode_create_of_lt (s.allocated hentry)]

/-- The invariant after the program has made its file. -/
theorem Inv.create (h : jobs.Inv s g) (htemp : (jobs.job i).temp = some temp)
    (hmode : mode.IsPrivate) (hfresh : ∀ file, g.maker file ≠ some i) :
    jobs.Inv (s.create temp mode) (g.make i s.next temp) where
  grown := Nat.le_succ_of_le h.grown
  old file hold := by
    rw [Files.inode_create_of_lt (Nat.lt_of_lt_of_le hold h.grown)]
    exact h.old file hold
  isPrivate file hnew hlt := by
    rcases Nat.lt_succ_iff_lt_or_eq.1 hlt with hlt | rfl
    · rw [Files.inode_create_of_lt hlt]
      exact h.isPrivate file hnew hlt
    · rw [Files.inode_create_self]
      exact hmode
  made file k hmaker := by
    obtain ⟨rfl, _⟩ | ⟨_, hmaker⟩ := Owners.maker_make_eq_some hmaker
    · exact ⟨Nat.not_lt.2 h.grown, Nat.lt_succ_self _⟩
    · obtain ⟨hnew, hlt⟩ := h.made file k hmaker
      exact ⟨hnew, Nat.lt_succ_of_lt hlt⟩
  makes_one _ _ _ := h.makes_one_create hfresh
  held name k hholder := by
    obtain ⟨rfl, rfl⟩ | ⟨hname, hholder⟩ := Owners.holder_make_eq_some hholder
    · rw [Files.entry_create_self]
      exact ⟨htemp, Option.some_ne_none _⟩
    · rw [Files.entry_create_of_ne hname]
      exact h.held name k hholder
  entries _ _ := h.entryOk_create
  one_name _ _ _ := h.one_name_create
  nodup := h.nodup
  view hclean name hname := by
    have hne : name ≠ temp := fun heq => hname i (heq ▸ htemp)
    rw [contentOf_create hne]
    exact h.view hclean name hname

end Create

/-- The program makes its file, whose name belongs to it from now on. -/
theorem guarantee_create {mode : Mode} (h : jobs.Inv s g)
    (htemp : (jobs.job i).temp = some temp) (hnone : s.entry temp = none)
    (hmode : mode.IsPrivate) (hfresh : ∀ file, g.maker file ≠ some i) :
    jobs.discipline.Guarantee i (s, g)
      (s.create temp mode, g.make i s.next temp) where
  inv := h.create htemp hmode hfresh
  keeps :=
    ⟨Nat.le_succ _, fun file hlt _ => Files.inode_create_of_lt hlt,
      List.prefix_rfl⟩
  rely k hk :=
    { maker := fun file => by
        by_cases hfile : file = s.next
        · subst hfile
          show (g.make i s.next temp).maker s.next = some k ↔
            g.maker s.next = some k
          rw [Owners.maker_make_self, h.maker_next]
          simp [hk.symm]
        · show (g.make i s.next temp).maker file = some k ↔
            g.maker file = some k
          rw [Owners.maker_make_of_ne hfile]
      inode :=
        fun file hmaker => Files.inode_create_of_lt (h.made file k hmaker).2
      holder := fun name => by
        show (g.make i s.next temp).holder name = some k ↔
          g.holder name = some k
        by_cases hname : name = temp
        · subst hname
          rw [Owners.holder_make_self, h.holder_eq_none hnone]
          simp [hk.symm]
        · rw [Owners.holder_make_of_ne hname]
      entry := fun _ name hholder => by
        have hne : name ≠ temp :=
          fun heq => (h.held name k hholder).2 (heq ▸ hnone)
        exact Files.entry_create_of_ne hne
      replaced := Iff.rfl }

/-- The program changes its file, which has not reached the disk, and so that it
is complete when it does. -/
theorem guarantee_modify {f : Inode → Inode} (h : jobs.Inv s g)
    (hmaker : g.maker file = some i) (hsynced : (s.inode file).synced = false)
    (hmode : (f (s.inode file)).mode = (s.inode file).mode)
    (hwhole : (f (s.inode file)).synced = true →
      jobs.IsComplete (f (s.inode file))) :
    jobs.discipline.Guarantee i (s, g) (s.modify file f, g) := by
  obtain ⟨hnew, hlt⟩ := h.made file i hmaker
  have hother :=
    fun file' (hne : file' ≠ file) =>
      Files.inode_modify_of_ne (s := s) (f := f) hne
  refine ⟨?inv, ⟨Nat.le_refl _, ?_, List.prefix_rfl⟩, fun k hk => ?rely⟩
  case inv =>
    exact
    { grown := h.grown
      old := fun file' hold => by
        rw [hother file' (fun heq => hnew (heq ▸ hold)), h.old file' hold]
      isPrivate := fun file' hnew' hlt' => by
        by_cases hfile : file' = file
        · rw [hfile, Files.inode_modify_self, hmode]
          exact h.isPrivate file hnew hlt
        · rw [hother file' hfile]
          exact h.isPrivate file' hnew' hlt'
      made := h.made
      makes_one := h.makes_one
      held := h.held
      entries := fun name file' hentry => by
        by_cases hfile : file' = file
        · obtain ⟨k, _, holds, makes⟩ :=
            h.holder_of_entry hnew hsynced (hfile ▸ hentry)
          exact .temporary k (hfile ▸ hnew) holds (hfile ▸ makes)
        · cases h.entries name file' hentry with
          | old isOld same free => exact .old isOld same free
          | complete isNew whole =>
            exact .complete isNew (by rwa [hother file' hfile])
          | temporary k isNew holds makes =>
            exact .temporary k isNew holds makes
      one_name := h.one_name
      nodup := h.nodup
      view := fun hclean name hname => by
        rw [← h.view hclean name hname]
        unfold Files.contentOf
        rw [Files.entry_modify]
        cases hentry : s.entry name with
        | none => rfl
        | some file' =>
          have hne : file' ≠ file := by
            intro heq
            obtain ⟨k, htemp, _⟩ :=
              h.holder_of_entry hnew hsynced (heq ▸ hentry)
            exact hname k htemp
          rw [Option.map_some, Option.map_some, hother file' hne] }
  case rely =>
    refine ⟨fun _ => Iff.rfl, fun file' hmaker' => hother file' ?_,
      fun _ => Iff.rfl, fun _ _ _ => rfl, Iff.rfl⟩
    rintro rfl
    exact hk (Option.some.inj (hmaker'.symm.trans hmaker))
  · intro file' _ hsynced'
    refine hother file' ?_
    rintro rfl
    exact absurd (hsynced.symm.trans hsynced') Bool.false_ne_true

/-- Releasing a name of the program takes nothing away from another one. -/
theorem holder_release_iff {k : ι} (hk : k ≠ i)
    (hholder : g.holder temp = some i) (name : Name) :
    (g.release temp).holder name = some k ↔ g.holder name = some k := by
  rw [Owners.holder_release_eq_some_iff, and_iff_right_iff_imp]
  rintro hname rfl
  exact hk (Option.some.inj (hname.symm.trans hholder))

/-- The invariant after the program has removed its temporary name. -/
theorem Inv.remove (h : jobs.Inv s g) (hholder : g.holder temp = some i) :
    jobs.Inv (s.remove temp) (g.release temp) where
  grown := h.grown
  old := h.old
  isPrivate := h.isPrivate
  made := h.made
  makes_one := h.makes_one
  held name k hholder' := by
    obtain ⟨hne, hholder'⟩ := Owners.holder_release_eq_some_iff.1 hholder'
    rw [Files.entry_remove_of_ne hne]
    exact h.held name k hholder'
  entries name file hentry := by
    by_cases hne : name = temp
    · rw [hne, Files.entry_remove_self] at hentry
      cases hentry
    rw [Files.entry_remove_of_ne hne] at hentry
    cases h.entries name file hentry with
    | old isOld same free =>
      exact .old isOld same (by rw [Owners.holder_release_of_ne hne, free])
    | complete isNew whole => exact .complete isNew whole
    | temporary k isNew holds makes =>
      exact .temporary k isNew
        (by rw [Owners.holder_release_of_ne hne, holds]) makes
  one_name name name' file hnew hentry hentry' := by
    by_cases hne : name = temp
    · rw [hne, Files.entry_remove_self] at hentry
      cases hentry
    by_cases hne' : name' = temp
    · rw [hne', Files.entry_remove_self] at hentry'
      cases hentry'
    rw [Files.entry_remove_of_ne hne] at hentry
    rw [Files.entry_remove_of_ne hne'] at hentry'
    exact h.one_name name name' file hnew hentry hentry'
  nodup := h.nodup
  view hclean name hname := by
    have hne : name ≠ temp :=
      fun heq => hname i (heq ▸ (h.held temp i hholder).1)
    show _ = jobs.replay g.replaced name
    rw [← h.view hclean name hname]
    unfold Files.contentOf
    rw [Files.entry_remove_of_ne hne, Files.inode_remove]

/-- The program removes its temporary name. -/
theorem guarantee_remove (h : jobs.Inv s g) (hholder : g.holder temp = some i) :
    jobs.discipline.Guarantee i (s, g) (s.remove temp, g.release temp) where
  inv := h.remove hholder
  keeps := ⟨Nat.le_refl _, fun _ _ _ => rfl, List.prefix_rfl⟩
  rely k hk :=
    { maker := fun _ => Iff.rfl
      inode := fun _ _ => rfl
      holder := holder_release_iff hk hholder
      entry := fun _ name hholder' =>
        have hne : name ≠ temp := by
          rintro rfl
          exact hk (Option.some.inj (hholder'.symm.trans hholder))
        Files.entry_remove_of_ne hne
      replaced := Iff.rfl }

/-- What the temporary name of a program with a complete file stands for is
complete, whoever has made it. -/
theorem Inv.complete_of_entry (h : jobs.Inv s g)
    (hholder : g.holder temp = some i) (hmaker : g.maker file = some i)
    (hwhole : jobs.IsComplete (s.inode file)) {file' : Nat}
    (hentry : s.entry temp = some file') :
    ¬jobs.IsOld file' ∧ jobs.IsComplete (s.inode file') := by
  cases h.entries temp file' hentry with
  | old _ _ free =>
    rw [hholder] at free
    cases free
  | complete isNew whole => exact ⟨isNew, whole⟩
  | temporary k isNew holds makes =>
    obtain rfl := Option.some.inj (hholder.symm.trans holds)
    obtain rfl := h.makes_one file' file i makes hmaker
    exact ⟨isNew, hwhole⟩

/-- A temporary name and its target are not names of one file. -/
theorem Inv.entry_ne (h : jobs.Inv s g) (hholder : g.holder temp = some i) :
    s.entry temp ≠ s.entry (jobs.job i).target := by
  intro heq
  obtain ⟨htemp, hne⟩ := h.held temp i hholder
  obtain ⟨file, hfile⟩ := Option.ne_none_iff_exists'.1 hne
  have hnew : ¬jobs.IsOld file := by
    cases h.entries temp file hfile with
    | old _ _ free =>
      rw [hholder] at free
      cases free
    | complete isNew _ => exact isNew
    | temporary _ isNew _ _ => exact isNew
  have hname := h.one_name temp _ file hnew hfile (heq ▸ hfile)
  exact jobs.temp_ne_target i (hname ▸ htemp)

/-- The invariant after the program has renamed its file over the target. -/
theorem Inv.rename (h : jobs.Inv s g) (hholder : g.holder temp = some i)
    (hmaker : g.maker file = some i) (hsynced : (s.inode file).synced = true)
    (hcontent : (s.inode file).content = (jobs.job i).content)
    (hentry : jobs.Clean → s.entry temp = some file)
    (hreplaced : i ∉ g.replaced) :
    jobs.Inv (s.rename temp (jobs.job i).target)
      ((g.release temp).replace i) where
  grown := h.grown
  old := h.old
  isPrivate := h.isPrivate
  made := h.made
  makes_one := h.makes_one
  held name k hholder' := by
    obtain ⟨hne, hholder'⟩ := Owners.holder_release_eq_some_iff.1 hholder'
    obtain ⟨htemp, hsome⟩ := h.held name k hholder'
    refine ⟨htemp, ?_⟩
    by_cases htarget : name = (jobs.job i).target
    · rw [htarget, Files.entry_rename_target (htarget ▸ hne)]
      exact (h.held temp i hholder).2
    · rwa [Files.entry_rename_of_ne hne htarget]
  entries name file' hentry' := by
    obtain ⟨hne, ⟨_, hfile⟩ | ⟨_, hfile⟩⟩ :=
      Files.entry_rename_eq_some (h.entry_ne hholder) hentry'
    · obtain ⟨hnew, hwhole⟩ :=
        h.complete_of_entry hholder hmaker ⟨hsynced, i, hcontent⟩ hfile
      exact .complete hnew hwhole
    · cases h.entries name file' hfile with
      | old isOld same free =>
        exact .old isOld same ((Owners.holder_release_of_ne hne).trans free)
      | complete isNew whole => exact .complete isNew whole
      | temporary k isNew holds makes =>
        exact .temporary k isNew
          ((Owners.holder_release_of_ne hne).trans holds) makes
  one_name name name' file' hnew hentry₁ hentry₂ := by
    obtain ⟨hne₁, ⟨htarget₁, hfile₁⟩ | ⟨_, hfile₁⟩⟩ :=
      Files.entry_rename_eq_some (h.entry_ne hholder) hentry₁ <;>
    obtain ⟨hne₂, ⟨htarget₂, hfile₂⟩ | ⟨_, hfile₂⟩⟩ :=
      Files.entry_rename_eq_some (h.entry_ne hholder) hentry₂
    · rw [htarget₁, htarget₂]
    · exact absurd (h.one_name name' temp file' hnew hfile₂ hfile₁) hne₂
    · exact absurd (h.one_name name temp file' hnew hfile₁ hfile₂) hne₁
    · exact h.one_name name name' file' hnew hfile₁ hfile₂
  nodup := by
    show (g.replaced ++ [i]).Nodup
    exact h.nodup.append (List.nodup_singleton i) (by simpa using hreplaced)
  view hclean name hname := by
    have hne : name ≠ temp :=
      fun heq => hname i (heq ▸ (h.held temp i hholder).1)
    show _ = jobs.replay (g.replaced ++ [i]) name
    rw [replay_append]
    by_cases htarget : name = (jobs.job i).target
    · rw [if_pos htarget.symm]
      unfold Files.contentOf
      rw [htarget, Files.entry_rename_target (htarget ▸ hne), hentry hclean,
        Option.map_some, Files.inode_rename, hcontent]
    · rw [if_neg (Ne.symm htarget), ← h.view hclean name hname]
      unfold Files.contentOf
      rw [Files.entry_rename_of_ne hne htarget, Files.inode_rename]

/-- The program renames its file over the target. -/
theorem guarantee_rename (h : jobs.Inv s g) (hholder : g.holder temp = some i)
    (hmaker : g.maker file = some i) (hsynced : (s.inode file).synced = true)
    (hcontent : (s.inode file).content = (jobs.job i).content)
    (hentry : jobs.Clean → s.entry temp = some file)
    (hreplaced : i ∉ g.replaced) :
    jobs.discipline.Guarantee i (s, g)
      (s.rename temp (jobs.job i).target, (g.release temp).replace i) where
  inv := h.rename hholder hmaker hsynced hcontent hentry hreplaced
  keeps := ⟨Nat.le_refl _, fun _ _ _ => rfl, List.prefix_append ..⟩
  rely k hk :=
    { maker := fun _ => Iff.rfl
      inode := fun _ _ => rfl
      holder := holder_release_iff hk hholder
      entry := fun hclean name hholder' =>
        have hne : name ≠ temp := by
          rintro rfl
          exact hk (Option.some.inj (hholder'.symm.trans hholder))
        have htarget : name ≠ (jobs.job i).target := by
          rintro rfl
          exact hclean i k (h.held _ k hholder').1
        Files.entry_rename_of_ne hne htarget
      replaced := by
        show k ∈ g.replaced ++ [i] ↔ k ∈ g.replaced
        simp [hk] }

end Steps

/-! ## Rules for the operations -/

/-- The program has made no file. -/
structure Idle (i : ι) (g : Owners Name ι) : Prop where
  maker : ∀ file, g.maker file ≠ some i
  holder : ∀ name, g.holder name ≠ some i
  replaced : i ∉ g.replaced

/-- The program has a file under its temporary name. -/
structure Owns (i : ι) (temp : Name) (file : Nat) (content : List UInt8)
    (synced : Bool) (s : Files Name) (g : Owners Name ι) : Prop where
  holder : g.holder temp = some i
  maker : g.maker file = some i
  content : (s.inode file).content = content
  synced : (s.inode file).synced = synced
  entry : jobs.Clean → s.entry temp = some file
  replaced : i ∉ g.replaced

/-- The program has replaced its target and has left nothing behind. -/
structure Replaced (i : ι) (g : Owners Name ι) : Prop where
  replaced : i ∈ g.replaced
  holder : ∀ name, g.holder name ≠ some i

/-- The program has not replaced its target, and has left nothing behind unless
`stays`: its temporary file could not be removed. -/
structure Failed (stays : Prop) (i : ι) (g : Owners Name ι) : Prop where
  replaced : i ∉ g.replaced
  holder : ∀ name, g.holder name = some i → stays

section Rules

variable {jobs} {i : ι} {s s' : Files Name} {g g' : Owners Name ι} {temp : Name}
  {file : Nat} {content : List UInt8} {synced : Bool} {stays : Prop}

omit [DecidableEq Name] in
theorem Idle.of_rely (h : Idle i g) (hrely : jobs.Rely i s g s' g') :
    Idle i g' where
  maker file hmaker := h.maker file ((hrely.maker file).1 hmaker)
  holder name hholder := h.holder name ((hrely.holder name).1 hholder)
  replaced hmem := h.replaced (hrely.replaced.1 hmem)

omit [DecidableEq Name] in
theorem Owns.of_rely (h : jobs.Owns i temp file content synced s g)
    (hrely : jobs.Rely i s g s' g') :
    jobs.Owns i temp file content synced s' g' where
  holder := (hrely.holder temp).2 h.holder
  maker := (hrely.maker file).2 h.maker
  content := by rw [hrely.inode file h.maker, h.content]
  synced := by rw [hrely.inode file h.maker, h.synced]
  entry hclean := by rw [hrely.entry hclean temp h.holder, h.entry hclean]
  replaced hmem := h.replaced (hrely.replaced.1 hmem)

omit [DecidableEq Name] in
theorem Replaced.of_rely (h : Replaced i g) (hrely : jobs.Rely i s g s' g') :
    Replaced i g' where
  replaced := hrely.replaced.2 h.replaced
  holder name hholder := h.holder name ((hrely.holder name).1 hholder)

omit [DecidableEq Name] in
theorem Failed.of_rely (h : Failed stays i g) (hrely : jobs.Rely i s g s' g') :
    Failed stays i g' where
  replaced hmem := h.replaced (hrely.replaced.1 hmem)
  holder name hholder := h.holder name ((hrely.holder name).1 hholder)

omit [DecidableEq Name] in
theorem Idle.failed (h : Idle i g) : Failed stays i g :=
  ⟨h.replaced, fun name hholder => absurd hholder (h.holder name)⟩

variable {Path ε α : Type} {resolve : Path → Name} {umask : Mode}
  {mayFail : FileOp Path → Prop} {post : α → Files Name × Owners Name ι → Prop}

/-- Opening a new file under the temporary name. -/
theorem follows_create {path : Path} {mode : Mode}
    {next : Except ε Nat → Program (FileOp Path) (FileOp.Reply ε) α}
    (htemp : (jobs.job i).temp = some (resolve path)) (hmode : mode.IsPrivate)
    (h : Idle i g) (hok : ∀ file s g, jobs.Inv s g →
      jobs.Owns i (resolve path) file [] false s g →
      jobs.discipline.Follows (Files.runs resolve umask mayFail) i post
        (next (.ok file)) (s, g))
    (herror : ∀ e s g, jobs.Inv s g → Idle i g →
      jobs.discipline.Follows (Files.runs resolve umask mayFail) i post
        (next (.error e)) (s, g)) :
    jobs.discipline.Follows (Files.runs resolve umask mayFail) i post
      (.call (.create path mode) next) (s, g) := by
  refine Discipline.follows_call (fun w => Idle i w.2)
    (fun _ _ hrely _ hidle => hidle.of_rely hrely) h ?_
  intro w hinv hidle reply s' hs
  cases reply with
  | error e =>
    obtain ⟨_, rfl⟩ := hs
    exact ⟨w.2, guarantee_refl hinv, herror e w.1 w.2 hinv hidle⟩
  | ok file =>
    obtain ⟨hnone, rfl, rfl⟩ := hs
    have hguarantee :=
      guarantee_create hinv htemp hnone (hmode.and (~~~umask)) hidle.maker
    refine ⟨_, hguarantee, hok _ _ _ hguarantee.inv ?_⟩
    exact
      { holder := Owners.holder_make_self
        maker := Owners.maker_make_self
        content := by rw [Files.inode_create_self]
        synced := by rw [Files.inode_create_self]
        entry := fun _ => Files.entry_create_self
        replaced := hidle.replaced }

/-- Closing a file. -/
theorem follows_close {next : Unit → Program (FileOp Path) (FileOp.Reply ε) α}
    {file' : Nat} (h : jobs.Owns i temp file content synced s g)
    (hnext : ∀ s g, jobs.Inv s g → jobs.Owns i temp file content synced s g →
      jobs.discipline.Follows (Files.runs resolve umask mayFail) i post
        (next ()) (s, g)) :
    jobs.discipline.Follows (Files.runs resolve umask mayFail) i post
      (.call (.close file') next) (s, g) := by
  refine Discipline.follows_call
    (fun w => jobs.Owns i temp file content synced w.1 w.2)
    (fun _ _ hrely _ howns => howns.of_rely hrely) h ?_
  intro w hinv howns reply s' hs
  obtain rfl : s' = w.1 := hs
  exact ⟨w.2, guarantee_refl hinv, hnext w.1 w.2 hinv howns⟩

/-- Writing to the file, in as many pieces as it takes. -/
theorem follows_writeAll {writeZero : ε} {bytes : List UInt8}
    (h : jobs.Owns i temp file content false s g) :
    jobs.discipline.Follows (Files.runs resolve umask mayFail) i
      (fun result w => ∃ written, jobs.Owns i temp file written false w.1 w.2 ∧
        (result = .ok () → written = content ++ bytes))
      (writeAll writeZero file bytes) (s, g) := by
  have hstable : ∀ (result : Except ε Unit) (whole : List UInt8)
      (w w' : Files Name × Owners Name ι),
      jobs.discipline.rely i w w' → jobs.discipline.inv w' →
      (∃ written, jobs.Owns i temp file written false w.1 w.2 ∧
        (result = .ok () → written = whole)) →
      ∃ written, jobs.Owns i temp file written false w'.1 w'.2 ∧
        (result = .ok () → written = whole) := by
    rintro result whole w w' hrely _ ⟨written, howns, hwhole⟩
    exact ⟨written, howns.of_rely hrely, hwhole⟩
  -- What has been written so far is the invariant of the loop.
  fun_induction writeAll writeZero file bytes generalizing content s g with
  | case1 =>
    refine Discipline.follows_done
      (fun w w' => hstable (.ok ()) _ w w') ⟨content, h, fun _ => ?_⟩
    rw [List.append_nil]
  | case2 bytes hnil ih =>
    refine Discipline.follows_call
      (fun w => jobs.Owns i temp file content false w.1 w.2)
      (fun _ _ hrely _ howns => howns.of_rely hrely) h ?_
    intro w hinv howns reply s' hs
    -- Some bytes are written, also by a write that fails.
    have hwrite : ∀ n,
        jobs.discipline.Guarantee i w (w.1.append file (bytes.take n), w.2) ∧
        jobs.Owns i temp file (content ++ bytes.take n) false
          (w.1.append file (bytes.take n)) w.2 := by
      intro n
      refine ⟨guarantee_modify hinv howns.maker howns.synced rfl
        (fun h => Bool.noConfusion h), ?_⟩
      exact
        { holder := howns.holder
          maker := howns.maker
          content :=
            by rw [Files.append, Files.inode_modify_self, howns.content]
          synced := by rw [Files.append, Files.inode_modify_self]
          entry := howns.entry
          replaced := howns.replaced }
    cases reply with
    | error e =>
      obtain ⟨_, n, rfl⟩ := hs
      obtain ⟨hguarantee, howns'⟩ := hwrite n
      refine ⟨w.2, hguarantee,
        Discipline.follows_done (fun w w' => hstable (.error e) _ w w') ?_⟩
      exact ⟨_, howns', fun h => nomatch h⟩
    | ok n =>
      obtain ⟨hle, rfl⟩ := hs
      obtain ⟨hguarantee, howns'⟩ := hwrite n
      refine ⟨w.2, hguarantee, ?_⟩
      show jobs.discipline.Follows _ i _ (if 0 < n then _ else _) _
      split_ifs with hpos
      · refine (ih n hpos howns').mono ?_
        rintro result w' _ ⟨written, howns'', hwhole⟩
        refine ⟨written, howns'', fun hok => ?_⟩
        rw [hwhole hok, List.append_assoc, List.take_append_drop]
      · refine Discipline.follows_done
          (fun w w' => hstable (.error writeZero) _ w w') ?_
        exact ⟨_, howns', fun h => nomatch h⟩

/-- Syncing the file, when it has the content of the job. -/
theorem follows_sync
    {next : Except ε Unit → Program (FileOp Path) (FileOp.Reply ε) α}
    (hcontent : content = (jobs.job i).content)
    (h : jobs.Owns i temp file content false s g)
    (hok : ∀ s g, jobs.Inv s g → jobs.Owns i temp file content true s g →
      jobs.discipline.Follows (Files.runs resolve umask mayFail) i post
        (next (.ok ())) (s, g))
    (herror : ∀ e s g, jobs.Inv s g → jobs.Owns i temp file content false s g →
      jobs.discipline.Follows (Files.runs resolve umask mayFail) i post
        (next (.error e)) (s, g)) :
    jobs.discipline.Follows (Files.runs resolve umask mayFail) i post
      (.call (.sync file) next) (s, g) := by
  refine Discipline.follows_call
    (fun w => jobs.Owns i temp file content false w.1 w.2)
    (fun _ _ hrely _ howns => howns.of_rely hrely) h ?_
  intro w hinv howns reply s' hs
  cases reply with
  | error e =>
    obtain ⟨_, rfl⟩ := hs
    exact ⟨w.2, guarantee_refl hinv, herror e w.1 w.2 hinv howns⟩
  | ok =>
    obtain rfl : s' = w.1.sync file := hs
    have hwhole : jobs.IsComplete { w.1.inode file with synced := true } :=
      ⟨rfl, i, howns.content.trans hcontent⟩
    have hguarantee :=
      guarantee_modify (f := fun inode => { inode with synced := true }) hinv
      howns.maker howns.synced rfl (fun _ => hwhole)
    refine ⟨w.2, hguarantee, hok _ _ hguarantee.inv ?_⟩
    exact
      { holder := howns.holder
        maker := howns.maker
        content := by rw [Files.sync, Files.inode_modify_self, howns.content]
        synced := by rw [Files.sync, Files.inode_modify_self]
        entry := howns.entry
        replaced := howns.replaced }

/-- Renaming the file, when it has the content of the job and has been
synced. -/
theorem follows_rename {path target : Path}
    {next : Except ε Unit → Program (FileOp Path) (FileOp.Reply ε) α}
    (htarget : (jobs.job i).target = resolve target)
    (hcontent : content = (jobs.job i).content)
    (h : jobs.Owns i (resolve path) file content true s g)
    (hok : ∀ s g, jobs.Inv s g → Replaced i g →
      jobs.discipline.Follows (Files.runs resolve umask mayFail) i post
        (next (.ok ())) (s, g))
    (herror : ∀ e s g, jobs.Inv s g →
      jobs.Owns i (resolve path) file content true s g →
      jobs.discipline.Follows (Files.runs resolve umask mayFail) i post
        (next (.error e)) (s, g)) :
    jobs.discipline.Follows (Files.runs resolve umask mayFail) i post
      (.call (.rename path target) next) (s, g) := by
  refine Discipline.follows_call (fun w =>
    jobs.Owns i (resolve path) file content true w.1 w.2)
    (fun _ _ hrely _ howns => howns.of_rely hrely) h ?_
  intro w hinv howns reply s' hs
  cases reply with
  | error e =>
    obtain ⟨_, rfl⟩ := hs
    exact ⟨w.2, guarantee_refl hinv, herror e w.1 w.2 hinv howns⟩
  | ok =>
    obtain ⟨_, rfl⟩ := hs
    rw [← htarget]
    have hguarantee :=
      guarantee_rename hinv howns.holder howns.maker howns.synced
      (howns.content.trans hcontent) howns.entry howns.replaced
    refine ⟨_, hguarantee,
      hok _ _ hguarantee.inv ⟨by simp, fun name hholder => ?_⟩⟩
    obtain ⟨hne, hholder⟩ := Owners.holder_release_eq_some_iff.1 hholder
    exact hne (Option.some.inj ((hinv.held name i hholder).1.symm.trans
      (hinv.held _ i howns.holder).1))

/-- Removing the file, after a failure. -/
theorem follows_remove {path : Path}
    {next : Except ε Unit → Program (FileOp Path) (FileOp.Reply ε) α}
    (hstays : mayFail (.remove path) → stays)
    (h : jobs.Owns i (resolve path) file content synced s g)
    (hnext : ∀ reply s g, jobs.Inv s g → Failed stays i g →
      jobs.discipline.Follows (Files.runs resolve umask mayFail) i post
        (next reply) (s, g)) :
    jobs.discipline.Follows (Files.runs resolve umask mayFail) i post
      (.call (.remove path) next) (s, g) := by
  refine Discipline.follows_call (fun w =>
    jobs.Owns i (resolve path) file content synced w.1 w.2)
    (fun _ _ hrely _ howns => howns.of_rely hrely) h ?_
  intro w hinv howns reply s' hs
  have honly : ∀ name, w.2.holder name = some i → name = resolve path :=
    fun name hholder =>
    Option.some.inj
      ((hinv.held name i hholder).1.symm.trans (hinv.held _ i howns.holder).1)
  cases reply with
  | error e =>
    obtain ⟨hnone | hmay, rfl⟩ := hs
    · exact absurd hnone (hinv.held _ i howns.holder).2
    · exact ⟨w.2, guarantee_refl hinv, hnext _ w.1 w.2 hinv
        ⟨howns.replaced, fun _ _ => hstays hmay⟩⟩
  | ok =>
    obtain ⟨_, rfl⟩ := hs
    have hguarantee := guarantee_remove hinv howns.holder
    refine ⟨_, hguarantee, hnext _ _ _ hguarantee.inv
      ⟨howns.replaced, fun name hholder => ?_⟩⟩
    obtain ⟨hne, hholder⟩ := Owners.holder_release_eq_some_iff.1 hholder
    exact absurd (honly name hholder) hne

end Rules

/-! ## What is installed -/

/-- What a program has done when it has returned, by whether its result says
that all is well. -/
def Ends (stays : ι → Prop) {α : Type} (isOk : α → Prop) (i : ι) (a : α)
    (w : Files Name × Owners Name ι) : Prop :=
  (isOk a → Replaced i w.2) ∧ (¬isOk a → Failed (stays i) i w.2)

variable {jobs} in
/-- Returning when all is done. -/
theorem follows_return {Path ε α : Type}
    {sem : Semantics (FileOp Path) (FileOp.Reply ε) (Files Name)}
    {stays : ι → Prop} {isOk : α → Prop} {i : ι} {a : α} {s : Files Name}
    {g : Owners Name ι} (h : Ends stays isOk i a (s, g)) :
    jobs.discipline.Follows sem i (Ends stays isOk i) (.done a) (s, g) :=
  Discipline.follows_done (fun _ _ hrely _ hends =>
    ⟨fun hok => (hends.1 hok).of_rely hrely,
      fun hok => (hends.2 hok).of_rely hrely⟩) h

theorem inv_start : jobs.Inv jobs.before Owners.start where
  grown := Nat.le_refl _
  old _ _ := rfl
  isPrivate _ hnew hlt := absurd hlt hnew
  made _ _ hmaker := (Option.some_ne_none _ hmaker.symm).elim
  makes_one _ _ _ hmaker := (Option.some_ne_none _ hmaker.symm).elim
  held _ _ hholder := (Option.some_ne_none _ hholder.symm).elim
  entries _ _ hentry := .old (jobs.before.allocated hentry) hentry rfl
  one_name _ _ _ hnew hentry := absurd (jobs.before.allocated hentry) hnew
  nodup := List.nodup_nil
  view _ _ _ := rfl

omit [DecidableEq Name] in
theorem idle_start (i : ι) : Idle i (Owners.start : Owners Name ι) :=
  ⟨fun _ h => Option.some_ne_none _ h.symm,
    fun _ h => Option.some_ne_none _ h.symm, List.not_mem_nil⟩

section Results

variable {jobs} {Path ε α : Type}
  {sem : Semantics (FileOp Path) (FileOp.Reply ε) (Files Name)}
  {stays : ι → Prop} {isOk : α → Prop} {g : Owners Name ι} {name : Name}
    {file : Nat}
  {c c' : Pool (FileOp Path) (FileOp.Reply ε) α (Files Name) ι}

variable [DecidableEq ι]

/-- The replacements have happened one after the other: there is an order of the
programs that have returned with success, and maybe of others, whose replay
gives the content of every target.  A run only adds to it. -/
theorem exists_replaced (hclean : jobs.Clean)
    (h : jobs.discipline.Obeyed sem (Ends stays isOk) c g)
    (hrun : Pool.Reaches sem c c') :
    ∃ replaced replaced' : List ι, replaced <+: replaced' ∧ replaced'.Nodup ∧
      (∀ i a, c.thread i = .done a → (i ∈ replaced ↔ isOk a)) ∧
      (∀ i a, c'.thread i = .done a → (i ∈ replaced' ↔ isOk a)) ∧
      ∀ name, (∀ k, (jobs.job k).temp ≠ some name) →
        c.shared.contentOf name = jobs.replay replaced name ∧
        c'.shared.contentOf name = jobs.replay replaced' name := by
  obtain ⟨g', h', hkeeps⟩ := h.reaches hrun
  have hinv : jobs.Inv c.shared g := h.inv
  have hinv' : jobs.Inv c'.shared g' := h'.inv
  have hdone :
      ∀ {c : Pool (FileOp Path) (FileOp.Reply ε) α (Files Name) ι}
      {g : Owners Name ι}, jobs.discipline.Obeyed sem (Ends stays isOk) c g →
      ∀ i a, c.thread i = .done a → (i ∈ g.replaced ↔ isOk a) := by
    intro c g h i a ha
    obtain ⟨hok, herror⟩ := h.result ha
    refine ⟨fun hmem => ?_, fun hisOk => (hok hisOk).replaced⟩
    by_contra hisOk
    exact (herror hisOk).replaced hmem
  exact ⟨g.replaced, g'.replaced, hkeeps.replaced, hinv'.nodup,
    hdone h, hdone h',
    fun name hname => ⟨hinv.view hclean name hname,
      hinv'.view hclean name hname⟩⟩

end Results

end Jobs

end Wimsey.System
