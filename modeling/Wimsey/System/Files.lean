import Mathlib.Order.Basic
import Wimsey.System.Program

/-!
# Files

A directory of names over inodes, with the operations that a program calls to
replace a file: create a new one, write to it in pieces, sync it, close it,
rename it and remove it.  Any of them may fail where `mayFail` says so, and a
write may take fewer bytes than it was given.

A program gives paths, and each operation is on the name that its path leads to.
Two paths may lead to one name, which `resolve` says; it does not change during
a run.

An inode is never given out twice, so it stands for one file from its creation
on, whatever names it has later.  `AfterPowerLoss` is what a disk may hold when
the power has failed: some directory of the past, and only those contents that
had been synced.
-/

namespace Wimsey.System

/-! ## The files of a system -/

/-- The permission bits of a file. -/
abbrev Mode := BitVec 12

/-- The bits of the group and of everybody else. -/
def Mode.shared : Mode := 0o077

/-- No one but its owner has access to a file of the mode. -/
def Mode.IsPrivate (mode : Mode) : Prop := mode &&& Mode.shared = 0

/-- A mask takes permissions away only. -/
theorem Mode.IsPrivate.and {mode : Mode} (h : mode.IsPrivate) (mask : Mode) :
    Mode.IsPrivate (mode &&& mask) := by
  unfold Mode.IsPrivate at h ⊢
  rw [BitVec.and_assoc, BitVec.and_comm mask, ← BitVec.and_assoc, h]
  exact BitVec.zero_and

/-- A file: its content, its mode, and whether all of the content has reached
the disk. -/
structure Inode where
  content : List UInt8
  mode : Mode
  synced : Bool

/-- Names and the files that they stand for, with the number of the next
file. -/
structure Files (Name : Type) where
  entry : Name → Option Nat
  inode : Nat → Inode
  next : Nat
  allocated : ∀ {name file}, entry name = some file → file < next

namespace Files

variable {Name : Type}

/-- What a reader of the name finds. -/
def contentOf (s : Files Name) (name : Name) : Option (List UInt8) :=
  (s.entry name).map fun file => (s.inode file).content

/-- A file changes. -/
def modify (s : Files Name) (file : Nat) (f : Inode → Inode) : Files Name :=
  { s with inode := Function.update s.inode file (f (s.inode file)) }

/-- The bytes go to the end of a file. -/
def append (s : Files Name) (file : Nat) (bytes : List UInt8) : Files Name :=
  s.modify file fun inode =>
    { inode with content := inode.content ++ bytes, synced := false }

/-- The content of a file reaches the disk. -/
def sync (s : Files Name) (file : Nat) : Files Name :=
  s.modify file fun inode => { inode with synced := true }

variable [DecidableEq Name]

/-- A new, empty file. -/
def create (s : Files Name) (name : Name) (mode : Mode) : Files Name where
  entry := Function.update s.entry name (some s.next)
  inode :=
    Function.update s.inode s.next
      { content := [], mode := mode, synced := false }
  next := s.next + 1
  allocated := by
    intro name' file h
    by_cases hname : name' = name
    · subst hname
      rw [Function.update_self] at h
      have := Option.some.inj h
      omega
    · rw [Function.update_of_ne hname] at h
      have := s.allocated h
      omega

/-- The name is gone. -/
def remove (s : Files Name) (name : Name) : Files Name where
  entry := Function.update s.entry name none
  inode := s.inode
  next := s.next
  allocated := by
    intro name' file h
    by_cases hname : name' = name
    · simp [hname] at h
    · rw [Function.update_of_ne hname] at h
      exact s.allocated h

/-- The file of the first name has the second name instead.  Nothing happens
when both are names of one file. -/
def rename (s : Files Name) (source target : Name) : Files Name where
  entry :=
    if s.entry source = s.entry target then s.entry
    else Function.update (Function.update s.entry target (s.entry source))
      source none
  inode := s.inode
  next := s.next
  allocated := by
    intro name file h
    split_ifs at h
    · exact s.allocated h
    by_cases hsource : name = source
    · simp [hsource] at h
    · rw [Function.update_of_ne hsource] at h
      by_cases htarget : name = target
      · rw [htarget, Function.update_self] at h
        exact s.allocated h
      · rw [Function.update_of_ne htarget] at h
        exact s.allocated h

/-! ### What an operation leaves alone -/

section

variable {s : Files Name} {name source target : Name} {file file' : Nat}
  {mode : Mode} {f : Inode → Inode}

omit [DecidableEq Name] in
@[simp] theorem entry_modify : (s.modify file f).entry = s.entry := rfl

omit [DecidableEq Name] in
@[simp] theorem next_modify : (s.modify file f).next = s.next := rfl

omit [DecidableEq Name] in
@[simp] theorem inode_modify_self :
    (s.modify file f).inode file = f (s.inode file) :=
  Function.update_self ..

omit [DecidableEq Name] in
theorem inode_modify_of_ne (h : file' ≠ file) :
    (s.modify file f).inode file' = s.inode file' :=
  Function.update_of_ne h ..

@[simp] theorem next_create : (s.create name mode).next = s.next + 1 := rfl

@[simp] theorem entry_create_self :
    (s.create name mode).entry name = some s.next :=
  Function.update_self ..

theorem entry_create_of_ne {name' : Name} (h : name' ≠ name) :
    (s.create name mode).entry name' = s.entry name' :=
  Function.update_of_ne h ..

/-- The entries after a file has been made. -/
theorem entry_create_eq_some {name' : Name}
    (hentry : (s.create name mode).entry name' = some file) :
    name' = name ∧ file = s.next ∨
      name' ≠ name ∧ file < s.next ∧ s.entry name' = some file := by
  by_cases hname : name' = name
  · subst hname
    rw [entry_create_self] at hentry
    exact Or.inl ⟨rfl, (Option.some.inj hentry).symm⟩
  · rw [entry_create_of_ne hname] at hentry
    exact Or.inr ⟨hname, s.allocated hentry, hentry⟩

@[simp] theorem inode_create_self :
    (s.create name mode).inode s.next
      = { content := [], mode := mode, synced := false } :=
  Function.update_self ..

theorem inode_create_of_lt (h : file < s.next) :
    (s.create name mode).inode file = s.inode file :=
  Function.update_of_ne (by omega) ..

@[simp] theorem inode_remove : (s.remove name).inode = s.inode := rfl

@[simp] theorem next_remove : (s.remove name).next = s.next := rfl

@[simp] theorem entry_remove_self : (s.remove name).entry name = none :=
  Function.update_self ..

theorem entry_remove_of_ne {name' : Name} (h : name' ≠ name) :
    (s.remove name).entry name' = s.entry name' :=
  Function.update_of_ne h ..

@[simp] theorem inode_rename : (s.rename source target).inode = s.inode := rfl

@[simp] theorem next_rename : (s.rename source target).next = s.next := rfl

theorem entry_rename_of_ne (hsource : name ≠ source) (htarget : name ≠ target) :
    (s.rename source target).entry name = s.entry name := by
  show (if _ then _ else _ : Name → Option Nat) name = _
  split_ifs
  · rfl
  · rw [Function.update_of_ne hsource, Function.update_of_ne htarget]

theorem entry_rename_target (h : target ≠ source) :
    (s.rename source target).entry target = s.entry source := by
  show (if _ then _ else _ : Name → Option Nat) target = _
  split_ifs with heq
  · exact heq.symm
  · rw [Function.update_of_ne h, Function.update_self]

theorem entry_rename_source (h : s.entry source ≠ s.entry target) :
    (s.rename source target).entry source = none := by
  show (if _ then _ else _ : Name → Option Nat) source = _
  rw [if_neg h, Function.update_self]

/-- The entries after a rename between names of different files. -/
theorem entry_rename_eq_some (h : s.entry source ≠ s.entry target)
    (hentry : (s.rename source target).entry name = some file) :
    name ≠ source ∧
      (name = target ∧ s.entry source = some file ∨ name ≠ target ∧
        s.entry name = some file) := by
  have hne : target ≠ source := fun heq => h (heq ▸ rfl)
  have hsource : name ≠ source := by
    rintro rfl
    rw [entry_rename_source h] at hentry
    cases hentry
  refine ⟨hsource, ?_⟩
  by_cases htarget : name = target
  · subst htarget
    rw [entry_rename_target hne] at hentry
    exact Or.inl ⟨rfl, hentry⟩
  · rw [entry_rename_of_ne hsource htarget] at hentry
    exact Or.inr ⟨htarget, hentry⟩

end

end Files

/-! ## Operations -/

/-- The operations on files. -/
inductive FileOp (Path : Type) where
  /-- Opens a new file, and fails when the name is taken. -/
  | create (path : Path) (mode : Mode)
  | write (file : Nat) (bytes : List UInt8)
  | sync (file : Nat)
  | close (file : Nat)
  | rename (source target : Path)
  | remove (path : Path)

/-- The replies of the operations, with errors in `ε`. -/
def FileOp.Reply (ε : Type) {Path : Type} : FileOp Path → Type
  | .create _ _ => Except ε Nat
  | .write _ _ => Except ε Nat
  | .sync _ => Except ε Unit
  | .close _ => Unit
  | .rename _ _ => Except ε Unit
  | .remove _ => Except ε Unit

/-- What the operations do, with the names that paths lead to, the mask that a
new file's mode is under, and the operations that may fail where they need not.
A write that fails may have written some of its bytes. -/
def Files.runs {Path Name ε : Type} [DecidableEq Name] (resolve : Path → Name)
    (umask : Mode) (mayFail : FileOp Path → Prop) :
    Semantics (FileOp Path) (FileOp.Reply ε) (Files Name)
  | .create path mode, s, .ok file, s' =>
      s.entry (resolve path) = none ∧ file = s.next ∧
        s' = s.create (resolve path) (mode &&& ~~~umask)
  | .create path mode, s, .error _, s' =>
      (s.entry (resolve path) ≠ none ∨ mayFail (.create path mode)) ∧ s' = s
  | .write file bytes, s, .ok n, s' =>
      n ≤ bytes.length ∧ s' = s.append file (bytes.take n)
  | .write file bytes, s, .error _, s' =>
      mayFail (.write file bytes) ∧ ∃ n, s' = s.append file (bytes.take n)
  | .sync file, s, .ok _, s' => s' = s.sync file
  | .sync file, s, .error _, s' => mayFail (.sync file) ∧ s' = s
  | .close _, s, _, s' => s' = s
  | .rename source target, s, .ok _, s' =>
      s.entry (resolve source) ≠ none ∧
      s' = s.rename (resolve source) (resolve target)
  | .rename source target, s, .error _, s' =>
      (s.entry (resolve source) = none ∨ mayFail (.rename source target)) ∧
      s' = s
  | .remove path, s, .ok _, s' =>
      s.entry (resolve path) ≠ none ∧ s' = s.remove (resolve path)
  | .remove path, s, .error _, s' =>
      (s.entry (resolve path) = none ∨ mayFail (.remove path)) ∧ s' = s

/-- `Write::write_all`: writes until nothing is left.  A write that takes no
bytes is an error, whose text is `writeZero`. -/
def writeAll {Path ε : Type} (writeZero : ε) (file : Nat) (bytes : List UInt8) :
    Program (FileOp Path) (FileOp.Reply ε) (Except ε Unit) :=
  if bytes = [] then .done (.ok ())
  else
    .call (.write file bytes) fun reply =>
      match reply with
      | .error e => .done (.error e)
      | .ok n =>
        if 0 < n then writeAll writeZero file (bytes.drop n)
          else .done (.error writeZero)
termination_by bytes.length
decreasing_by
  have : bytes.length ≠ 0 := by simpa using ‹¬bytes = []›
  rw [List.length_drop]
  omega

/-! ## Loss of power -/

end Wimsey.System
