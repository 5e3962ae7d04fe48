import Wimsey.Cli.Sign
import Wimsey.RustStd.Path
import Wimsey.System.Replace

/-!
# Writing files

The model of `emit` and `write_owner_only` of `crates/cli/src/main.rs`.  A call
is a program over the files of a system, and any number of calls run at the same
time: each of their operations may fail, and a process may end between any two
of them.

A path leads to an entry: the directory that the system finds under its parent,
and its file name.  Which directory that is, `dir` says, so that `a`, `./a` and
a path through a link may lead to one entry.  The directories themselves stay
where they are during a run.

`emit_follows` says that a call keeps the discipline of a replacement.
`destination_never_partial`, `destination_after_power_loss` and `writes_replay`
are what the comment of `write_owner_only` promises, for every run of every set
of calls with an output.
-/

namespace Wimsey.Cli

open Wimsey.RustStd Wimsey.System

/-! ## The function -/

/-- The mode of the files that the commands write. -/
def OWNER_ONLY : Mode := 0o600

/-- The text of the error of a write that takes no bytes. -/
def WRITE_ZERO : Str := "failed to write whole buffer".toList

/-- The path of the temporary file. -/
def tempPath [GetRandom] (path : Str) : Outcome CliError Str := do
  let fileName ← Outcome.okOr (.message "output path has no file name")
      (Path.fileName path)
  let id ← randomId
  let tempName := fileName ++ ".tmp-".toList ++ id
  match (Path.parent path).filter fun p => !p.isEmpty with
  | some dir => .ok (Path.join dir tempName)
  | none => .ok tempName

/-- The programs that the commands run on files. -/
abbrev FileProgram := Program (FileOp Str) (FileOp.Reply Str)

/-- A directory, and a name in it. -/
abbrev Entry (Dir : Type) := Dir × Option Str

/-- The entry that a path leads to. -/
def entryOf {Dir : Type} (dir : Option Str → Dir) (path : Str) : Entry Dir :=
  (dir (Path.parent path), Path.fileName path)

/-- What the operations do, with errors that are texts. -/
abbrev osFiles {Dir : Type} [DecidableEq Dir] (dir : Option Str → Dir)
    (umask : Mode) (mayFail : FileOp Str → Prop) :
    Semantics (FileOp Str) (FileOp.Reply Str) (Files (Entry Dir)) :=
  Files.runs (entryOf dir) umask mayFail

/-- `write_all`, and then `sync_all` if it has succeeded. -/
def writeAndSync (file : Nat) (content : Str) :
    FileProgram (Except Str Unit) := do
  match ← writeAll WRITE_ZERO file (Str.asBytes content) with
  | .ok () => .call (.sync file) .done
  | .error e => .done (.error e)

/-- `write_owner_only`. -/
def writeOwnerOnly [GetRandom] (path content : Str) :
    FileProgram (Outcome CliError Unit) :=
  match tempPath path with
  | .err e => .done (.err e)
  | .panic => .done .panic
  | .ok tempPath =>
    .call (.create tempPath OWNER_ONLY) fun
      | .error e =>
          .done (.err (.message ("creating temporary file: ".toList ++ e)))
      | .ok file => do
        let writeResult ← writeAndSync file content
        .call (.close file) fun _ =>
          match writeResult with
          | .error e =>
              .call (.remove tempPath) fun _ => .done (.err (.message e))
          | .ok () =>
            .call (.rename tempPath path) fun
              | .error e =>
                .call (.remove tempPath) fun _ =>
                  .done
                    (.err (.message ("renaming temporary file: ".toList ++ e)))
              | .ok () => .done (.ok ())

/-- `emit`, with the lines that it prints. -/
def emit [GetRandom] (content : Str) (out : Option Str) :
    FileProgram (Outcome CliError (List Str)) :=
  match out with
  | some path => do
    let result ← writeOwnerOnly path content
    .done ((fun _ => []) <$> result)
  | none => .done (.ok [content])

/-! ## The temporary file -/

/-- The digits of an identifier are none of the characters of a path. -/
theorem separator_not_mem_formatByte (b : UInt8) : '/' ∉ formatByte b := by
  have hdigit : ∀ n < 16, Nat.digitChar n ≠ '/' := by decide
  have hlt := b.toNat_lt
  simp only [formatByte, List.mem_cons, List.not_mem_nil, or_false, not_or]
  exact ⟨(hdigit _ (by omega)).symm, (hdigit _ (by omega)).symm⟩

theorem separator_not_mem_randomId [GetRandom] {id : Str}
    (h : randomId = .ok id) : '/' ∉ id := by
  unfold randomId at h
  split at h
  · rw [← Outcome.ok.inj h, List.mem_flatMap]
    rintro ⟨b, _, hb⟩
    exact separator_not_mem_formatByte b hb
  · cases h

theorem tempPath_eq_ok_iff [GetRandom] {path temp : Str} :
    tempPath path = .ok temp ↔
      ∃ name, Path.fileName path = some name ∧ ∃ id, randomId = .ok id ∧
      Path.join ((Path.parent path).getD []) (name ++ ".tmp-".toList ++ id)
        = temp := by
  simp only [tempPath, Outcome.bind_eq_ok_iff, Outcome.okOr_eq_ok_iff]
  refine exists_congr fun name => and_congr_right fun _ =>
    exists_congr fun id =>
    and_congr_right fun _ => ?_
  cases Path.parent path with
  | none => simp
  | some dir => cases dir <;> simp [Option.filter]

/-- The name of the temporary file. -/
theorem fileName_tempPath [GetRandom] {path temp : Str}
    (h : tempPath path = .ok temp) :
    ∃ name id, Path.fileName path = some name ∧ randomId = .ok id ∧
      Path.fileName temp = some (name ++ ".tmp-".toList ++ id) ∧
      Path.parent temp = Path.parent path := by
  obtain ⟨name, hname, id, hid, rfl⟩ := tempPath_eq_ok_iff.1 h
  have hnew : Path.IsName (name ++ ".tmp-".toList ++ id) := by
    rw [List.append_assoc]
    refine Path.IsName.append (Path.isName_of_fileName hname).noSeparator ?_ ?_
    · rw [List.mem_append, not_or]
      exact ⟨by decide, separator_not_mem_randomId hid⟩
    · show 3 ≤ (".tmp-".toList ++ id).length
      rw [List.length_append]
      show 3 ≤ 5 + id.length
      omega
  obtain ⟨dir, hparent, hfile, hdir⟩ := Path.sibling hname hnew
  rw [hparent, Option.getD_some]
  exact ⟨name, id, hname, hid, hfile, hdir⟩

/-- The temporary name is longer. -/
theorem fileName_tempPath_ne [GetRandom] {path temp : Str}
    (h : tempPath path = .ok temp) :
    Path.fileName temp ≠ Path.fileName path := by
  obtain ⟨name, id, hname, _, hfile, _⟩ := fileName_tempPath h
  rw [hname, hfile]
  intro heq
  have hlength := congrArg List.length (Option.some.inj heq)
  rw [List.append_assoc, List.length_append, List.length_append] at hlength
  have : (".tmp-".toList).length = 5 := rfl
  omega

/-- The temporary file is a sibling of the output, and another file. -/
theorem temp_is_sibling [GetRandom] {path temp : Str}
    (h : tempPath path = .ok temp) :
    ∃ name id, Path.fileName path = some name ∧ randomId = .ok id ∧
      Path.fileName temp = some (name ++ ".tmp-".toList ++ id) ∧
      Path.parent temp = Path.parent path ∧ temp ≠ path := by
  obtain ⟨name, id, hname, hid, hfile, hparent⟩ := fileName_tempPath h
  refine ⟨name, id, hname, hid, hfile, hparent, ?_⟩
  rintro rfl
  exact fileName_tempPath_ne h rfl

/-! ## The calls that run at the same time -/

/-- A call with an output, and the random bytes that it gets. -/
structure WriteCall where
  path : Str
  content : Str
  random : GetRandom

namespace WriteCall

/-- The temporary path of the call. -/
def temp (call : WriteCall) : Option Str :=
  match @tempPath call.random call.path with
  | .ok temp => some temp
  | _ => none

/-- The program of the call. -/
def program (call : WriteCall) : FileProgram (Outcome CliError (List Str)) :=
  @emit call.random call.content (some call.path)

theorem temp_eq_some_iff {call : WriteCall} {temp : Str} :
    call.temp = some temp ↔ @tempPath call.random call.path = .ok temp := by
  unfold WriteCall.temp
  split
  · rename_i h
    rw [h, Option.some.injEq, Outcome.ok.injEq]
  · rename_i h
    exact iff_of_false (fun hnone => Option.some_ne_none _ hnone.symm) (h temp)

theorem entryOf_temp_ne {Dir : Type} {dir : Option Str → Dir} {call : WriteCall}
    {temp : Str} (h : call.temp = some temp) :
    entryOf dir temp ≠ entryOf dir call.path := fun heq =>
  @fileName_tempPath_ne call.random _ _ (temp_eq_some_iff.1 h)
    (congrArg Prod.snd heq)

end WriteCall

namespace Example.Emit

/-- A call that replaces a file in a directory. -/
def call : WriteCall where
  path := "out/a".toList
  content := "new".toList
  random := ⟨.ok (Vector.replicate 16 0)⟩

theorem exists_temp : ∃ temp, call.temp = some temp := by
  have hname : Path.IsName "a".toList := ⟨by decide, by decide⟩
  have hbody : Path.body call.path = "out".toList ++
      '/' :: "a".toList := by decide
  have hback := hbody ▸ Path.nextBack_append_cons hname
  exact ⟨_,
    WriteCall.temp_eq_some_iff.2 (@tempPath_eq_ok_iff call.random _ _ |>.2
    ⟨_, Path.fileName_of_nextBack hback, _, rfl, rfl⟩)⟩

theorem temp_is_sibling_example : ∃ temp name id,
    @tempPath call.random call.path = .ok temp ∧
    Path.fileName call.path = some name ∧
    @randomId call.random = .ok id ∧
    Path.fileName temp = some (name ++ ".tmp-".toList ++ id) ∧
    Path.parent temp = Path.parent call.path ∧ temp ≠ call.path := by
  obtain ⟨temp, htemp⟩ := exists_temp
  have hpath := WriteCall.temp_eq_some_iff.1 htemp
  obtain ⟨name, id, h⟩ := @temp_is_sibling call.random _ _ hpath
  exact ⟨temp, name, id, hpath, h⟩

end Example.Emit

variable {Dir ι : Type}

/-- What the calls are to do. -/
def replacements (dir : Option Str → Dir) (calls : ι → WriteCall)
    (before : Files (Entry Dir)) :
    Jobs (Entry Dir) ι where
  job i :=
    { target := entryOf dir (calls i).path
      temp := (calls i).temp.map (entryOf dir)
      content := Str.asBytes (calls i).content }
  before := before
  temp_ne_target i h := by
    obtain ⟨temp, htemp, hentry⟩ := Option.map_eq_some_iff.1 h
    exact WriteCall.entryOf_temp_ne htemp hentry

/-- Calls that share the files of a system. -/
abbrev WritePool (Dir ι : Type) :=
  Pool (FileOp Str) (FileOp.Reply Str) (Outcome CliError (List Str))
    (Files (Entry Dir)) ι

/-- The calls, before any of them has started. -/
def start (calls : ι → WriteCall) (before : Files (Entry Dir)) :
    WritePool Dir ι where
  shared := before
  thread i := (calls i).program

/-- The result of a function that has returned this value. -/
def Returns {α : Type} (value : α) (result : Outcome CliError α) : Prop :=
  result = .ok value

/-- The call may fail to remove its temporary file. -/
def Stays (calls : ι → WriteCall) (mayFail : FileOp Str → Prop)
    (i : ι) : Prop :=
  ∃ temp, (calls i).temp = some temp ∧ mayFail (.remove temp)

variable [DecidableEq Dir] {dir : Option Str → Dir} {calls : ι → WriteCall}
  {before : Files (Entry Dir)} {umask : Mode} {mayFail : FileOp Str → Prop}

theorem ownerOnly_isPrivate : OWNER_ONLY.IsPrivate := by
  show OWNER_ONLY &&& Mode.shared = 0
  decide

/-- What the first half of a call has done to its file. -/
def Written (jobs : Jobs (Entry Dir) ι) (i : ι) (temp : Entry Dir) (file : Nat)
    (result : Except Str Unit)
    (w : Files (Entry Dir) × Owners (Entry Dir) ι) : Prop :=
  ∃ content synced, jobs.Owns i temp file content synced w.1 w.2 ∧
    (result = .ok () → content = (jobs.job i).content ∧ synced = true)

theorem Written.follows_done {jobs : Jobs (Entry Dir) ι} {i : ι}
    {temp : Entry Dir} {file : Nat} {result : Except Str Unit}
    {w : Files (Entry Dir) × Owners (Entry Dir) ι}
    (h : Written jobs i temp file result w) :
    jobs.discipline.Follows (osFiles dir umask mayFail) i
      (Written jobs i temp file) (.done result : FileProgram _) w := by
  refine Discipline.follows_done (fun w w' hrely _ hwritten => ?_) h
  obtain ⟨content, synced, howns, hok⟩ := hwritten
  exact ⟨content, synced, howns.of_rely hrely, hok⟩

/-- Writing and syncing a file that the call has made. -/
theorem writeAndSync_follows {i : ι} {temp : Entry Dir} {file : Nat}
    {s : Files (Entry Dir)} {g : Owners (Entry Dir) ι}
    (h : (replacements dir calls before).Owns i temp file [] false s g) :
    (replacements dir calls before).discipline.Follows
      (osFiles dir umask mayFail) i
      (Written (replacements dir calls before) i temp file)
      (writeAndSync file (calls i).content) (s, g) := by
  refine Discipline.follows_bind (Jobs.follows_writeAll h) ?_
  rintro result w _ ⟨written, howns, hwhole⟩
  cases result with
  | error e =>
    exact Written.follows_done ⟨written, false, howns, fun hok => nomatch hok⟩
  | ok =>
    have hcontent : written = Str.asBytes (calls i).content := hwhole rfl
    refine Jobs.follows_sync hcontent howns ?_ ?_
    · intro s g _ howns
      exact Written.follows_done
        ⟨written, true, howns, fun _ => ⟨hcontent, rfl⟩⟩
    · intro e s g _ howns
      exact Written.follows_done ⟨written, false, howns, fun hok => nomatch hok⟩

/-- A call of `write_owner_only` keeps the discipline of a replacement. -/
theorem writeOwnerOnly_follows (i : ι) :
    (replacements dir calls before).discipline.Follows
      (osFiles dir umask mayFail) i
      (Jobs.Ends (Stays calls mayFail) (Returns ()) i)
      (@writeOwnerOnly (calls i).random (calls i).path (calls i).content)
      (before, Owners.start) := by
  have herr :
      ∀ {e : CliError} {s : Files (Entry Dir)} {g : Owners (Entry Dir) ι},
      Jobs.Failed (Stays calls mayFail i) i g →
      (replacements dir calls before).discipline.Follows
        (osFiles dir umask mayFail) i
        (Jobs.Ends (Stays calls mayFail) (Returns ()) i)
          (.done (.err e) : FileProgram _)
        (s, g) :=
    fun hfailed => Jobs.follows_return ⟨nofun, fun _ => hfailed⟩
  have hidle : Jobs.Idle i (Owners.start : Owners (Entry Dir) ι) :=
    Jobs.idle_start i
  let _ := (calls i).random
  show (replacements dir calls before).discipline.Follows _ i _
    (writeOwnerOnly (calls i).path (calls i).content) _
  unfold writeOwnerOnly
  cases htemp : tempPath (calls i).path with
  | err e => exact herr hidle.failed
  | panic =>
    exact Jobs.follows_return ⟨nofun, fun _ => hidle.failed⟩
  | ok temp =>
  have hcall : (calls i).temp = some temp := WriteCall.temp_eq_some_iff.2 htemp
  have hjob :
      ((replacements dir calls before).job i).temp = some (entryOf dir temp) :=
    Option.map_eq_some_iff.2 ⟨temp, hcall, rfl⟩
  have hstays : mayFail (.remove temp) → Stays calls mayFail i :=
    fun hmay => ⟨temp, hcall, hmay⟩
  refine Jobs.follows_create hjob ownerOnly_isPrivate hidle ?_
    (fun e s g _ hidle => herr hidle.failed)
  intro file s g _ howns
  refine Discipline.follows_bind (writeAndSync_follows howns) ?_
  rintro writeResult w _ ⟨content, synced, howns, hok⟩
  refine Jobs.follows_close howns fun s g _ howns => ?_
  cases writeResult with
  | error e =>
    exact Jobs.follows_remove hstays howns fun _ s g _ hfailed => herr hfailed
  | ok =>
    obtain ⟨hcontent, rfl⟩ := hok rfl
    refine Jobs.follows_rename rfl hcontent howns ?_ ?_
    · intro s g _ hreplaced
      exact Jobs.follows_return ⟨fun _ => hreplaced, fun hne => absurd rfl hne⟩
    · intro e s g _ howns
      exact Jobs.follows_remove hstays howns fun _ s g _ hfailed => herr hfailed

/-- A call of `emit` with an output keeps the discipline of a replacement. -/
theorem emit_follows (i : ι) :
    (replacements dir calls before).discipline.Follows
      (osFiles dir umask mayFail) i
      (Jobs.Ends (Stays calls mayFail) (Returns []) i) (calls i).program
        (before, Owners.start) := by
  refine Discipline.follows_bind (writeOwnerOnly_follows i) ?_
  rintro result ⟨s, g⟩ _ ⟨hok, herror⟩
  cases result with
  | ok u =>
    exact Jobs.follows_return ⟨fun _ => hok rfl, fun hne => absurd rfl hne⟩
  | err e => exact Jobs.follows_return ⟨nofun, fun _ => herror nofun⟩
  | panic => exact Jobs.follows_return ⟨nofun, fun _ => herror nofun⟩

/-- The calls keep the discipline from the start. -/
theorem start_obeyed : (replacements dir calls before).discipline.Obeyed
    (osFiles dir umask mayFail) (Jobs.Ends (Stays calls mayFail) (Returns []))
      (start calls before)
    Owners.start where
  inv := (replacements dir calls before).inv_start
  follows i := emit_follows i

/-! ## A call that meets no failure -/

section Alone

/-- Nothing fails without need. -/
def neverFails : FileOp Str → Prop := fun _ => False

variable {α : Type} {s : Files (Entry Dir)} {p p' : FileProgram α}

/-- A program that is alone. -/
def alone (s : Files (Entry Dir)) (p : FileProgram α) :
    Pool (FileOp Str) (FileOp.Reply Str) α (Files (Entry Dir)) Unit :=
  ⟨s, fun _ => p⟩

/-- A program that is alone can return the value. -/
def CanReturn (dir : Option Str → Dir) (s : Files (Entry Dir))
    (p : FileProgram α) (a : α) : Prop :=
  ∃ s', Pool.Reaches (osFiles dir 0 neverFails) (alone s p) (alone s' (.done a))

/-- One operation of a program that is alone. -/
theorem canReturn_call {op : FileOp Str}
    {next : FileOp.Reply Str op → FileProgram α} {a : α}
    (reply : FileOp.Reply Str op) {s' : Files (Entry Dir)}
    (hs : osFiles dir 0 neverFails op s reply s')
    (h : CanReturn dir s' (next reply) a) :
    CanReturn dir s (.call op next) a := by
  have hstep : Pool.Step (osFiles dir 0 neverFails) (alone s (.call op next))
      ⟨s', Function.update (alone s (.call op next)).thread () (next reply)⟩ :=
    .call rfl hs
  have hthread :
      Function.update (alone s (.call op next)).thread () (next reply) =
      fun _ => next reply := by
    funext u
    exact Function.update_self ..
  rw [hthread] at hstep
  obtain ⟨s'', hrun⟩ := h
  exact ⟨s'', .head hstep hrun⟩

/-- All of the bytes are written, without a change of the directory. -/
theorem canReturn_writeAll {file : Nat} {bytes : Bytes}
    {k : Except Str Unit → FileProgram α} {a : α}
    (h : ∀ s', s'.entry = s.entry → CanReturn dir s' (k (.ok ())) a) :
    CanReturn dir s (writeAll WRITE_ZERO file bytes >>= k) a := by
  by_cases hnil : bytes = []
  · rw [writeAll, if_pos hnil]
    exact h s rfl
  · have hpos : 0 < bytes.length := List.length_pos_iff.2 hnil
    have hend : (if 0 < bytes.length
        then writeAll WRITE_ZERO file (bytes.drop bytes.length)
        else .done (.error WRITE_ZERO) : FileProgram (Except Str Unit))
        = .done (.ok ()) := by
      rw [if_pos hpos, List.drop_length, writeAll, if_pos rfl]
    rw [writeAll, if_neg hnil, Program.call_bind]
    refine canReturn_call (Except.ok bytes.length : Except Str Nat)
      ⟨le_rfl, rfl⟩ ?_
    show CanReturn dir _ ((if _ then _ else _) >>= k) a
    rw [hend]
    exact h _ rfl

/-- A call that meets no failure, and whose temporary name is free, writes its
file. -/
theorem emit_canReturn [GetRandom] {path content temp : Str}
    (htemp : tempPath path = .ok temp)
    (hfree : s.entry (entryOf dir temp) = none) :
    CanReturn dir s (emit content (some path)) (.ok []) := by
  have hentry : ∀ s' : Files (Entry Dir),
      s'.entry = (s.create (entryOf dir temp) (OWNER_ONLY &&& ~~~0)).entry →
      s'.entry (entryOf dir temp) ≠ none := by
    intro s' heq
    rw [heq, Files.entry_create_self]
    exact Option.some_ne_none _
  rw [emit, writeOwnerOnly, htemp]
  refine canReturn_call (Except.ok s.next : Except Str Nat) ⟨hfree, rfl, rfl⟩ ?_
  show CanReturn dir _ ((writeAndSync s.next content >>= _) >>= _) _
  rw [Program.bind_assoc, writeAndSync, Program.bind_assoc]
  refine canReturn_writeAll fun s' heq => ?_
  refine canReturn_call (Except.ok () : Except Str Unit) rfl ?_
  refine canReturn_call () rfl ?_
  refine canReturn_call (Except.ok () : Except Str Unit) ⟨hentry s' heq, rfl⟩ ?_
  exact ⟨_, .refl⟩

end Alone

namespace Example.Emit

/-- The files of a system where a path has a directory of its own for each
parent. -/
abbrev Entries := Entry (Option Str)

/-- The file that is there before. -/
def existing : Files Entries where
  entry entry := if entry = entryOf id call.path then some 0 else none
  inode _ := { content := [1, 2], mode := 0o644, synced := true }
  next := 1
  allocated := by
    intro name file h
    split_ifs at h
    have := Option.some.inj h
    omega

theorem temp_ne_path : ∀ (_ _ : Unit) (temp : Str), call.temp = some temp →
    entryOf id temp ≠ entryOf id call.path :=
  fun _ _ _ => WriteCall.entryOf_temp_ne

/-- The call can run to its end, and then there is a file under its path. -/
theorem exists_run : ∃ (c : WritePool (Option Str) Unit) (file : Nat),
    Pool.Reaches (osFiles id 0 neverFails)
      (start (fun _ : Unit => call) existing) c ∧
      c.thread () = .done (.ok []) ∧
      c.shared.entry (entryOf id call.path) = some file := by
  obtain ⟨temp, htemp⟩ := exists_temp
  have hfree : existing.entry (entryOf id temp) = none :=
    if_neg (WriteCall.entryOf_temp_ne htemp)
  obtain ⟨s, hrun⟩ :=
    @emit_canReturn (Option Str) _ id existing call.random _ call.content _
    (WriteCall.temp_eq_some_iff.1 htemp) hfree
  have hstart :
      Pool.Reaches (osFiles id 0 neverFails)
      (start (fun _ : Unit => call) existing)
      (alone s (.done (.ok []))) := hrun
  have hclean : (replacements id (fun _ : Unit => call) existing).Clean := by
    intro i k hentry
    obtain ⟨temp, htemp, hentry⟩ := Option.map_eq_some_iff.1 hentry
    exact temp_ne_path i k temp htemp hentry
  obtain ⟨g, h, _⟩ := start_obeyed.reaches hstart
  obtain ⟨order, order', hprefix, hnodup, hdone, _, hview⟩ :=
    Jobs.exists_replaced hclean h .refl
  have hcontent := (hview (entryOf id call.path) fun k => hclean () k).1
  have hmem : () ∈ order := (hdone () _ rfl).2 rfl
  have horder : order = [()] := by
    have := hnodup.sublist hprefix.sublist
    match order with
    | [()] => rfl
    | () :: () :: _ => simp at this
  rw [horder] at hcontent
  obtain ⟨file, hfile, _⟩ :=
    Option.map_eq_some_iff.1 (hcontent.trans (if_pos rfl))
  exact ⟨_, file, hstart, rfl, hfile⟩

end Example.Emit

/-! ## What the calls have done at any time -/

variable [DecidableEq ι] {c c' : WritePool Dir ι}

namespace Example.Emit

end Example.Emit

namespace Example.Emit

end Example.Emit

/-- The content of an entry after some of the calls have written their files,
one after the other. -/
def contentAfter (dir : Option Str → Dir) (calls : ι → WriteCall)
    (before : Files (Entry Dir)) (order : List ι) (entry : Entry Dir) :
    Option Bytes :=
  order.foldl
    (fun content i => if entryOf dir (calls i).path = entry then
        some (Str.asBytes (calls i).content)
      else content)
    (before.contentOf entry)

/-- When no output is the temporary file of a call, concurrent calls behave as
if each had written its file in one step: at any time of a run there is an order
of the calls that have succeeded, and maybe of some that are still running, but
of none that has failed, such that each entry other than the temporary ones has
the content that this order gives it.  The order only grows. -/
theorem writes_replay
    (hclean : ∀ i k temp, (calls k).temp = some temp →
      entryOf dir temp ≠ entryOf dir (calls i).path)
    (hrun : Pool.Reaches (osFiles dir umask mayFail) (start calls before) c)
    (hrun' : Pool.Reaches (osFiles dir umask mayFail) c c') :
    ∃ order order' : List ι, order <+: order' ∧ order'.Nodup ∧
      (∀ i result, c.thread i = .done result → (i ∈ order ↔ result = .ok [])) ∧
      (∀ i result, c'.thread i = .done result →
        (i ∈ order' ↔ result = .ok [])) ∧
      ∀ entry,
        (∀ k temp, (calls k).temp = some temp → entryOf dir temp ≠ entry) →
        c.shared.contentOf entry = contentAfter dir calls before order entry ∧
        c'.shared.contentOf entry
          = contentAfter dir calls before order' entry := by
  have htemp : ∀ {k : ι} {entry : Entry Dir},
      (∀ temp, (calls k).temp = some temp → entryOf dir temp ≠ entry) →
      ((replacements dir calls before).job k).temp ≠ some entry := by
    intro k entry hne heq
    obtain ⟨temp, hcall, hentry⟩ := Option.map_eq_some_iff.1 heq
    exact hne temp hcall hentry
  have hclean' : (replacements dir calls before).Clean :=
    fun i k => htemp (hclean i k)
  obtain ⟨g, h, _⟩ := start_obeyed.reaches hrun
  obtain ⟨order, order', hprefix, hnodup, hdone, hdone', hview⟩ :=
    Jobs.exists_replaced hclean' h hrun'
  exact ⟨order, order', hprefix, hnodup, hdone, hdone',
    fun entry hentry => hview entry fun k => htemp (hentry k)⟩

namespace Example.Emit

theorem writes_replay_example :
    ∃ (c : WritePool (Option Str) Unit) (order order' : List Unit),
    c.thread () = .done (.ok []) ∧ order <+: order' ∧ order'.Nodup ∧
    (∀ i result, c.thread i = .done result → (i ∈ order ↔ result = .ok [])) ∧
    (∀ i result, c.thread i = .done result → (i ∈ order' ↔ result = .ok [])) ∧
    ∀ entry,
    (∀ (_ : Unit) temp, call.temp = some temp → entryOf id temp ≠ entry) →
      c.shared.contentOf entry
        = contentAfter id (fun _ => call) existing order entry ∧
      c.shared.contentOf entry
        = contentAfter id (fun _ => call) existing order' entry := by
  obtain ⟨c, _, hrun, hdone, _⟩ := exists_run
  obtain ⟨order, order', h⟩ := writes_replay temp_ne_path hrun .refl
  exact ⟨c, order, order', hdone, h⟩

end Example.Emit

end Wimsey.Cli
