import Mathlib.Logic.Function.Basic
import Mathlib.Logic.Relation

/-!
# Programs that share a state

A `Program` calls operations and goes on with their replies.  A `Pool` is a
family of programs over one shared state, and `Pool.Step` runs one operation of
one of them: the runs of a pool are all the interleavings, and a program that
stops half-way is one that is not scheduled again.

The rules are those of rely-guarantee reasoning with an auxiliary state.  A
`Discipline` says what holds of the state at any time, what every step keeps,
and what each program may rely on about the steps of the others.
`Discipline.Follows` says that a program obeys it from a given state on, and
`Discipline.Obeyed` that all programs of a pool do.

* `follows_bind`, `follows_call` and `Follows.mono` are the rules for one
  program.
* `Obeyed.step` is the step lemma of a pool, and `Obeyed.reaches` the run lemma.
* `Obeyed.result` is what a run has established when a program has returned.
-/

namespace Wimsey.System

/-! ## Programs -/

/-- A program that calls operations and returns a value. -/
inductive Program (Op : Type) (Reply : Op → Type) (α : Type) where
  | done (a : α)
  | call (op : Op) (next : Reply op → Program Op Reply α)

variable {Op : Type} {Reply : Op → Type} {α β σ γ ι : Type}

namespace Program

/-- The program that goes on with the value of another one. -/
def bind : Program Op Reply α → (α → Program Op Reply β) → Program Op Reply β
  | .done a, k => k a
  | .call op next, k => .call op fun reply => (next reply).bind k

instance : Monad (Program Op Reply) where
  pure := .done
  bind := bind

@[simp] theorem pure_eq (a : α) : (pure a : Program Op Reply α) = .done a := rfl

@[simp] theorem done_bind (a : α) (k : α → Program Op Reply β) :
    (Program.done a >>= k) = k a := rfl

@[simp] theorem call_bind (op : Op) (next : Reply op → Program Op Reply α)
    (k : α → Program Op Reply β) :
    (Program.call op next >>= k) = .call op fun reply => next reply >>= k := rfl

theorem bind_assoc {δ : Type} (p : Program Op Reply α)
    (k : α → Program Op Reply β) (k' : β → Program Op Reply δ) :
    p >>= k >>= k' = p >>= fun a => k a >>= k' := by
  induction p with
  | done a => rfl
  | call op next ih =>
    simp only [call_bind]
    exact congrArg (Program.call op) (funext ih)

end Program

/-! ## Pools -/

/-- What an operation does: the states before and after it, and its reply. -/
abbrev Semantics (Op : Type) (Reply : Op → Type) (σ : Type) :=
  (op : Op) → σ → Reply op → σ → Prop

/-- Programs that run over one state. -/
structure Pool (Op : Type) (Reply : Op → Type) (α σ ι : Type) where
  shared : σ
  thread : ι → Program Op Reply α

/-- One program of a pool calls its next operation. -/
inductive Pool.Step [DecidableEq ι] (sem : Semantics Op Reply σ) :
    Pool Op Reply α σ ι → Pool Op Reply α σ ι → Prop
  | call {c : Pool Op Reply α σ ι} {i : ι} {op : Op}
      {next : Reply op → Program Op Reply α}
      {reply : Reply op} {s : σ} (isNext : c.thread i = .call op next)
      (runs : sem op c.shared reply s) :
      Step sem c ⟨s, Function.update c.thread i (next reply)⟩

/-- The runs of a pool. -/
abbrev Pool.Reaches [DecidableEq ι] (sem : Semantics Op Reply σ)
    (c c' : Pool Op Reply α σ ι) : Prop :=
  Relation.ReflTransGen (Pool.Step sem) c c'

/-! ## Disciplines -/

/-- What the programs of a pool agree on, over the shared state and an auxiliary
one: the invariant, what every step keeps, and what a program relies on about
the steps of the others. -/
structure Discipline (σ γ ι : Type) where
  inv : σ × γ → Prop
  keeps : σ × γ → σ × γ → Prop
  rely : ι → σ × γ → σ × γ → Prop
  keeps_refl : ∀ w, keeps w w
  keeps_trans : ∀ {w₁ w₂ w₃}, keeps w₁ w₂ → keeps w₂ w₃ → keeps w₁ w₃
  rely_refl : ∀ i w, rely i w w
  rely_trans : ∀ {i w₁ w₂ w₃}, rely i w₁ w₂ → rely i w₂ w₃ → rely i w₁ w₃

namespace Discipline

variable (d : Discipline σ γ ι) (sem : Semantics Op Reply σ)

/-- A step that a program may take. -/
structure Guarantee (i : ι) (w w' : σ × γ) : Prop where
  inv : d.inv w'
  keeps : d.keeps w w'
  rely : ∀ j, j ≠ i → d.rely j w w'

/-- The program obeys the discipline as the program `i` of a pool, whatever the
others do before each of its steps, and establishes `post`. -/
def Follows (i : ι) (post : α → σ × γ → Prop) :
    Program Op Reply α → σ × γ → Prop
  | .done a, w => ∀ w', d.rely i w w' → d.inv w' → post a w'
  | .call op next, w =>
      ∀ w₁, d.rely i w w₁ → d.inv w₁ → ∀ reply s, sem op w₁.1 reply s →
      ∃ g, d.Guarantee i w₁ (s, g) ∧ Follows i post (next reply) (s, g)

variable {d sem} {i : ι} {post : α → σ × γ → Prop}

/-- The steps of the other programs keep what a program follows. -/
theorem Follows.of_rely {p : Program Op Reply α} {w w' : σ × γ}
    (h : d.Follows sem i post p w) (hrely : d.rely i w w') :
    d.Follows sem i post p w' := by
  cases p with
  | done a => exact fun w₁ h₁ => h w₁ (d.rely_trans hrely h₁)
  | call op next => exact fun w₁ h₁ => h w₁ (d.rely_trans hrely h₁)

/-- A program that has returned establishes its postcondition. -/
theorem Follows.result {a : α} {w : σ × γ}
    (h : d.Follows sem i post (.done a) w) (hinv : d.inv w) : post a w :=
  h w (d.rely_refl i w) hinv

theorem Follows.mono {post' : α → σ × γ → Prop} {p : Program Op Reply α}
    {w : σ × γ} (h : d.Follows sem i post p w)
    (hpost : ∀ a w, d.inv w → post a w → post' a w) :
    d.Follows sem i post' p w := by
  induction p generalizing w with
  | done a => exact fun w' hrely hinv => hpost a w' hinv (h w' hrely hinv)
  | call op next ih =>
    intro w₁ hrely hinv reply s hs
    obtain ⟨g, hg, hnext⟩ := h w₁ hrely hinv reply s hs
    exact ⟨g, hg, ih reply hnext⟩

/-- The rule of composition. -/
theorem follows_bind {post' : β → σ × γ → Prop} {p : Program Op Reply α}
    {k : α → Program Op Reply β} {w : σ × γ} (hp : d.Follows sem i post p w)
    (hk : ∀ a w, d.inv w → post a w → d.Follows sem i post' (k a) w) :
    d.Follows sem i post' (p >>= k) w := by
  induction p generalizing w with
  | done a =>
    have hdone := fun w' hrely hinv => hk a w' hinv (hp w' hrely hinv)
    rw [Program.done_bind]
    -- The continuation starts only after the others have moved the state once
    -- more.
    cases h : k a with
    | done b =>
      intro w' hrely hinv
      have hreturn := hdone w' hrely hinv
      rw [h] at hreturn
      exact hreturn.result hinv
    | call op next =>
      intro w₁ hrely hinv
      have hcall := hdone w₁ hrely hinv
      rw [h] at hcall
      exact hcall w₁ (d.rely_refl i w₁) hinv
  | call op next ih =>
    intro w₁ hrely hinv reply s hs
    obtain ⟨g, hg, hnext⟩ := hp w₁ hrely hinv reply s hs
    exact ⟨g, hg, ih reply hnext⟩

/-- The rule of a call, for a precondition that the steps of the others keep. -/
theorem follows_call (pre : σ × γ → Prop) {op : Op}
    {next : Reply op → Program Op Reply α} {w : σ × γ}
    (hstable : ∀ w w', d.rely i w w' → d.inv w' → pre w → pre w') (hpre : pre w)
    (hcall : ∀ w₁, d.inv w₁ → pre w₁ → ∀ reply s, sem op w₁.1 reply s →
      ∃ g, d.Guarantee i w₁ (s, g) ∧ d.Follows sem i post (next reply) (s, g)) :
    d.Follows sem i post (.call op next) w :=
  fun w₁ hrely hinv => hcall w₁ hinv (hstable w w₁ hrely hinv hpre)

/-- The rule of a return, for a postcondition that the steps of the others
keep. -/
theorem follows_done {a : α} {w : σ × γ}
    (hstable : ∀ w w', d.rely i w w' → d.inv w' → post a w → post a w')
    (hpost : post a w) :
    d.Follows sem i post (.done a) w :=
  fun w' hrely hinv => hstable w w' hrely hinv hpost

/-! ## Runs of a pool -/

variable (d sem) in
/-- Every program of a pool follows the discipline, at the auxiliary state
`g`. -/
structure Obeyed (post : ι → α → σ × γ → Prop) (c : Pool Op Reply α σ ι)
    (g : γ) : Prop where
  inv : d.inv (c.shared, g)
  follows : ∀ i, d.Follows sem i (post i) (c.thread i) (c.shared, g)

variable {post : ι → α → σ × γ → Prop} {c c' : Pool Op Reply α σ ι} {g : γ}

variable [DecidableEq ι]

/-- A step of a pool keeps the discipline. -/
theorem Obeyed.step (h : d.Obeyed sem post c g) (hstep : Pool.Step sem c c') :
    ∃ g', d.Obeyed sem post c' g' ∧ d.keeps (c.shared, g) (c'.shared, g') := by
  cases hstep with
  | @call i op next reply s isNext runs =>
    have hthread := h.follows i
    rw [isNext] at hthread
    obtain ⟨g', hg, hnext⟩ := hthread _ (d.rely_refl i _) h.inv reply s runs
    refine ⟨g', ⟨hg.inv, fun j => ?_⟩, hg.keeps⟩
    show d.Follows sem j (post j)
      (Function.update c.thread i (next reply) j) (s, g')
    by_cases hj : j = i
    · subst hj
      rw [Function.update_self]
      exact hnext
    · rw [Function.update_of_ne hj]
      exact (h.follows j).of_rely (hg.rely j hj)

/-- A run of a pool keeps the discipline. -/
theorem Obeyed.reaches (h : d.Obeyed sem post c g)
    (hrun : Pool.Reaches sem c c') :
    ∃ g', d.Obeyed sem post c' g' ∧ d.keeps (c.shared, g) (c'.shared, g') := by
  induction hrun with
  | refl => exact ⟨g, h, d.keeps_refl _⟩
  | tail _ hstep ih =>
    obtain ⟨g₁, h₁, hkeeps₁⟩ := ih
    obtain ⟨g₂, h₂, hkeeps₂⟩ := h₁.step hstep
    exact ⟨g₂, h₂, d.keeps_trans hkeeps₁ hkeeps₂⟩

omit [DecidableEq ι] in
/-- A program of an obedient pool that has returned has established its
postcondition. -/
theorem Obeyed.result {i : ι} {a : α} (h : d.Obeyed sem post c g)
    (hdone : c.thread i = .done a) :
    post i a (c.shared, g) :=
  Follows.result (hdone ▸ h.follows i) h.inv

end Discipline

end Wimsey.System
