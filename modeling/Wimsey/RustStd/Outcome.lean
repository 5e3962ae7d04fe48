import Mathlib

/-!
# Outcomes of a Rust call

Fallible Rust code ends in one of three ways: it returns `Ok`, it returns
`Err`, or it panics, for instance because a string is sliced off a character
boundary.  `Outcome` keeps the three apart.  Code that the source writes with
`?` is written here in `do` notation, and a panic stops a computation just as
an error does, without ever turning into one.

* `failIf` is `if bad { return Err(e) }`.
* `when` and `ifSome` run a check under a condition, and under a present
  optional value.
* `okOr` and `mapErr` are the `Result` combinators of the same names.

The `bind_eq_ok_iff` family takes a successful computation apart, one step at a
time, and is what every proof about a verifier starts from.  `Decides` says what
a check accepts and that it does not panic; the rules for it follow the
combinators above.
-/

namespace Wimsey.RustStd

/-- The end of a Rust call with error type `ε` and value type `α`. -/
inductive Outcome (ε α : Type) where
  | ok (value : α)
  | err (error : ε)
  | panic
deriving DecidableEq, Repr

namespace Outcome

variable {ε δ α β γ : Type}

/-- Run `f` on the value, if there is one. -/
def bind : Outcome ε α → (α → Outcome ε β) → Outcome ε β
  | ok a, f => f a
  | err e, _ => err e
  | panic, _ => panic

instance : Monad (Outcome ε) where
  pure := ok
  bind := bind

instance : LawfulMonad (Outcome ε) := LawfulMonad.mk' (Outcome ε)
  (fun x => by cases x <;> rfl)
  (fun _ _ => rfl)
  (fun x _ _ => by cases x <;> rfl)

/-- Whether there is a value with a property. -/
instance decidableExistsOk {P : α → Prop} [DecidablePred P] :
    (x : Outcome ε α) → Decidable (∃ a, x = ok a ∧ P a)
  | ok a => decidable_of_iff (P a) (by simp)
  | err _ => .isFalse (by simp)
  | panic => .isFalse (by simp)

/-- `Result::map_err`. -/
def mapErr (f : ε → δ) : Outcome ε α → Outcome δ α
  | ok a => ok a
  | err e => err (f e)
  | panic => panic

/-- `Option::ok_or`. -/
def okOr (e : ε) : Option α → Outcome ε α
  | some a => ok a
  | none => err e

/-- `Option::expect`: an absent value is a panic. -/
def expect : Option α → Outcome ε α
  | some a => ok a
  | none => panic

/-- `if bad { return Err(e) }`. -/
def failIf (bad : Bool) (e : ε) : Outcome ε Unit :=
  if bad then err e else ok ()

/-- Run a check only under a condition. -/
def when (b : Bool) (check : Outcome ε Unit) : Outcome ε Unit :=
  if b then check else ok ()

/-- Run a check on an optional value, if it is present. -/
def ifSome (o : Option α) (check : α → Outcome ε Unit) : Outcome ε Unit :=
  match o with
  | some a => check a
  | none => ok ()

/-! ## Simplification -/

@[simp] theorem pure_eq (a : α) : (pure a : Outcome ε α) = ok a := rfl

@[simp] theorem ok_bind (a : α) (f : α → Outcome ε β) :
    (ok a >>= f) = f a := rfl

@[simp] theorem err_bind (e : ε) (f : α → Outcome ε β) :
    (err e >>= f) = err e := rfl

@[simp] theorem panic_bind (f : α → Outcome ε β) :
    ((panic : Outcome ε α) >>= f) = panic := rfl

@[simp] theorem map_ok (f : α → β) (a : α) :
    f <$> (ok a : Outcome ε α) = ok (f a) := rfl

@[simp] theorem map_err (f : α → β) (e : ε) :
    f <$> (err e : Outcome ε α) = err e := rfl

@[simp] theorem map_panic (f : α → β) :
    f <$> (panic : Outcome ε α) = panic := rfl

@[simp] theorem mapErr_ok (f : ε → δ) (a : α) : mapErr f (ok a) = ok a := rfl

@[simp] theorem mapErr_err (f : ε → δ) (e : ε) :
    mapErr f (err e : Outcome ε α) = err (f e) := rfl

@[simp] theorem mapErr_panic (f : ε → δ) :
    mapErr f (panic : Outcome ε α) = panic := rfl

@[simp] theorem okOr_some (e : ε) (a : α) : okOr e (some a) = ok a := rfl

@[simp] theorem okOr_none (e : ε) : okOr e (none : Option α) = err e := rfl

@[simp] theorem expect_some (a : α) :
    (expect (some a) : Outcome ε α) = ok a := rfl

@[simp] theorem failIf_true (e : ε) : failIf true e = err e := rfl

@[simp] theorem failIf_false (e : ε) : failIf false e = ok () := rfl

@[simp] theorem when_true (check : Outcome ε Unit) :
    when true check = check := rfl

@[simp] theorem when_false (check : Outcome ε Unit) :
    when false check = ok () := rfl

@[simp] theorem ifSome_some (a : α) (check : α → Outcome ε Unit) :
    ifSome (some a) check = check a := rfl

@[simp] theorem ifSome_none (check : α → Outcome ε Unit) :
    ifSome none check = ok () := rfl

/-- A check and what follows it, as in the source. -/
theorem failIf_bind (bad : Bool) (e : ε) (f : Unit → Outcome ε α) :
    (failIf bad e >>= f) = if bad then err e else f () := by
  cases bad <;> rfl

/-- A check that fails on some values. -/
theorem ifSome_failIf (o : Option α) (bad : α → Bool) (e : ε) :
    ifSome o (fun a => failIf (bad a) e) = failIf (o.any bad) e := by
  cases o <;> rfl

/-! ## Taking a successful computation apart -/

theorem bind_eq_ok_iff {x : Outcome ε α} {f : α → Outcome ε β} {b : β} :
    (x >>= f) = ok b ↔ ∃ a, x = ok a ∧ f a = ok b := by
  cases x <;> simp

theorem bind_of_ok {x : Outcome ε α} {a : α} (h : x = ok a)
    {f : α → Outcome ε β} :
    (x >>= f) = f a := by
  rw [h, ok_bind]

theorem map_eq_ok_iff {f : α → β} {x : Outcome ε α} {b : β} :
    f <$> x = ok b ↔ ∃ a, x = ok a ∧ f a = b := by
  cases x <;> simp

theorem mapErr_eq_ok_iff {f : ε → δ} {x : Outcome ε α} {a : α} :
    mapErr f x = ok a ↔ x = ok a := by
  cases x <;> simp

theorem okOr_eq_ok_iff {e : ε} {o : Option α} {a : α} :
    okOr e o = ok a ↔ o = some a := by
  cases o <;> simp

theorem failIf_eq_ok_iff {bad : Bool} {e : ε} {u : Unit} :
    failIf bad e = ok u ↔ bad = false := by
  cases bad <;> simp

theorem when_eq_ok_iff {b : Bool} {check : Outcome ε Unit} {u : Unit} :
    when b check = ok u ↔ (b = true → check = ok ()) := by
  cases b <;> simp

theorem ifSome_eq_ok_iff {o : Option α} {check : α → Outcome ε Unit}
    {u : Unit} :
    ifSome o check = ok u ↔ ∀ a, o = some a → check a = ok () := by
  cases o <;> simp

/-- What a successful map answers, element by element. -/
theorem forall₂_of_mapM {f : α → Outcome ε β} {as : List α} {bs : List β}
    (h : as.mapM f = ok bs) : List.Forall₂ (fun a b => f a = ok b) as bs := by
  induction as generalizing bs with
  | nil =>
    obtain rfl := Outcome.ok.inj h
    exact .nil
  | cons a as ih =>
    rw [List.mapM_cons, bind_eq_ok_iff] at h
    obtain ⟨first, hfirst, hrest⟩ := h
    obtain ⟨rest, hmap, hbs⟩ := bind_eq_ok_iff.1 hrest
    obtain rfl := Outcome.ok.inj hbs
    exact .cons hfirst (ih hmap)

theorem exists_of_mem_mapM {f : α → Outcome ε β} {as : List α} {bs : List β}
    (h : as.mapM f = ok bs) {b : β} (hb : b ∈ bs) : ∃ a ∈ as, f a = ok b := by
  have hall := forall₂_of_mapM h
  clear h
  induction hall with
  | nil => cases hb
  | cons hfirst _ ih =>
    rcases List.mem_cons.1 hb with rfl | hb
    · exact ⟨_, List.mem_cons_self .., hfirst⟩
    · obtain ⟨a, ha, hfa⟩ := ih hb
      exact ⟨a, List.mem_cons_of_mem _ ha, hfa⟩

theorem exists_of_mapM {f : α → Outcome ε β} {as : List α} {bs : List β}
    (h : as.mapM f = ok bs) {a : α} (ha : a ∈ as) : ∃ b, f a = ok b := by
  have hall := forall₂_of_mapM h
  clear h
  induction hall with
  | nil => cases ha
  | cons hfirst _ ih =>
    rcases List.mem_cons.1 ha with rfl | ha
    · exact ⟨_, hfirst⟩
    · exact ih ha

/-- A map after another one, where both together return a value. -/
theorem mapM_map_eq_ok {f : α → Outcome ε β} {g : γ → α} {k : γ → β}
    {bs : List γ} (h : ∀ b ∈ bs, f (g b) = ok (k b)) :
    (bs.map g).mapM f = ok (bs.map k) := by
  induction bs with
  | nil => rfl
  | cons b bs ih =>
    rw [List.map_cons, List.mapM_cons, h b (List.mem_cons_self ..),
      ih fun c hc => h c (List.mem_cons_of_mem b hc)]
    rfl

/-- Where the value of an element is a function of the element, so is that of a
map. -/
theorem map_of_mapM {f : α → Outcome ε β} {g : α → γ} {k : β → γ}
    (h : ∀ a b, f a = ok b → k b = g a) {as : List α} {bs : List β}
    (hmap : as.mapM f = ok bs) :
    bs.map k = as.map g := by
  have hall := forall₂_of_mapM hmap
  clear hmap
  induction hall with
  | nil => rfl
  | cons hfirst _ ih => rw [List.map_cons, List.map_cons, h _ _ hfirst, ih]

/-- A panic comes from the first step or from what follows its value. -/
theorem bind_ne_panic {x : Outcome ε α} {f : α → Outcome ε β}
    (hx : x ≠ panic) (hf : ∀ a, x = ok a → f a ≠ panic) :
    (x >>= f) ≠ panic := by
  cases x with
  | ok a => exact hf a rfl
  | err e => simp
  | panic => exact absurd rfl hx

/-- A fold of steps that do not panic does not panic. -/
theorem foldlM_ne_panic {step : α → β → Outcome ε α}
    (hstep : ∀ a b, step a b ≠ panic) (bs : List β) (a : α) :
    bs.foldlM step a ≠ panic := by
  induction bs generalizing a with
  | nil => simp
  | cons b bs ih =>
    rw [List.foldlM_cons]
    exact bind_ne_panic (hstep a b) fun a' _ => ih a'

/-- A map of steps that do not panic does not panic. -/
theorem mapM_ne_panic {step : α → Outcome ε β} (hstep : ∀ a, step a ≠ panic)
    (as : List α) :
    as.mapM step ≠ panic := by
  induction as with
  | nil => simp
  | cons a as ih =>
    rw [List.mapM_cons]
    exact bind_ne_panic (hstep a) fun b _ => bind_ne_panic ih fun bs _ => by
      simp

theorem map_ne_panic {f : α → β} {x : Outcome ε α} (h : x ≠ panic) :
    f <$> x ≠ panic := by
  cases x with
  | ok a => simp
  | err e => simp
  | panic => exact absurd rfl h

theorem mapErr_ne_panic {f : ε → δ} {x : Outcome ε α} (h : x ≠ panic) :
    mapErr f x ≠ panic := by
  cases x with
  | ok a => simp
  | err e => simp
  | panic => exact absurd rfl h

/-- What neither panics nor returns a value ends in an error. -/
theorem exists_err {x : Outcome ε α} (hpanic : x ≠ panic)
    (hok : ∀ a, x ≠ ok a) :
    ∃ e, x = err e := by
  cases x with
  | ok a => exact absurd rfl (hok a)
  | err e => exact ⟨e, rfl⟩
  | panic => exact absurd rfl hpanic

/-- What does not panic ends in an error exactly when it returns no value. -/
theorem exists_err_iff {x : Outcome ε α} (h : x ≠ panic) :
    (∃ e, x = err e) ↔ ¬ ∃ a, x = ok a := by
  cases x with
  | ok a => simp
  | err e => simp
  | panic => exact absurd rfl h

theorem okOr_ne_panic {e : ε} {o : Option α} : okOr e o ≠ panic := by
  cases o <;> simp

theorem failIf_ne_panic {bad : Bool} {e : ε} : failIf bad e ≠ panic := by
  cases bad <;> simp

theorem when_ne_panic {b : Bool} {check : Outcome ε Unit} (h : check ≠ panic) :
    when b check ≠ panic := by
  cases b
  · simp
  · exact h

theorem ifSome_ne_panic {o : Option α} {check : α → Outcome ε Unit}
    (h : ∀ a, check a ≠ panic) :
    ifSome o check ≠ panic := by
  cases o with
  | none => simp
  | some a => exact h a

/-! ## Checks -/

/-- The check accepts exactly when `P` holds, and it never panics. -/
def Decides (check : Outcome ε Unit) (P : Prop) : Prop :=
  check = ok () ∧ P ∨ (∃ e, check = err e) ∧ ¬ P

variable {x y : Outcome ε Unit} {P Q : Prop}

theorem Decides.ok_iff (h : Decides x P) : x = ok () ↔ P := by
  rcases h with ⟨rfl, hp⟩ | ⟨⟨e, rfl⟩, hp⟩ <;> simp [hp]

theorem Decides.ne_panic (h : Decides x P) : x ≠ panic := by
  rcases h with ⟨rfl, _⟩ | ⟨⟨e, rfl⟩, _⟩ <;> simp

theorem Decides.congr (h : Decides x P) (hpq : P ↔ Q) : Decides x Q := by
  rwa [← hpq]

theorem Decides.failIf (bad : Bool) (e : ε) :
    Decides (Outcome.failIf bad e) (bad = false) := by
  cases bad with
  | false => exact Or.inl ⟨rfl, rfl⟩
  | true => exact Or.inr ⟨⟨e, rfl⟩, by simp⟩

/-- One check after another, where the second may rely on what the first
decided. -/
theorem Decides.bind (hx : Decides x P) (hy : P → Decides y Q) :
    Decides (x >>= fun _ => y) (P ∧ Q) := by
  rcases hx with ⟨rfl, hp⟩ | ⟨⟨e, rfl⟩, hp⟩
  · rw [ok_bind]
    exact (hy hp).congr (by simp [hp])
  · exact Or.inr ⟨⟨e, rfl⟩, fun h => hp h.1⟩

theorem Decides.when {b : Bool} (h : b = true → Decides x P) :
    Decides (Outcome.when b x) (b = true → P) := by
  cases b with
  | false => exact Or.inl ⟨rfl, by simp⟩
  | true => exact (h rfl).congr (by simp)

theorem Decides.ifSome {o : Option α} {check : α → Outcome ε Unit}
    {P : α → Prop} (h : ∀ a, Decides (check a) (P a)) :
    Decides (Outcome.ifSome o check) (∀ a, o = some a → P a) := by
  cases o with
  | none => exact Or.inl ⟨rfl, by simp⟩
  | some a => exact (h a).congr (by simp)

end Outcome

end Wimsey.RustStd
