import Wimsey.RustStd.Str

/-!
# Rust integers

`u64` is `UInt64`, with the saturating operations of the standard library, its
decimal `Display` and its `FromStr`.  `FromStr` accepts one leading `+` and any
number of leading zeros, so it reads more than `Display` writes.  `u8` has the
checked operators, and `[u8; n]` the conversion from a slice.

`toNat_saturatingAdd` and `toNat_saturatingSub` turn a comparison of saturated
values into one over unbounded numbers.
-/

namespace Wimsey.RustStd

/-! ## Saturating arithmetic -/

/-- `u64::saturating_add`. -/
def saturatingAdd (a b : UInt64) : UInt64 :=
  if a.toNat + b.toNat < 2 ^ 64 then a + b else UInt64.ofNat (2 ^ 64 - 1)

/-- `u64::saturating_sub`. -/
def saturatingSub (a b : UInt64) : UInt64 := if b ≤ a then a - b else 0

/-- `u64::checked_add`. -/
def checkedAdd (a b : UInt64) : Option UInt64 :=
  if a.toNat + b.toNat < 2 ^ 64 then some (a + b) else none

theorem checkedAdd_eq_some_iff {a b c : UInt64} :
    checkedAdd a b = some c ↔ c.toNat = a.toNat + b.toNat := by
  have hlt := c.toNat_lt
  rw [checkedAdd]
  split
  · rename_i h
    rw [Option.some.injEq, ← UInt64.toNat_inj, UInt64.toNat_add,
      Nat.mod_eq_of_lt h]
    exact eq_comm
  · simp only [reduceCtorEq, false_iff]
    omega

theorem checkedAdd_eq_none_iff {a b : UInt64} :
    checkedAdd a b = none ↔ 2 ^ 64 ≤ a.toNat + b.toNat := by
  rw [checkedAdd]
  split
  · simp only [reduceCtorEq, false_iff]
    omega
  · simp only [true_iff]
    omega

theorem toNat_saturatingAdd (a b : UInt64) :
    (saturatingAdd a b).toNat = min (a.toNat + b.toNat) (2 ^ 64 - 1) := by
  rw [saturatingAdd]
  split
  · rename_i h
    rw [UInt64.toNat_add, Nat.mod_eq_of_lt h]
    omega
  · rw [UInt64.toNat_ofNat_of_lt' (by decide)]
    omega

theorem toNat_saturatingSub (a b : UInt64) :
    (saturatingSub a b).toNat = a.toNat - b.toNat := by
  rw [saturatingSub]
  split
  · rename_i h
    exact UInt64.toNat_sub_of_le a b h
  · rename_i h
    rw [UInt64.not_le, UInt64.lt_iff_toNat_lt] at h
    simp only [UInt64.toNat_zero]
    omega

@[simp] theorem saturatingAdd_zero (a : UInt64) : saturatingAdd a 0 = a := by
  apply UInt64.toNat_inj.1
  have ha : a.toNat < 2 ^ 64 := a.toNat_lt
  rw [toNat_saturatingAdd, UInt64.toNat_zero]
  omega

/-- `i64::try_from`, of a `u64`. -/
def i64TryFrom (n : UInt64) : Option Int :=
  if n.toNat < 2 ^ 63 then some n.toNat else none

theorem i64TryFrom_eq_some_iff {n : UInt64} {secs : Int} :
    i64TryFrom n = some secs ↔ n.toNat < 2 ^ 63 ∧ (n.toNat : Int) = secs := by
  rw [i64TryFrom]
  split
  · rename_i h
    rw [Option.some.injEq]
    exact ⟨fun hsecs => ⟨h, hsecs⟩, fun hsecs => hsecs.2⟩
  · rename_i h
    exact ⟨nofun, fun hsecs => absurd hsecs.1 h⟩

/-! ## Checked bytes -/

/-- `a + b` on `u8`, which panics on overflow. -/
def addU8 {ε : Type} (a b : UInt8) : Outcome ε UInt8 :=
  if a.toNat + b.toNat < 2 ^ 8 then .ok (a + b) else .panic

/-- `a - b` on `u8`, which panics on underflow. -/
def subU8 {ε : Type} (a b : UInt8) : Outcome ε UInt8 :=
  if b ≤ a then .ok (a - b) else .panic

/-- `a * b` on `u8`, which panics on overflow. -/
def mulU8 {ε : Type} (a b : UInt8) : Outcome ε UInt8 :=
  if a.toNat * b.toNat < 2 ^ 8 then .ok (a * b) else .panic

/-! ## Fixed-size arrays -/

/-- `<[u8; n]>::try_from`, of a slice. -/
def tryInto (n : Nat) (b : Bytes) : Option (Vector UInt8 n) :=
  if h : b.length = n then some ⟨b.toArray, by simpa using h⟩ else none

theorem tryInto_toList {n : Nat} (v : Vector UInt8 n) :
    tryInto n v.toList = some v := by
  rw [tryInto, dif_pos v.length_toList]
  congr 1

theorem tryInto_eq_some_iff {n : Nat} {b : Bytes} {v : Vector UInt8 n} :
    tryInto n b = some v ↔ b = v.toList := by
  constructor
  · intro h
    rw [tryInto] at h
    split at h
    · obtain rfl := Option.some.inj h
      rfl
    · cases h
  · rintro rfl
    exact tryInto_toList v

/-! ## Decimals -/

/-- `Display` of an unsigned integer. -/
def display (n : Nat) : Str := Nat.toDigits 10 n

/-- `<u64 as FromStr>::from_str`. -/
def parseU64 (s : Str) : Option UInt64 :=
  let digits := match s with
    | '+' :: rest => rest
    | _ => s
  if !digits.isEmpty && digits.all Char.isDigit &&
      Nat.ofDigitChars 10 digits 0 < 2 ^ 64 then
    some (UInt64.ofNat (Nat.ofDigitChars 10 digits 0))
  else none

theorem isDigit_of_mem_display {n : Nat} {c : Char} (h : c ∈ display n) :
    c.isDigit :=
  Nat.isDigit_of_mem_toDigits (by decide) (by decide) h

theorem display_ne_nil (n : Nat) : display n ≠ [] := Nat.toDigits_ne_nil

theorem display_injective : Function.Injective display := by
  intro m n h
  have hval := congrArg (fun cs => Nat.ofDigitChars 10 cs 0) h
  simpa only [display, Nat.ofDigitChars_ten_toDigits] using hval

/-- What is read without a sign is digits. -/
theorem isDigit_of_parseU64 {s : Str} {n : UInt64} (h : parseU64 s = some n)
    (hsign : s.head? ≠ some '+') : ∀ c ∈ s, c.isDigit = true := by
  have hdigits : ∀ t : Str, t.head? ≠ some '+' → (match t with
      | '+' :: rest => rest
      | _ => t) = t := by
    intro t ht
    split
    · exact absurd rfl ht
    · rfl
  unfold parseU64 at h
  rw [hdigits s hsign] at h
  dsimp only at h
  split at h
  · rename_i hvalid
    simp only [Bool.and_eq_true] at hvalid
    exact List.all_eq_true.1 hvalid.1.2
  · cases h

/-- What `Display` writes, `FromStr` reads back. -/
theorem parseU64_display (n : UInt64) :
    parseU64 (display n.toNat) = some n := by
  have hdigits : (match display n.toNat with
      | '+' :: rest => rest
      | _ => display n.toNat) = display n.toNat := by
    split
    · rename_i rest h
      have hplus :=
        isDigit_of_mem_display (n := n.toNat) (c := '+') (by simp [h])
      exact absurd hplus (by decide)
    · rfl
  have hall : (display n.toNat).all Char.isDigit = true :=
    List.all_eq_true.2 fun c hc => isDigit_of_mem_display hc
  have hval : Nat.ofDigitChars 10 (display n.toNat) 0 = n.toNat :=
    Nat.ofDigitChars_ten_toDigits
  have hlt : n.toNat < 2 ^ 64 := n.toNat_lt
  have hne : (display n.toNat).isEmpty = false := by simp [display_ne_nil]
  simp only [parseU64, hdigits, hall, hval, hne, Bool.not_false, Bool.and_self,
    decide_eq_true hlt, if_true, UInt64.ofNat_toNat]

end Wimsey.RustStd
