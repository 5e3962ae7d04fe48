import Wimsey.RustStd.UInt

/-!
# Rust slices

The operations on `[u8]` that panic, or that answer `None`, when an index is out
of range, and the checked arithmetic on `usize` that goes with them.
-/

namespace Wimsey.RustStd.Slice

variable {ε : Type}

/-- `a - b` on `usize`, which panics on underflow. -/
def subUsize (a b : Nat) : Outcome ε Nat :=
  if b ≤ a then .ok (a - b) else .panic

/-- `u8::try_from`, of a `usize`. -/
def u8TryFrom (n : Nat) : Option UInt8 :=
  if n < 2 ^ 8 then some (UInt8.ofNat n) else none

/-- `b[i]`. -/
def index (b : Bytes) (i : Nat) : Outcome ε UInt8 := Outcome.expect b[i]?

/-- `&b[i..]`. -/
def sliceFrom (b : Bytes) (i : Nat) : Outcome ε Bytes :=
  if i ≤ b.length then .ok (b.drop i) else .panic

/-- `b.get(..n)`. -/
def getTo (b : Bytes) (n : Nat) : Option Bytes :=
  if n ≤ b.length then some (b.take n) else none

/-- `b.get(i..j)`. -/
def get (b : Bytes) (i j : Nat) : Option Bytes :=
  if i ≤ j ∧ j ≤ b.length then some ((b.drop i).take (j - i)) else none

/-- `b.get(n..)`. -/
def getFrom (b : Bytes) (n : Nat) : Option Bytes :=
  if n ≤ b.length then some (b.drop n) else none

/-- `<[u8]>::strip_prefix`. -/
def stripPrefix (p b : Bytes) : Option Bytes :=
  if p <+: b then some (b.drop p.length) else none

/-- `<[u8]>::split_at_checked`. -/
def splitAtChecked (b : Bytes) (n : Nat) : Option (Bytes × Bytes) :=
  if n ≤ b.length then some (b.take n, b.drop n) else none

/-- `v[i..j].copy_from_slice(source)`. -/
def copyFromSlice {n : Nat} (v : Vector UInt8 n) (i j : Nat) (source : Bytes) :
    Outcome ε (Vector UInt8 n) :=
  if h : i ≤ j ∧ j ≤ n ∧ source.length = j - i then
    .ok ⟨(v.toList.take i ++ source ++ v.toList.drop j).toArray, by
      simp only [List.size_toArray, List.length_append, List.length_take,
        List.length_drop, Vector.length_toList]
      omega⟩
  else .panic

theorem subUsize_of_le {a b : Nat} (h : b ≤ a) :
    (subUsize a b : Outcome ε Nat) = .ok (a - b) :=
  if_pos h

theorem u8TryFrom_of_lt {n : Nat} (h : n < 2 ^ 8) :
    u8TryFrom n = some (UInt8.ofNat n) := if_pos h

theorem sliceFrom_of_le {b : Bytes} {i : Nat} (h : i ≤ b.length) :
    (sliceFrom b i : Outcome ε Bytes) = .ok (b.drop i) :=
  if_pos h

theorem getTo_append (a b : Bytes) : getTo (a ++ b) a.length = some a := by
  rw [getTo, if_pos (by simp), List.take_left]

theorem getTo_eq_some_iff {b a : Bytes} {n : Nat} :
    getTo b n = some a ↔ a.length = n ∧ ∃ rest, b = a ++ rest := by
  constructor
  · intro h
    rw [getTo] at h
    split at h
    · rename_i hle
      obtain rfl := Option.some.inj h
      exact ⟨List.length_take_of_le hle, b.drop n,
        (List.take_append_drop n b).symm⟩
    · cases h
  · rintro ⟨rfl, rest, rfl⟩
    exact getTo_append a rest

theorem get_append_append {a b c : Bytes} {i j : Nat} (hi : a.length = i)
    (hj : i + b.length = j) : get (a ++ b ++ c) i j = some b := by
  have hsub : j - i = b.length := by omega
  rw [get, if_pos ⟨by omega, by simp; omega⟩, List.append_assoc,
    List.drop_left' hi, hsub, List.take_left]

theorem get_eq_none {b : Bytes} {i j : Nat} (h : b.length < j) :
    get b i j = none :=
  if_neg fun hrange => Nat.not_le.2 h hrange.2

theorem index_append (a b : Bytes) (x : UInt8) :
    (index (a ++ x :: b) a.length : Outcome ε UInt8) = .ok x := by
  rw [index, List.getElem?_append_right (Nat.le_refl _), Nat.sub_self]
  rfl

theorem getFrom_eq_some_iff {b rest : Bytes} {n : Nat} :
    getFrom b n = some rest ↔ ∃ a, a.length = n ∧ b = a ++ rest := by
  constructor
  · intro h
    rw [getFrom] at h
    split at h
    · rename_i hle
      obtain rfl := Option.some.inj h
      exact ⟨b.take n, List.length_take_of_le hle,
        (List.take_append_drop n b).symm⟩
    · cases h
  · rintro ⟨a, rfl, rfl⟩
    rw [getFrom, if_pos (by simp), List.drop_left]

theorem stripPrefix_eq_some_iff {p b rest : Bytes} :
    stripPrefix p b = some rest ↔ b = p ++ rest := by
  constructor
  · intro h
    rw [stripPrefix] at h
    split at h
    · rename_i hp
      obtain ⟨rest', rfl⟩ := hp
      rw [List.drop_left, Option.some.injEq] at h
      rw [h]
    · cases h
  · rintro rfl
    rw [stripPrefix, if_pos (List.prefix_append p rest), List.drop_left]

theorem sliceFrom_append (a b : Bytes) :
    (sliceFrom (a ++ b) a.length : Outcome ε Bytes) = .ok b := by
  rw [sliceFrom_of_le (by simp), List.drop_left]

theorem splitAtChecked_two (a b : UInt8) (rest : Bytes) :
    splitAtChecked (a :: b :: rest) 2 = some ([a, b], rest) :=
  if_pos (by simp)

/-- What is copied replaces what was there. -/
theorem copyFromSlice_eq_ok {n : Nat} {v w : Vector UInt8 n} {i j : Nat}
    {source : Bytes} (hij : i ≤ j) (hj : j ≤ n) (hlen : source.length = j - i)
    (hw : w.toList = v.toList.take i ++ source ++ v.toList.drop j) :
    (copyFromSlice v i j source : Outcome ε (Vector UInt8 n)) = .ok w := by
  rw [copyFromSlice, dif_pos ⟨hij, hj, hlen⟩]
  refine congrArg Outcome.ok (Vector.toList_inj.1 ?_)
  rw [hw]
  rfl

theorem copyFromSlice_eq_ok_iff {n : Nat} {v w : Vector UInt8 n} {i j : Nat}
    {source : Bytes} :
    (copyFromSlice v i j source : Outcome ε (Vector UInt8 n)) = .ok w ↔
      (i ≤ j ∧ j ≤ n ∧ source.length = j - i) ∧
        w.toList = v.toList.take i ++ source ++ v.toList.drop j := by
  constructor
  · intro h
    rw [copyFromSlice] at h
    split at h
    · rename_i hrange
      obtain rfl := Outcome.ok.inj h
      exact ⟨hrange, rfl⟩
    · cases h
  · intro ⟨⟨hij, hj, hlen⟩, hw⟩
    exact copyFromSlice_eq_ok hij hj hlen hw

theorem subUsize_eq_ok_iff {a b c : Nat} :
    (subUsize a b : Outcome ε Nat) = .ok c ↔ b ≤ a ∧ c = a - b := by
  rw [subUsize]
  split
  · rename_i hle
    simp [hle, eq_comm]
  · rename_i hlt
    simp [hlt]

theorem sliceFrom_eq_ok_iff {b rest : Bytes} {i : Nat} :
    (sliceFrom b i : Outcome ε Bytes) = .ok rest ↔
      ∃ a, a.length = i ∧ b = a ++ rest := by
  constructor
  · intro h
    rw [sliceFrom] at h
    split at h
    · rename_i hle
      obtain rfl := Outcome.ok.inj h
      exact ⟨b.take i, List.length_take_of_le hle,
        (List.take_append_drop i b).symm⟩
    · cases h
  · rintro ⟨a, rfl, rfl⟩
    exact sliceFrom_append a rest

theorem splitAtChecked_eq_some_iff {b first rest : Bytes} {n : Nat} :
    splitAtChecked b n = some (first, rest) ↔
      first.length = n ∧ b = first ++ rest := by
  constructor
  · intro h
    rw [splitAtChecked] at h
    split at h
    · rename_i hle
      obtain ⟨rfl, rfl⟩ := Prod.mk.inj (Option.some.inj h)
      exact ⟨List.length_take_of_le hle, (List.take_append_drop n b).symm⟩
    · cases h
  · rintro ⟨rfl, rfl⟩
    rw [splitAtChecked, if_pos (by simp), List.take_left, List.drop_left]

end Wimsey.RustStd.Slice
