import Mathlib

/-!
# Association lists

The entries of a list with distinct keys are found by their keys.  Looking a key
up does not depend on the order of the entries, and it follows a renaming of the
keys.
-/

namespace Wimsey.RustStd.Assoc

section Find

variable {α κ : Type} {l : List α} {key : α → κ} {test : α → Bool} {k : κ}

/-- The entry of a key is the only one with that key. -/
theorem find?_eq_some_iff (hnodup : (l.map key).Nodup)
    (htest : ∀ a, test a = true ↔ key a = k) {a : α} :
    l.find? test = some a ↔ a ∈ l ∧ key a = k := by
  constructor
  · intro h
    exact ⟨List.mem_of_find?_eq_some h, (htest a).1 (List.find?_some h)⟩
  · intro ⟨ha, hk⟩
    cases hfind : l.find? test with
    | none => exact absurd ((htest a).2 hk) (List.find?_eq_none.1 hfind a ha)
    | some b =>
      have hb : key b = k := (htest b).1 (List.find?_some hfind)
      have hmem := List.mem_of_find?_eq_some hfind
      rw [List.inj_on_of_nodup_map hnodup hmem ha (hb.trans hk.symm)]

end Find

section Rename

variable {α κ κ' : Type} [BEq κ] [LawfulBEq κ] [BEq κ'] [LawfulBEq κ']
  {l : List (κ × α)} {l' : List (κ' × α)} {f : κ → κ'} {k : κ}

/-- A key is found among the renamed entries, in any order, as it is among the
entries. -/
theorem find?_rename (hnodup : (l.map Prod.fst).Nodup)
    (hperm : l'.Perm (l.map (Prod.map f id)))
    (hinj : ∀ p ∈ l, f p.1 = f k → p.1 = k) :
    l'.find? (fun q => q.1 == f k)
      = (l.find? fun q => q.1 == k).map (Prod.map f id) := by
  have hentry : ∀ q ∈ l', q.1 = f k → ∃ p ∈ l, p.1 = k ∧
      q = Prod.map f id p := by
    intro q hq hk
    obtain ⟨p, hp, rfl⟩ := List.mem_map.1 (hperm.subset hq)
    exact ⟨p, hp, hinj p hp hk, rfl⟩
  have hfound : ∀ p, l.find? (fun q => q.1 == k) = some p ↔ p ∈ l ∧ p.1 = k :=
    fun p => find?_eq_some_iff hnodup (by simp)
  cases hfind : l.find? (fun q => q.1 == k) with
  | none =>
    rw [Option.map_none, List.find?_eq_none]
    intro q hq hk
    obtain ⟨p, hp, hpk, _⟩ := hentry q hq (by simpa using hk)
    exact absurd hpk (by simpa using List.find?_eq_none.1 hfind p hp)
  | some p =>
    obtain ⟨hp, hpk⟩ := (hfound p).1 hfind
    have hmem : Prod.map f id p ∈ l' :=
      hperm.symm.subset (List.mem_map_of_mem hp)
    cases hfind' : l'.find? (fun q => q.1 == f k) with
    | none =>
      have hne := List.find?_eq_none.1 hfind' _ hmem
      simp [hpk] at hne
    | some q =>
      have hq : q.1 = f k := by simpa using List.find?_some hfind'
      obtain ⟨p', hp', hpk', rfl⟩ :=
        hentry q (List.mem_of_find?_eq_some hfind') hq
      have hsame := hfind.symm.trans ((hfound p').2 ⟨hp', hpk'⟩)
      rw [Option.some.inj hsame, Option.map_some]

end Rename

end Wimsey.RustStd.Assoc
