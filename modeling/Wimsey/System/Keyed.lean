import Mathlib.Data.List.Dedup
import Mathlib.Logic.Relation

/-!
# Lists of elements with keys

Only the order of the elements of one key matters.  `swaps_iff` says that two
lists with the same elements of each key are connected by exchanges of
neighbours whose keys differ.

`reaches_of_ofKey` is the rule for a relation that contains these exchanges and
acts inside a list: two lists are connected when their elements of each key are.
-/

namespace Wimsey.System

variable {α κ : Type}

/-! ## Chains -/

/-- A relation that may act on any part of a list. -/
def ActsInside (R : List α → List α → Prop) : Prop :=
  ∀ before after l l', R l l' → R (before ++ l ++ after) (before ++ l' ++ after)

theorem ActsInside.reaches {R : List α → List α → Prop} (hR : ActsInside R)
    (before after : List α) {l l' : List α} (h : Relation.ReflTransGen R l l') :
    Relation.ReflTransGen R (before ++ l ++ after) (before ++ l' ++ after) :=
  Relation.ReflTransGen.lift
    (fun l => before ++ l ++ after) (hR before after) _ _ h

/-- Two lists are connected when the parts of one are connected to the parts of
the other. -/
theorem ActsInside.reaches_flatMap {R : List α → List α → Prop}
    (hR : ActsInside R) {f g : κ → List α} (ks : List κ)
    (h : ∀ k, Relation.ReflTransGen R (f k) (g k)) :
    Relation.ReflTransGen R (ks.flatMap f) (ks.flatMap g) := by
  induction ks with
  | nil => exact .refl
  | cons k ks ih =>
    rw [List.flatMap_cons, List.flatMap_cons]
    have hhead := hR.reaches [] (ks.flatMap f) (h k)
    have htail := hR.reaches (g k) [] ih
    simp only [List.nil_append, List.append_nil] at hhead htail
    exact hhead.trans htail

/-! ## The elements of a key -/

section Keyed

variable [DecidableEq κ] (key : α → κ)

/-- The elements of a key, in their order. -/
def ofKey (k : κ) (l : List α) : List α := l.filter fun a => decide (key a = k)

variable {key}

theorem ofKey_append (k : κ) (l l' : List α) :
    ofKey key k (l ++ l') = ofKey key k l ++ ofKey key k l' :=
  List.filter_append ..

theorem ofKey_cons_of_eq {k : κ} {a : α} (h : key a = k) (l : List α) :
    ofKey key k (a :: l) = a :: ofKey key k l := by
  unfold ofKey
  rw [List.filter_cons_of_pos (by simpa using h)]

theorem ofKey_cons_of_ne {k : κ} {a : α} (h : key a ≠ k) (l : List α) :
    ofKey key k (a :: l) = ofKey key k l := by
  unfold ofKey
  rw [List.filter_cons_of_neg (by simpa using h)]

theorem ofKey_eq_nil {k : κ} {l : List α} (h : ∀ a ∈ l, key a ≠ k) :
    ofKey key k l = [] := by
  unfold ofKey
  rw [List.filter_eq_nil_iff]
  exact fun a ha => by simpa using h a ha

theorem key_of_mem_ofKey {k : κ} {l : List α} {a : α} (h : a ∈ ofKey key k l) :
    key a = k := by
  simpa using (List.mem_filter.1 h).2

theorem ofKey_ofKey (k k' : κ) (l : List α) :
    ofKey key k (ofKey key k' l) = if k' = k then ofKey key k l else [] := by
  split
  · rename_i hk
    rw [hk]
    exact List.filter_eq_self.2 fun a ha => (List.mem_filter.1 ha).2
  · rename_i hk
    exact ofKey_eq_nil fun a ha h => hk ((key_of_mem_ofKey ha).symm.trans h)

/-- Grouping the elements by their keys keeps the elements of each key. -/
theorem ofKey_flatMap {ks : List κ} (hnodup : ks.Nodup) (k : κ) (l : List α) :
    ofKey key k (ks.flatMap fun k' => ofKey key k' l) = if k ∈ ks
      then ofKey key k l else [] := by
  induction ks with
  | nil => rfl
  | cons k' ks ih =>
    obtain ⟨hfresh, hrest⟩ := List.nodup_cons.1 hnodup
    rw [List.flatMap_cons, ofKey_append, ofKey_ofKey, ih hrest]
    by_cases hk : k' = k
    · rw [hk] at hfresh
      simp [hk, hfresh]
    · simp [hk, Ne.symm hk]

/-! ## Exchanges -/

variable (key)

/-- Two neighbours with different keys change places. -/
inductive Swap : List α → List α → Prop
  | mk (before after : List α) {a b : α} (h : key a ≠ key b) :
      Swap (before ++ a :: b :: after) (before ++ b :: a :: after)

variable {key}

omit [DecidableEq κ] in
theorem Swap.actsInside : ActsInside (Swap key) := by
  rintro before after _ _ ⟨before', after', hkey⟩
  have h := Swap.mk (before ++ before') (after' ++ after) hkey
  simpa using h

theorem Swap.ofKey_eq {l l' : List α} (h : Swap key l l') (k : κ) :
    ofKey key k l = ofKey key k l' := by
  obtain ⟨before, after, hkey⟩ := h
  rename_i a b
  rw [ofKey_append, ofKey_append]
  by_cases ha : key a = k
  · have hb : key b ≠ k := fun hb => hkey (ha.trans hb.symm)
    rw [ofKey_cons_of_eq ha, ofKey_cons_of_ne hb, ofKey_cons_of_ne hb,
      ofKey_cons_of_eq ha]
  · by_cases hb : key b = k
    · rw [ofKey_cons_of_ne ha, ofKey_cons_of_eq hb, ofKey_cons_of_eq hb,
        ofKey_cons_of_ne ha]
    · rw [ofKey_cons_of_ne ha, ofKey_cons_of_ne hb, ofKey_cons_of_ne hb,
        ofKey_cons_of_ne ha]

omit [DecidableEq κ] in
/-- An element moves from the front past elements of other keys. -/
theorem swaps_move {a : α} (before after : List α)
    (h : ∀ b ∈ before, key a ≠ key b) :
    Relation.ReflTransGen (Swap key) (a :: (before ++ after))
      (before ++ a :: after) := by
  induction before with
  | nil => exact .refl
  | cons b before ih =>
    have hmove := ih fun c hc => h c (List.mem_cons_of_mem b hc)
    have hinside := Swap.actsInside.reaches [b] [] hmove
    simp only [List.singleton_append, List.append_nil] at hinside
    exact hinside.head
      (Swap.mk [] (before ++ after) (h b (List.mem_cons_self ..)))

/-- The first element of a key splits a list. -/
theorem exists_split_of_ofKey {k : κ} {l rest : List α} {a : α}
    (h : ofKey key k l = a :: rest) :
    ∃ before after, l = before ++ a :: after ∧ ∀ b ∈ before, key b ≠ k := by
  induction l with
  | nil => cases h
  | cons b l ih =>
    by_cases hb : key b = k
    · rw [ofKey_cons_of_eq hb] at h
      obtain ⟨rfl, _⟩ := List.cons.inj h
      exact ⟨[], l, rfl, by simp⟩
    · rw [ofKey_cons_of_ne hb] at h
      obtain ⟨before, after, rfl, hbefore⟩ := ih h
      exact ⟨b :: before, after, rfl, List.forall_mem_cons.2 ⟨hb, hbefore⟩⟩

/-- Two lists are connected by exchanges exactly when they have the same
elements of each key, in the same order. -/
theorem swaps_iff {l l' : List α} :
    Relation.ReflTransGen (Swap key) l l' ↔
      ∀ k, ofKey key k l = ofKey key k l' := by
  constructor
  · intro h k
    induction h with
    | refl => rfl
    | tail _ hswap ih => exact ih.trans (hswap.ofKey_eq k)
  · intro h
    induction l generalizing l' with
    | nil =>
      cases l' with
      | nil => exact .refl
      | cons a l' =>
        have ha := h (key a)
        rw [ofKey_cons_of_eq rfl] at ha
        cases ha
    | cons a l ih =>
      -- The first element of its key in the other list is the same one.
      have ha := h (key a)
      rw [ofKey_cons_of_eq rfl] at ha
      obtain ⟨before, after, rfl, hbefore⟩ := exists_split_of_ofKey ha.symm
      have hrest : ∀ k, ofKey key k l = ofKey key k (before ++ after) := by
        intro k
        have hk := h k
        rw [ofKey_append] at hk ⊢
        by_cases hak : key a = k
        · have hnil :=
            ofKey_eq_nil fun b hb hbk => hbefore b hb (hbk.trans hak.symm)
          rw [hnil, ofKey_cons_of_eq hak, ofKey_cons_of_eq hak,
            List.nil_append] at hk
          rw [hnil, List.nil_append]
          exact (List.cons.inj hk).2
        · rwa [ofKey_cons_of_ne hak, ofKey_cons_of_ne hak] at hk
      have htail := Swap.actsInside.reaches [a] [] (ih hrest)
      simp only [List.singleton_append, List.append_nil] at htail
      exact htail.trans
        (swaps_move before after fun b hb => (hbefore b hb).symm)

/-- A relation that exchanges neighbours with different keys connects two lists
when it connects their elements of each key. -/
theorem reaches_of_ofKey {R : List α → List α → Prop} (hR : ActsInside R)
    (hswap : ∀ l l', Swap key l l' → R l l') {l l' : List α}
    (h : ∀ k, Relation.ReflTransGen R (ofKey key k l) (ofKey key k l')) :
    Relation.ReflTransGen R l l' := by
  let ks := (l.map key ++ l'.map key).dedup
  have hgroup : ∀ m : List α, (∀ a ∈ m, key a ∈ ks) → ∀ k,
      ofKey key k m = ofKey key k (ks.flatMap fun k' => ofKey key k' m) := by
    intro m hm k
    rw [ofKey_flatMap (List.nodup_dedup _)]
    split
    · rfl
    · rename_i hk
      exact ofKey_eq_nil fun a ha hak => hk (by rw [← hak]; exact hm a ha)
  have hl : ∀ a ∈ l, key a ∈ ks := fun a ha =>
    List.mem_dedup.2 (List.mem_append_left _ (List.mem_map_of_mem ha))
  have hl' : ∀ a ∈ l', key a ∈ ks := fun a ha =>
    List.mem_dedup.2 (List.mem_append_right _ (List.mem_map_of_mem ha))
  have hsplit := swaps_iff.2 (hgroup l hl)
  have hjoin := swaps_iff.2 fun k => (hgroup l' hl' k).symm
  exact (Relation.ReflTransGen.mono hswap _ _ hsplit).trans
    ((hR.reaches_flatMap ks h).trans
      (Relation.ReflTransGen.mono hswap _ _ hjoin))

end Keyed

end Wimsey.System
