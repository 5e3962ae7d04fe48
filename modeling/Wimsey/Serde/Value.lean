import Wimsey.Serde.Json

/-!
# Values and pretty text

`serde_json::Value` is a tree whose objects are maps: the members of an object
are in the order of their keys, and a key has one member.  `Members.value` is
the tree of such an object, and `matching_value` says what a reader finds in it.

`SerdePretty` is the other text format of `serde_json`, with line breaks and
blanks.
-/

namespace Wimsey.Serde

open Wimsey.RustStd

/-! ## Pretty text -/

/-- The pretty text format of `serde_json`. -/
class SerdePretty where
  toStringPretty : Json → Option Str

/-- What is written is read back. -/
class SerdePretty.Lawful [SerdeJson] [SerdePretty] : Prop where
  fromSlice_toStringPretty (j : Json) (text : Str)
    (h : SerdePretty.toStringPretty j = some text) :
    SerdeJson.fromSlice (Str.asBytes text) = some j

/-- `serde_json::to_string_pretty`, of a value that serializes to the tree
`j`. -/
def toStringPretty [SerdePretty] (j : Json) : Outcome Error Str :=
  Outcome.okOr {} (SerdePretty.toStringPretty j)

/-- What is written is read back, by a reader that knows the tree. -/
theorem fromSlice_toStringPretty [SerdeJson] [SerdePretty] [SerdePretty.Lawful]
    {α : Type} {de : Json → Outcome Error α} {j : Json} {text : Str}
    (h : toStringPretty j = .ok text) :
    fromSlice de (Str.asBytes text) = de j := by
  rw [toStringPretty, Outcome.okOr_eq_ok_iff] at h
  rw [fromSlice, SerdePretty.Lawful.fromSlice_toStringPretty j text h,
    Outcome.okOr_some, Outcome.ok_bind]

/-- A pretty text format given by a table of documents and their texts. -/
@[reducible] noncomputable def SerdePretty.ofTable (table : List (Json × Str)) :
    SerdePretty where
  toStringPretty j := by
    classical exact (table.find? fun p => p.1 = j).map (·.2)

section Table

variable {table : List (Json × Str)} {p : Json × Str}

theorem toStringPretty_ofTable (h : (table.map (·.1)).Nodup) (hp : p ∈ table) :
    @toStringPretty (SerdePretty.ofTable table) p.1 = .ok p.2 := by
  classical
  have hfind : table.find? (fun q => q.1 = p.1) = some p :=
    (Assoc.find?_eq_some_iff h (by simp)).2 ⟨hp, rfl⟩
  show Outcome.okOr _ ((table.find? fun q => q.1 = p.1).map (·.2)) = .ok p.2
  rw [hfind, Option.map_some, Outcome.okOr_some]

theorem SerdePretty.ofTable_lawful
    (h : (table.map fun p => Str.asBytes p.2).Nodup) :
    @SerdePretty.Lawful (SerdeJson.ofTable
      (table.map fun p => (p.1, Str.asBytes p.2)))
      (ofTable table) := by
  refine @SerdePretty.Lawful.mk (SerdeJson.ofTable _) (ofTable table) fun j
    text hj => ?_
  obtain ⟨p, hp, rfl⟩ := Option.map_eq_some_iff.1 hj
  have htree : p.1 = j := by simpa using List.find?_some hp
  have hmem : (p.1, Str.asBytes p.2) ∈ table.map fun p =>
      (p.1, Str.asBytes p.2) :=
    List.mem_map_of_mem (List.mem_of_find?_eq_some hp)
  have htexts :
      ((table.map fun p => (p.1, Str.asBytes p.2)).map (·.2)).Nodup := by
    rw [List.map_map]
    exact h
  rw [← htree]
  exact fromSlice_ofTable htexts hmem

end Table

/-! ## Objects as maps -/

/-- The members of an object of a `Value`. -/
abbrev Members := BTreeMap Json

/-- The members of a struct that has been written as a `Value`. -/
def Members.ofStruct (members : List (Str × Json)) : Members :=
  Std.ExtTreeMap.ofList members compare

/-- `Value::as_object_mut`, of the value that serializes to the tree `j`, which
has no objects in it. -/
def asObject (j : Json) : Option Members :=
  match j with
  | .object members => some (Members.ofStruct members)
  | _ => none

/-- The object with these members. -/
def Members.value (m : Members) : Json := .object m.toList

section Lemmas

variable {key : Str} {members : List (Str × Json)}

/-- A reader sees nothing of an object but the members of its own names. -/
theorem required_congr {α : Type} {de : Json → Outcome Error α}
    {members' : List (Str × Json)}
    (h : matching key members = matching key members') :
    required de key members = required de key members' := by
  rw [required, required, h]

theorem optional_congr {α : Type} {de : Json → Outcome Error α}
    {members' : List (Str × Json)}
    (h : matching key members = matching key members') :
    optional de key members = optional de key members' := by
  rw [optional, optional, h]

/-- Among members with different keys, at most one has the key. -/
theorem matching_eq_of_mem (h : (members.map (·.1)).Nodup) {v : Json}
    (hmem : (key, v) ∈ members) :
    matching key members = [v] := by
  induction members with
  | nil => cases hmem
  | cons p members ih =>
    rw [List.map_cons, List.nodup_cons] at h
    obtain ⟨hfresh, hrest⟩ := h
    rcases List.mem_cons.1 hmem with rfl | htail
    · have hnone : members.filter (fun q => q.1 = key) = [] := by
        rw [List.filter_eq_nil_iff]
        intro q hq hkey
        have hkey : q.1 = key := by simpa using hkey
        exact hfresh (List.mem_map.2 ⟨q, hq, hkey⟩)
      simp [matching, hnone]
    · have hne : p.1 ≠ key := by
        rintro rfl
        exact hfresh (List.mem_map.2 ⟨_, htail, rfl⟩)
      have hskip : matching key (p :: members) = matching key members := by
        simp [matching, hne]
      rw [hskip, ih hrest htail]

theorem matching_eq_nil (h : ∀ p ∈ members, p.1 ≠ key) :
    matching key members = [] := by
  rw [matching, List.filter_eq_nil_iff.2 (by simpa using h), List.map_nil]

/-- What a reader finds in an object is what the map has. -/
theorem matching_value (m : Members) :
    matching key m.toList = m[key]?.toList := by
  cases hkey : m[key]? with
  | some v =>
    have hnodup : (m.toList.map (·.1)).Nodup := by
      rw [Std.ExtTreeMap.map_fst_toList_eq_keys]
      exact Std.ExtTreeMap.nodup_keys
    exact matching_eq_of_mem hnodup
      (Std.ExtTreeMap.mem_toList_iff_getElem?_eq_some.2 hkey)
  | none =>
    apply matching_eq_nil
    intro p hp hname
    have hsome := Std.ExtTreeMap.mem_toList_iff_getElem?_eq_some.1 hp
    rw [hname, hkey] at hsome
    cases hsome

/-- The map of a struct has the members of the struct. -/
theorem getElem?_ofStruct (h : (members.map (·.1)).Nodup) :
    (Members.ofStruct members)[key]?.toList = matching key members := by
  have hdistinct : members.Pairwise fun p q => ¬ compare p.1 q.1 = .eq := by
    have hpairs := List.pairwise_map.1 h
    exact hpairs.imp fun hne heq => hne (Std.LawfulEqCmp.eq_of_compare heq)
  by_cases hmem : ∃ v, (key, v) ∈ members
  · obtain ⟨v, hv⟩ := hmem
    have hsome : (Members.ofStruct members)[key]? = some v :=
      Std.ExtTreeMap.getElem?_ofList_of_mem Std.ReflCmp.compare_self
        hdistinct hv
    rw [hsome, matching_eq_of_mem h hv]
    rfl
  · have hnone : (Members.ofStruct members)[key]? = none := by
      apply Std.ExtTreeMap.getElem?_ofList_of_contains_eq_false
      rw [List.contains_eq_mem, decide_eq_false_iff_not, List.mem_map]
      rintro ⟨p, hp, rfl⟩
      exact hmem ⟨p.2, hp⟩
    rw [hnone, matching_eq_nil]
    · rfl
    · rintro p hp rfl
      exact hmem ⟨p.2, hp⟩

/-- A reader finds what was inserted under its key, and what was there under the
others. -/
theorem matching_insert (m : Members) (name : Str) (v : Json) :
    matching key (m.insert name v).toList = if name = key then [v]
      else matching key m.toList := by
  rw [matching_value, matching_value, Std.ExtTreeMap.getElem?_insert]
  by_cases hkey : name = key
  · rw [if_pos hkey, if_pos (by rw [hkey]; exact Std.ReflCmp.compare_self)]
    rfl
  · rw [if_neg hkey, if_neg fun h => hkey (Std.LawfulEqCmp.eq_of_compare h)]

end Lemmas

end Wimsey.Serde
