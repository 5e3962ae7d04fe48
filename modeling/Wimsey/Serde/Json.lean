import Wimsey.RustStd.Assoc
import Wimsey.RustStd.UInt

/-!
# JSON and derived serialization

`Json` is a JSON document as a tree.  An object keeps its members in order and
keeps duplicates, so that the tree says everything the text does.  `SerdeJson`
is the text format: `serde_json` writes a tree to bytes and reads one back.

The rest is what `#[derive(Serialize, Deserialize)]` makes of a struct.  A
struct is written as an object with its fields in order, without the optional
fields that are absent.  It is read from an object, whatever the order of its
members: an unknown member is ignored, a repeated one is an error, and an
optional field may be absent or `null`.  It is also read from an array of its
fields in order.
-/

namespace Wimsey.Serde

open Wimsey.RustStd

/-- A JSON document. -/
inductive Json where
  | null
  | bool (b : Bool)
  | posInt (n : UInt64)
  | negInt (n : Int)
  | float (bits : UInt64)
  | str (s : Str)
  | array (items : List Json)
  | object (members : List (Str × Json))

/-- `serde_json::Error`.  It says where and how a document is wrong, which
nothing reads. -/
structure Error where
deriving DecidableEq, Repr

/-- The text format of `serde_json`. -/
class SerdeJson where
  toVec : Json → Option Bytes
  fromSlice : Bytes → Option Json

/-- What is written is read back. -/
class SerdeJson.Lawful [SerdeJson] : Prop where
  fromSlice_toVec (j : Json) (b : Bytes) (h : toVec j = some b) :
    fromSlice b = some j

/-- `serde_json::to_vec`, of a value that serializes to the tree `j`. -/
def toVec [SerdeJson] (j : Json) : Outcome Error Bytes :=
  Outcome.okOr {} (SerdeJson.toVec j)

/-- `serde_json::from_slice`, to a type that deserializes by `de`. -/
def fromSlice [SerdeJson] {α : Type} (de : Json → Outcome Error α) (b : Bytes) :
    Outcome Error α := do
  let j ← Outcome.okOr {} (SerdeJson.fromSlice b)
  de j

/-- What is written is read back, by a reader that knows the tree. -/
theorem fromSlice_toVec [SerdeJson] [SerdeJson.Lawful] {α : Type}
    {de : Json → Outcome Error α} {j : Json} {b : Bytes} (h : toVec j = .ok b) :
    fromSlice de b = de j := by
  rw [toVec, Outcome.okOr_eq_ok_iff] at h
  rw [fromSlice, SerdeJson.Lawful.fromSlice_toVec j b h, Outcome.okOr_some,
    Outcome.ok_bind]

/-- A text format given by a table of documents and their texts. -/
@[reducible] noncomputable def SerdeJson.ofTable (table : List (Json × Bytes)) :
    SerdeJson where
  toVec j := by
    classical exact (table.find? fun p => p.1 = j).map (·.2)
  fromSlice b := (table.find? fun p => p.2 = b).map (·.1)

section Table

variable {table : List (Json × Bytes)} {p : Json × Bytes}

theorem toVec_ofTable (h : (table.map (·.1)).Nodup) (hp : p ∈ table) :
    @toVec (SerdeJson.ofTable table) p.1 = .ok p.2 := by
  classical
  have hfind : table.find? (fun q => q.1 = p.1) = some p :=
    (Assoc.find?_eq_some_iff h (by simp)).2 ⟨hp, rfl⟩
  show Outcome.okOr _ ((table.find? fun q => q.1 = p.1).map (·.2)) = .ok p.2
  rw [hfind, Option.map_some, Outcome.okOr_some]

theorem fromSlice_ofTable (h : (table.map (·.2)).Nodup) (hp : p ∈ table) :
    @SerdeJson.fromSlice (SerdeJson.ofTable table) p.2 = some p.1 := by
  have hfind : table.find? (fun q => q.2 = p.2) = some p :=
    (Assoc.find?_eq_some_iff h (by simp)).2 ⟨hp, rfl⟩
  show (table.find? fun q => q.2 = p.2).map (·.1) = some p.1
  rw [hfind, Option.map_some]

theorem SerdeJson.ofTable_lawful (h : (table.map (·.2)).Nodup) :
    @SerdeJson.Lawful (ofTable table) := by
  refine @SerdeJson.Lawful.mk (ofTable table) fun j b hj => ?_
  obtain ⟨p, hp, rfl⟩ := Option.map_eq_some_iff.1 hj
  have htree : p.1 = j := by simpa using List.find?_some hp
  rw [fromSlice_ofTable h (List.mem_of_find?_eq_some hp), htree]

end Table

/-! ## Values -/

/-- `Deserialize` for `String`. -/
def deString : Json → Outcome Error Str
  | .str s => .ok s
  | _ => .err {}

/-- `Deserialize` for `u64`. -/
def deU64 : Json → Outcome Error UInt64
  | .posInt n => .ok n
  | _ => .err {}

/-- `Deserialize` for `Vec<T>`. -/
def deVec {α : Type} (de : Json → Outcome Error α) :
    Json → Outcome Error (List α)
  | .array items => items.mapM de
  | _ => .err {}

/-- `BTreeMap<String, T>`.  The order of strings is that of their code
points. -/
abbrev BTreeMap (α : Type) := Std.ExtTreeMap Str α compare

/-- `Serialize` for `BTreeMap<String, String>`. -/
def serMap (m : BTreeMap Str) : Json :=
  .object (m.toList.map fun p => (p.1, .str p.2))

/-- `Deserialize` for `BTreeMap<String, String>`.  A repeated key replaces the
value before it. -/
def deMap : Json → Outcome Error (BTreeMap Str)
  | .object members => do
      let pairs ← members.mapM fun p => do
        let value ← deString p.2
        Outcome.ok (p.1, value)
      .ok (Std.ExtTreeMap.ofList pairs compare)
  | _ => .err {}

/-! ## Structs -/

/-- The members of a struct with these fields, in order.  An array may leave out
the fields at its end that have a default. -/
def fields (names : List Str) (required : Nat) :
    Json → Outcome Error (List (Str × Json))
  | .object members => .ok members
  | .array items =>
      if required ≤ items.length ∧ items.length ≤ names.length
        then .ok (names.zip items)
      else .err {}
  | _ => .err {}

/-- The values of the members with this key. -/
def matching (key : Str) (members : List (Str × Json)) : List Json :=
  (members.filter (·.1 = key)).map (·.2)

/-- The reader of a mandatory field. -/
def required {α : Type} (de : Json → Outcome Error α) (key : Str)
    (members : List (Str × Json)) :
    Outcome Error α :=
  match matching key members with
  | [v] => de v
  | _ => .err {}

/-- `Deserialize` for `Option<T>`. -/
def deOption {α : Type} (de : Json → Outcome Error α) :
    Json → Outcome Error (Option α)
  | .null => .ok none
  | v => some <$> de v

/-- The reader of a field of type `Option`. -/
def optional {α : Type} (de : Json → Outcome Error α) (key : Str)
    (members : List (Str × Json)) :
    Outcome Error (Option α) :=
  match matching key members with
  | [] => .ok none
  | [v] => deOption de v
  | _ => .err {}

/-- A mandatory field as a member. -/
def member (key : Str) (v : Json) : List (Str × Json) := [(key, v)]

/-- An optional field as a member, under `skip_serializing_if`. -/
def optMember {α : Type} (key : Str) (ser : α → Json) (o : Option α) :
    List (Str × Json) :=
  match o with
  | some a => [(key, ser a)]
  | none => []

section Lemmas

variable {α : Type} {key key' : Str} {v : Json} {f : α → Json} {o : Option α}
  {members members' : List (Str × Json)} {de : Json → Outcome Error α}

@[simp] theorem matching_nil : matching key [] = [] := rfl

@[simp] theorem matching_append :
    matching key (members ++ members')
      = matching key members ++ matching key members' := by
  simp [matching]

@[simp] theorem matching_member_self : matching key (member key v) = [v] := by
  simp [matching, member]

@[simp] theorem matching_member_of_ne (h : key' ≠ key) :
    matching key (member key' v) = [] := by
  simp [matching, member, h]

@[simp] theorem matching_optMember_self :
    matching key (optMember key f o) = o.toList.map f := by
  cases o <;> simp [matching, optMember]

@[simp] theorem matching_optMember_of_ne (h : key' ≠ key) :
    matching key (optMember key' f o) = [] := by
  cases o <;> simp [matching, optMember, h]

theorem required_eq (h : matching key members = [v]) :
    required de key members = de v := by
  rw [required, h]

theorem deOption_of_ne_null (h : v ≠ .null) :
    deOption de v = some <$> de v := by
  cases v <;> first | rfl | exact absurd rfl h

theorem deString_eq_ok_iff {s : Str} : deString v = .ok s ↔ v = .str s := by
  cases v <;> simp [deString]

/-- A mandatory field is read from the one member of its name. -/
theorem required_eq_ok_iff {a : α} :
    required de key members = .ok a ↔ ∃ v, matching key members = [v] ∧
    de v = .ok a := by
  rw [required]
  split
  · rename_i w hw
    simp [hw]
  · rename_i hmany
    simp only [reduceCtorEq, false_iff, not_exists, not_and]
    exact fun w hw => absurd hw (hmany w)

/-- An optional field is absent from what is read when no member has its name,
and also when the one that has is `null`. -/
theorem optional_eq_none_iff :
    optional de key members = .ok none ↔
      matching key members = [] ∨ matching key members = [.null] := by
  rw [optional]
  split
  · rename_i hnone
    simp [hnone]
  · rename_i w hw
    rw [hw]
    by_cases hnull : w = .null
    · simp [hnull, deOption]
    · rw [deOption_of_ne_null hnull]
      cases de w <;> simp [hnull]
  · rename_i hnil hmany
    simp only [reduceCtorEq, false_iff, not_or]
    exact ⟨hnil, fun h => hmany _ h⟩

/-- An optional text is read when no member has its name, or one that is `null`
or a text. -/
theorem optional_deString_isOk_iff :
    (∃ o, optional deString key members = .ok o) ↔
      matching key members = [] ∨ matching key members = [.null] ∨
        ∃ s, matching key members = [.str s] := by
  rw [optional]
  split
  · rename_i hnone
    simp [hnone]
  · rename_i w hw
    rw [hw]
    cases w <;> simp [deOption, deString]
  · rename_i hnil hmany
    simp only [reduceCtorEq, exists_const, false_iff, not_or, not_exists]
    exact ⟨hnil, fun h => hmany _ h, fun s h => hmany _ h⟩

/-- An optional field is read as it was written, unless it is written as
`null`. -/
theorem optional_eq (h : matching key members = o.toList.map f)
    (hnull : ∀ a, f a ≠ .null) (hde : ∀ a, de (f a) = .ok a) :
    optional de key members = .ok o := by
  rw [optional, h]
  cases o with
  | none => rfl
  | some a =>
    show deOption de (f a) = .ok (some a)
    rw [deOption_of_ne_null (hnull a), hde a, Outcome.map_ok]

theorem deVec_deString_map (l : List Str) :
    deVec deString (.array (l.map .str)) = .ok l := by
  rw [deVec]
  induction l with
  | nil => rfl
  | cons s l ih =>
    rw [List.map_cons, List.mapM_cons, ih]
    rfl

/-- The map of the entries of a map is that map. -/
theorem ofList_toList {β : Type} (m : BTreeMap β) :
    Std.ExtTreeMap.ofList m.toList compare = m := by
  apply Std.ExtTreeMap.ext_getElem?
  intro k
  cases hk : m[k]? with
  | some v =>
    exact Std.ExtTreeMap.getElem?_ofList_of_mem Std.ReflCmp.compare_self
      Std.ExtTreeMap.distinct_keys_toList
        (Std.ExtTreeMap.mem_toList_iff_getElem?_eq_some.2 hk)
  | none =>
    apply Std.ExtTreeMap.getElem?_ofList_of_contains_eq_false
    rw [Std.ExtTreeMap.map_fst_toList_eq_keys]
    simpa using hk

/-- A map is read as it was written. -/
theorem deMap_serMap (m : BTreeMap Str) : deMap (serMap m) = .ok m := by
  have hpairs : ∀ l : List (Str × Str),
      (l.map fun p => (p.1, Json.str p.2)).mapM (fun p => do
        let value ← deString p.2
        Outcome.ok (p.1, value)) = (Outcome.ok l : Outcome Error _) := by
    intro l
    induction l with
    | nil => rfl
    | cons p l ih =>
      rw [List.map_cons, List.mapM_cons, ih]
      rfl
  rw [serMap, deMap, hpairs, Outcome.ok_bind, ofList_toList]

/-! ## No reader panics -/

theorem fromSlice_ne_panic [SerdeJson] (h : ∀ j, de j ≠ .panic) (b : Bytes) :
    fromSlice de b ≠ .panic := by
  unfold fromSlice
  exact Outcome.bind_ne_panic Outcome.okOr_ne_panic fun j _ => h j

theorem deString_ne_panic (j : Json) : deString j ≠ .panic := by
  cases j <;> exact nofun

theorem deU64_ne_panic (j : Json) : deU64 j ≠ .panic := by
  cases j <;> exact nofun

theorem deVec_ne_panic (h : ∀ j, de j ≠ .panic) (j : Json) :
    deVec de j ≠ .panic := by
  cases j with
  | array items => exact Outcome.mapM_ne_panic h items
  | _ => exact nofun

theorem deMap_ne_panic (j : Json) : deMap j ≠ .panic := by
  cases j with
  | object members =>
    apply Outcome.bind_ne_panic
    · apply Outcome.mapM_ne_panic
      intro p
      exact Outcome.bind_ne_panic (deString_ne_panic p.2) fun value _ => nofun
    · exact fun pairs _ => nofun
  | _ => exact nofun

theorem fields_ne_panic (names : List Str) (n : Nat) (j : Json) :
    fields names n j ≠ .panic := by
  cases j with
  | array items =>
    rw [fields]
    split <;> exact nofun
  | _ => exact nofun

theorem required_ne_panic (h : ∀ j, de j ≠ .panic) (key : Str)
    (members : List (Str × Json)) :
    required de key members ≠ .panic := by
  unfold required
  split
  · exact h _
  · exact nofun

theorem optional_ne_panic (h : ∀ j, de j ≠ .panic) (key : Str)
    (members : List (Str × Json)) :
    optional de key members ≠ .panic := by
  unfold optional
  split
  · exact nofun
  · unfold deOption
    split
    · exact nofun
    · exact Outcome.map_ne_panic (h _)
  · exact nofun

end Lemmas

end Wimsey.Serde
