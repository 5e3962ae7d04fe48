import Wimsey.HttpSig.Unique
import Wimsey.System.Keyed

/-!
# What an intermediary may do to the fields of a message

A proxy adds fields of its own, drops others, reorders the lines of different
fields, writes names and whitespace in its own way, and joins the lines of one
field into one.  `FieldHop` is one such change, where a signature covers some of
the fields.

`fieldHops_iff` says that this is everything a signature tolerates: two lists of
fields are connected by such changes exactly when `headerValue` gives the same
for each covered field.

The one change that is not allowed where it is expected is to join a line with
an empty one after it: the joined line would end in a blank, which is trimmed.
-/

namespace Wimsey.HttpSig

open Wimsey.RustStd Wimsey.System

/-! ## Lines -/

/-- The name of a field line, without letter case. -/
def fieldKey (line : Str × Str) : Str := Str.toAsciiLowercase line.1

/-- What stands between the values of the lines of a field. -/
def fieldSep : Str := ", ".toList

theorem fieldValues_eq (headers : List (Str × Str)) (name : Str) :
    fieldValues headers name
      = (ofKey fieldKey (Str.toAsciiLowercase name) headers).map fun line =>
        Str.trim line.2 := by
  unfold fieldValues ofKey fieldKey Str.eqIgnoreAsciiCase
  congr 2
  funext line
  rw [Bool.eq_iff_iff]
  simp

theorem headerValue_eq (headers : List (Str × Str)) (name : Str) :
    headerValue headers name =
      if fieldValues headers name = [] then .err (.missingComponent name)
      else .ok (fieldSep.intercalate (fieldValues headers name)) := by
  unfold headerValue fieldSep
  cases fieldValues headers name <;> rfl

/-- The values of a field are the same when the lines are, up to how they are
split. -/
theorem headerValue_eq_iff {headers headers' : List (Str × Str)} {name : Str} :
    headerValue headers name = headerValue headers' name ↔
      (fieldValues headers name = [] ↔ fieldValues headers' name = []) ∧
        fieldSep.intercalate (fieldValues headers name)
          = fieldSep.intercalate (fieldValues headers' name) := by
  rw [headerValue_eq, headerValue_eq]
  by_cases h : fieldValues headers name = []
  · by_cases h' : fieldValues headers' name = []
    · simp [h, h']
    · simp [h, h']
  · by_cases h' : fieldValues headers' name = []
    · simp [h, h']
    · simp [h, h']

/-- The value of the line that joins two lines. -/
def joined (u v : Str) : Str := u ++ fieldSep ++ v

theorem intercalate_joined (u v : Str) (before after : List Str) :
    fieldSep.intercalate (before ++ joined u v :: after)
      = fieldSep.intercalate (before ++ u :: v :: after) := by
  induction before with
  | nil =>
    cases after with
    | nil => simp [joined]
    | cons w after => simp [joined, List.intercalate_cons_cons]
  | cons w before ih =>
    cases before with
    | nil =>
      rw [List.nil_append, List.nil_append] at ih
      rw [List.cons_append, List.cons_append, List.nil_append, List.nil_append,
        List.intercalate_cons_cons, List.intercalate_cons_cons, ih]
    | cons x before =>
      simp only [List.cons_append] at ih
      simp only [List.cons_append, List.intercalate_cons_cons, ih]

/-- Joining two trimmed values needs no trimming, unless the second one is
empty. -/
theorem trim_joined {u v : Str} (hu : Str.trim u = u) (hv : Str.trim v = v)
    (hne : v ≠ []) :
    Str.trim (joined u v) = joined u v := by
  have hhead := Str.headKept_trim u
  have hlast := Str.lastKept_trim v
  rw [hu] at hhead
  rw [hv] at hlast
  apply Str.trim_eq_self
  · cases u with
    | nil =>
      intro c hc
      obtain rfl := Option.some.inj hc
      decide
    | cons d u => exact fun c hc => hhead c hc
  · intro c hc
    refine hlast c ?_
    rwa [joined, List.getLast?_append_of_ne_nil _ hne] at hc

/-! ## Hops -/

/-- One change that an intermediary may make to the field lines of a message
whose fields are signed as far as `covers` says. -/
inductive FieldHop (covers : Str → Prop) :
    List (Str × Str) → List (Str × Str) → Prop
  | add (before after : List (Str × Str)) {line : Str × Str}
      (h : ¬ covers (fieldKey line)) :
      FieldHop covers (before ++ after) (before ++ line :: after)
  | drop (before after : List (Str × Str)) {line : Str × Str}
      (h : ¬ covers (fieldKey line)) :
      FieldHop covers (before ++ line :: after) (before ++ after)
  | move (before after : List (Str × Str)) {a b : Str × Str}
      (h : fieldKey a ≠ fieldKey b) :
      FieldHop covers (before ++ a :: b :: after) (before ++ b :: a :: after)
  | respell (before after : List (Str × Str)) {a b : Str × Str}
      (hname : fieldKey a = fieldKey b) (hvalue : Str.trim a.2 = Str.trim b.2) :
      FieldHop covers (before ++ a :: after) (before ++ b :: after)
  | join (before after : List (Str × Str)) {a b : Str × Str}
      (hname : fieldKey a = fieldKey b) (hvalue : Str.trim b.2 ≠ []) :
      FieldHop covers (before ++ a :: b :: after)
        (before ++ (a.1, joined (Str.trim a.2) (Str.trim b.2)) :: after)
  | part (before after : List (Str × Str)) {a b : Str × Str}
      (hname : fieldKey a = fieldKey b) (hvalue : Str.trim b.2 ≠ []) :
      FieldHop covers
        (before ++ (a.1, joined (Str.trim a.2) (Str.trim b.2)) :: after)
        (before ++ a :: b :: after)

variable {covers : Str → Prop} {headers headers' : List (Str × Str)}

instance fieldHop_symm : Std.Symm (FieldHop covers) where
  symm _ _ h := by
    cases h with
    | add before after h => exact .drop before after h
    | drop before after h => exact .add before after h
    | move before after h => exact .move before after h.symm
    | respell before after hname hvalue =>
      exact .respell before after hname.symm hvalue.symm
    | join before after hname hvalue => exact .part before after hname hvalue
    | part before after hname hvalue => exact .join before after hname hvalue

theorem FieldHop.actsInside : ActsInside (FieldHop covers) := by
  intro before after headers headers' h
  have hwhole : ∀ lines lines' before' after',
      FieldHop covers (before ++ before' ++ (lines ++ (after' ++ after)))
        (before ++ before' ++ (lines' ++ (after' ++ after))) →
      FieldHop covers (before ++ (before' ++ (lines ++ after')) ++ after)
        (before ++ (before' ++ (lines' ++ after')) ++ after) := by
    intro lines lines' before' after' h
    simpa only [List.append_assoc] using h
  cases h with
  | @add before' after' line h =>
    exact hwhole [] [line] before' after' (.add _ _ h)
  | @drop before' after' line h =>
    exact hwhole [line] [] before' after' (.drop _ _ h)
  | @move before' after' a b h =>
    exact hwhole [a, b] [b, a] before' after' (.move _ _ h)
  | @respell before' after' a b hname hvalue =>
    exact hwhole [a] [b] before' after' (.respell _ _ hname hvalue)
  | @join before' after' a b hname hvalue =>
    exact hwhole [a, b] [_] before' after' (.join _ _ hname hvalue)
  | @part before' after' a b hname hvalue =>
    exact hwhole [_] [a, b] before' after' (.part _ _ hname hvalue)

/-! ## A hop keeps the covered values -/

/-- Joining two lines keeps the value of each field. -/
theorem headerValue_join (before after : List (Str × Str)) {a b : Str × Str}
    (hname : fieldKey a = fieldKey b) (hvalue : Str.trim b.2 ≠ [])
    (name : Str) :
    headerValue (before ++ a :: b :: after) name
      = headerValue (before ++ (a.1, joined (Str.trim a.2) (Str.trim b.2))
        :: after) name := by
  have hkey : fieldKey (a.1, joined (Str.trim a.2) (Str.trim b.2))
      = fieldKey a := rfl
  rw [headerValue_eq_iff, fieldValues_eq, fieldValues_eq, ofKey_append,
    ofKey_append]
  by_cases ha : fieldKey a = Str.toAsciiLowercase name
  · rw [ofKey_cons_of_eq ha, ofKey_cons_of_eq (hname.symm.trans ha),
      ofKey_cons_of_eq (hkey.trans ha)]
    simp only [List.map_append, List.map_cons,
      trim_joined (Str.trim_trim a.2) (Str.trim_trim b.2) hvalue,
      intercalate_joined]
    simp
  · rw [← hkey] at ha
    rw [ofKey_cons_of_ne ha, ofKey_cons_of_ne fun h => ha (hkey.trans h),
      ofKey_cons_of_ne fun h => ha (hkey.trans (hname.trans h))]
    exact ⟨Iff.rfl, rfl⟩

/-- A line of a field that is not covered does not change the values of a
covered one. -/
theorem headerValue_add (before after : List (Str × Str)) {line : Str × Str}
    {name : Str} (h : fieldKey line ≠ Str.toAsciiLowercase name) :
    headerValue (before ++ after) name
      = headerValue (before ++ line :: after) name := by
  rw [headerValue_eq_iff, fieldValues_eq, fieldValues_eq, ofKey_append,
    ofKey_append, ofKey_cons_of_ne h]
  exact ⟨Iff.rfl, rfl⟩

theorem FieldHop.headerValue_eq (h : FieldHop covers headers headers')
    {name : Str} (hname : covers (Str.toAsciiLowercase name)) :
    headerValue headers name = headerValue headers' name := by
  have hother : ∀ {line : Str × Str}, ¬ covers (fieldKey line) →
      fieldKey line ≠ Str.toAsciiLowercase name := by
    intro line hline heq
    rw [heq] at hline
    exact hline hname
  cases h with
  | add before after h => exact headerValue_add before after (hother h)
  | drop before after h => exact (headerValue_add before after (hother h)).symm
  | move before after h =>
    rw [headerValue_eq_iff, fieldValues_eq, fieldValues_eq,
      (Swap.mk before after h).ofKey_eq]
    exact ⟨Iff.rfl, rfl⟩
  | @respell before after a b hkey hvalue =>
    rw [headerValue_eq_iff, fieldValues_eq, fieldValues_eq, ofKey_append,
      ofKey_append]
    by_cases ha : fieldKey a = Str.toAsciiLowercase name
    · rw [ofKey_cons_of_eq ha, ofKey_cons_of_eq (hkey.symm.trans ha)]
      simp [hvalue]
    · rw [ofKey_cons_of_ne ha, ofKey_cons_of_ne fun hb => ha (hkey.trans hb)]
      exact ⟨Iff.rfl, rfl⟩
  | join before after hkey hvalue =>
    exact headerValue_join before after hkey hvalue name
  | part before after hkey hvalue =>
    exact (headerValue_join before after hkey hvalue name).symm

/-! ## Hops reach every list with the covered values -/

/-- The lines of a field with these values. -/
def linesOf (key : Str) (values : List Str) : List (Str × Str) :=
  values.map fun v => (key, v)

/-- The lines of a field are written with its key and with trimmed values. -/
theorem hops_linesOf {key : Str} {lines : List (Str × Str)}
    (hkey : Str.toAsciiLowercase key = key)
    (h : ∀ line ∈ lines, fieldKey line = key) :
    Relation.ReflTransGen (FieldHop covers) lines
      (linesOf key (lines.map fun line => Str.trim line.2)) := by
  induction lines with
  | nil => exact .refl
  | cons line lines ih =>
    obtain ⟨hline, hrest⟩ := List.forall_mem_cons.1 h
    have hhead :
        FieldHop covers (line :: lines) ((key, Str.trim line.2) :: lines) :=
      FieldHop.respell [] lines (hline.trans hkey.symm)
        (Str.trim_trim line.2).symm
    have htail :=
      FieldHop.actsInside.reaches [(key, Str.trim line.2)] [] (ih hrest)
    simp only [List.append_nil] at htail
    exact htail.head hhead

/-- Lines with a last value that is not empty are joined into one. -/
theorem hops_joined (covers : Str → Prop) (key : Str) (values : List Str)
    {last : Str} (htrim : ∀ v ∈ values ++ [last], Str.trim v = v)
    (hlast : last ≠ []) :
    Relation.ReflTransGen (FieldHop covers) (linesOf key (values ++ [last]))
        (linesOf key [fieldSep.intercalate (values ++ [last])]) ∧
      Str.trim (fieldSep.intercalate (values ++ [last]))
        = fieldSep.intercalate (values ++ [last]) ∧
      fieldSep.intercalate (values ++ [last]) ≠ [] := by
  induction values with
  | nil =>
    rw [List.nil_append, List.intercalate_singleton]
    exact ⟨.refl, htrim last (List.mem_singleton.2 rfl), hlast⟩
  | cons v values ih =>
    obtain ⟨hv, hrest⟩ := List.forall_mem_cons.1 htrim
    obtain ⟨hhops, htext, hne⟩ := ih hrest
    have hjoin : fieldSep.intercalate (v :: values ++ [last])
        = joined v (fieldSep.intercalate (values ++ [last])) := by
      cases values with
      | nil => simp [joined, List.intercalate_cons_cons]
      | cons w values => simp [joined, List.intercalate_cons_cons]
    rw [hjoin]
    refine ⟨?_, trim_joined hv htext hne, by simp [joined, hne]⟩
    have hinside := FieldHop.actsInside.reaches [(key, v)] [] hhops
    simp only [List.append_nil] at hinside
    refine hinside.tail ?_
    have hstep : ∀ w, Str.trim w = w → w ≠ [] →
        FieldHop covers [(key, v), (key, w)]
          [(key, joined (Str.trim v) (Str.trim w))] :=
      fun w htrim hne => .join [] [] rfl (by rwa [htrim])
    have hlines := hstep _ htext hne
    rw [hv, htext] at hlines
    exact hlines

theorem intercalate_concat {values : List Str} (h : values ≠ []) (last : Str) :
    fieldSep.intercalate (values ++ [last])
      = joined (fieldSep.intercalate values) last := by
  induction values with
  | nil => exact absurd rfl h
  | cons v values ih =>
    cases values with
    | nil => simp [joined, List.intercalate_cons_cons]
    | cons w values =>
      have hrest := ih (by simp)
      simp only [List.cons_append] at hrest
      simp only [List.cons_append, List.intercalate_cons_cons, hrest, joined,
        List.append_assoc]

/-- The joined text tells whether the last value is empty: then it is empty or
ends in a blank. -/
theorem last_eq_nil_iff {values : List Str} {last : Str}
    (htrim : ∀ v ∈ values ++ [last], Str.trim v = v) :
    last = [] ↔ ¬ (Str.trim (fieldSep.intercalate (values ++ [last]))
        = fieldSep.intercalate (values ++ [last]) ∧
      fieldSep.intercalate (values ++ [last]) ≠ []) := by
  constructor
  · rintro rfl ⟨htext, hne⟩
    by_cases hvalues : values = []
    · rw [hvalues, List.nil_append, List.intercalate_singleton] at hne
      exact hne rfl
    · have hkept := Str.lastKept_trim (fieldSep.intercalate (values ++ [[]]))
      rw [htext, intercalate_concat hvalues, joined, List.append_nil] at hkept
      have hblank :=
        hkept ' ' (by rw [List.getLast?_append_of_ne_nil _ (by decide)]; rfl)
      exact absurd hblank (by decide)
  · intro h
    by_contra hlast
    exact h (hops_joined (fun _ => True) [] values htrim hlast).2

/-- Two ways to split one text into the values of a field are connected. -/
theorem hops_of_intercalate {key : Str} {us vs : List Str}
    (hus : ∀ u ∈ us, Str.trim u = u) (hvs : ∀ v ∈ vs, Str.trim v = v)
    (hnil : us = [] ↔ vs = [])
    (h : fieldSep.intercalate us = fieldSep.intercalate vs) :
    Relation.ReflTransGen (FieldHop covers) (linesOf key us)
      (linesOf key vs) := by
  induction us using List.reverseRecOn generalizing vs with
  | nil =>
    rw [hnil.1 rfl]
  | append_singleton us u ih =>
    obtain hvs' | ⟨vs, v, rfl⟩ := List.eq_nil_or_concat' vs
    · exact absurd (hnil.2 hvs') (by simp)
    by_cases hu : u = []
    · -- Both lists end in an empty value, which can be left out.
      have hv : v = [] := by
        rw [last_eq_nil_iff hvs, ← h, ← last_eq_nil_iff hus]
        exact hu
      rw [hu, hv] at h
      have hboth : (us = [] ↔ vs = []) ∧
          fieldSep.intercalate us = fieldSep.intercalate vs := by
        by_cases hus' : us = []
        · by_cases hvs' : vs = []
          · simp [hus', hvs']
          · rw [hus', intercalate_concat hvs'] at h
            simp [joined, fieldSep] at h
        · by_cases hvs' : vs = []
          · rw [hvs', intercalate_concat hus'] at h
            simp [joined, fieldSep] at h
          · rw [intercalate_concat hus', intercalate_concat hvs'] at h
            simp only [joined, List.append_nil, List.append_left_inj] at h
            simp [hus', hvs', h]
      have hrest := ih (fun u hu => hus u (List.mem_append_left _ hu))
        (fun v hv => hvs v (List.mem_append_left _ hv)) hboth.1 hboth.2
      have hinside := FieldHop.actsInside.reaches [] [(key, [])] hrest
      simpa [linesOf, hu, hv] using hinside
    · -- Neither does, so that both are joined into one line.
      have hv : v ≠ [] := by
        rw [Ne, last_eq_nil_iff hvs, ← h, ← last_eq_nil_iff hus]
        exact hu
      have hleft := (hops_joined covers key us hus hu).1
      have hright := (hops_joined covers key vs hvs hv).1
      rw [h] at hleft
      exact hleft.trans (symm hright)

/-- Lines that are not covered can all be dropped. -/
theorem hops_nil {lines : List (Str × Str)}
    (h : ∀ line ∈ lines, ¬ covers (fieldKey line)) :
    Relation.ReflTransGen (FieldHop covers) lines [] := by
  induction lines with
  | nil => exact .refl
  | cons line lines ih =>
    obtain ⟨hline, hrest⟩ := List.forall_mem_cons.1 h
    exact (ih hrest).head (FieldHop.drop [] lines hline)

/-- The lines of one field are connected when they have the same value, or none
of them is covered. -/
theorem hops_ofKey {key : Str}
    (h : covers key → Str.toAsciiLowercase key = key →
      headerValue headers key = headerValue headers' key) :
    Relation.ReflTransGen (FieldHop covers) (ofKey fieldKey key headers)
      (ofKey fieldKey key headers') := by
  by_cases hcovers : covers key
  · by_cases hlower : Str.toAsciiLowercase key = key
    · obtain ⟨hnil, hvalues⟩ := headerValue_eq_iff.1 (h hcovers hlower)
      rw [fieldValues_eq, fieldValues_eq, hlower] at hnil hvalues
      have htrim : ∀ {headers : List (Str × Str)},
          ∀ v ∈ (ofKey fieldKey key headers).map fun line => Str.trim line.2,
            Str.trim v = v := by
        intro headers v hv
        obtain ⟨line, _, rfl⟩ := List.mem_map.1 hv
        exact Str.trim_trim line.2
      have hwritten : ∀ headers, Relation.ReflTransGen (FieldHop covers)
          (ofKey fieldKey key headers)
          (linesOf key ((ofKey fieldKey key headers).map fun line =>
            Str.trim line.2)) :=
        fun headers => hops_linesOf hlower fun line hline =>
          key_of_mem_ofKey hline
      exact (hwritten headers).trans
        ((hops_of_intercalate htrim htrim hnil hvalues).trans
          (symm (hwritten headers')))
    · -- A key is in lower case, so that no line has this one.
      have hempty : ∀ headers, ofKey fieldKey key headers = [] := by
        intro headers
        refine ofKey_eq_nil fun line _ hline => hlower ?_
        rw [← hline, fieldKey, toAsciiLowercase_idem]
      rw [hempty, hempty]
  · have hdrop : ∀ headers, Relation.ReflTransGen (FieldHop covers)
        (ofKey fieldKey key headers) [] := by
      intro headers
      exact hops_nil fun line hline => by rwa [key_of_mem_ofKey hline]
    exact (hdrop headers).trans (symm (hdrop headers'))

/-- The changes of intermediaries lead from one list of fields to another
exactly when the two have the same value for each covered field. -/
theorem fieldHops_iff :
    Relation.ReflTransGen (FieldHop covers) headers headers' ↔
      ∀ name, covers (Str.toAsciiLowercase name) →
        headerValue headers name = headerValue headers' name := by
  constructor
  · intro h name hname
    induction h with
    | refl => rfl
    | tail _ hhop ih => exact ih.trans (hhop.headerValue_eq hname)
  · intro h
    refine reaches_of_ofKey FieldHop.actsInside ?_ fun key => hops_ofKey ?_
    · rintro _ _ ⟨before, after, hkey⟩
      exact .move before after hkey
    · intro hcovers hlower
      exact h key (by rwa [hlower])

end Wimsey.HttpSig
