import Wimsey.HttpSig.Writer

/-!
# What the scanners keep

`split_unquoted_semicolons`, `split_dictionary` and `find_unquoted` each carry
the state of the quotes along, in the same way: `Quotes.next` is that state on
its own, and `Outside` says which characters it leaves outside quotes.

`scanners_partition` says what this comes to: the pieces that the first two cut
a text into, and the character that the third one finds.  A slice outside a text
or inside a character is a panic of the model (`Str.sliceFrom_ne_panic_iff`),
and no reader comes to one.
-/

namespace Wimsey.HttpSig

open Wimsey.RustStd Wimsey.Scan

/-! ## The state of the quotes -/

/-- How a character changes the state of the quotes. -/
def Quotes.next (q : Quotes) (c : Char) : Quotes :=
  if q.escaped then { q with escaped := false }
  else if q.inQuotes && c = '\\' then { q with escaped := true }
  else if c = '"' then { q with inQuotes := !q.inQuotes }
  else q

/-- The state of the quotes after a text. -/
def quotesAfter (s : Str) : Quotes := s.foldl Quotes.next .start

/-- The state of the quotes, without the open inner lists. -/
def DictState.quotes (q : DictState) : Quotes :=
  { inQuotes := q.inQuotes
    escaped := q.escaped }

/-- The character after this text is outside quotes.  A quote belongs to the
string that it opens or closes. -/
def Outside (before : Str) (c : Char) : Prop :=
  quotesAfter before = .start ∧ c ≠ '"'

/-- The character is in the text, outside quotes. -/
def HasUnquoted (t : Char) (s : Str) : Prop :=
  ∃ before after, s = before ++ t :: after ∧ Outside before t

theorem unquoted_next (t : Char) (q : Quotes) (c : Char) :
    (unquoted t q c).1 = q.next c := by
  unfold unquoted Quotes.next
  split
  · rfl
  · split
    · rfl
    · split
      · rfl
      · split <;> rfl

theorem dictionary_next (q : DictState) (c : Char) :
    (dictionary q c).1.quotes = q.quotes.next c := by
  unfold dictionary Quotes.next
  show _ = if q.escaped then _ else if q.inQuotes && c = '\\' then _ else _
  split
  · rfl
  · split
    · rfl
    · split
      · rfl
      · split
        · rfl
        · split
          · rfl
          · split <;> rfl

/-- All scanners have the same state of the quotes after a text. -/
theorem run_unquoted (t : Char) (s : Str) :
    (unquoted t).run .start s = quotesAfter s := by
  have hrun : ∀ q, (unquoted t).run q s = s.foldl Quotes.next q := by
    induction s with
    | nil => exact fun q => rfl
    | cons c s ih =>
      intro q
      rw [Scanner.run_cons, ih, unquoted_next, List.foldl_cons]
  exact hrun .start

theorem run_dictionary (s : Str) :
    (dictionary.run .start s).quotes = quotesAfter s := by
  have hrun :
      ∀ q, (dictionary.run q s).quotes = s.foldl Quotes.next q.quotes := by
    induction s with
    | nil => exact fun q => rfl
    | cons c s ih =>
      intro q
      rw [Scanner.run_cons, ih, dictionary_next, List.foldl_cons]
  exact hrun .start

theorem unquoted_cut_iff {t : Char} {q : Quotes} {c : Char} :
    (unquoted t q c).2 = true ↔ q = .start ∧ c = t ∧ c ≠ '"' := by
  obtain ⟨inQuotes, escaped⟩ := q
  unfold unquoted Quotes.start
  cases escaped with
  | true => simp
  | false =>
    cases inQuotes with
    | true =>
      by_cases hbackslash : c = '\\' <;> by_cases hquote :
        c = '"' <;> simp [hbackslash, hquote]
    | false =>
      by_cases ht : c = t
      · rw [ht]
        by_cases hquote : t = '"' <;> simp [hquote]
      · by_cases hquote : c = '"' <;> simp [hquote, ht]

theorem quiet_unquoted_iff {t : Char} {s : Str} :
    (unquoted t).Quiet .start s ↔ ¬ HasUnquoted t s := by
  rw [Scanner.quiet_iff]
  constructor
  · intro hquiet ⟨before, after, hs, hstate, ht⟩
    have hcut := hquiet before t after hs
    rw [run_unquoted, hstate, unquoted_cut_iff.2 ⟨rfl, rfl, ht⟩] at hcut
    cases hcut
  · intro hnone before c after hs
    rw [Bool.eq_false_iff]
    intro hcut
    rw [run_unquoted] at hcut
    obtain ⟨hstate, rfl, hc⟩ := unquoted_cut_iff.1 hcut
    exact hnone ⟨before, after, hs, hstate, hc⟩

/-! ## Pieces -/

/-- No piece between two semicolons outside quotes has another one. -/
theorem not_hasUnquoted_of_mem_split {s piece : Str}
    (h : piece ∈ (unquoted ';').split .start s) : ¬ HasUnquoted ';' piece := by
  rw [← quiet_unquoted_iff]
  refine Scanner.quiet_of_mem_split (fun q c hcut => ?_) piece h
  -- The scanner cuts in the state that it starts in.
  obtain ⟨rfl, rfl, hquote⟩ := unquoted_cut_iff.1 hcut
  rw [unquoted_next]
  decide

/-- The member is a trimmed label and the text after its `=`, in a piece of the
field that has been trimmed. -/
def IsMember (piece : Str) (member : Str × Str) : Prop :=
  ∃ label, '=' ∉ label ∧ Str.trim piece = label ++ '=' :: member.2 ∧
    member.1 = Str.trim label

theorem isMember_of_splitMember {piece : Str} {member : Str × Str}
    (h : splitMember piece = .ok member) : IsMember piece member := by
  rw [splitMember_eq] at h
  split at h
  · cases h
  · rename_i label rest hsplit
    split at h
    · cases h
    · obtain rfl := Outcome.ok.inj h
      obtain ⟨htext, hlabel⟩ := Str.splitOnce_eq_some_iff.1 hsplit
      exact ⟨label, hlabel, htext, rfl⟩

theorem members_of_splitDictionary {s : Str} {members : List (Str × Str)}
    (h : splitDictionary s = .ok members) :
    List.Forall₂ IsMember (dictionary.split .start s) members ∧
      (members.map Prod.fst).Nodup := by
  simp only [splitDictionary_eq, Outcome.bind_eq_ok_iff] at h
  obtain ⟨members', hmembers, _, hlabels, heq⟩ := h
  obtain rfl := Outcome.ok.inj heq
  refine ⟨?_, (checkLabels_eq_ok_iff.1 hlabels).2⟩
  exact (Outcome.forall₂_of_mapM hmembers).imp fun _ _ =>
    isMember_of_splitMember

/-! ## The first one -/

theorem findUnquoted_eq_some_iff {s : Str} {t : Char} {i : Nat} :
    findUnquoted s t = some i ↔ ∃ before after, s = before ++ t :: after ∧
      Str.len before = i ∧
      Outside before t ∧ ¬ HasUnquoted t before := by
  rw [findUnquoted_eq, Option.map_eq_some_iff]
  constructor
  · intro ⟨(before, after), hfirst, hi⟩
    obtain ⟨c, hs, hquiet, hcut⟩ := Scanner.first_eq_some_iff.1 hfirst
    rw [run_unquoted] at hcut
    obtain ⟨hstate, rfl, hc⟩ := unquoted_cut_iff.1 hcut
    exact ⟨before, after, hs, hi, ⟨hstate, hc⟩, quiet_unquoted_iff.1 hquiet⟩
  · intro ⟨before, after, hs, hi, hstate, hnone⟩
    refine ⟨(before, after),
      Scanner.first_eq_some_iff.2 ⟨t, hs, quiet_unquoted_iff.2 hnone, ?_⟩, hi⟩
    rw [run_unquoted]
    exact unquoted_cut_iff.2 ⟨hstate.1, rfl, hstate.2⟩

theorem findUnquoted_eq_none_iff {s : Str} {t : Char} :
    findUnquoted s t = none ↔ ¬ HasUnquoted t s := by
  rw [findUnquoted_eq, Option.map_eq_none_iff, Scanner.first_eq_none_iff,
    quiet_unquoted_iff]

/-- The pieces between semicolons are a partition of the text, and none of them
has another semicolon outside quotes.  The members of a dictionary come from a
partition at commas, in order, with distinct labels.  The first character
outside quotes is found, if there is one.  All scanners have the same state of
the quotes after a text, and none of the readers slices outside a text or inside
a character. -/
theorem scanners_partition :
    (∀ s, ∃ pieces, splitUnquotedSemicolons s = .ok pieces ∧
      [';'].intercalate pieces = s ∧
      ∀ piece ∈ pieces, ¬ HasUnquoted ';' piece) ∧
    (∀ s members, splitDictionary s = .ok members →
      ∃ pieces, [','].intercalate pieces = s ∧
        List.Forall₂ IsMember pieces members ∧
        (members.map Prod.fst).Nodup) ∧
    (∀ s t i, findUnquoted s t = some i ↔
      ∃ before after, s = before ++ t :: after ∧ Str.len before = i ∧
        Outside before t ∧
        ¬ HasUnquoted t before) ∧
    (∀ s t, findUnquoted s t = none ↔ ¬ HasUnquoted t s) ∧
    (∀ s t, (unquoted t).run .start s = quotesAfter s ∧
      (dictionary.run .start s).quotes = quotesAfter s) ∧
    (∀ s, splitDictionary s ≠ .panic) ∧
    (∀ label rest, parseInputMember label rest ≠ .panic) ∧
    ∀ rest, hasWimseTag rest ≠ .panic := by
  refine ⟨fun s => ?_, fun s members h => ?_,
    fun _ _ _ => findUnquoted_eq_some_iff,
    fun _ _ => findUnquoted_eq_none_iff,
    fun s t => ⟨run_unquoted t s, run_dictionary s⟩,
    splitDictionary_ne_panic, parseInputMember_ne_panic, fun rest => ?_⟩
  · exact ⟨_, splitUnquotedSemicolons_eq s, Scanner.intercalate_split fun _ _ =>
      unquoted_cut, fun piece => not_hasUnquoted_of_mem_split⟩
  · exact ⟨_, Scanner.intercalate_split fun _ _ => dictionary_cut,
      members_of_splitDictionary h⟩
  · rw [hasWimseTag_eq]
    exact nofun

namespace Example.Partition

/-- A field of two members, with a comma and an escaped quote inside a
string. -/
def field : Str := "é=(\"a,b\\\",\");x , b = \"(\" "

/-- The comma and the parenthesis inside the strings are no delimiters. -/
theorem scanners_partition_example :
    (∃ pieces, splitUnquotedSemicolons field = .ok pieces ∧
      [';'].intercalate pieces = field) ∧
      (∃ pieces, [','].intercalate pieces = field ∧
        List.Forall₂ IsMember pieces
          [("é".toList, "(\"a,b\\\",\");x".toList),
            ("b".toList, " \"(\"".toList)]) ∧
      HasUnquoted ')' field := by
  obtain ⟨hsplit, hmembers, hfind, _⟩ := scanners_partition
  have hread : splitDictionary field
      = .ok [("é".toList, "(\"a,b\\\",\");x".toList),
        ("b".toList, " \"(\"".toList)] := by
    decide +kernel
  obtain ⟨pieces, hpieces, hjoin, _⟩ := hsplit field
  obtain ⟨pieces', hjoin', hall, _⟩ := hmembers _ _ hread
  have hfound : findUnquoted field ')' = some 12 := by decide +kernel
  obtain ⟨before, after, htext, _, houtside, _⟩ := (hfind _ _ _).1 hfound
  exact ⟨⟨pieces, hpieces, hjoin⟩, ⟨pieces', hjoin', hall⟩,
    ⟨before, after, htext, houtside⟩⟩

end Example.Partition

end Wimsey.HttpSig
