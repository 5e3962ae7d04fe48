import Wimsey.Identifier.Grammar

/-!
# One spelling for each identifier

Two URIs that differ only in letter case, percent-encoding or dot segments name
the same resource.  An authorization decision compares identifiers as texts, so
the parser must accept one spelling only.  This module proves that it does: what
`parse` accepts is left alone by the normalization of RFC 3986, Section 6.2.2.
-/

namespace Wimsey.Identifier

open Wimsey.RustStd
open Wimsey.Uri (isPchar)

theorem uriPrefix_eq (scheme : Scheme) :
    scheme.uriPrefix = scheme.asStr ++ "://".toList := by
  cases scheme <;> rfl

/-- The letters of a scheme may stand in a trust domain. -/
theorem asStr_tdClass (scheme : Scheme) :
    ∀ c ∈ scheme.asStr, tdClass c = true := by
  cases scheme <;> simp [Scheme.asStr, tdClass, Char.isLower]

/-- An identifier of the grammar is in normal form. -/
theorem normalize_of_grammar {s : Str} {scheme : Scheme} {td : Str}
    {segs : List Str} (h : Grammar s scheme td segs) : Uri.normalize s = s := by
  have hscheme : ∀ c ∈ scheme.asStr, c ∉ ":/?#".toList ∧ c ≠ '%' ∧
      c.toLower = c := by
    intro c hc
    obtain ⟨hnot, hlower⟩ := tdClass_ne (asStr_tdClass scheme c hc)
    simp at hnot
    simp [hnot, hlower]
  have hne : scheme.asStr ≠ [] := by
    cases scheme <;> exact List.cons_ne_nil _ _
  have htd : ∀ c ∈ td, c ∉ "/?#".toList ∧ c ≠ '@' ∧ c ≠ '%' ∧
      c.toLower = c := by
    intro c hc
    obtain ⟨hnot, hlower⟩ := tdClass_ne (h.td_chars c hc)
    simp at hnot
    simp [hnot, hlower]
  rw [h.text, uriPrefix_eq, pathOf]
  refine Uri.normalize_hierarchical (p := isPchar) (by decide) hne
    hscheme htd ?_
  intro seg hseg
  obtain ⟨hsegment, hdot, hdots⟩ := h.segments seg hseg
  exact ⟨hsegment.encoded, not_mem_of_encoded hsegment.encoded, hdot, hdots⟩

/-- Accepted identifiers are in normal form.  Hence two of them that normalize
alike are the same text, and they are equal as values exactly when they are. -/
theorem one_spelling {a b : Str} {ida idb : WorkloadIdentifier}
    (ha : parse a = .ok ida) (hb : parse b = .ok idb) :
    Uri.normalize a = a ∧ (Uri.normalize a = Uri.normalize b → a = b) ∧
    (ida = idb ↔ a = b) := by
  obtain ⟨_, _, hgrammar, hid⟩ := grammar_of_parse ha
  obtain ⟨_, _, hgrammar', hid'⟩ := grammar_of_parse hb
  have hnormal := normalize_of_grammar hgrammar
  have hnormal' := normalize_of_grammar hgrammar'
  refine ⟨hnormal, fun h => ?_, fun h => ?_, fun h => ?_⟩
  · rwa [hnormal, hnormal'] at h
  · rw [h, hid'] at hid
    exact (congrArg Fields.uri hid).symm
  · subst h
    exact Outcome.ok.inj (ha.symm.trans hb)

/-- An escaped slash is data, and normalization keeps it. -/
theorem one_spelling_escape :
    Uri.normalize "wimse://a.b/x%2Fy" = "wimse://a.b/x%2Fy".toList := by
  have hparse : parseFields "wimse://a.b/x%2Fy" = .ok
      ⟨"wimse://a.b/x%2Fy", .wimse, 3⟩ := by
    decide +kernel
  obtain ⟨id, hid, _⟩ := exists_parse hparse
  exact (one_spelling hid hid).1

end Wimsey.Identifier
