import Hypertext.Proofs.Resource.DataUrl

/-!
# Splitting data URLs

A data URL is written as the scheme, metadata without a comma, a comma and a payload, which may have commas of its
own.

* `splitComma?_eq_some_iff`, `splitComma?_eq_none_iff`: the cut at the first comma.
* `parse_scheme`, `parse_eq_missingScheme_iff`: the scheme is looked for first, and the cut is made behind it.
* `parse_eq_ok_iff`: a text is a data URL exactly if it is the text of one whose metadata have no comma.
* `parse_accepts_grammar`: what is accepted, what is lost of it (nothing), and what is refused for which reason.
-/

namespace Hypertext

namespace DataUrl

/-! ### The first comma -/

/-- What is cut at a comma is what stood before and after it, and it was the first one. -/
theorem eq_append_of_splitComma? {cs before after : List Char} (h : splitComma? cs = some (before, after)) :
    cs = before ++ ',' :: after ∧ ',' ∉ before := by
  induction cs generalizing before with
  | nil => cases h
  | cons c cs ih =>
    rw [splitComma?] at h
    split at h
    · rename_i hcomma
      cases h
      exact ⟨by rw [hcomma, List.nil_append], List.not_mem_nil⟩
    · rename_i hother
      obtain ⟨⟨before', after'⟩, hrest, hpair⟩ := Option.map_eq_some_iff.mp h
      cases hpair
      obtain ⟨happend, hfirst⟩ := ih hrest
      refine ⟨by rw [happend, List.cons_append], ?_⟩
      rw [List.mem_cons, not_or]
      exact ⟨fun hc => hother hc.symm, hfirst⟩

/-- **The cut** gives a part without commas and what stands behind the comma after it. -/
theorem splitComma?_eq_some_iff {cs before after : List Char} :
    splitComma? cs = some (before, after) ↔ cs = before ++ ',' :: after ∧ ',' ∉ before := by
  constructor
  · exact eq_append_of_splitComma?
  · rintro ⟨rfl, hfirst⟩
    exact splitComma?_append hfirst after

theorem splitComma?_eq_none_iff {cs : List Char} : splitComma? cs = none ↔ ',' ∉ cs := by
  constructor
  · intro hnone hmem
    obtain ⟨before, after, hcs, hfirst⟩ := List.eq_append_cons_of_mem hmem
    rw [hcs, splitComma?_append hfirst] at hnone
    cases hnone
  · intro hfree
    cases hcut : splitComma? cs with
    | none => rfl
    | some parts =>
      obtain ⟨happend, -⟩ := eq_append_of_splitComma? hcut
      rw [happend] at hfree
      exact absurd (List.mem_append_right _ List.mem_cons_self) hfree

/-! ### The scheme -/

theorem scheme_isPrefixOf_iff {raw : String} :
    scheme.isPrefixOf raw.toList = true ↔ ∃ rest, raw = "data:" ++ rest := by
  rw [List.isPrefixOf_iff_prefix]
  constructor
  · rintro ⟨rest, hrest⟩
    refine ⟨String.ofList rest, ?_⟩
    rw [← String.toList_inj, ← hrest]
    simp [scheme]
  · rintro ⟨rest, rfl⟩
    exact ⟨rest.toList, by simp [scheme]⟩

/-- Behind the scheme only the comma counts. -/
theorem parse_scheme (rest : String) :
    parse ("data:" ++ rest) =
      match splitComma? rest.toList with
      | some (metadata, payload) => .ok ⟨String.ofList metadata, String.ofList payload⟩
      | none => .error .missingComma := by
  have hchars : ("data:" ++ rest).toList = scheme ++ rest.toList := by simp [scheme]
  have hprefix : scheme.isPrefixOf ("data:" ++ rest).toList = true := scheme_isPrefixOf_iff.mpr ⟨rest, rfl⟩
  have hbehind : ("data:" ++ rest).toList.drop scheme.length = rest.toList := by rw [hchars, List.drop_left]
  rw [← hbehind]
  exact if_pos hprefix

/-- **Without the scheme** that is what is reported, whether there is a comma or not. -/
theorem parse_eq_missingScheme_iff {raw : String} :
    parse raw = .error .missingScheme ↔ ¬ ∃ rest, raw = "data:" ++ rest := by
  constructor
  · rintro h ⟨rest, rfl⟩
    rw [parse_scheme] at h
    split at h <;> cases h
  · intro hno
    rw [parse, if_neg fun hprefix => hno (scheme_isPrefixOf_iff.mp hprefix)]

theorem parse_eq_missingComma_iff {raw : String} :
    parse raw = .error .missingComma ↔ ∃ rest, raw = "data:" ++ rest ∧ ',' ∉ rest.toList := by
  constructor
  · intro h
    by_cases hscheme : ∃ rest, raw = "data:" ++ rest
    · obtain ⟨rest, rfl⟩ := hscheme
      refine ⟨rest, rfl, ?_⟩
      rw [parse_scheme] at h
      split at h
      · cases h
      · rename_i hcut
        exact splitComma?_eq_none_iff.mp hcut
    · rw [parse_eq_missingScheme_iff.mpr hscheme] at h
      cases h
  · rintro ⟨rest, rfl, hfree⟩
    rw [parse_scheme, splitComma?_eq_none_iff.mpr hfree]

/-! ### The whole text -/

/-- **A text is a data URL** exactly if it is the text of one whose metadata have no comma. -/
theorem parse_eq_ok_iff {raw : String} {url : DataUrl} :
    parse raw = .ok url ↔ raw = url.text ∧ ',' ∉ url.metadata.toList := by
  constructor
  · intro h
    by_cases hscheme : ∃ rest, raw = "data:" ++ rest
    · obtain ⟨rest, rfl⟩ := hscheme
      rw [parse_scheme] at h
      split at h
      · rename_i metadata payload hcut
        cases h
        obtain ⟨hrest, hfirst⟩ := splitComma?_eq_some_iff.mp hcut
        refine ⟨?_, by rwa [String.toList_ofList]⟩
        rw [← String.toList_inj]
        simp [text, scheme, hrest]
      · cases h
    · rw [parse_eq_missingScheme_iff.mpr hscheme] at h
      cases h
  · rintro ⟨rfl, hfirst⟩
    exact parse_text url hfirst

/-- Of the commas of a text one is the separator, and the others are those of the payload. -/
theorem count_comma_text {url : DataUrl} (h : ',' ∉ url.metadata.toList) :
    url.text.toList.count ',' = url.payload.toList.count ',' + 1 := by
  have hscheme : scheme.count ',' = 0 := rfl
  have hmetadata : url.metadata.toList.count ',' = 0 := List.count_eq_zero.mpr h
  have hchars : url.text.toList = scheme ++ (url.metadata.toList ++ ',' :: url.payload.toList) := by simp [text]
  rw [hchars, List.count_append, List.count_append, List.count_cons_self, hscheme, hmetadata]
  omega

/-- **Data URLs are accepted by their grammar, and nothing is lost.** A text is split into metadata and a payload
exactly if it consists of the scheme, the metadata, a comma and the payload, and the metadata have no comma. So no
other text is split into the same parts, the parts written out again are the text, and all its commas but one are in
the payload. A text without the scheme is refused for that, whatever else it lacks, and a text with the scheme if there
is no comma behind it. -/
theorem parse_accepts_grammar (raw : String) :
    (∀ metadata payload, parse raw = .ok ⟨metadata, payload⟩ ↔
        raw = "data:" ++ metadata ++ "," ++ payload ∧ ',' ∉ metadata.toList) ∧
      (∀ url, parse raw = .ok url →
        (∀ other, parse other = .ok url → other = raw) ∧ url.text = raw ∧
          raw.toList.count ',' = url.payload.toList.count ',' + 1) ∧
      (parse raw = .error .missingScheme ↔ ¬ ∃ rest, raw = "data:" ++ rest) ∧
      (parse raw = .error .missingComma ↔ ∃ rest, raw = "data:" ++ rest ∧ ',' ∉ rest.toList) := by
  refine ⟨fun metadata payload => parse_eq_ok_iff, fun url hurl => ?_, parse_eq_missingScheme_iff,
    parse_eq_missingComma_iff⟩
  obtain ⟨htext, hfirst⟩ := parse_eq_ok_iff.mp hurl
  refine ⟨fun other hother => ?_, htext.symm, ?_⟩
  · rw [(parse_eq_ok_iff.mp hother).1, htext]
  · rw [htext]
    exact count_comma_text hfirst

/-- The scheme once more in the metadata, and a payload with commas and the scheme in it. -/
theorem parse_accepts_grammar_further_commas :
    let url : DataUrl := ⟨"data:é", "a,data:,b"⟩
    parse "data:data:é,a,data:,b" = .ok url ∧ url.text = "data:data:é,a,data:,b" ∧
      "data:data:é,a,data:,b".toList.count ',' = "a,data:,b".toList.count ',' + 1 ∧
      (∀ other, parse other = .ok url → other = "data:data:é,a,data:,b") ∧
      parse "dat:data:,é" = .error .missingScheme ∧ parse "data:é;base64" = .error .missingComma := by
  intro url
  obtain ⟨haccepted, hkept, -, -⟩ := parse_accepts_grammar "data:data:é,a,data:,b"
  have hurl : parse "data:data:é,a,data:,b" = .ok url := (haccepted _ _).mpr ⟨by decide, by decide⟩
  obtain ⟨hunique, htext, hcommas⟩ := hkept url hurl
  exact ⟨hurl, htext, hcommas, hunique, by decide, by decide⟩

end DataUrl

end Hypertext
