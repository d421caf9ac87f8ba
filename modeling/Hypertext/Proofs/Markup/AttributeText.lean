import Hypertext.Proofs.Markup.Emitted
import Hypertext.Proofs.Markup.Unescaping

/-!
# Reading attribute lists

The text of an attribute list can be read back by looking for no more than the next equals sign and the next
quote.

* `readAttributes`: the reader. It knows nothing of escaping policies and of what wrote the text.
* `Attribute.Readable`: a name of letters, digits and hyphens, and a value that is escaped or has no need to be.
* `readAttribute_markup`: of the text of a list the reader takes exactly the first attribute.
* `attributes_read_back`: so it makes out the whole list, in order and with all duplicates.
-/

namespace Hypertext

/-- What stands before the first such character, and what stands after it. -/
def upTo (stop : Char) : List Char → Option (List Char × List Char)
  | [] => none
  | c :: rest =>
    if c = stop then some ([], rest)
    else (upTo stop rest).map fun (before, after) => (c :: before, after)

/-- The name and value of the attribute that the text begins with, and what is left after it. -/
def readAttribute : List Char → Option ((String × String) × List Char)
  | ' ' :: text =>
    match upTo '=' text with
    | some (name, '"' :: quoted) =>
      (upTo '"' quoted).map fun (value, rest) =>
        ((String.ofList name, unescapeHtml (String.ofList value)), rest)
    | _ => none
  | _ => none

theorem length_of_upTo {stop : Char} {text before after : List Char} (h : upTo stop text = some (before, after)) :
    after.length < text.length := by
  induction text generalizing before with
  | nil => cases h
  | cons c rest ih =>
    unfold upTo at h
    split at h
    · cases h
      exact Nat.lt_succ_self _
    · obtain ⟨⟨inner, after'⟩, hinner, heq⟩ := Option.map_eq_some_iff.mp h
      cases heq
      exact Nat.lt_succ_of_lt (ih hinner)

theorem length_of_readAttribute {text rest : List Char} {pair : String × String}
    (h : readAttribute text = some (pair, rest)) : rest.length < text.length := by
  unfold readAttribute at h
  split at h
  · split at h
    · rename_i hname
      obtain ⟨⟨value, after⟩, hvalue, heq⟩ := Option.map_eq_some_iff.mp h
      cases heq
      have hquoted := length_of_upTo hname
      have hrest := length_of_upTo hvalue
      simp only [List.length_cons] at hquoted ⊢
      omega
    · cases h
  · cases h

/-- The names and values of an attribute list, unless the text is anything else than that. -/
def readAttributes (text : List Char) : Option (List (String × String)) :=
  if text = [] then some []
  else
    match _h : readAttribute text with
    | none => none
    | some (pair, rest) => (readAttributes rest).map (pair :: ·)
termination_by text.length
decreasing_by exact length_of_readAttribute _h

/-- Nothing in the attribute ends its name or its value too early. -/
structure Attribute.Readable (a : Attribute) : Prop where
  name : IsName a.name
  value : a.policy = .escapeChars ∨ '"' ∉ a.value.toList ∧ '&' ∉ a.value.toList

theorem upTo_append {stop : Char} {before : List Char} (h : stop ∉ before) (rest : List Char) :
    upTo stop (before ++ stop :: rest) = some (before, rest) := by
  induction before with
  | nil => rw [List.nil_append, upTo, if_pos rfl]
  | cons c before ih =>
    have hc : c ≠ stop := fun heq => h (heq ▸ List.mem_cons_self)
    rw [List.cons_append, upTo, if_neg hc, ih fun hmem => h (List.mem_cons_of_mem c hmem), Option.map_some]

/-- A text without ampersands has no entities in it. -/
theorem replaceChars_eq_self {pattern replacement text : List Char} (hpattern : pattern.head? = some '&')
    (h : '&' ∉ text) : replaceChars pattern replacement text = text := by
  induction text with
  | nil => rw [replaceChars]
  | cons c rest ih =>
    have hprefix : ¬ pattern <+: c :: rest := by
      rintro ⟨more, hmore⟩
      have hmem : '&' ∈ c :: rest := hmore ▸ List.mem_append_left more (List.mem_of_head? hpattern)
      exact h hmem
    rw [replaceChars_cons_of_not hprefix, ih fun hmem => h (List.mem_cons_of_mem c hmem)]

theorem unescapeHtml_eq_self {text : String} (h : '&' ∉ text.toList) : unescapeHtml text = text := by
  have hone : ∀ pattern replacement : String, pattern.toList.head? = some '&' →
      replaceAll pattern replacement text = text := by
    intro pattern replacement hpattern
    rw [replaceAll, replaceChars_eq_self hpattern h, String.ofList_toList]
  rw [unescapeHtml, hone "&lt;" "<" rfl, hone "&gt;" ">" rfl, hone "&quot;" "\"" rfl, hone "&#39;" "'" rfl,
    hone "&amp;" "&" rfl]

namespace Attribute.Readable

variable {a : Attribute}

/-- No quote ends the value too early. -/
theorem quote_not_mem (h : a.Readable) : '"' ∉ (a.policy.written a.value).toList := by
  intro hmem
  cases hpolicy : a.policy with
  | escapeChars =>
    rw [hpolicy] at hmem
    exact not_special_of_mem_escapeHtml hmem (by decide)
  | noEscape =>
    rw [hpolicy] at hmem
    rcases h.value with hescaped | ⟨hquote, -⟩
    · rw [hescaped] at hpolicy
      cases hpolicy
    · exact hquote hmem

/-- The value is made out of what is written for it. -/
theorem unescapeHtml_written (h : a.Readable) : unescapeHtml (a.policy.written a.value) = a.value := by
  cases hpolicy : a.policy with
  | escapeChars => exact unescapeHtml_escapeHtml a.value
  | noEscape =>
    rcases h.value with hescaped | ⟨-, hamp⟩
    · rw [hescaped] at hpolicy
      cases hpolicy
    · exact unescapeHtml_eq_self hamp

end Attribute.Readable

/-- **The first attribute** is taken from the text, up to its closing quote and no further. -/
theorem readAttribute_markup {a : Attribute} (h : a.Readable) (rest : List Char) :
    readAttribute (a.markup.toList ++ rest) = some ((a.name, a.value), rest) := by
  have hequals : '=' ∉ a.name.toList := fun hmem => absurd (h.name.chars _ hmem) (by decide)
  have hmarkup : a.markup.toList ++ rest =
      ' ' :: (a.name.toList ++ '=' :: '"' :: ((a.policy.written a.value).toList ++ '"' :: rest)) := by
    simp [Attribute.markup]
  rw [hmarkup]
  simp only [readAttribute, upTo_append hequals, upTo_append h.quote_not_mem, Option.map_some,
    String.ofList_toList, h.unescapeHtml_written]

theorem readAttributes_markup {list : Attributes} (h : ∀ a ∈ list, a.Readable) :
    readAttributes list.markup.toList = some (list.map fun a => (a.name, a.value)) := by
  induction list with
  | nil => rw [Attributes.markup, String.toList_empty, readAttributes, if_pos rfl, List.map_nil]
  | cons a list ih =>
    have hfirst := readAttribute_markup (h a List.mem_cons_self) (Attributes.markup list).toList
    have hrest := ih fun b hb => h b (List.mem_cons_of_mem a hb)
    have hne : a.markup.toList ++ (Attributes.markup list).toList ≠ [] := by
      simp [Attribute.markup]
    rw [Attributes.markup, String.toList_append, readAttributes, if_neg hne]
    -- the reader's own match, of which only the second case is possible
    split
    · rename_i hnone
      rw [hfirst] at hnone
      cases hnone
    · rename_i pair rest hsome
      rw [hfirst] at hsome
      cases hsome
      rw [hrest, Option.map_some, List.map_cons]

/-- **Attribute lists are read back.** Take any list of attributes with names of letters, digits and hyphens,
each of them escaped, whatever its value is, or with a value without quotes and ampersands. What the list
writes is read as exactly its names and values, in order and with all duplicates. So another such list writes
the same only if it has the same names and values in the same order. -/
theorem attributes_read_back (list : Attributes) (h : ∀ a ∈ list, a.Readable) :
    ∃ text, (list.emission (some EscapeHandler.html)).Emits text ∧
      readAttributes text.toList = some (list.map fun a => (a.name, a.value)) ∧
      ∀ other : Attributes, (∀ a ∈ other, a.Readable) →
        (other.emission (some EscapeHandler.html)).Emits text →
          other.map (fun a => (a.name, a.value)) = list.map fun a => (a.name, a.value) := by
  refine ⟨list.markup, list.emits_markup, readAttributes_markup h, fun other hother hemits => ?_⟩
  have hsame : list.markup = other.markup := by
    have hruns := (hemits "").symm.trans (other.emits_markup "")
    have htexts := congrArg Prod.fst hruns
    rwa [String.empty_append, String.empty_append] at htexts
  have hread := readAttributes_markup h
  rw [hsame, readAttributes_markup hother] at hread
  exact Option.some.inj hread

/-- Two attributes of one name, with quotes, entities and the like in their values, around one that is not
escaped. -/
theorem attributes_read_back_duplicate_title :
    let list := ((Attributes.attr [] "title" "a\" b='&lt;'>").raw "data-x" "<1 = 2>").attr "title" ""
    (∀ a ∈ list, a.Readable) ∧
      (list.emission (some EscapeHandler.html)).Emits
        " title=\"a&quot; b=&#39;&amp;lt;&#39;&gt;\" data-x=\"<1 = 2>\" title=\"\"" ∧
      readAttributes
          " title=\"a&quot; b=&#39;&amp;lt;&#39;&gt;\" data-x=\"<1 = 2>\" title=\"\"".toList =
        some [("title", "a\" b='&lt;'>"), ("data-x", "<1 = 2>"), ("title", "")] := by
  intro list
  have hlist : ∀ a ∈ list, a.Readable := by
    intro a ha
    have hcases : a = ⟨"title", "a\" b='&lt;'>", .escapeChars⟩ ∨ a = ⟨"data-x", "<1 = 2>", .noEscape⟩ ∨
        a = ⟨"title", "", .escapeChars⟩ := by
      simpa [list] using ha
    rcases hcases with rfl | rfl | rfl
    · exact ⟨by decide, .inl rfl⟩
    · exact ⟨by decide, .inr (by decide)⟩
    · exact ⟨by decide, .inl rfl⟩
  obtain ⟨text, hemits, hread, -⟩ := attributes_read_back list hlist
  have htext : text = " title=\"a&quot; b=&#39;&amp;lt;&#39;&gt;\" data-x=\"<1 = 2>\" title=\"\"" := by
    have hrun : ((list.emission (some EscapeHandler.html)).run "").1 =
        " title=\"a&quot; b=&#39;&amp;lt;&#39;&gt;\" data-x=\"<1 = 2>\" title=\"\"" := by decide +kernel
    rw [hemits "", String.empty_append] at hrun
    exact hrun
  rw [htext] at hemits hread
  exact ⟨hlist, hemits, hread⟩

end Hypertext
