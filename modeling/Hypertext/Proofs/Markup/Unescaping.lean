import Mathlib.Data.List.Infix
import Mathlib.Logic.Function.Basic
import Hypertext.Proofs.Markup.Escaped

/-!
# Unescaping

Escaped text is turned back by replacing one entity after the other in the whole text, that of the ampersand
last.

* `replaceChars`, `replaceAll`: a pattern replaced wherever it occurs.
* `FreeOf`: a block within which no occurrence of a pattern can begin, not even one that goes on after it.
* `replaceChars_flatMap`: in a text of blocks, of which one is the pattern and the others are free of it, exactly
  that block is replaced.
* `escapeOnly`: only some of the special characters escaped. Replacing an entity takes one of them away
  (`replaceAll_escapeOnly`), so five replacements take away all (`unescapeHtml_escapeHtml`).
* `escaping_loses_nothing`: with the shape of escaped texts.
-/

namespace Hypertext

/-- The characters with a pattern replaced wherever it occurs, left to right and without overlaps. An empty
pattern occurs nowhere. -/
def replaceChars (pattern replacement : List Char) : List Char → List Char
  | [] => []
  | c :: rest =>
    if pattern ≠ [] ∧ pattern <+: c :: rest then
      replacement ++ replaceChars pattern replacement (rest.drop (pattern.length - 1))
    else c :: replaceChars pattern replacement rest
termination_by text => text.length

/-- The text with a pattern replaced wherever it occurs. -/
def replaceAll (pattern replacement text : String) : String :=
  String.ofList (replaceChars pattern.toList replacement.toList text.toList)

/-- The text with the five entities turned back, one after the other in the whole text. -/
def unescapeHtml (text : String) : String :=
  replaceAll "&amp;" "&" <| replaceAll "&#39;" "'" <| replaceAll "&quot;" "\"" <|
    replaceAll "&gt;" ">" <| replaceAll "&lt;" "<" text

/-- However the text goes on after the block, the pattern does not begin within the block: what is left of the
block differs from the pattern before either ends. -/
def FreeOf (pattern block : List Char) : Prop :=
  ∀ ending ∈ block.tails, ending ≠ [] → ¬ pattern <+: ending ∧ ¬ ending <+: pattern

instance (pattern block : List Char) : Decidable (FreeOf pattern block) :=
  inferInstanceAs (Decidable (∀ ending ∈ block.tails, ending ≠ [] → ¬ pattern <+: ending ∧ ¬ ending <+: pattern))

section

variable {pattern replacement block rest : List Char} {c : Char}

theorem replaceChars_cons_of_not (h : ¬ pattern <+: c :: rest) :
    replaceChars pattern replacement (c :: rest) = c :: replaceChars pattern replacement rest := by
  rw [replaceChars, if_neg fun hprefix => h hprefix.2]

theorem replaceChars_pattern_append (h : pattern ≠ []) :
    replaceChars pattern replacement (pattern ++ rest) =
      replacement ++ replaceChars pattern replacement rest := by
  obtain ⟨c, others, rfl⟩ := List.exists_cons_of_ne_nil h
  rw [List.cons_append, replaceChars, if_pos ⟨h, List.prefix_append (c :: others) rest⟩,
    List.length_cons, Nat.add_sub_cancel, List.drop_left]

/-- A block that is free of the pattern is left as it is. -/
theorem replaceChars_append_of_freeOf (h : FreeOf pattern block) :
    replaceChars pattern replacement (block ++ rest) =
      block ++ replaceChars pattern replacement rest := by
  induction block with
  | nil => rfl
  | cons c block ih =>
    have hblock : FreeOf pattern block := fun ending hending =>
      h ending ((List.mem_tails _ _).mpr (((List.mem_tails _ _).mp hending).trans (List.suffix_cons c block)))
    have hhere := h (c :: block) ((List.mem_tails _ _).mpr List.suffix_rfl) (List.cons_ne_nil _ _)
    have hprefix : ¬ pattern <+: c :: (block ++ rest) := by
      intro hpattern
      -- the occurrence would end within the block or go on beyond it
      rcases List.prefix_or_prefix_of_prefix hpattern (List.prefix_append (c :: block) rest) with hle | hle
      · exact hhere.1 hle
      · exact hhere.2 hle
    rw [List.cons_append, replaceChars_cons_of_not hprefix, ih hblock, List.cons_append]

/-- **In a text of blocks** the one that is the pattern is replaced, if the others are free of it. -/
theorem replaceChars_flatMap (blocks : Char → List Char) {special : Char} (hpattern : pattern ≠ [])
    (hspecial : blocks special = pattern) (hothers : ∀ c ≠ special, FreeOf pattern (blocks c))
    (chars : List Char) :
    replaceChars pattern replacement (chars.flatMap blocks) =
      chars.flatMap (Function.update blocks special replacement) := by
  induction chars with
  | nil => rw [List.flatMap_nil, List.flatMap_nil, replaceChars]
  | cons c chars ih =>
    rw [List.flatMap_cons, List.flatMap_cons, ← ih]
    by_cases hc : c = special
    · rw [hc, hspecial, Function.update_self, replaceChars_pattern_append hpattern]
    · rw [Function.update_of_ne hc, replaceChars_append_of_freeOf (hothers c hc)]

end

/-- The special characters with their entities, that of the ampersand last. -/
def entities : List (Char × String) :=
  [('<', "&lt;"), ('>', "&gt;"), ('"', "&quot;"), ('\'', "&#39;"), ('&', "&amp;")]

theorem mem_entities {c : Char} {entity : String} (h : entity? c = some entity) : (c, entity) ∈ entities := by
  unfold entity? at h
  split at h
  case h_6 => cases h
  all_goals
    obtain rfl := Option.some.inj h
    decide

/-- No entity occurs at a character that stands for itself. -/
theorem freeOf_singleton {special : Char} {entity : String} (h : entity? special = some entity) {c : Char}
    (hc : c ≠ '&') : FreeOf entity.toList [c] := by
  have hhead : ∀ p ∈ entities, p.2.toList.head? = some '&' ∧ 1 < p.2.toList.length := by decide
  obtain ⟨hamp, hlong⟩ := hhead _ (mem_entities h)
  intro ending hending hne
  obtain rfl : ending = [c] := by simpa [hne] using hending
  constructor
  · intro hprefix
    exact Nat.not_le.mpr hlong hprefix.length_le
  · rintro ⟨rest, hrest⟩
    rw [← hrest] at hamp
    exact hc (Option.some.inj hamp)

/-- No entity occurs within or across the end of another one. -/
theorem freeOf_entity {special c : Char} {entity other : String} (h : entity? special = some entity)
    (hc : entity? c = some other) (hne : c ≠ special) : FreeOf entity.toList other.toList := by
  have hpairs : ∀ p ∈ entities, ∀ q ∈ entities, q.1 ≠ p.1 → FreeOf p.2.toList q.2.toList := by decide
  exact hpairs _ (mem_entities h) _ (mem_entities hc) hne

/-- What a character becomes if only these special characters are escaped. -/
def escapedOnly (specials : List Char) (c : Char) : List Char :=
  if c ∈ specials then escapedChar c else [c]

/-- The text with only these special characters escaped. -/
def escapeOnly (specials : List Char) (text : String) : String :=
  String.ofList (text.toList.flatMap (escapedOnly specials))

theorem freeOf_escapedOnly {special : Char} {entity : String} (h : entity? special = some entity)
    {specials : List Char} (hamp : '&' ∈ specials) {c : Char} (hc : c ≠ special) :
    FreeOf entity.toList (escapedOnly specials c) := by
  unfold escapedOnly escapedChar
  by_cases hmem : c ∈ specials
  · rw [if_pos hmem]
    cases hother : entity? c with
    | some other => exact freeOf_entity h hother hc
    | none =>
      refine freeOf_singleton h ?_
      rintro rfl
      exact absurd hother (by decide)
  · rw [if_neg hmem]
    refine freeOf_singleton h ?_
    rintro rfl
    exact hmem hamp

/-- **Replacing an entity** turns back its character, as long as the ampersand is escaped. -/
theorem replaceAll_escapeOnly {special : Char} {entity replacement : String}
    (h : entity? special = some entity) (hreplacement : replacement.toList = [special])
    {specials : List Char} (hspecial : special ∉ specials) (hamp : '&' ∈ special :: specials) (text : String) :
    replaceAll entity replacement (escapeOnly (special :: specials) text) = escapeOnly specials text := by
  have hblock : escapedOnly (special :: specials) special = entity.toList := by
    rw [escapedOnly, if_pos List.mem_cons_self, escapedChar, h]
  have hpattern : entity.toList ≠ [] := by
    have hentities : ∀ p ∈ entities, p.2.toList ≠ [] := by decide
    exact hentities _ (mem_entities h)
  unfold replaceAll escapeOnly
  rw [String.toList_ofList, hreplacement,
    replaceChars_flatMap _ hpattern hblock fun c hc => freeOf_escapedOnly h hamp hc]
  congr 1
  apply List.flatMap_congr
  intro c _
  by_cases hc : c = special
  · rw [hc, Function.update_self, escapedOnly, if_neg hspecial]
  · rw [Function.update_of_ne hc]
    simp only [escapedOnly, List.mem_cons, hc, false_or]

/-- Escaping is escaping all five special characters. -/
theorem escapeHtml_eq_escapeOnly (text : String) :
    escapeHtml text = escapeOnly ['<', '>', '"', '\'', '&'] text := by
  have hspecials : ∀ p ∈ entities, p.1 ∈ ['<', '>', '"', '\'', '&'] := by decide
  rw [escapeHtml_eq, escapeOnly]
  congr 1
  apply List.flatMap_congr
  intro c _
  unfold escapedOnly
  split
  · rfl
  · rename_i hmem
    cases h : entity? c with
    | some entity => exact absurd (hspecials _ (mem_entities h)) hmem
    | none => rw [escapedChar, h]

/-- **What has been escaped is turned back**, since each replacement finds the entities of its character and
nothing else. -/
theorem unescapeHtml_escapeHtml (text : String) : unescapeHtml (escapeHtml text) = text := by
  -- the ampersand comes last, since it begins the entities of the others
  have hlt : replaceAll "&lt;" "<" (escapeOnly ['<', '>', '"', '\'', '&'] text) =
    escapeOnly ['>', '"', '\'', '&'] text := replaceAll_escapeOnly rfl (by decide) (by decide) (by decide) text
  have hgt : replaceAll "&gt;" ">" (escapeOnly ['>', '"', '\'', '&'] text) =
    escapeOnly ['"', '\'', '&'] text := replaceAll_escapeOnly rfl (by decide) (by decide) (by decide) text
  have hquot : replaceAll "&quot;" "\"" (escapeOnly ['"', '\'', '&'] text) =
    escapeOnly ['\'', '&'] text := replaceAll_escapeOnly rfl (by decide) (by decide) (by decide) text
  have hapos : replaceAll "&#39;" "'" (escapeOnly ['\'', '&'] text) =
    escapeOnly ['&'] text := replaceAll_escapeOnly rfl (by decide) (by decide) (by decide) text
  have hamp : replaceAll "&amp;" "&" (escapeOnly ['&'] text) =
    escapeOnly [] text := replaceAll_escapeOnly rfl (by decide) (by decide) (by decide) text
  have hnone : escapeOnly [] text = text := by
    have hchars : text.toList.flatMap (escapedOnly []) = text.toList := List.flatMap_singleton' _
    rw [escapeOnly, hchars, String.ofList_toList]
  rw [unescapeHtml, escapeHtml_eq_escapeOnly, hlt, hgt, hquot, hapos, hamp, hnone]

/-- What a character becomes is an entity, or the character itself if it has none. -/
theorem escapedChar_cases (c : Char) :
    (∃ entity, entity? c = some entity ∧ escapedChar c = entity.toList) ∨
      entity? c = none ∧ escapedChar c = [c] := by
  unfold escapedChar
  cases entity? c with
  | some entity => exact .inl ⟨entity, rfl, rfl⟩
  | none => exact .inr ⟨rfl, rfl⟩

/-- No character of markup is left. -/
theorem not_special_of_mem_escapeHtml {text : String} {c : Char} (h : c ∈ (escapeHtml text).toList) :
    c ∉ ['<', '>', '"', '\''] := by
  rw [escapeHtml_eq, String.toList_ofList] at h
  obtain ⟨d, -, hc⟩ := List.mem_flatMap.mp h
  rcases escapedChar_cases d with ⟨entity, hd, hblock⟩ | ⟨hd, hblock⟩
  · have hentities : ∀ p ∈ entities, p.2.toList.all (· ∉ ['<', '>', '"', '\'']) := by decide
    rw [hblock] at hc
    exact of_decide_eq_true (List.all_eq_true.mp (hentities _ (mem_entities hd)) c hc)
  · rw [hblock] at hc
    obtain rfl := List.mem_singleton.mp hc
    intro hmem
    have hspecials : ['<', '>', '"', '\''].all fun d => (entity? d).isSome := by decide
    have hsome := List.all_eq_true.mp hspecials c hmem
    rw [hd] at hsome
    cases hsome

/-- An ampersand in what a character becomes begins an entity. -/
theorem escapedChar_ampersand {c : Char} {before after : List Char}
    (h : escapedChar c = before ++ '&' :: after) : ∃ p ∈ entities, p.2.toList = '&' :: after := by
  rcases escapedChar_cases c with ⟨entity, hc, hblock⟩ | ⟨hc, hblock⟩
  · have honce : ∀ p ∈ entities, '&' ∉ p.2.toList.tail := by decide
    refine ⟨_, mem_entities hc, ?_⟩
    rw [hblock] at h
    cases before with
    | nil => exact h
    | cons b before =>
      refine absurd ?_ (honce _ (mem_entities hc))
      rw [h]
      exact List.mem_append_right _ List.mem_cons_self
  · rw [hblock] at h
    have hamp : '&' ∈ [c] := h ▸ List.mem_append_right _ List.mem_cons_self
    obtain rfl := List.mem_singleton.mp hamp
    exact absurd hc (by decide)

/-- Every ampersand in an escaped text begins an entity. -/
theorem entity_of_ampersand {chars before after : List Char}
    (h : chars.flatMap escapedChar = before ++ '&' :: after) :
    ∃ p ∈ entities, p.2.toList <+: '&' :: after := by
  induction chars generalizing before with
  | nil => cases before <;> cases h
  | cons c chars ih =>
    rw [List.flatMap_cons] at h
    rcases List.append_eq_append_iff.mp h with ⟨between, hbefore, hrest⟩ | ⟨ending, hblock, hrest⟩
    · exact ih hrest
    -- the ampersand is in what this character becomes, or it is the first thing after that
    · cases ending with
      | nil =>
        have hnext : chars.flatMap escapedChar = [] ++ '&' :: after := hrest.symm
        exact ih hnext
      | cons d ending =>
        obtain ⟨rfl, rfl⟩ := List.cons.inj hrest
        obtain ⟨p, hp, hentity⟩ := escapedChar_ampersand hblock
        refine ⟨p, hp, ?_⟩
        rw [hentity]
        exact List.prefix_append ('&' :: ending) _

/-- **Escaping loses nothing.** Replacing in an escaped text one entity after the other, that of the ampersand
last, gives back the text, so that different texts are escaped differently. The escaped text contains none of
the characters that begin or end tags and values, and each of its ampersands begins one of the five
entities. -/
theorem escaping_loses_nothing (text : String) :
    unescapeHtml (escapeHtml text) = text ∧
      (∀ other, escapeHtml other = escapeHtml text → other = text) ∧
      (∀ c ∈ (escapeHtml text).toList, c ∉ ['<', '>', '"', '\'']) ∧
      ∀ before after, (escapeHtml text).toList = before ++ '&' :: after →
        ∃ entity ∈ ["&amp;", "&lt;", "&gt;", "&quot;", "&#39;"], entity.toList <+: '&' :: after := by
  refine ⟨unescapeHtml_escapeHtml text, fun other h => ?_, fun c hc => not_special_of_mem_escapeHtml hc,
    fun before after h => ?_⟩
  · rw [← unescapeHtml_escapeHtml other, h, unescapeHtml_escapeHtml]
  · rw [escapeHtml_eq, String.toList_ofList] at h
    obtain ⟨p, hp, hprefix⟩ := entity_of_ampersand h
    have hlisted : ∀ p ∈ entities, p.2 ∈ ["&amp;", "&lt;", "&gt;", "&quot;", "&#39;"] := by decide
    exact ⟨p.2, hlisted p hp, hprefix⟩

/-- A text with an entity in it, and with a piece of one. -/
theorem escaping_loses_nothing_nested_entity :
    let escaped := escapeHtml "&amp;lt;<&"
    escaped = "&amp;amp;lt;&lt;&amp;" ∧ unescapeHtml escaped = "&amp;lt;<&" ∧
      (∃ entity ∈ ["&amp;", "&lt;", "&gt;", "&quot;", "&#39;"], entity.toList <+: "&lt;&amp;".toList) ∧
      '<' ∉ escaped.toList := by
  intro escaped
  have hescaped : escaped = "&amp;amp;lt;&lt;&amp;" := by decide +kernel
  obtain ⟨hback, -, hchars, hamp⟩ := escaping_loses_nothing "&amp;lt;<&"
  have hsplit : escaped.toList = "&amp;amp;lt;".toList ++ '&' :: "lt;&amp;".toList := by decide +kernel
  exact ⟨hescaped, hback, hamp _ _ hsplit, fun hlt => hchars _ hlt (by decide)⟩

end Hypertext
