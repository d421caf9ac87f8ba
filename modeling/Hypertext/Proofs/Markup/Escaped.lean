import Hypertext.Escape
import Hypertext.Proofs.Markup.Reader

/-!
# Escaped text

Escaping works character by character: the runs and entities of a text put together are those of its
characters (`escapeHtml_eq`), and names are left as they are. A reader makes out of an escaped text the
text itself, wherever a text may stand (`Reader.reads_escaped`).
-/

namespace Hypertext

/-- What a character becomes. -/
def escapedChar (c : Char) : List Char :=
  match entity? c with
  | some entity => entity.toList
  | none => [c]

theorem flatten_extendRun (c : Char) (runs : List (List Char)) :
    (extendRun c runs).flatten = c :: runs.flatten := by
  cases runs <;> rfl

/-- **The pieces put together are the escaped characters.** -/
theorem flatten_pieceChars (chars : List Char) :
    (pieceChars chars).flatten = chars.flatMap escapedChar := by
  induction chars with
  | nil => rfl
  | cons c chars ih =>
    rw [List.flatMap_cons, ← ih, pieceChars, escapedChar]
    cases entity? c with
    | some entity => rfl
    | none => exact flatten_extendRun c _

theorem escapeHtml_eq (text : String) :
    escapeHtml text = String.ofList (text.toList.flatMap escapedChar) := by
  unfold escapeHtml
  rw [flatten_pieceChars]

/-- A text without special characters is left as it is. -/
theorem escapeHtml_eq_self {text : String} (h : ∀ c ∈ text.toList, entity? c = none) :
    escapeHtml text = text := by
  have hsame : text.toList.flatMap escapedChar = text.toList.flatMap fun c => [c] := by
    apply List.flatMap_congr
    intro c hc
    rw [escapedChar, h c hc]
  rw [escapeHtml_eq, hsame, List.flatMap_singleton', String.ofList_toList]

theorem entity?_of_isNameChar {c : Char} (h : isNameChar c = true) : entity? c = none := by
  unfold entity?
  split
  case h_6 => rfl
  all_goals exact absurd h (by decide)

theorem IsName.escapeHtml_eq_self {name : String} (h : IsName name) : escapeHtml name = name :=
  Hypertext.escapeHtml_eq_self fun c hc => entity?_of_isNameChar (h.chars c hc)

namespace Reader

/-- A character without an entity stands for itself. -/
theorem reads_plain (t : Transcript) (place : Place) {c : Char} (h : entity? c = none) :
    Reads ⟨.text place, t⟩ [c] (place.take t (String.singleton c)) := by
  -- whatever ends a text or begins an entity has an entity itself
  have hamp : c ≠ '&' := by
    rintro rfl
    exact absurd h (by decide)
  have hlt : c ≠ '<' := by
    rintro rfl
    exact absurd h (by decide)
  have hquot : c ≠ '"' := by
    rintro rfl
    exact absurd h (by decide)
  apply Reads.char
  cases place <;> simp [step, Place.step, hamp, hlt, hquot]

/-- A character that has an entity is made out of it. -/
theorem reads_entity (t : Transcript) (place : Place) {c : Char} {entity : String}
    (h : entity? c = some entity) :
    Reads ⟨.text place, t⟩ entity.toList (place.take t (String.singleton c)) := by
  unfold entity? at h
  split at h
  case h_6 => exact absurd h (by simp)
  all_goals
    obtain rfl := Option.some.inj h
    rfl

theorem reads_escapedChar (t : Transcript) (place : Place) (c : Char) :
    Reads ⟨.text place, t⟩ (escapedChar c) (place.take t (String.singleton c)) := by
  unfold escapedChar
  cases h : entity? c with
  | some entity => exact reads_entity t place h
  | none => exact reads_plain t place h

theorem reads_escapedChars (t : Transcript) (place : Place) (chars : List Char) :
    Reads ⟨.text place, t⟩ (chars.flatMap escapedChar) (place.take t (String.ofList chars)) := by
  induction chars generalizing t place with
  | nil =>
    rw [String.ofList_nil, Place.take_empty]
    exact Reads.nothing _
  | cons c chars ih =>
    -- the first character may have moved on the transcript or the value, so the rest starts from there
    obtain ⟨place', t', htake, hgoOn⟩ := place.take_append t (String.singleton c)
    have hfirst := reads_escapedChar t place c
    have hrest := ih t' place'
    rw [htake] at hfirst
    rw [hgoOn, ← String.ofList_cons] at hrest
    rw [List.flatMap_cons]
    exact hfirst.append hrest

/-- **A reader makes the text itself out of an escaped text**, between the tags and in a value. -/
theorem reads_escaped (t : Transcript) (place : Place) (text : String) :
    Reads ⟨.text place, t⟩ (escapeHtml text).toList (place.take t text) := by
  have hread := reads_escapedChars t place text.toList
  rw [String.ofList_toList] at hread
  rw [escapeHtml_eq, String.toList_ofList]
  exact hread

end Reader

end Hypertext
