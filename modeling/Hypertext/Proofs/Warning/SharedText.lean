import Hypertext.Warning
import Mathlib.Data.List.Basic

/-!
# Warnings with the same text

A warning is told apart by its text `[component] message`. The bracket and the blank that end the component may
also stand within a component or a message, so different warnings may have one text.

* `Overlap`: the component of the second warning goes on where that of the first one ends, with a bracket, a blank
  and the beginning of the first one's message.
* `text_eq_text_iff`: two warnings have one text exactly if they are the same or overlap.
* `told_apart_unless_overlapping`: different warnings are told apart exactly if they do not overlap.
* `bracket_in_component_hides_warning`: warnings that overlap are not told apart.
-/

namespace Hypertext.Warnings

/-- The second component is the first one, a bracket, a blank and some text between; the first message is this
text, a bracket, a blank and the second message. -/
def Overlap (component message component' message' : String) : Prop :=
  ∃ between, component' = component ++ "] " ++ between ∧ message = between ++ "] " ++ message'

/-- Whichever of the two warnings has the longer component. -/
def Overlapping (component message component' message' : String) : Prop :=
  Overlap component message component' message' ∨ Overlap component' message' component message

theorem Overlap.text_eq {c m c' m' : String} (h : Overlap c m c' m') : text c m = text c' m' := by
  obtain ⟨between, rfl, rfl⟩ := h
  simp only [text, String.append_assoc]

/-- What is left of two equal texts when the shorter component has been taken from both. -/
theorem overlap_of_append {c m c' m' : String} {rest : List Char} (hne : rest ≠ [])
    (hcomponent : c'.toList = c.toList ++ rest)
    (hmessage : ']' :: ' ' :: m.toList = rest ++ ']' :: ' ' :: m'.toList) : Overlap c m c' m' := by
  -- the rest begins with the bracket and the blank: after the bracket alone a bracket would have to be a blank
  match rest, hne with
  | [b], _ =>
    obtain ⟨-, hmessage⟩ := List.cons.inj hmessage
    have hblank : ' ' = ']' := (List.cons.inj hmessage).1
    exact absurd hblank (by decide)
  | b :: blank :: between, _ =>
    simp only [List.cons_append, List.cons.injEq] at hmessage
    obtain ⟨rfl, rfl, hmessage⟩ := hmessage
    refine ⟨String.ofList between, String.toList_inj.mp ?_, String.toList_inj.mp ?_⟩
    · rw [hcomponent]
      simp
    · rw [hmessage]
      simp

/-- **Two warnings have one text** exactly if they are the same or overlap. -/
theorem text_eq_text_iff {c m c' m' : String} :
    text c m = text c' m' ↔ (c = c' ∧ m = m') ∨ Overlapping c m c' m' := by
  constructor
  · intro h
    have hchars : c.toList ++ (']' :: ' ' :: m.toList) = c'.toList ++ (']' :: ' ' :: m'.toList) := by
      have htext := congrArg String.toList h
      simpa [text] using htext
    rcases List.append_eq_append_iff.mp hchars with ⟨rest, hc, hm⟩ | ⟨rest, hc, hm⟩
    · by_cases hrest : rest = []
      · subst hrest
        rw [List.append_nil] at hc
        have hmessage : m.toList = m'.toList := by simpa using hm
        exact .inl ⟨String.toList_inj.mp hc.symm, String.toList_inj.mp hmessage⟩
      · exact .inr (.inl (overlap_of_append hrest hc hm))
    · by_cases hrest : rest = []
      · subst hrest
        rw [List.append_nil] at hc
        have hmessage : m'.toList = m.toList := by simpa using hm
        exact .inl ⟨String.toList_inj.mp hc, String.toList_inj.mp hmessage.symm⟩
      · exact .inr (.inr (overlap_of_append hrest hc hm))
  · rintro (⟨rfl, rfl⟩ | hoverlap | hoverlap)
    · rfl
    · exact hoverlap.text_eq
    · exact hoverlap.text_eq.symm

/-- After a clear the record has what has been warned of since, as far as the texts tell. -/
theorem has_clear_warn (w : Warnings) (c m c' m' : String) :
    (w.clear.warn c m).has c' m' = true ↔ text c m = text c' m' := by
  have hrecorded : (w.clear.warn c m).recorded = [text c m] := rfl
  unfold has
  rw [hrecorded, List.contains_iff_mem, List.mem_singleton, eq_comm]

/-- **Different warnings are told apart unless they overlap.** After a clear and one warning, let another one
follow that differs in its component or its message. If the two do not overlap, it is not found in the record,
and warning of it prints its line and raises the count to two. If they overlap, it passes for the first one: it is
found before it has been given, and giving it prints nothing and changes nothing. -/
theorem told_apart_unless_overlapping (w : Warnings) (c m c' m' : String) (hne : (c, m) ≠ (c', m')) :
    let first := w.clear.warn c m
    (¬ Overlapping c m c' m' →
      first.has c' m' = false ∧ (first.warn c' m').printed = first.printed ++ [line c' m'] ∧
        (first.warn c' m').count = 2) ∧
      (Overlapping c m c' m' → first.has c' m' = true ∧ first.warn c' m' = first ∧ first.count = 1) := by
  intro first
  have hcount : first.count = 1 := rfl
  have hhas : first.has c' m' = true ↔ Overlapping c m c' m' := by
    rw [has_clear_warn, text_eq_text_iff]
    constructor
    · rintro (⟨rfl, rfl⟩ | hoverlap)
      · exact absurd rfl hne
      · exact hoverlap
    · exact Or.inr
  refine ⟨fun hapart => ?_, fun hoverlap => ?_⟩
  · have hnew : ¬ first.has c' m' = true := fun h => hapart (hhas.mp h)
    refine ⟨eq_false_of_ne_true hnew, ?_, ?_⟩
    · rw [warn, if_neg hnew]
    · rw [count_warn, if_neg hnew, hcount]
  · have hfound := hhas.mpr hoverlap
    exact ⟨hfound, warn_of_has hfound, hcount⟩

/-- Two warnings whose components and messages hold the bracket and the blank, and which do not overlap. -/
theorem told_apart_unless_overlapping_brackets :
    let first := ({} : Warnings).clear.warn "A] b" "c"
    (("A] b", "c") ≠ ("A", "b] d") ∧ ¬ Overlapping "A] b" "c" "A" "b] d") ∧
      first.has "A" "b] d" = false ∧ (first.warn "A" "b] d").count = 2 := by
  intro first
  have hne : ("A] b", "c") ≠ ("A", "b] d") := by decide
  have hapart : ¬ Overlapping "A] b" "c" "A" "b] d" := fun hoverlap =>
    absurd (text_eq_text_iff.mpr (.inr hoverlap)) (by decide +kernel)
  obtain ⟨htold, -⟩ := told_apart_unless_overlapping {} "A] b" "c" "A" "b] d" hne
  obtain ⟨hnew, -, hcount⟩ := htold hapart
  exact ⟨⟨hne, hapart⟩, hnew, hcount⟩

/-- **A bracket in a component hides a warning.** Of two different warnings the second one is found in the record
before it has been given, and giving it prints nothing and does not count. -/
theorem bracket_in_component_hides_warning :
    let first := ({} : Warnings).clear.warn "A] b" "c"
    ("A] b", "c") ≠ ("A", "b] c") ∧ first.has "A" "b] c" = true ∧ first.warn "A" "b] c" = first ∧
      first.count = 1 ∧
      ¬ ∀ (w : Warnings) (c m c' m' : String), (c, m) ≠ (c', m') →
        (w.clear.warn c m).has c' m' = false ∧
          ((w.clear.warn c m).warn c' m').printed = (w.clear.warn c m).printed ++ [line c' m'] ∧
          ((w.clear.warn c m).warn c' m').count = 2 := by
  intro first
  have hfound : first.has "A" "b] c" = true := by decide +kernel
  have hne : ("A] b", "c") ≠ ("A", "b] c") := by decide
  refine ⟨hne, hfound, warn_of_has hfound, rfl, fun hclaim => ?_⟩
  have hnot := (hclaim {} "A] b" "c" "A" "b] c" hne).1
  exact absurd (hfound.symm.trans hnot) (by decide)

end Hypertext.Warnings
