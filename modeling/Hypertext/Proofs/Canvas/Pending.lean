import Hypertext.Proofs.Canvas.Brackets
import Hypertext.Proofs.Canvas.Failures
import Hypertext.Sink.Pieces

/-!
# Pending end tags

The end tags that are pending on a canvas are those of the elements that were opened and not closed. On a sink
that may fail at any point this is almost so: an end tag that the sink refuses is taken from the stack, and its
element can never be closed.

* `Operation.bracket?`, `Canvas.brackets`: what operations open and close, those that succeed.
* `Operation.stacked?`, `Canvas.stackings`: what they put on the stack of end tags and take from it.
* `awaits_stacked`, `awaits_stackings`: the stack, step by step and for whole runs.
* `Canvas.lost`: the number of elements that are neither closed nor pending (`closings_stackings`).
* `pending_end_tags`: a run on any sink.
-/

namespace Hypertext

open Hypertext.Bracket (Awaits openings closings)

namespace Operation

/-- What an operation with this result opens or closes. -/
def bracket? : Operation → Except CanvasError Unit → Option Bracket
  | .openTag name _, .ok () => some (.opening ("</" ++ name ++ ">"))
  | .rawBlock _ _ endTag, .ok () => some (.opening endTag)
  | .closeTag, .ok () => some .closing
  | .closeExpecting _, .ok () => some .closing
  | _, _ => none

/-- What an operation with this result puts on the stack of end tags or takes from it. -/
def stacked? (operation : Operation) (r : Except CanvasError Unit) : Option Bracket :=
  if operation.loses r then some .closing else operation.bracket? r

variable {operation : Operation} {r : Except CanvasError Unit}

theorem bracket?_error (operation : Operation) (e : CanvasError) : operation.bracket? (.error e) = none := by
  cases operation <;> rfl

theorem stacked?_eq_bracket? (h : operation.loses r = false) : operation.stacked? r = operation.bracket? r := by
  unfold stacked?
  rw [h]
  rfl

theorem stacked?_of_loses (h : operation.loses r = true) : operation.stacked? r = some .closing :=
  if_pos h

/-- Only what has failed is lost. -/
theorem bracket?_of_loses (h : operation.loses r = true) : operation.bracket? r = none := by
  cases r with
  | ok u => cases operation <;> cases h
  | error e => exact bracket?_error operation e

theorem closings_stacked? (operation : Operation) (r : Except CanvasError Unit) :
    openings (operation.stacked? r).toList = openings (operation.bracket? r).toList ∧
      closings (operation.stacked? r).toList =
        closings (operation.bracket? r).toList + (operation.loses r).toNat := by
  cases hloses : operation.loses r with
  | true =>
    rw [stacked?_of_loses hloses, bracket?_of_loses hloses]
    exact ⟨rfl, rfl⟩
  | false =>
    rw [stacked?_eq_bracket? hloses]
    exact ⟨rfl, rfl⟩

end Operation

namespace Canvas

/-- What operations in a row open and close. -/
def brackets {σ : Type} [Sink σ] : List Operation → Canvas σ → List Bracket
  | [], _ => []
  | operation :: operations, c =>
    (operation.bracket? (c.perform operation).2).toList ++ brackets operations (c.perform operation).1

/-- What operations in a row put on the stack of end tags and take from it. -/
def stackings {σ : Type} [Sink σ] : List Operation → Canvas σ → List Bracket
  | [], _ => []
  | operation :: operations, c =>
    (operation.stacked? (c.perform operation).2).toList ++ stackings operations (c.perform operation).1

/-- The number of end tags that operations in a row take from the stack and that the sink refuses. -/
def lost {σ : Type} [Sink σ] : List Operation → Canvas σ → Nat
  | [], _ => 0
  | operation :: operations, c =>
    (operation.loses (c.perform operation).2).toNat + lost operations (c.perform operation).1

variable {σ : Type} [Sink σ] {c : Canvas σ} {word : List Bracket}

/-- **One operation**, failed or not, changes the stack of end tags as its bracket says. -/
theorem awaits_stacked (operation : Operation) (h : Awaits word c.openTags) :
    Awaits (word ++ (operation.stacked? (c.perform operation).2).toList) (c.perform operation).1.openTags := by
  have hsame : Awaits (word ++ []) c.openTags := h.append_balanced .nil
  cases hr : (c.perform operation).2 with
  | ok u =>
    cases operation with
    | closeTag =>
      obtain ⟨endTag, htags⟩ := closeTag_ok hr
      rw [htags] at h
      exact h.closing
    | closeExpecting expected =>
      have hclose := closeExpecting_ok hr
      rw [hclose] at hr ⊢
      obtain ⟨endTag, htags⟩ := closeTag_ok hr
      rw [htags] at h
      exact h.closing
    | openTag | rawBlock =>
      rw [perform_openTags, hr]
      exact h.opening _
    | voidTag | text | char =>
      rw [perform_openTags, hr]
      exact hsame
  -- a failure counts only if an end tag is lost by it
  | error e =>
    have hopen := openTags_of_error hr
    cases hloses : operation.loses (.error e) with
    | true =>
      rw [if_pos hloses] at hopen
      obtain ⟨endTag, htags⟩ := hopen
      rw [htags] at h
      rw [Operation.stacked?_of_loses hloses]
      exact h.closing
    | false =>
      rw [if_neg (ne_true_of_eq_false hloses)] at hopen
      rw [Operation.stacked?_eq_bracket? hloses, Operation.bracket?_error, hopen]
      exact hsame

/-- **Operations in a row** change the stack of end tags as their word says. -/
theorem awaits_stackings (operations : List Operation) (h : Awaits word c.openTags) :
    Awaits (word ++ c.stackings operations) (c.afterEach operations).openTags := by
  induction operations generalizing c word with
  | nil => exact h.append_balanced .nil
  | cons operation operations ih =>
    have hrest := ih (awaits_stacked operation h)
    rw [List.append_assoc] at hrest
    exact hrest

/-- Where no end tag is refused, the stack follows the elements. -/
theorem stackings_eq_brackets (operations : List Operation) (h : c.lost operations = 0) :
    c.stackings operations = c.brackets operations := by
  induction operations generalizing c with
  | nil => rfl
  | cons operation operations ih =>
    obtain ⟨hone, hrest⟩ := Nat.add_eq_zero_iff.mp h
    have hkeeps : operation.loses (c.perform operation).2 = false := Bool.toNat_eq_zero.mp hone
    unfold stackings brackets
    rw [Operation.stacked?_eq_bracket? hkeeps, ih hrest]

/-- Each end tag that is refused is taken from the stack without a closing. -/
theorem closings_stackings (c : Canvas σ) (operations : List Operation) :
    openings (c.stackings operations) = openings (c.brackets operations) ∧
      closings (c.stackings operations) = closings (c.brackets operations) + c.lost operations := by
  induction operations generalizing c with
  | nil => exact ⟨rfl, rfl⟩
  | cons operation operations ih =>
    obtain ⟨hopenings, hclosings⟩ := ih (c.perform operation).1
    obtain ⟨hopens, hcloses⟩ := operation.closings_stacked? (c.perform operation).2
    unfold stackings brackets lost
    rw [Bracket.openings_append, Bracket.openings_append, Bracket.closings_append, Bracket.closings_append,
      hopenings, hclosings, hopens, hcloses]
    exact ⟨rfl, Nat.add_add_add_comm _ _ _ _⟩

end Canvas

/-- **The end tags that are pending**, on a sink that may fail at any point. A failed operation leaves the
stack of end tags as it was, unless it was closing and the sink has refused the end tag: then exactly this end
tag is gone. So after any run the stack is what the word of the run awaits, in which a refused end tag counts
as a closing. It falls short of the elements that were opened and not closed by the number of refused end tags,
and if there are none it lists exactly these elements. -/
theorem pending_end_tags {σ : Type} [Sink σ] (c : Canvas σ) (operations : List Operation) :
    let here := c.afterEach operations
    let word := Bracket.ofStack c.openTags ++ c.brackets operations
    (∀ operation e, (here.perform operation).2 = .error e →
        if operation.loses (.error e) then
          ∃ endTag, here.openTags = endTag :: (here.perform operation).1.openTags
        else (here.perform operation).1.openTags = here.openTags) ∧
      Awaits (Bracket.ofStack c.openTags ++ c.stackings operations) here.openTags ∧
      here.depth + closings word + c.lost operations = openings word ∧
      (c.lost operations = 0 → Awaits word here.openTags) := by
  intro here word
  have hstack := Canvas.awaits_stackings operations (Awaits.ofStack c.openTags)
  refine ⟨fun operation e => Canvas.openTags_of_error, hstack, ?_, fun hlost => ?_⟩
  · obtain ⟨hopenings, hclosings⟩ := c.closings_stackings operations
    have hdepth : openings (Bracket.ofStack c.openTags ++ c.stackings operations) =
      closings (Bracket.ofStack c.openTags ++ c.stackings operations) + here.depth := hstack.openings_eq
    rw [Bracket.openings_append, Bracket.closings_append, hopenings, hclosings] at hdepth
    rw [Bracket.openings_append, Bracket.closings_append, hdepth]
    omega
  · rw [Canvas.stackings_eq_brackets operations hlost] at hstack
    exact hstack

/-- A division around a paragraph, on a record without room for more: an element that cannot be opened is not
pending, and closing the paragraph takes its end tag away. -/
theorem pending_end_tags_full_record :
    let c : Canvas Pieces := { sink := { room := some 4 } }
    let operations : List Operation := [.openTag "div" none, .openTag "p" none, .openTag "b" none]
    let here := c.afterEach operations
    (c.lost operations = 0 ∧ (here.perform .closeTag).2 = .error (.io Pieces.closed)) ∧
      Awaits [.opening "</div>", .opening "</p>"] here.openTags ∧
      ∃ endTag, here.openTags = endTag :: (here.perform .closeTag).1.openTags := by
  intro c operations here
  have hlost : c.lost operations = 0 := by decide +kernel
  have hfails : (here.perform .closeTag).2 = .error (.io Pieces.closed) := by decide +kernel
  have hword : Bracket.ofStack c.openTags ++ c.brackets operations = [.opening "</div>", .opening "</p>"] := by
    decide +kernel
  obtain ⟨hfailed, -, -, hlists⟩ := pending_end_tags c operations
  have hawaits := hlists hlost
  rw [hword] at hawaits
  exact ⟨⟨hlost, hfails⟩, hawaits, hfailed .closeTag _ hfails⟩

/-- **An end tag that the sink refuses is lost.** A paragraph is open, and closing it fails with the sink. Now
nothing is pending, the canvas is balanced, and closing again finds nothing to close. -/
theorem refused_end_tag_is_lost :
    let c : Canvas Pieces := ({ sink := { room := some 2 } } : Canvas Pieces).afterEach [.openTag "p" none]
    c.openTags = ["</p>"] ∧ c.perform .closeTag = ({ c with openTags := [] }, .error (.io Pieces.closed)) ∧
      ((c.perform .closeTag).1.perform .closeTag).2 = .error .emptyStack ∧
      ¬ ∀ (d : Canvas Pieces) (operation : Operation) (e : CanvasError),
        (d.perform operation).2 = .error e → (d.perform operation).1.openTags = d.openTags := by
  intro c
  refine ⟨by decide +kernel, rfl, rfl, fun hkept => ?_⟩
  have hopen := hkept c .closeTag (.io Pieces.closed) rfl
  cases hopen

end Hypertext
