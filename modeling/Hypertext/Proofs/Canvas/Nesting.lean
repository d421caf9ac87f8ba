import Hypertext.Proofs.Canvas.Pending

/-!
# Closing follows nesting

On a text, the operations of a run open and close elements as matching brackets do. Every closing writes the
end tag of the latest opening that has not been closed yet, whatever failed in between.

* `awaits_each`: the open elements are what the word of the run awaits, as a text refuses no end tag.
* `Canvas.ClosesBy`, `Canvas.Unwinds`: what closing does here, once and repeatedly.
* `brackets_match`: closing follows the word of the run at every point. Operations that open and close all
  their elements themselves do so around any elements that are already open.
-/

namespace Hypertext

open Hypertext.Bracket (Unclosed Awaits openings closings)

namespace Canvas

/-- All the operations succeed. -/
def AllSucceed {σ : Type} [Sink σ] (operations : List Operation) (c : Canvas σ) : Prop :=
  ∀ r ∈ c.resultsOfEach operations, r = .ok ()

/-- Closing here follows the word. -/
structure ClosesBy (c : Canvas String) (word : List Bracket) : Prop where
  /-- Closing succeeds exactly if something has not been closed yet. -/
  closes_iff : (c.perform .closeTag).2 = .ok () ↔ ∃ endTag, Unclosed word endTag
  /-- It writes the end tag of the latest of these, and nothing else changes. -/
  closes : ∀ endTag, Unclosed word endTag →
    c.perform .closeTag = ({ c with sink := c.sink ++ endTag, openTags := c.openTags.tail }, .ok ())
  /-- An expected end tag must be that one. -/
  expects_iff : ∀ expected, (c.perform (.closeExpecting expected)).2 = .ok () ↔ Unclosed word expected
  /-- If it is, nothing else than closing happens. -/
  expects : ∀ expected, Unclosed word expected →
    c.perform (.closeExpecting expected) = c.perform .closeTag
  /-- As many elements are open as have been opened and not closed. -/
  depth : c.depth + closings word = openings word

/-- Closing again and again writes the end tags of all open elements in order, and then fails. -/
structure Unwinds (c : Canvas String) : Prop where
  results : ∀ n, c.resultsOfEach (.replicate (c.depth + n) .closeTag) =
    .replicate c.depth (.ok ()) ++ .replicate n (.error .emptyStack)
  after : ∀ n, c.afterEach (.replicate (c.depth + n) .closeTag) =
    { c with sink := c.sink ++ String.join c.openTags, openTags := [] }
  balanced : (c.afterEach (.replicate c.depth .closeTag)).isBalanced = true

variable {c d : Canvas String} {word : List Bracket}

theorem closeTag_cons {endTag : String} {endTags : List String} (h : c.openTags = endTag :: endTags) :
    c.perform .closeTag = ({ c with sink := c.sink ++ endTag, openTags := endTags }, .ok ()) := by
  obtain ⟨sink, openTags, context, lastId, config, warnings⟩ := c
  obtain rfl : openTags = endTag :: endTags := h
  rfl

/-- A text refuses no end tag. -/
theorem not_loses (operation : Operation) (c : Canvas String) :
    operation.loses (c.perform operation).2 = false := by
  by_cases hunder : operation.Underflows c.openTags
  · rw [perform_of_underflows hunder]
    cases operation <;> rfl
  cases operation with
  | closeTag =>
    obtain ⟨endTag, endTags, htags⟩ := List.exists_cons_of_ne_nil hunder
    rw [closeTag_cons htags]
    rfl
  | closeExpecting expected =>
    obtain ⟨endTag, endTags, htags⟩ := List.exists_cons_of_ne_nil hunder
    rw [closeExpecting_cons htags]
    split
    · rw [closeTag_cons htags]
      rfl
    · rfl
  | openTag | voidTag | text | char | rawBlock => rfl

theorem lost_eq_zero (operations : List Operation) (c : Canvas String) : c.lost operations = 0 := by
  induction operations generalizing c with
  | nil => rfl
  | cons operation operations ih =>
    unfold lost
    rw [not_loses, ih]
    rfl

/-- **Operations in a row** change the open elements as their word says. -/
theorem awaits_each (operations : List Operation) (h : Awaits word c.openTags) :
    Awaits (word ++ c.brackets operations) (c.afterEach operations).openTags := by
  rw [← stackings_eq_brackets operations (lost_eq_zero operations c)]
  exact awaits_stackings operations h

/-- Where these end tags are awaited, closing follows the word. -/
theorem closesBy_of_awaits (h : Awaits word c.openTags) : c.ClosesBy word := by
  have htop : ∀ endTag, Unclosed word endTag ↔ c.openTags.head? = some endTag := fun _ => h.unclosed_iff
  have hdepth : c.depth + closings word = openings word := by
    rw [h.openings_eq]
    exact Nat.add_comm _ _
  cases htags : c.openTags with
  | nil =>
    have hnone : ∀ endTag, ¬ Unclosed word endTag := by
      intro endTag hunclosed
      have hhead := (htop endTag).mp hunclosed
      rw [htags] at hhead
      cases hhead
    have hclose : c.perform .closeTag = (c, .error .emptyStack) := perform_of_underflows htags
    have hexpect : ∀ expected, c.perform (.closeExpecting expected) = (c, .error .emptyStack) :=
      fun expected => perform_of_underflows htags
    refine ⟨?_, fun endTag hunclosed => absurd hunclosed (hnone endTag), fun expected => ?_,
      fun expected hunclosed => absurd hunclosed (hnone expected), hdepth⟩
    · rw [hclose]
      exact ⟨nofun, fun ⟨endTag, hunclosed⟩ => absurd hunclosed (hnone endTag)⟩
    · rw [hexpect]
      exact ⟨nofun, fun hunclosed => absurd hunclosed (hnone expected)⟩
  | cons endTag endTags =>
    have hclose := closeTag_cons htags
    have hexpect := closeExpecting_cons htags
    have hunclosed : ∀ tag, Unclosed word tag ↔ endTag = tag := by
      intro tag
      rw [htop tag, htags, List.head?_cons, Option.some_inj]
    refine ⟨?_, fun tag htag => ?_, fun expected => ?_, fun expected htag => ?_, hdepth⟩
    · rw [hclose]
      exact ⟨fun _ => ⟨endTag, (hunclosed endTag).mpr rfl⟩, fun _ => rfl⟩
    · rw [hclose, ← (hunclosed tag).mp htag, htags]
      rfl
    · rw [hexpect, hunclosed]
      by_cases hexpected : endTag = expected
      · rw [if_pos hexpected, hclose]
        exact ⟨fun _ => hexpected, fun _ => rfl⟩
      · rw [if_neg hexpected]
        exact ⟨nofun, fun htag => absurd htag hexpected⟩
    · rw [hexpect, if_pos ((hunclosed expected).mp htag)]

theorem each_closeTag_nil (h : c.openTags = []) (n : Nat) :
    c.resultsOfEach (.replicate n .closeTag) = .replicate n (.error .emptyStack) ∧
      c.afterEach (.replicate n .closeTag) = c := by
  have hclose : c.perform .closeTag = (c, .error .emptyStack) := perform_of_underflows h
  induction n with
  | zero => exact ⟨rfl, rfl⟩
  | succ n ih =>
    constructor
    · rw [List.replicate_succ, resultsOfEach, hclose, ih.1, ← List.replicate_succ]
    · rw [List.replicate_succ, afterEach, List.foldl_cons, hclose]
      exact ih.2

/-- **Closing again and again**: once for each open element, innermost first. -/
theorem each_closeTag (c : Canvas String) (n : Nat) :
    c.resultsOfEach (.replicate (c.depth + n) .closeTag) =
        .replicate c.depth (.ok ()) ++ .replicate n (.error .emptyStack) ∧
      c.afterEach (.replicate (c.depth + n) .closeTag) =
        { c with sink := c.sink ++ String.join c.openTags, openTags := [] } := by
  obtain ⟨sink, openTags, context, lastId, config, warnings⟩ := c
  induction openTags generalizing sink with
  | nil =>
    have hzero : (Canvas.mk sink [] context lastId config warnings).depth + n = n := Nat.zero_add n
    obtain ⟨hresults, hafter⟩ := each_closeTag_nil (c := ⟨sink, [], context, lastId, config, warnings⟩) rfl n
    rw [hzero, hresults, hafter]
    refine ⟨rfl, ?_⟩
    rw [String.join_nil, String.append_empty]
  | cons endTag endTags ih =>
    obtain ⟨hresults, hafter⟩ := ih (sink ++ endTag)
    have hsucc : (Canvas.mk sink (endTag :: endTags) context lastId config warnings).depth + n =
        (Canvas.mk (sink ++ endTag) endTags context lastId config warnings).depth + n + 1 :=
      Nat.add_right_comm _ 1 n
    have hclose := closeTag_cons (c := ⟨sink, endTag :: endTags, context, lastId, config, warnings⟩) rfl
    rw [hsucc, List.replicate_succ]
    constructor
    · rw [resultsOfEach, hclose, hresults]
      rfl
    · rw [afterEach, List.foldl_cons, hclose]
      rw [String.append_assoc, ← String.join_cons] at hafter
      exact hafter

theorem unwinds (c : Canvas String) : c.Unwinds where
  results n := (each_closeTag c n).1
  after n := (each_closeTag c n).2
  balanced := by
    have hafter := (each_closeTag c 0).2
    rw [Nat.add_zero] at hafter
    rw [hafter]
    rfl

section

variable {outer : List String}

/-- Around elements that are already open an operation does the same, unless it closes one of them. -/
theorem perform_around (hhandler : d.config.handler = c.config.handler)
    (htags : d.openTags = c.openTags ++ outer) {operation : Operation}
    (h : ¬ operation.Underflows c.openTags) :
    (d.perform operation).2 = (c.perform operation).2 ∧
      (d.perform operation).1.openTags = (c.perform operation).1.openTags ++ outer ∧
      ∃ text, (c.perform operation).1.sink = c.sink ++ text ∧
        (d.perform operation).1.sink = d.sink ++ text := by
  rw [perform_text, perform_text, hhandler, htags, Operation.emission_append h, Operation.leaves_append h]
  exact ⟨rfl, rfl, _, rfl, rfl⟩

/-- **Operations that all succeed** do the same around elements that are already open. -/
theorem each_around (hhandler : d.config.handler = c.config.handler)
    (htags : d.openTags = c.openTags ++ outer) (operations : List Operation) (h : c.AllSucceed operations) :
    d.AllSucceed operations ∧ (d.afterEach operations).openTags = (c.afterEach operations).openTags ++ outer ∧
      ∃ text, (c.afterEach operations).sink = c.sink ++ text ∧
        (d.afterEach operations).sink = d.sink ++ text := by
  induction operations generalizing c d with
  | nil =>
    have hempty : ∀ s : String, s = s ++ "" := fun _ => String.append_empty.symm
    exact ⟨fun r hr => absurd hr List.not_mem_nil, htags, "", hempty _, hempty _⟩
  | cons operation operations ih =>
    have hok : (c.perform operation).2 = .ok () := h _ List.mem_cons_self
    have hunder : ¬ operation.Underflows c.openTags := by
      intro hunder
      rw [perform_of_underflows hunder] at hok
      cases hok
    obtain ⟨hresult, htags', text, hsink, hsink'⟩ := perform_around hhandler htags hunder
    have hhandler' : (d.perform operation).1.config.handler = (c.perform operation).1.config.handler := by
      rw [(perform_keeps operation d).config, (perform_keeps operation c).config, hhandler]
    obtain ⟨hall, hopen, text', hrest, hrest'⟩ :=
      ih hhandler' htags' fun r hr => h r (List.mem_cons_of_mem _ hr)
    refine ⟨fun r hr => ?_, hopen, text ++ text', ?_, ?_⟩
    · rcases List.mem_cons.mp hr with rfl | hr
      · rw [hresult, hok]
      · exact hall r hr
    · rw [← String.append_assoc, ← hsink]
      exact hrest
    · rw [← String.append_assoc, ← hsink']
      exact hrest'

end

end Canvas

/-- **Closing follows nesting.** Perform any operations on a text, whatever comes of each. At the point that is
reached, closing writes the end tag of the latest opening of the whole run that has not been closed, an
expected end tag is accepted exactly if it is that one, and as many elements are open as were opened and not
closed. Closing all of them writes what is pending, in order, and then there is nothing left to close. And
operations that have all succeeded where nothing was open, and leave nothing open, do so around any open
elements: they all succeed, write the same text and leave these elements open. -/
theorem brackets_match (c : Canvas String) (operations : List Operation) :
    let here := c.afterEach operations
    here.ClosesBy (Bracket.ofStack c.openTags ++ c.brackets operations) ∧ here.Unwinds ∧
      (c.openTags = [] → c.AllSucceed operations → here.openTags = [] →
        ∀ d : Canvas String, d.config.handler = c.config.handler →
          d.AllSucceed operations ∧ (d.afterEach operations).openTags = d.openTags ∧
            ∃ text, here.sink = c.sink ++ text ∧ (d.afterEach operations).sink = d.sink ++ text) := by
  intro here
  have hawaits := Canvas.awaits_each operations (Awaits.ofStack c.openTags)
  refine ⟨Canvas.closesBy_of_awaits hawaits, here.unwinds, fun hempty hall hclosed d hhandler => ?_⟩
  have htags : d.openTags = c.openTags ++ d.openTags := by
    rw [hempty]
    rfl
  obtain ⟨hall', hopen, htext⟩ := Canvas.each_around hhandler htags operations hall
  rw [hclosed] at hopen
  exact ⟨hall', hopen, htext⟩

/-- A paragraph around a block with an empty end tag, written within a division. -/
theorem brackets_match_within_division :
    let operations : List Operation :=
      [.openTag "p" none, .rawBlock "<![" "x" "", .voidTag "br" none, .closeExpecting "", .closeTag]
    let c : Canvas String := { sink := "" }
    let d : Canvas String := { sink := "<div>", openTags := ["</div>"] }
    (c.openTags = [] ∧ c.AllSucceed operations ∧ (c.afterEach operations).openTags = [] ∧
        d.config.handler = c.config.handler) ∧
      d.AllSucceed operations ∧ (d.afterEach operations).openTags = ["</div>"] := by
  intro operations c d
  have hall : c.AllSucceed operations := by
    unfold Canvas.AllSucceed
    decide +kernel
  have hclosed : (c.afterEach operations).openTags = [] := by decide +kernel
  obtain ⟨-, -, haround⟩ := brackets_match c operations
  obtain ⟨hall', hopen, -⟩ := haround rfl hall hclosed d rfl
  exact ⟨⟨rfl, hall, hclosed, rfl⟩, hall', hopen⟩

end Hypertext
