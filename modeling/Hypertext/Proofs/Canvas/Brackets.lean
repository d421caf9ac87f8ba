import Mathlib.Data.List.Infix

/-!
# Matching brackets

A run opens and closes elements. Its `Bracket`s in order are a word, in which every closing belongs to the
latest opening that has not been closed.

* `Balanced`: everything that the word opens it closes, and nothing else.
* `Unclosed`: the latest opening that has not been closed, that is, one with a balanced word behind it.
* `Awaits`: a word with the end tags that it still has to be closed with, as a stack. `Awaits.opening` and
  `Awaits.closing` are what pushing and popping do to it.
* `Awaits.unclosed_iff`: the top of the stack is the end tag of the latest unclosed opening.
-/

namespace Hypertext

/-- The beginning of an element, to be closed with this end tag, or the end of one. -/
inductive Bracket where
  | opening (endTag : String)
  | closing
deriving DecidableEq, Repr

namespace Bracket

/-- Whether something is opened. -/
def isOpening : Bracket → Bool
  | .opening _ => true
  | .closing => false

/-- The number of openings. -/
def openings (word : List Bracket) : Nat :=
  word.countP isOpening

/-- The number of closings. -/
def closings (word : List Bracket) : Nat :=
  word.countP fun b => !b.isOpening

/-- Everything that is opened is closed, and nothing else. -/
inductive Balanced : List Bracket → Prop where
  | nil : Balanced []
  | enclose (endTag : String) {inner rest : List Bracket} (hinner : Balanced inner)
      (hrest : Balanced rest) : Balanced (.opening endTag :: (inner ++ .closing :: rest))

/-- The latest opening that has not been closed has this end tag: all that was opened after it has been
closed. -/
def Unclosed (word : List Bracket) (endTag : String) : Prop :=
  ∃ earlier later, word = earlier ++ .opening endTag :: later ∧ Balanced later

/-- The word of the openings that are still to be closed with these end tags, innermost first. -/
def ofStack (endTags : List String) : List Bracket :=
  endTags.reverse.map .opening

/-- After the word these end tags remain, innermost first. -/
inductive Awaits : List Bracket → List String → Prop where
  | nothing {word : List Bracket} (h : Balanced word) : Awaits word []
  | opened {earlier later : List Bracket} {endTags : List String} (endTag : String)
      (h : Awaits earlier endTags) (hlater : Balanced later) :
      Awaits (earlier ++ .opening endTag :: later) (endTag :: endTags)

variable {word word' later : List Bracket} {endTag : String} {endTags : List String}

theorem openings_append (word word' : List Bracket) :
    openings (word ++ word') = openings word + openings word' :=
  List.countP_append

theorem closings_append (word word' : List Bracket) :
    closings (word ++ word') = closings word + closings word' :=
  List.countP_append

theorem openings_opening (endTag : String) (word : List Bracket) :
    openings (.opening endTag :: word) = openings word + 1 :=
  List.countP_cons_of_pos rfl

theorem openings_closing (word : List Bracket) : openings (.closing :: word) = openings word :=
  List.countP_cons_of_neg Bool.false_ne_true

theorem closings_opening (endTag : String) (word : List Bracket) :
    closings (.opening endTag :: word) = closings word :=
  List.countP_cons_of_neg Bool.false_ne_true

theorem closings_closing (word : List Bracket) : closings (.closing :: word) = closings word + 1 :=
  List.countP_cons_of_pos rfl

theorem Balanced.append (h : Balanced word) (h' : Balanced word') : Balanced (word ++ word') := by
  induction h with
  | nil => exact h'
  | enclose endTag hinner _ _ ih =>
    have hwhole := Balanced.enclose endTag hinner ih
    simpa only [List.cons_append, List.append_assoc] using hwhole

theorem Balanced.openings_eq (h : Balanced word) : openings word = closings word := by
  induction h with
  | nil => rfl
  | enclose endTag _ _ ih ih' =>
    rw [openings_opening, closings_opening, openings_append, closings_append, openings_closing,
      closings_closing, ih, ih']
    omega

/-- The end of a balanced word has no more openings than closings. -/
theorem Balanced.openings_le (h : Balanced word) {ending : List Bracket} (hending : ending <:+ word) :
    openings ending ≤ closings ending := by
  induction h generalizing ending with
  | nil =>
    rw [List.suffix_nil.mp hending]
    exact le_rfl
  | enclose endTag hinner hrest ih ih' =>
    have hwhole := (Balanced.enclose endTag hinner hrest).openings_eq
    rcases List.suffix_cons_iff.mp hending with rfl | hending
    · exact hwhole.le
    -- the ending begins behind the enclosed word, or with its closing, or within it
    rcases List.suffix_or_suffix_of_suffix hending (List.suffix_append _ _) with hshort | ⟨part, rfl⟩
    · rcases List.suffix_cons_iff.mp hshort with rfl | hshort
      · rw [openings_closing, closings_closing, hrest.openings_eq]
        omega
      · exact ih' hshort
    · have hpart := ih (List.suffix_append_self_iff.mp hending)
      rw [openings_append, closings_append, openings_closing, closings_closing, hrest.openings_eq]
      omega

/-- In a balanced word nothing is unclosed. -/
theorem Balanced.not_opening_suffix (h : Balanced word) (hlater : Balanced later) :
    ¬ (.opening endTag :: later) <:+ word := by
  intro hending
  have hle := h.openings_le hending
  rw [openings_opening, closings_opening, hlater.openings_eq] at hle
  omega

theorem Unclosed.suffix (h : Unclosed word endTag) :
    ∃ later, (.opening endTag :: later) <:+ word ∧ Balanced later := by
  obtain ⟨earlier, later, rfl, hlater⟩ := h
  exact ⟨later, List.suffix_append _ _, hlater⟩

namespace Awaits

/-- What is balanced changes nothing. -/
theorem append_balanced (h : Awaits word endTags) (hlater : Balanced later) :
    Awaits (word ++ later) endTags := by
  cases h with
  | nothing h => exact nothing (h.append hlater)
  | opened endTag h hbetween =>
    rw [List.append_assoc, List.cons_append]
    exact opened endTag h (hbetween.append hlater)

/-- An opening is to be closed first. -/
theorem opening (h : Awaits word endTags) (endTag : String) :
    Awaits (word ++ [.opening endTag]) (endTag :: endTags) :=
  opened endTag h .nil

/-- A closing takes away the end tag that was to be closed first. -/
theorem closing (h : Awaits word (endTag :: endTags)) : Awaits (word ++ [.closing]) endTags := by
  cases h with
  | @opened earlier later _ _ h hlater =>
    have hpair : Balanced (.opening endTag :: (later ++ [.closing])) := .enclose endTag hlater .nil
    rw [List.append_assoc, List.cons_append]
    exact h.append_balanced hpair

/-- Each opening that has not been closed awaits an end tag. -/
theorem openings_eq (h : Awaits word endTags) : openings word = closings word + endTags.length := by
  induction h with
  | nothing h => exact h.openings_eq
  | opened endTag _ hlater ih =>
    rw [openings_append, closings_append, openings_opening, closings_opening, ih, hlater.openings_eq,
      List.length_cons]
    omega

/-- **The end tag that is awaited first** is that of the latest opening that has not been closed. -/
theorem unclosed_iff (h : Awaits word endTags) : Unclosed word endTag ↔ endTags.head? = some endTag := by
  constructor
  · intro hunclosed
    obtain ⟨later, hsuffix, hlater⟩ := hunclosed.suffix
    cases h with
    | nothing h => exact absurd hsuffix (h.not_opening_suffix hlater)
    | @opened earlier later' _ endTag' _ hlater' =>
      -- of two latest unclosed openings neither can stand behind the other
      have hsuffix' : (.opening endTag' :: later') <:+ (earlier ++ .opening endTag' :: later') :=
        List.suffix_append _ _
      rcases List.suffix_or_suffix_of_suffix hsuffix hsuffix' with hle | hle
      · rcases List.suffix_cons_iff.mp hle with heq | hle
        · injection heq with hopening
          injection hopening with htag
          rw [htag, List.head?_cons]
        · exact absurd hle (hlater'.not_opening_suffix hlater)
      · rcases List.suffix_cons_iff.mp hle with heq | hle
        · injection heq with hopening
          injection hopening with htag
          rw [htag, List.head?_cons]
        · exact absurd hle (hlater.not_opening_suffix hlater')
  · intro hhead
    cases h with
    | nothing => cases hhead
    | @opened earlier later _ endTag' _ hlater =>
      rw [List.head?_cons, Option.some_inj] at hhead
      rw [hhead]
      exact ⟨earlier, later, rfl, hlater⟩

theorem ofStack (endTags : List String) : Awaits (ofStack endTags) endTags := by
  induction endTags with
  | nil => exact nothing .nil
  | cons endTag endTags ih =>
    have hword : Bracket.ofStack (endTag :: endTags) = Bracket.ofStack endTags ++ [.opening endTag] := by
      unfold Bracket.ofStack
      rw [List.reverse_cons, List.map_append, List.map_singleton]
    rw [hword]
    exact ih.opening endTag

end Awaits

end Bracket

end Hypertext
