import Hypertext.Warning
import Mathlib.Data.Finset.Card
import Mathlib.Data.List.DropRight

/-!
# Warnings between two clears

Clearing the record ends a period. Within a period every text is recorded once and printed once, however often
it is warned of.

* `Call`: a call of one of the four operations. `afterCalls`: the record after a run of calls.
* `sinceClear`, `warnedSinceClear`: the calls of the period that is going on, and the texts they warn of.
* `linesOf`: what a run prints, told from the calls alone.
* `Holds`: the record holds exactly these texts. `holds_afterCalls`: after a run it holds those of its period.
* `once_between_clears`: what is counted, found and printed after every run.
-/

namespace Hypertext.Warnings

/-- A call of an operation on the record. -/
inductive Call where
  | warn (component message : String)
  | has (component message : String)
  | count
  | clear
deriving DecidableEq

namespace Call

/-- The text that a call warns of, if it warns. -/
def text? : Call → Option String
  | .warn component message => some (text component message)
  | _ => none

/-- What a call makes of the record. Asking changes nothing. -/
def effect : Call → Warnings → Warnings
  | .warn component message, w => w.warn component message
  | .clear, w => w.clear
  | .has _ _, w => w
  | .count, w => w

end Call

/-- The record after calls in a row. -/
def afterCalls (calls : List Call) (w : Warnings) : Warnings :=
  calls.foldl (fun w call => call.effect w) w

/-- The calls since the last clear, or all of them. -/
def sinceClear (calls : List Call) : List Call :=
  calls.rtakeWhile fun call => call ≠ .clear

/-- The texts warned of since the last clear, as often as they were. -/
def warnedSinceClear (calls : List Call) : List String :=
  (sinceClear calls).filterMap Call.text?

/-- The line that a call prints after others: that of a warning whose text is new in its period. -/
def Call.line? (before : List Call) : Call → Option String
  | .warn component message =>
    if text component message ∈ warnedSinceClear before then none else some (line component message)
  | _ => none

/-- The lines that calls print after others. -/
def linesOf : List Call → List Call → List String
  | _, [] => []
  | before, call :: calls => (call.line? before).toList ++ linesOf (before ++ [call]) calls

section

variable (calls : List Call)

theorem afterCalls_concat (call : Call) (w : Warnings) :
    afterCalls (calls ++ [call]) w = call.effect (afterCalls calls w) :=
  List.foldl_concat (fun w (call : Call) => call.effect w) w call calls

theorem warnedSinceClear_clear : warnedSinceClear (calls ++ [.clear]) = [] := by
  have hnone : sinceClear (calls ++ [.clear]) = [] := List.rtakeWhile_concat_neg _ _ _ (by simp)
  rw [warnedSinceClear, hnone]
  rfl

/-- Any other call goes on with the period. -/
theorem warnedSinceClear_concat {call : Call} (h : call ≠ .clear) :
    warnedSinceClear (calls ++ [call]) = warnedSinceClear calls ++ call.text?.toList := by
  have hmore : sinceClear (calls ++ [call]) = sinceClear calls ++ [call] :=
    List.rtakeWhile_concat_pos _ _ _ (decide_eq_true h)
  rw [warnedSinceClear, hmore, List.filterMap_append]
  cases htext : call.text? <;> simp [warnedSinceClear, htext]

end

/-- The record holds exactly these texts, each of them once. -/
structure Holds (w : Warnings) (texts : List String) : Prop where
  nodup : w.recorded.Nodup
  mem : ∀ t, t ∈ w.recorded ↔ t ∈ texts

namespace Holds

variable {w : Warnings} {texts : List String}

theorem has_iff (h : Holds w texts) (component message : String) :
    w.has component message = true ↔ text component message ∈ texts := by
  rw [← h.mem]
  exact List.contains_iff_mem

/-- The record counts every text once. -/
theorem count_eq (h : Holds w texts) : w.count = texts.toFinset.card := by
  have hsame : w.recorded.toFinset = texts.toFinset := by
    ext t
    rw [List.mem_toFinset, List.mem_toFinset, h.mem]
  rw [← hsame, List.toFinset_card_of_nodup h.nodup]
  rfl

/-- What is warned of is held afterwards, and no text is held twice. -/
theorem warn (h : Holds w texts) (component message : String) :
    Holds (w.warn component message) (texts ++ [text component message]) := by
  by_cases hold : text component message ∈ texts
  · rw [warn_of_has ((h.has_iff _ _).mpr hold)]
    refine ⟨h.nodup, fun t => ?_⟩
    rw [h.mem, List.mem_append, List.mem_singleton]
    constructor
    · exact Or.inl
    · rintro (ht | rfl)
      · exact ht
      · exact hold
  · have hnew : ¬ w.has component message = true := fun hhas => hold ((h.has_iff _ _).mp hhas)
    have hrecorded : (w.warn component message).recorded = w.recorded ++ [text component message] := by
      rw [Warnings.warn, if_neg hnew]
    refine ⟨?_, fun t => ?_⟩
    · rw [hrecorded, ← List.concat_eq_append]
      exact h.nodup.concat fun hmem => hold ((h.mem _).mp hmem)
    · rw [hrecorded, List.mem_append, List.mem_append, h.mem]

end Holds

/-- **After a run** the record holds the texts warned of since the last clear. -/
theorem holds_afterCalls (calls : List Call) : Holds (afterCalls calls {}) (warnedSinceClear calls) := by
  induction calls using List.reverseRecOn with
  | nil => exact ⟨List.nodup_nil, fun _ => Iff.rfl⟩
  | append_singleton calls call ih =>
    rw [afterCalls_concat]
    cases call with
    | warn component message =>
      rw [warnedSinceClear_concat calls (by simp)]
      exact ih.warn component message
    | has | count =>
      rw [warnedSinceClear_concat calls (by simp)]
      simpa [Call.text?, Call.effect] using ih
    | clear =>
      rw [warnedSinceClear_clear]
      exact ⟨List.nodup_nil, fun _ => Iff.rfl⟩

/-- What a warning prints after a run. -/
theorem printed_warn (calls : List Call) (component message : String) :
    ((afterCalls calls {}).warn component message).printed =
      (afterCalls calls {}).printed ++ ((Call.warn component message).line? calls).toList := by
  have hiff := (holds_afterCalls calls).has_iff component message
  unfold Call.line?
  dsimp only
  by_cases hold : text component message ∈ warnedSinceClear calls
  · rw [if_pos hold, warn_of_has (hiff.mpr hold)]
    exact (List.append_nil _).symm
  · rw [if_neg hold, Warnings.warn, if_neg fun hhas => hold (hiff.mp hhas)]
    rfl

/-- Each call after a run prints the line that its history calls for. -/
theorem printed_effect (calls : List Call) (call : Call) :
    (call.effect (afterCalls calls {})).printed =
      (afterCalls calls {}).printed ++ (call.line? calls).toList := by
  cases call with
  | warn component message => exact printed_warn calls component message
  | has | count | clear => exact (List.append_nil _).symm

/-- The lines printed after some calls by more of them. -/
theorem printed_append (before calls : List Call) :
    (afterCalls (before ++ calls) {}).printed = (afterCalls before {}).printed ++ linesOf before calls := by
  induction calls generalizing before with
  | nil =>
    rw [List.append_nil]
    exact (List.append_nil _).symm
  | cons call calls ih =>
    have hsplit : before ++ call :: calls = before ++ [call] ++ calls := by simp
    rw [hsplit, ih, afterCalls_concat, printed_effect, List.append_assoc]
    rfl

/-- **Between two clears every warning is recorded and printed once.** After any run of calls from the empty
record, the count is the number of different texts warned of since the last clear, and the record finds exactly
these. The lines printed by the whole run are those of the warnings whose text was new in their period. A
further warning prints its line if its text is new in the period; if not, it prints nothing and leaves the
record as it is. So the count only depends on which texts were warned of in the period, and neither on the
order of the calls nor on how often they were made. -/
theorem once_between_clears (calls : List Call) :
    let w := afterCalls calls {}
    let texts := warnedSinceClear calls
    w.count = texts.toFinset.card ∧
      (∀ component message, w.has component message = true ↔ text component message ∈ texts) ∧
      w.printed = linesOf [] calls ∧
      (∀ component message, text component message ∉ texts →
        (w.warn component message).printed = w.printed ++ [line component message] ∧
          (w.warn component message).count = w.count + 1) ∧
      (∀ component message, text component message ∈ texts → w.warn component message = w) ∧
      ∀ calls', (∀ t, t ∈ warnedSinceClear calls' ↔ t ∈ texts) → (afterCalls calls' {}).count = w.count := by
  intro w texts
  have hholds : Holds w texts := holds_afterCalls calls
  refine ⟨hholds.count_eq, hholds.has_iff, ?_, fun component message hnew => ?_,
    fun component message hold => warn_of_has ((hholds.has_iff _ _).mpr hold), fun calls' hsame => ?_⟩
  · have hall := printed_append [] calls
    rwa [List.nil_append] at hall
  · have hline : (Call.warn component message).line? calls = some (line component message) := if_neg hnew
    have hnot : ¬ w.has component message = true := fun hhas => hnew ((hholds.has_iff _ _).mp hhas)
    have hprinted := printed_warn calls component message
    rw [hline] at hprinted
    rw [count_warn, if_neg hnot]
    exact ⟨hprinted, rfl⟩
  · have htexts : (warnedSinceClear calls').toFinset = texts.toFinset := by
      ext t
      rw [List.mem_toFinset, List.mem_toFinset, hsame]
    rw [(holds_afterCalls calls').count_eq, htexts, hholds.count_eq]

/-- A text that was warned of before a clear and twice after it, the second time as another component and
message, and the same period in another order. -/
theorem once_between_clears_shared_text :
    let calls : List Call := [.warn "A" "b] c", .clear, .warn "A] b" "c", .has "A" "x", .warn "A" "b] c", .warn "A" "x"]
    let calls' : List Call := [.warn "A" "x", .count, .warn "A" "b] c"]
    ((∀ t, t ∈ warnedSinceClear calls' ↔ t ∈ warnedSinceClear calls) ∧
        text "B" "x" ∉ warnedSinceClear calls ∧ text "A" "x" ∈ warnedSinceClear calls) ∧
      (afterCalls calls {}).printed = [line "A" "b] c", line "A] b" "c", line "A" "x"] ∧
      (afterCalls calls' {}).count = (afterCalls calls {}).count ∧
      ((afterCalls calls {}).warn "B" "x").count = (afterCalls calls {}).count + 1 ∧
      (afterCalls calls {}).warn "A" "x" = afterCalls calls {} := by
  intro calls calls'
  have htexts : warnedSinceClear calls = ["[A] b] c", "[A] b] c", "[A] x"] := by decide +kernel
  have htexts' : warnedSinceClear calls' = ["[A] x", "[A] b] c"] := by decide +kernel
  have hlines : linesOf [] calls = [line "A" "b] c", line "A] b" "c", line "A" "x"] := by decide +kernel
  have hsame : ∀ t, t ∈ warnedSinceClear calls' ↔ t ∈ warnedSinceClear calls := by
    intro t
    rw [htexts, htexts']
    simp only [List.mem_cons, List.not_mem_nil, or_false]
    tauto
  have hnew : text "B" "x" ∉ warnedSinceClear calls := by decide +kernel
  have hold : text "A" "x" ∈ warnedSinceClear calls := by decide +kernel
  obtain ⟨-, -, hprinted, hfresh, hagain, horder⟩ := once_between_clears calls
  exact ⟨⟨hsame, hnew, hold⟩, hprinted.trans hlines, horder calls' hsame, (hfresh "B" "x" hnew).2, hagain "A" "x" hold⟩

end Hypertext.Warnings
