import Hypertext.Proofs.Canvas.Operations
import Hypertext.Proofs.Program.Requests

/-!
# Skipping a region that can be written

A region that is skipped only counts what it would have opened and closed. If it can be written, that is
enough to go through it in the same way.

* `Region.Tidy`: what a region must not do to the elements that were open before it.
* `Entry.allSucceed`: whether every step of a log succeeded.
* `Entry.Mirrors`: the log of a region that is written and the log of it skipped, step by step with the same
  results, and with depths that differ by the number of elements that were open before.
* `skipped_perform`, `skipped_performAll`: one operation, and operations in a row.
* `skip_mirrors_pass`: a tidy region that succeeds when written succeeds when skipped.
-/

namespace Hypertext

/-- After the act at least so many elements are open. -/
def Act.StaysAbove (floor : Nat) : Act → Prop
  | .wrote _ _ openTags => floor ≤ openTags.length
  | _ => True

instance (floor : Nat) (act : Act) : Decidable (act.StaysAbove floor) :=
  match act with
  | .wrote _ _ openTags => inferInstanceAs (Decidable (floor ≤ openTags.length))
  | .flushed _ => isTrue trivial
  | .issued _ => isTrue trivial
  | .bound _ _ => isTrue trivial
  | .fragment _ => isTrue trivial

/-- Written from here, the region closes by its own steps no element that was open where it began, when
`floor` elements were. A component leaves the open elements as they were, and a region inside, if it is
written, closes what it opens and no element that was open before it. -/
def Region.Tidy (world : World) {σ : Type} [Sink σ] (floor : Nat) : Region → Canvas σ → Prop
  | .leave _ _, _ => True
  | .write operations next, c =>
    (∀ act ∈ c.acts operations, act.StaysAbove floor) ∧
      (next (c.performAll operations).2).Tidy world floor (c.performAll operations).1
  | .render component next, c =>
    let inner := component.run world c.enterFrame
    inner.canvas.openTags = c.openTags ∧ (next inner.result).Tidy world floor inner.canvas.leaveFrame
  | .conditional true body next, c =>
    let inner := body.pass world c
    body.Tidy world c.depth c ∧ inner.canvas.depth = c.depth ∧
      (next ⟨inner.ending.result 0, inner.kept⟩).Tidy world floor inner.canvas
  | .conditional false body next, c =>
    let inner := body.skip 0
    (next ⟨inner.ending.result inner.depth, inner.kept⟩).Tidy world floor c

/-- Whether nothing has failed. -/
def Remark.succeeds : Remark → Bool
  | .result (.ok ()) => true
  | .dropped => true
  | _ => false

namespace Entry

mutual

/-- Whether a step of a region has succeeded, and every step inside if it is a region. -/
def succeeds : Entry → Bool
  | .mk remark _ _ none _ => remark.succeeds
  | .mk remark _ _ (some _) inner => remark.succeeds && innerSucceed inner

/-- Whether every step of an inner log has succeeded. -/
def innerSucceed : Option (List Entry) → Bool
  | none => true
  | some log => allSucceed log

/-- Whether every step of a log has succeeded. -/
def allSucceed : List Entry → Bool
  | [] => true
  | entry :: log => entry.succeeds && allSucceed log

end

/-- The second log says of the region skipped what the first says of it written, where `base` elements were
open before: every step succeeded, and left as many elements more open than there were before. A region
inside that is written counts from where it begins; one that is skipped is skipped in both. -/
inductive Mirrors : Nat → List Entry → List Entry → Prop where
  | nil {base : Nat} : Mirrors base [] []
  | step {base depth : Nat} {received : Option (List UInt8)} {inner inner' : Option (List Entry)}
      {shown hidden : List Entry} (h : Mirrors base shown hidden) :
      Mirrors base (.mk (.result (.ok ())) (base + depth) received none inner :: shown)
        (.mk (.result (.ok ())) depth none none inner' :: hidden)
  | written {base depth : Nat} {remark : Remark} {received : Option (List UInt8)}
      {inner inner' shown hidden : List Entry} (hremark : remark.succeeds = true)
      (hinner : Mirrors (base + depth) inner inner') (h : Mirrors base shown hidden) :
      Mirrors base (.mk remark (base + depth) received (some false) (some inner) :: shown)
        (.mk remark depth none (some true) (some inner') :: hidden)
  | skipped {base depth : Nat} {remark : Remark} {received : Option (List UInt8)}
      {inner shown hidden : List Entry} (hremark : remark.succeeds = true) (hinner : allSucceed inner = true)
      (h : Mirrors base shown hidden) :
      Mirrors base (.mk remark (base + depth) received (some true) (some inner) :: shown)
        (.mk remark depth none (some true) (some inner) :: hidden)

theorem allSucceed_step {r : Except CanvasError Unit} {depth : Nat} {received : Option (List UInt8)}
    {inner : Option (List Entry)} {log : List Entry}
    (h : allSucceed (.mk (.result r) depth received none inner :: log) = true) :
    r = .ok () ∧ allSucceed log = true := by
  obtain ⟨hstep, hlog⟩ := Bool.and_eq_true_iff.mp h
  cases r with
  | ok u => exact ⟨rfl, hlog⟩
  | error e => cases hstep

theorem allSucceed_region {remark : Remark} {depth : Nat} {received : Option (List UInt8)}
    {skipping : Bool} {inner log : List Entry}
    (h : allSucceed (.mk remark depth received (some skipping) (some inner) :: log) = true) :
    remark.succeeds = true ∧ allSucceed inner = true ∧ allSucceed log = true := by
  obtain ⟨hregion, hlog⟩ := Bool.and_eq_true_iff.mp h
  obtain ⟨hremark, hinner⟩ := Bool.and_eq_true_iff.mp hregion
  exact ⟨hremark, hinner, hlog⟩

/-- What mirrors a region that is written succeeds. -/
theorem Mirrors.allSucceed {base : Nat} {shown hidden : List Entry} (h : Mirrors base shown hidden) :
    Entry.allSucceed hidden = true := by
  induction h with
  | nil => rfl
  | step _ ih => exact ih
  | written hremark _ _ ih ih' =>
    exact Bool.and_eq_true_iff.mpr ⟨Bool.and_eq_true_iff.mpr ⟨hremark, ih⟩, ih'⟩
  | skipped hremark hinner _ ih =>
    exact Bool.and_eq_true_iff.mpr ⟨Bool.and_eq_true_iff.mpr ⟨hremark, hinner⟩, ih⟩

end Entry

section

variable {σ : Type} [Sink σ] {c : Canvas σ} {floor depth : Nat}

/-- An operation that opens a tag and succeeds has a name for it. -/
theorem name_ne_empty {operation : Operation} {name : String} {attributes : Option Carrier}
    (h : operation = .openTag name attributes ∨ operation = .voidTag name attributes)
    (hok : (c.perform operation).2 = .ok ()) : name ≠ "" := by
  rintro rfl
  rw [Canvas.perform_result] at hok
  rcases h with rfl | rfl <;> cases hok

/-- An element that has been closed above the floor would have been opened in the region. -/
theorem skipped_closing (hdepth : floor + depth = c.depth) (hok : (c.perform .closeTag).2 = .ok ())
    (habove : floor ≤ (c.perform .closeTag).1.depth) :
    ∃ depth', Skipped.closing depth = (depth', .ok ()) ∧ floor + depth' = (c.perform .closeTag).1.depth := by
  have hopen : c.openTags ≠ [] := by
    intro hnil
    have hunder : Operation.closeTag.Underflows c.openTags := hnil
    rw [Canvas.perform_of_underflows hunder] at hok
    cases hok
  have hless : (c.perform .closeTag).1.depth + 1 = c.depth := by
    have htail : (c.perform .closeTag).1.openTags = c.openTags.tail := Canvas.perform_openTags _ c
    have hlength := List.length_pos_iff.mpr hopen
    unfold Canvas.depth
    rw [htail, List.length_tail]
    omega
  obtain ⟨depth', rfl⟩ : ∃ depth', depth = depth' + 1 := ⟨depth - 1, by omega⟩
  exact ⟨depth', rfl, by omega⟩

/-- **One operation**: if it succeeds where it is written and does not close below the floor, it succeeds
where it is skipped, and the depths stay in step. -/
theorem skipped_perform (operation : Operation) (hdepth : floor + depth = c.depth)
    (hok : (c.perform operation).2 = .ok ()) (habove : floor ≤ (c.perform operation).1.depth) :
    ∃ depth', Skipped.perform operation depth = (depth', .ok ()) ∧
      floor + depth' = (c.perform operation).1.depth := by
  have hopen := Canvas.perform_openTags operation c
  rw [hok] at hopen
  cases operation with
  | openTag name attributes =>
    have hname : name ≠ "" := name_ne_empty (.inl rfl) hok
    refine ⟨depth + 1, if_neg hname, ?_⟩
    unfold Canvas.depth at hdepth ⊢
    rw [hopen, ← Nat.add_assoc, hdepth]
    rfl
  | voidTag name attributes =>
    have hname : name ≠ "" := name_ne_empty (.inr rfl) hok
    have hskip : Skipped.perform (.voidTag name attributes) = Attempt.succeed := if_neg hname
    refine ⟨depth, congrFun hskip depth, ?_⟩
    unfold Canvas.depth at hdepth ⊢
    rw [hopen]
    exact hdepth
  | closeTag => exact skipped_closing hdepth hok habove
  | closeExpecting expected =>
    have hcases : c.perform (.closeExpecting expected) = c.perform .closeTag ∨
        ∃ e, c.perform (.closeExpecting expected) = (c, .error e) := Canvas.closeExpecting_cases expected c
    rcases hcases with hclose | ⟨e, hfail⟩
    · rw [hclose] at hok habove ⊢
      exact skipped_closing hdepth hok habove
    · rw [hfail] at hok
      cases hok
  | rawBlock opening content closing =>
    refine ⟨depth + 1, rfl, ?_⟩
    unfold Canvas.depth at hdepth ⊢
    rw [hopen, ← Nat.add_assoc, hdepth]
    rfl
  | text | char =>
    refine ⟨depth, rfl, ?_⟩
    unfold Canvas.depth at hdepth ⊢
    rw [hopen]
    exact hdepth

/-- **Operations in a row** that succeed where they are written succeed where they are skipped. -/
theorem skipped_performAll (operations : List Operation) (hdepth : floor + depth = c.depth)
    (hok : (c.performAll operations).2 = .ok ()) (habove : ∀ act ∈ c.acts operations, act.StaysAbove floor) :
    ∃ depth', Skipped.performAll operations depth = (depth', .ok ()) ∧
      floor + depth' = (c.performAll operations).1.depth := by
  induction operations generalizing c depth with
  | nil => exact ⟨depth, rfl, hdepth⟩
  | cons operation operations ih =>
    have hskip : Skipped.performAll (operation :: operations) depth =
      ((Skipped.perform operation).andThen (Skipped.performAll operations)) depth := rfl
    cases hr : (c.perform operation).2 with
    | ok u =>
      obtain ⟨hall, hacts⟩ := performAll_cons_ok c operations hr
      rw [hall] at hok ⊢
      rw [hacts] at habove
      obtain ⟨depth', hskipped, hdepth'⟩ := skipped_perform operation hdepth hr (habove _ List.mem_cons_self)
      rw [hskip, Attempt.andThen, hskipped]
      exact ih hdepth' hok fun act hact => habove act (List.mem_cons_of_mem _ hact)
    | error e =>
      rw [(performAll_cons_error c operations hr).1, hr] at hok
      cases hok

end

theorem skip_write (operations : List Operation) (next : Except CanvasError Unit → Region) (depth : Nat) :
    (Region.write operations next).skip depth =
      ((next (Skipped.performAll operations depth).2).skip (Skipped.performAll operations depth).1).after
        (.mk (.result (Skipped.performAll operations depth).2) (Skipped.performAll operations depth).1
          none none none) := rfl

theorem skip_render (component : Program) (next : Except CanvasError Unit → Region) (depth : Nat) :
    (Region.render component next).skip depth =
      ((next (.ok ())).skip depth).after (.mk (.result (.ok ())) depth none none (some [])) := rfl

theorem skip_region (condition : Bool) (body : Region) (next : Outcome → Region) (depth : Nat) :
    (Region.conditional condition body next).skip depth =
      ((next ⟨(body.skip 0).ending.result (body.skip 0).depth, (body.skip 0).kept⟩).skip depth).after
        (.mk ((body.skip 0).ending.remark (body.skip 0).depth) depth none (some true)
          (some (body.skip 0).log)) := rfl

/-- What the region leaves when it is skipped is what it leaves when it is written, but for the elements that
were open before. -/
structure Region.Skip.Matches {σ : Type} (hidden : Region.Skip) (base : Nat) (shown : Region.Run σ) :
    Prop where
  log : Entry.Mirrors base shown.log hidden.log
  depth : base + hidden.depth = shown.canvas.depth
  ending : hidden.ending = shown.ending
  kept : hidden.kept = shown.kept

/-- **A tidy region that succeeds when it is written** is gone through in the same way when it is skipped. -/
theorem Region.skip_matches (world : World) {σ : Type} [Sink σ] (region : Region) (c : Canvas σ)
    {base depth : Nat} (hdepth : base + depth = c.depth) (hall : Entry.allSucceed (region.pass world c).log = true)
    (htidy : region.Tidy world base c) : (region.skip depth).Matches base (region.pass world c) := by
  cases region with
  | leave ending kept => exact ⟨.nil, hdepth, rfl, rfl⟩
  | write operations next =>
    obtain ⟨habove, hrest⟩ := htidy
    rw [pass_write] at hall ⊢
    obtain ⟨hok, hlog⟩ := Entry.allSucceed_step hall
    obtain ⟨depth', hskipped, hdepth'⟩ := skipped_performAll operations hdepth hok habove
    rw [hok] at hlog hrest ⊢
    have ih := (next (.ok ())).skip_matches world _ hdepth' hlog hrest
    rw [skip_write, hskipped]
    refine ⟨?_, ih.depth, ih.ending, ih.kept⟩
    unfold Region.Run.after Region.Skip.after Canvas.entry
    rw [← hdepth']
    exact .step ih.log
  | render component next =>
    obtain ⟨hsame, hrest⟩ := htidy
    rw [pass_render] at hall ⊢
    obtain ⟨hok, hlog⟩ := Entry.allSucceed_step hall
    have hdepth' : base + depth = (component.run world c.enterFrame).canvas.leaveFrame.depth := by
      rw [hdepth]
      exact (congrArg List.length hsame).symm
    rw [hok] at hlog hrest ⊢
    have ih := (next (.ok ())).skip_matches world _ hdepth' hlog hrest
    rw [skip_render]
    refine ⟨?_, ih.depth, ih.ending, ih.kept⟩
    unfold Region.Run.after Region.Skip.after Canvas.entry
    rw [← hdepth']
    exact .step ih.log
  | conditional condition body next =>
    cases condition with
    | true =>
      obtain ⟨hbody, hsame, hrest⟩ := htidy
      rw [pass_written_region] at hall ⊢
      obtain ⟨hremark, hinner, hlog⟩ := Entry.allSucceed_region hall
      have hdepth' : base + depth = (body.pass world c).canvas.depth := by rw [hdepth, hsame]
      -- the region inside begins with nothing open of its own, and so it ends
      have ihbody := body.skip_matches world c (Nat.add_zero c.depth) hinner hbody
      have hzero : (body.skip 0).depth = 0 := by
        have hend := ihbody.depth
        omega
      have ih := (next _).skip_matches world _ hdepth' hlog hrest
      rw [skip_region, hzero, ihbody.ending, ihbody.kept]
      refine ⟨?_, ih.depth, ih.ending, ih.kept⟩
      unfold Region.Run.after Region.Skip.after Canvas.entry
      rw [← hdepth']
      have hlog' := ihbody.log
      rw [← hdepth] at hlog'
      exact .written hremark hlog' ih.log
    | false =>
      rw [pass_skipped_region] at hall ⊢
      obtain ⟨hremark, hinner, hlog⟩ := Entry.allSucceed_region hall
      have ih := (next _).skip_matches world _ hdepth hlog htidy
      rw [skip_region]
      refine ⟨?_, ih.depth, ih.ending, ih.kept⟩
      unfold Region.Run.after Region.Skip.after Canvas.entry
      rw [← hdepth]
      exact .skipped hremark hinner ih.log

/-- **A region that can be written can be skipped.** Let a region be written from any canvas, every step
succeeding, and let it close nothing but what it opens, regions inside and components included. Skipped, it
takes the same course: every step succeeds, and after each as many elements are counted as the written region
had open beyond those at its start. Ending it succeeds exactly if it had none open then, and fails with their
number otherwise. -/
theorem skip_mirrors_pass (world : World) {σ : Type} [Sink σ] (c : Canvas σ) (region : Region)
    (hall : Entry.allSucceed (region.pass world c).log = true) (htidy : region.Tidy world c.depth c) :
    let shown := region.pass world c
    let hidden := region.skip 0
    Entry.allSucceed hidden.log = true ∧ hidden.Matches c.depth shown ∧
      Ending.complete.result hidden.depth =
        if shown.canvas.depth = c.depth then .ok ()
        else .error (.unbalancedRegion (shown.canvas.depth - c.depth)) := by
  intro shown hidden
  have hmatches := region.skip_matches world c (Nat.add_zero c.depth) hall htidy
  refine ⟨hmatches.log.allSucceed, hmatches, ?_⟩
  have hdepth : shown.canvas.depth = c.depth + hidden.depth := hmatches.depth.symm
  have hiff : shown.canvas.depth = c.depth ↔ hidden.depth = 0 := by omega
  have hleft : shown.canvas.depth - c.depth = hidden.depth := by omega
  rw [hleft]
  simp only [Ending.result, hiff]

/-- A paragraph, a section that closes itself, a component, a skipped line break and a list that stays open. -/
theorem skip_mirrors_pass_open_list :
    let component : Program := .write (fun _ => [.openTag "b" none, .closeTag]) .done
    let region : Region :=
      .write (Markup.element .p (some "x")) fun _ =>
        .conditional true (.write (Markup.cdata "y" ++ [.closeTag]) fun _ => .leave .complete) fun _ =>
          .render component fun _ =>
            .conditional false (.write [.voidTag "br" none] fun _ => .leave .complete) fun _ =>
              .write [.openTag "ul" none] fun _ => .leave .complete
    let c : Canvas String := { sink := "<div>", openTags := ["</div>"] }
    (Entry.allSucceed (region.pass {} c).log = true ∧ region.Tidy {} c.depth c) ∧
      Entry.allSucceed (region.skip 0).log = true ∧
      Ending.complete.result (region.skip 0).depth = .error (.unbalancedRegion 1) := by
  intro component region c
  have hall : Entry.allSucceed (region.pass {} c).log = true := by decide +kernel
  have htidy : region.Tidy {} c.depth c := by
    refine ⟨?_, ⟨?_, trivial⟩, ?_, ?_, ?_, trivial⟩ <;> decide +kernel
  obtain ⟨hsucceed, -, hresult⟩ := skip_mirrors_pass {} c region hall htidy
  have hdepth : (region.pass {} c).canvas.depth = 2 := by decide +kernel
  rw [hdepth] at hresult
  exact ⟨⟨hall, htidy⟩, hsucceed, hresult⟩

end Hypertext
