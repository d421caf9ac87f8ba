import Hypertext.Proofs.Canvas.Surroundings
import Hypertext.Proofs.Program.Law
import Hypertext.Proofs.Scope.Chain

/-!
# Rendering isolates the bindings

A component runs in a frame of its own. What it binds is gone with that frame; what it removes is
removed from every frame.

* `removedKeys`: the keys that acts removed on a canvas. Acts on the canvas of a fragment do not count,
  and what is skipped leaves no act.
* `outerLaw`: a run whose steps on the bindings neither enter nor leave a frame keeps every frame but the
  innermost, except for the removed keys.
* `render_isolates_frames`: after rendering, whether it succeeded or failed, every frame is the old one
  without the removed keys.
-/

namespace Hypertext

namespace Frame

/-- The frame without the keys. -/
def without (keys : List String) (frame : Frame) : Frame :=
  keys.foldl (fun frame key => Dict.erase key frame) frame

@[simp] theorem without_nil (frame : Frame) : frame.without [] = frame := rfl

/-- Taking out keys one list after the other takes out both lists. -/
theorem without_without (keys keys' : List String) (frame : Frame) :
    (frame.without keys).without keys' = frame.without (keys ++ keys') :=
  List.foldl_append.symm

/-- The keys are gone, and all others bound as before. -/
theorem get?_without (keys : List String) (frame : Frame) (key : String) :
    Dict.get? key (frame.without keys) = if key ∈ keys then none else Dict.get? key frame := by
  induction keys generalizing frame with
  | nil => rw [without_nil, if_neg List.not_mem_nil]
  | cons k keys ih =>
    have hfirst : frame.without (k :: keys) = Frame.without keys (Dict.erase k frame) := rfl
    rw [hfirst, ih]
    by_cases hkey : key = k
    · rw [hkey, Dict.get?_erase_self, if_pos List.mem_cons_self, ite_self]
    · simp only [List.mem_cons, hkey, false_or, Dict.get?_erase_of_ne hkey]

theorem visible_without (keys : List String) (chain : List Frame) (key : String) :
    visible (chain.map (without keys)) key = if key ∈ keys then none else visible chain key := by
  induction chain with
  | nil => split <;> rfl
  | cons frame chain ih =>
    rw [List.map_cons, visible_cons, visible_cons, ih, get?_without]
    split <;> rfl

end Frame

/-- The key that an act removed from the bindings of its canvas. -/
def Act.removed? : Act → Option String
  | .bound (.remove key) _ => some key
  | _ => none

/-- The keys that acts removed from the bindings of their canvas. -/
def removedKeys (acts : List Act) : List String :=
  acts.filterMap Act.removed?

/-- Whether the step leaves it to rendering to enter and leave frames. -/
def Scope.Step.KeepsFrames : Scope.Step → Prop
  | .push => False
  | .pop => False
  | _ => True

/-- A step that neither enters nor leaves a frame changes the outer ones only by what it removes. -/
theorem outer_perform {step : Scope.Step} (h : step.KeepsFrames) (scope : Scope) (w : Warnings)
    (entry : Scope.Entry) :
    (Scope.perform step scope w).2.1.outer =
      scope.outer.map (Frame.without (removedKeys [.bound step entry])) := by
  have hnone : scope.outer.map (Frame.without []) = scope.outer := List.map_id scope.outer
  cases step with
  | push => exact h.elim
  | pop => exact h.elim
  | set key value => exact (Scope.outer_modifyInnermost scope _).trans hnone.symm
  | setSerialized key serialized =>
    cases serialized with
    | ok value => exact (Scope.outer_modifyInnermost scope _).trans hnone.symm
    | error text => exact hnone.symm
  | setNested key nested value =>
    have hset : (scope.setNested key nested value).outer = scope.outer := by
      unfold Scope.setNested
      rw [Scope.outer_modifyInnermost, Scope.outer_inherit]
    exact hset.trans hnone.symm
  | remove key =>
    have herase : (scope.remove key).2.outer = scope.outer.map (Dict.erase key) := by
      unfold Scope.outer
      rw [Scope.chain_remove, List.map_tail]
    exact herase
  | get | innermost | requestPath | parameter | header | cookie | sessionValue | read => exact hnone.symm

/-- The frames around the innermost one are the old ones without what the acts removed. -/
def OuterWithoutRemoved {σ : Type} (c : Canvas σ) (acts : List Act) (d : Canvas σ) : Prop :=
  d.context.outer = c.context.outer.map (Frame.without (removedKeys acts))

section

variable {σ : Type} {c d e : Canvas σ} {acts acts' : List Act}

theorem outerWithoutRemoved_of_eq (hcontext : d.context = c.context) (hacts : removedKeys acts = []) :
    OuterWithoutRemoved c acts d := by
  unfold OuterWithoutRemoved
  rw [hcontext, hacts]
  exact (List.map_id c.context.outer).symm

theorem OuterWithoutRemoved.trans (h : OuterWithoutRemoved c acts d)
    (h' : OuterWithoutRemoved d acts' e) : OuterWithoutRemoved c (acts ++ acts') e := by
  unfold OuterWithoutRemoved removedKeys at *
  rw [h', h, List.map_map, List.filterMap_append]
  exact List.map_congr_left fun frame _ => Frame.without_without _ _ frame

/-- **Leaving the frame of a component**: all the frames that were there before are the old ones without
what was removed. -/
theorem OuterWithoutRemoved.chain_leaveFrame (h : OuterWithoutRemoved c.enterFrame acts d) :
    d.leaveFrame.context.chain = c.context.chain.map (Frame.without (removedKeys acts)) := by
  have houter : d.context.outer = c.context.chain.map (Frame.without (removedKeys acts)) := h
  have hne : d.context.outer ≠ [] := by
    rw [houter, Scope.chain_eq]
    exact List.cons_ne_nil _ _
  have hpop : d.leaveFrame.context.chain = d.context.pop.2.chain := rfl
  rw [hpop, Scope.chain_pop, if_neg hne, houter]

theorem OuterWithoutRemoved.leaveFrame (h : OuterWithoutRemoved c.enterFrame acts d) :
    OuterWithoutRemoved c acts d.leaveFrame := by
  unfold OuterWithoutRemoved Scope.outer
  rw [h.chain_leaveFrame, List.map_tail]

/-- **What a run does to the outer frames**, if it leaves entering and leaving frames to rendering. -/
theorem outerLaw [Sink σ] (writes : Operation → Prop) :
    Canvas.Law σ writes Scope.Step.KeepsFrames OuterWithoutRemoved where
  nothing _ := outerWithoutRemoved_of_eq rfl rfl
  trans h h' := h.trans h'
  wrote c operation _ := outerWithoutRemoved_of_eq (Canvas.perform_keeps operation c).context rfl
  flushed _ := outerWithoutRemoved_of_eq rfl rfl
  issued _ := outerWithoutRemoved_of_eq rfl rfl
  bound c _ hstep := outer_perform hstep c.context c.warnings _
  rendered h := h.leaveFrame
  fragment _ _ _ := outerWithoutRemoved_of_eq rfl rfl

end

/-- **Rendering isolates the bindings.** Whatever a component writes, binds, removes and renders, and
however it ends, rendering it answers with the component's own result, leaves as many frames as there
were, and each of them is the old one without exactly the keys that were removed on the canvas. So a key
shows what it showed before, or nothing if it was removed. -/
theorem render_isolates_frames (world : World) {σ : Type} [Sink σ] (c : Canvas σ)
    (component : Program) (h : component.Within (fun _ => True) Scope.Step.KeepsFrames) :
    let run := (Program.render component .done).run world c
    run.result = (component.run world c.enterFrame).result ∧
      run.canvas.context.depth = c.context.depth ∧
      run.canvas.context.chain = c.context.chain.map (Frame.without (removedKeys run.acts)) ∧
      ∀ key, run.canvas.context.value? key =
        if key ∈ removedKeys run.acts then none else c.context.value? key := by
  intro run
  have hacts : run.acts = (component.run world c.enterFrame).acts := List.append_nil _
  have hchain : run.canvas.context.chain =
      c.context.chain.map (Frame.without (removedKeys run.acts)) := by
    rw [hacts]
    exact (component.run_law world (outerLaw _) h c.enterFrame).chain_leaveFrame
  refine ⟨rfl, ?_, hchain, fun key => ?_⟩
  · rw [Scope.depth_eq, Scope.depth_eq, hchain, List.length_map]
  · rw [Scope.value?_eq_visible, hchain, Frame.visible_without]
    rfl

/-- A component that binds one key, removes another and fails leaves a third one as it was. -/
theorem render_isolates_failing_component :
    let component : Program :=
      .context [.set "a" .null, .remove "b"] fun _ => .done (.error .emptyStack)
    let c : Canvas String := { sink := "", context := { root := .ofList [("b", .null), ("c", .null)] } }
    component.Within (fun _ => True) Scope.Step.KeepsFrames ∧
      ((Program.render component .done).run {} c).result = .error .emptyStack ∧
      ((Program.render component .done).run {} c).canvas.context.chain = [.ofList [("c", .null)]] := by
  intro component c
  have h : component.Within (fun _ => True) Scope.Step.KeepsFrames := by
    simp [component, Program.Within, Scope.Step.KeepsFrames]
  obtain ⟨hresult, -, hchain, -⟩ := render_isolates_frames {} c component h
  exact ⟨h, hresult, hchain⟩

end Hypertext
