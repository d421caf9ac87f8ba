import Hypertext.Context.Step

/-!
# The chain of frames

What the operations of a scope do to its chain of frames, the innermost frame first.

* `chain_eq`: a chain is the innermost frame followed by the outer ones, and determines the scope
  (`chain_inj`).
* `chain_set`, `chain_setNested`: writing changes the innermost frame and leaves the outer ones alone.
* `remove_eq`, `chain_remove`: removing a key, frame by frame, answers the visible value and takes it out of every
  frame.
* `visible`: what a chain shows under a key, the nearest binding.
* `value?_setNested_self`: a nested write is made to the dictionary that was visible, or to an empty
  one if the nearest binding is no dictionary.
-/

namespace Hypertext

/-- The dictionary that a nested write starts from where this is the nearest binding. -/
def nestedEntries : Option Json → Dict Json
  | some (.obj fields) => fields
  | _ => .nil

namespace Frame

theorem get?_set_self (frame : Frame) (key : String) (value : Json) :
    Dict.get? key (frame.set key value) = some value :=
  Dict.get?_insert_self key value frame

theorem get?_set_of_ne {key other : String} (h : other ≠ key) (frame : Frame) (value : Json) :
    Dict.get? other (frame.set key value) = Dict.get? other frame :=
  Dict.get?_insert_of_ne h value frame

/-- A nested write binds the key to the old entries with the new one. -/
theorem setNested_eq_set (frame : Frame) (key nested : String) (value : Json) :
    frame.setNested key nested value =
      frame.set key (.obj (Dict.insert nested value (nestedEntries (Dict.get? key frame)))) := by
  unfold setNested
  cases hget : Dict.get? key frame with
  | none => rfl
  | some old => cases old <;> rfl

/-- The nearest binding of the key in a chain of frames. -/
def visible (chain : List Frame) (key : String) : Option Json :=
  chain.findSome? fun frame => Dict.get? key frame

theorem visible_cons (frame : Frame) (chain : List Frame) (key : String) :
    visible (frame :: chain) key = (Dict.get? key frame).or (visible chain key) := by
  unfold visible
  rw [List.findSome?_cons]
  cases Dict.get? key frame <;> rfl

theorem visible_erase_self (chain : List Frame) (key : String) :
    visible (chain.map (Dict.erase key)) key = none := by
  induction chain with
  | nil => rfl
  | cons frame chain ih => rw [List.map_cons, visible_cons, Dict.get?_erase_self, ih]; rfl

theorem visible_erase_of_ne {key other : String} (h : other ≠ key) (chain : List Frame) :
    visible (chain.map (Dict.erase key)) other = visible chain other := by
  induction chain with
  | nil => rfl
  | cons frame chain ih =>
    rw [List.map_cons, visible_cons, visible_cons, Dict.get?_erase_of_ne h, ih]

/-- **Removing a key from one frame after the other** answers the nearest binding and leaves none. -/
theorem removeAll_eq (key : String) (found : Option Json) (frames : List Frame) :
    removeAll key found frames = (found.or (visible frames key), frames.map (Dict.erase key)) := by
  induction frames generalizing found with
  | nil => exact Prod.ext Option.or_none.symm rfl
  | cons frame frames ih =>
    have hstep : removeAll key found (frame :: frames) =
        ((removeAll key (found.or (Dict.get? key frame)) frames).1,
          Dict.erase key frame :: (removeAll key (found.or (Dict.get? key frame)) frames).2) := rfl
    rw [hstep, ih, visible_cons, Option.or_assoc, List.map_cons]

end Frame

namespace Scope

/-- The frames around the innermost one, nearest first. -/
def outer (scope : Scope) : List Frame :=
  scope.chain.tail

theorem chain_eq (scope : Scope) : scope.chain = scope.innermost :: scope.outer := by
  obtain ⟨root, frames⟩ := scope
  cases frames <;> rfl

theorem chain_inj {s t : Scope} (h : s.chain = t.chain) : s = t := by
  obtain ⟨root, frames⟩ := s
  obtain ⟨root', frames'⟩ := t
  obtain ⟨hf, hr⟩ : frames = frames' ∧ [root] = [root'] := List.append_inj' h rfl
  rw [List.singleton_inj] at hr
  rw [hf, hr]

theorem depth_eq (scope : Scope) : scope.depth = scope.chain.length := by
  unfold depth chain
  rw [List.length_append, List.length_singleton]

/-- Leaving the innermost frame uncovers the outer ones; the root stays. -/
theorem chain_pop (scope : Scope) :
    scope.pop.2.chain = if scope.outer = [] then scope.chain else scope.outer := by
  obtain ⟨root, frames⟩ := scope
  cases frames with
  | nil => rfl
  | cons frame frames =>
    have hne : (Scope.mk root (frame :: frames)).outer ≠ [] := List.append_ne_nil_of_right_ne_nil _ (by simp)
    rw [if_neg hne]
    rfl

theorem chain_modifyInnermost (scope : Scope) (f : Frame → Frame) :
    (scope.modifyInnermost f).chain = f scope.innermost :: scope.outer := by
  obtain ⟨root, frames⟩ := scope
  cases frames <;> rfl

theorem innermost_modifyInnermost (scope : Scope) (f : Frame → Frame) :
    (scope.modifyInnermost f).innermost = f scope.innermost := by
  obtain ⟨root, frames⟩ := scope
  cases frames <;> rfl

theorem outer_modifyInnermost (scope : Scope) (f : Frame → Frame) :
    (scope.modifyInnermost f).outer = scope.outer := by
  unfold outer
  rw [chain_modifyInnermost]
  rfl

theorem chain_set (scope : Scope) (key : String) (value : Json) :
    (scope.set key value).chain = scope.innermost.set key value :: scope.outer :=
  chain_modifyInnermost scope _

/-- A look-up answers what the chain shows. -/
theorem value?_eq_visible (scope : Scope) (key : String) :
    scope.value? key = Frame.visible scope.chain key := rfl

/-- **Removing a key** takes it out of every frame and answers the value that was visible. -/
theorem remove_eq (scope : Scope) (key : String) : scope.remove key =
    (scope.value? key, { root := Dict.erase key scope.root, frames := scope.frames.map (Dict.erase key) }) := by
  have hlast : scope.value? key = (Frame.visible scope.frames key).or (Dict.get? key scope.root) := by
    have hroot : Frame.visible [scope.root] key = Dict.get? key scope.root := by
      rw [Frame.visible_cons]
      exact Option.or_none
    rw [value?_eq_visible, chain, ← hroot]
    exact List.findSome?_append
  rw [remove, Frame.removeAll_eq, Option.none_or, hlast]
  rfl

theorem chain_remove (scope : Scope) (key : String) :
    (scope.remove key).2.chain = scope.chain.map (Dict.erase key) := by
  rw [remove_eq, chain, chain, List.map_append]
  rfl

/-- A look-up meets the innermost frame first. -/
theorem value?_eq (scope : Scope) (key : String) :
    scope.value? key = (Dict.get? key scope.innermost).or (Frame.visible scope.outer key) := by
  rw [value?_eq_visible, chain_eq, Frame.visible_cons]

theorem outer_inherit (scope : Scope) (key : String) : (scope.inherit key).outer = scope.outer := by
  unfold inherit
  split
  · rfl
  · split
    · exact outer_modifyInnermost scope _
    · rfl

/-- What a nested write starts from once the frame has inherited is what was visible before. -/
theorem nestedEntries_inherit (scope : Scope) (key : String) :
    nestedEntries (Dict.get? key (scope.inherit key).innermost) = nestedEntries (scope.value? key) := by
  unfold inherit
  split
  · rename_i hbound
    -- the frame binds the key, so its own binding is the visible one
    obtain ⟨value, hvalue⟩ := Option.isSome_iff_exists.1 hbound
    have hget : Dict.get? key scope.innermost = some value := hvalue
    rw [value?_eq, hget]
    rfl
  · rename_i hfree
    have hget : Dict.get? key scope.innermost = none := by
      simpa [Bindings.contains, Bindings.value?] using hfree
    split
    · rename_i fields hmap
      rw [set, innermost_modifyInnermost, Frame.get?_set_self]
      obtain ⟨value, hvalue, hfields⟩ := Option.bind_eq_some_iff.1 hmap
      have hvisible : scope.value? key = some value := hvalue
      cases value <;> simp [Json.fields?] at hfields
      rw [hvisible, hfields]
    · rename_i hmap
      -- the nearest binding is no dictionary, so both sides are empty
      rw [hget]
      cases hvisible : scope.value? key with
      | none => rfl
      | some value =>
        have hno : value.fields? = none := by
          have h : (scope.value? key).bind Json.fields? = none := hmap
          rwa [hvisible] at h
        cases value <;> simp [Json.fields?] at hno <;> rfl

theorem get?_inherit_of_ne {key other : String} (h : other ≠ key) (scope : Scope) :
    Dict.get? other (scope.inherit key).innermost = Dict.get? other scope.innermost := by
  unfold inherit
  split
  · rfl
  · split
    · rw [set, innermost_modifyInnermost, Frame.get?_set_of_ne h]
    · rfl

/-- A nested write changes the innermost frame and leaves the outer ones alone. -/
theorem chain_setNested (scope : Scope) (key nested : String) (value : Json) :
    (scope.setNested key nested value).chain =
      (scope.inherit key).innermost.setNested key nested value :: scope.outer := by
  unfold setNested
  rw [chain_modifyInnermost, outer_inherit]

/-- **A nested write keeps what is visible under the key** and adds to it. -/
theorem value?_setNested_self (scope : Scope) (key nested : String) (value : Json) :
    (scope.setNested key nested value).value? key =
      some (.obj (Dict.insert nested value (nestedEntries (scope.value? key)))) := by
  rw [value?_eq_visible, chain_setNested, Frame.visible_cons, Frame.setNested_eq_set, Frame.get?_set_self,
    nestedEntries_inherit]
  rfl

end Scope

end Hypertext
