import Hypertext.Proofs.Bindings.Shapes
import Hypertext.Proofs.Scope.Snapshots

/-!
# What is stored stays

A value that is stored in a scope is visible from there and from every frame entered afterwards, until its key is bound
anew or removed or its frame is left.

* `Scope.column`: what the frames bind a key to. `column_perform`: an operation that leaves the key alone enters a frame
  without it, leaves a frame, or changes nothing in the column.
* `Scope.HeldAt`: the nearest binding of a key is in the frame of some depth. `heldAt_perform`: it stays there until the
  key is touched or the frame left.
* `Scope.Storing`: what a scope becomes after a value is stored. `Storing.heldAt`: by one operation after the other.
* `typed_values_survive`: what typed values are read back as.
-/

namespace Hypertext

/-- Whether the operation binds the key or removes it. -/
def Scope.Step.Touches (key : String) (step : Scope.Step) : Prop :=
  step.Binds key ∨ step = .remove key

namespace Scope

/-- What the frames bind the key to, the innermost one first. -/
def column (scope : Scope) (key : String) : List (Option Json) :=
  scope.chain.map (Dict.get? key)

section

variable {scope : Scope} {key other : String}

theorem column_eq (scope : Scope) (key : String) :
    scope.column key = Dict.get? key scope.innermost :: scope.outer.map (Dict.get? key) := by
  rw [column, chain_eq, List.map_cons]

theorem length_column (scope : Scope) (key : String) : (scope.column key).length = scope.depth := by
  rw [column, List.length_map, depth_eq]

/-- The first binding in the column is the visible one. -/
theorem value?_eq_column (scope : Scope) (key : String) : scope.value? key = (scope.column key).findSome? id := by
  rw [column, List.findSome?_map]
  rfl

theorem column_set_self (value : Json) :
    (scope.set key value).column key = some value :: scope.outer.map (Dict.get? key) := by
  rw [column, chain_set, List.map_cons, Frame.get?_set_self]

theorem column_set_of_ne (h : key ≠ other) (value : Json) :
    (scope.set other value).column key = scope.column key := by
  rw [column, chain_set, List.map_cons, Frame.get?_set_of_ne h, column_eq]

theorem column_setNested_of_ne (h : key ≠ other) (nested : String) (value : Json) :
    (scope.setNested other nested value).column key = scope.column key := by
  rw [column, chain_setNested, List.map_cons, Frame.setNested_eq_set, Frame.get?_set_of_ne h,
    get?_inherit_of_ne h, column_eq]

theorem column_remove_of_ne (h : key ≠ other) : (scope.remove other).2.column key = scope.column key := by
  rw [column, chain_remove, List.map_map]
  exact List.map_congr_left fun frame _ => Dict.get?_erase_of_ne h frame

/-- Leaving a frame drops its place in the column, unless it is the last one. -/
theorem column_pop : scope.pop.2.column key = scope.column key ∨ scope.pop.2.column key = (scope.column key).tail := by
  rw [column, chain_pop]
  split
  · exact .inl rfl
  · exact .inr (by rw [column_eq, List.tail_cons])

/-- **An operation that leaves the key alone** enters a frame without it, leaves a frame, or keeps the column. -/
theorem column_perform {step : Scope.Step} (h : ¬ step.Touches key) (scope : Scope) (w : Warnings) :
    (perform step scope w).2.1.column key = none :: scope.column key ∨
      (perform step scope w).2.1.column key = (scope.column key).tail ∨
      (perform step scope w).2.1.column key = scope.column key := by
  obtain ⟨hbinds, hremoves⟩ := not_or.mp h
  cases step with
  | push => exact .inl rfl
  | pop => exact .inr column_pop.symm
  | set k value => exact .inr (.inr (column_set_of_ne (Ne.symm hbinds) value))
  | setSerialized k serialized =>
    cases serialized with
    | ok value => exact .inr (.inr (column_set_of_ne (Ne.symm hbinds) value))
    | error text => exact .inr (.inr rfl)
  | setNested k nested value => exact .inr (.inr (column_setNested_of_ne (Ne.symm hbinds) nested value))
  | remove k =>
    have hne : key ≠ k := fun hkey => hremoves (by rw [hkey])
    exact .inr (.inr (column_remove_of_ne hne))
  | get | innermost | requestPath | parameter | header | cookie | sessionValue | read => exact .inr (.inr rfl)

end

/-- The nearest binding of the key is to the value, in the frame of this depth counted from the root. -/
def HeldAt (depth : Nat) (key : String) (value : Json) (scope : Scope) : Prop :=
  ∃ inner outer, scope.column key = List.replicate inner none ++ some value :: outer ∧ outer.length + 1 = depth

section

variable {scope : Scope} {depth : Nat} {key : String} {value : Json}

theorem HeldAt.value? (h : scope.HeldAt depth key value) : scope.value? key = some value := by
  obtain ⟨inner, outer, hcolumn, -⟩ := h
  have hempty : (List.replicate inner (none : Option Json)).findSome? id = none :=
    List.findSome?_eq_none_iff.mpr fun binding hbinding => List.eq_of_mem_replicate hbinding
  rw [value?_eq_column, hcolumn, List.findSome?_append, hempty, Option.none_or]
  rfl

theorem heldAt_set (scope : Scope) (key : String) (value : Json) :
    (scope.set key value).HeldAt scope.depth key value := by
  refine ⟨0, scope.outer.map (Dict.get? key), column_set_self value, ?_⟩
  rw [← length_column scope key, column_eq, List.length_cons]

/-- **A binding stays the nearest one** as long as the key is left alone and its frame is not left. -/
theorem heldAt_perform (h : scope.HeldAt depth key value) {step : Scope.Step} (hstep : ¬ step.Touches key)
    (w : Warnings) (hdepth : depth ≤ (perform step scope w).2.1.depth) :
    (perform step scope w).2.1.HeldAt depth key value := by
  obtain ⟨inner, outer, hcolumn, houter⟩ := h
  rcases column_perform hstep scope w with hentered | hleft | hsame
  · refine ⟨inner + 1, outer, ?_, houter⟩
    rw [hentered, hcolumn, List.replicate_succ, List.cons_append]
  · cases inner with
    | zero =>
      -- the frame itself would be left, and there would be fewer frames than it is deep
      have htail : (perform step scope w).2.1.column key = outer := by rw [hleft, hcolumn]; rfl
      have hlength := length_column (perform step scope w).2.1 key
      rw [htail] at hlength
      omega
    | succ inner =>
      refine ⟨inner, outer, ?_, houter⟩
      rw [hleft, hcolumn, List.replicate_succ, List.cons_append, List.tail_cons]
  · exact ⟨inner, outer, hsame.trans hcolumn, houter⟩

end

/-- What a scope may become when a value is stored under a key and then come only operations that leave the key alone
and never leave the frame in which the value was stored. -/
inductive Storing (scope : Scope) (key : String) (value : Json) : Scope → Prop
  | stored : Storing scope key value (scope.setSerialized key (.ok value)).1
  | later {now : Scope} (h : Storing scope key value now) {step : Scope.Step} (hstep : ¬ step.Touches key)
      (w : Warnings) (hdepth : scope.depth ≤ (perform step now w).2.1.depth) :
      Storing scope key value (perform step now w).2.1

namespace Storing

variable {scope now : Scope} {key : String} {value : Json}

/-- **A stored value** is the nearest binding of its key, after one operation after the other. -/
theorem heldAt (h : Storing scope key value now) : now.HeldAt scope.depth key value := by
  induction h with
  | stored => exact heldAt_set scope key value
  | later _ hstep w hdepth ih => exact heldAt_perform ih hstep w hdepth

/-- What a stored value is read as depends on the value alone. -/
theorem getAs_eq (h : Storing scope key value now) (shape : Shape) :
    Bindings.getAs shape now key = shape.decode value := by
  have hvalue : Bindings.value? now key = some value := h.heldAt.value?
  rw [Bindings.getAs, hvalue, Option.bind_some]

end Storing

end Scope

/-- **Typed values survive.** A value that is no double is stored without fail and read back under its own shape, in the
scope where it was stored and in every scope entered from there, until the key is bound anew or removed. A stored 64-bit
integer is read as an unsigned 32-bit one exactly if it is one. A stored sequence or dictionary is never read as a
single value, nor a stored text as a number. A value that cannot be serialized changes nothing. -/
theorem typed_values_survive (scope : Scope) (key : String) :
    (∀ (shape : Shape) (x : shape.Value), shape ≠ .float →
        (scope.setSerialized key (.ok (shape.encode x))).2 = .ok () ∧
          ∀ now, scope.Storing key (shape.encode x) now → Bindings.getAs shape now key = some x) ∧
      (∀ (n : Int64) (now : Scope), scope.Storing key (Shape.int64.encode n) now →
        (∀ m : UInt32, Bindings.getAs .uint32 now key = some m ↔ (m.toNat : Int) = n.toInt) ∧
          ((Bindings.getAs .uint32 now key).isSome = true ↔ 0 ≤ n.toInt ∧ n.toInt < 0x100000000)) ∧
      (∀ (value : Json) (now : Scope), ((∃ items, value = .arr items) ∨ ∃ fields, value = .obj fields) →
        scope.Storing key value now → ∀ shape : Shape, shape.IsSingle → Bindings.getAs shape now key = none) ∧
      (∀ (text : String) (now : Scope), scope.Storing key (.str text) now →
        ∀ shape : Shape, shape.IsNumber → Bindings.getAs shape now key = none) ∧
      ∀ (cause : String) (w : Warnings),
        (Scope.perform (.setSerialized key (.error cause)) scope w).2 = (scope, w) := by
  refine ⟨fun shape x hshape => ⟨rfl, fun now hnow => ?_⟩, fun n now hnow => ?_,
    fun value now hvalue hnow shape hshape => ?_, fun text now hnow shape hshape => ?_, fun cause w => rfl⟩
  · rw [hnow.getAs_eq]
    exact Shape.documented.decode_encode hshape x
  · rw [hnow.getAs_eq]
    exact ⟨Shape.documented.decode_uint32_encode n, Shape.documented.isSome_decode_uint32_encode n⟩
  · rw [hnow.getAs_eq]
    exact Shape.documented.decode_collection hshape hvalue
  · rw [hnow.getAs_eq]
    exact Shape.documented.decode_number_str hshape text

/-- Values stored in an inner frame over a truth value in the root, and read one frame further in: a missing text, the
least integer with no room in 32 bits, an empty sequence and a text of digits. -/
theorem typed_values_survive_further_in :
    let scope : Scope := { root := .ofList [("k", .bool true)], frames := [.nil] }
    let now (value : Json) : Scope := (Scope.perform .push (scope.setSerialized "k" (.ok value)).1 {}).2.1
    (∀ value, scope.Storing "k" value (now value)) ∧
      Bindings.getAs .optionalString (now .null) "k" = some none ∧
      Bindings.getAs .int64 (now (.ofInt64 0x100000000)) "k" = some 0x100000000 ∧
      (Bindings.getAs .uint32 (now (.ofInt64 0x100000000)) "k").isSome = false ∧
      Bindings.getAs .string (now (.arr [])) "k" = none ∧ Bindings.getAs .int64 (now (.str "42")) "k" = none := by
  intro scope now
  have hlater : ∀ value, scope.Storing "k" value (now value) := by
    intro value
    have huntouched : ¬ Scope.Step.push.Touches "k" := by simp [Scope.Step.Touches, Scope.Step.Binds]
    exact .later .stored huntouched {} (Nat.le_succ 2)
  obtain ⟨hsame, hunsigned, hcollection, htext, -⟩ := typed_values_survive scope "k"
  have hmissing := (hsame .optionalString none (by decide)).2 _ (hlater .null)
  have hlong := (hsame .int64 0x100000000 (by decide)).2 _ (hlater (.ofInt64 0x100000000))
  have hroom := (hunsigned 0x100000000 _ (hlater (.ofInt64 0x100000000))).2
  have hnoRoom : (Bindings.getAs .uint32 (now (.ofInt64 0x100000000)) "k").isSome = false := by
    rw [← Bool.not_eq_true, hroom]
    decide
  exact ⟨hlater, hmissing, hlong, hnoRoom, hcollection _ _ (.inl ⟨[], rfl⟩) (hlater _) .string trivial,
    htext "42" _ (hlater _) .int64 trivial⟩

end Hypertext
