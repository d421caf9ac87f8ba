import Hypertext.Proofs.Scope.Chain
import Mathlib.Data.List.Nodup
import Mathlib.Data.String.Basic

/-!
# The order of nested writes

Writes to different places, a place being a key with a nested key, may be made in any order.

* `Dict.insert_insert_self`, `Dict.insert_comm`: of two bindings of one key the later stands, and bindings of
  different keys commute.
* `Scope.setNested_eq_set`: a nested write binds the key to what was visible under it with one more entry, whether the
  innermost frame binds the key, inherits a dictionary or has to begin one.
* `Scope.setNested_setNested_self`, `Scope.setNested_comm`: the same for two nested writes.
* `nested_writes_commute`: lists of nested writes to different places.
-/

namespace Hypertext

namespace Dict

variable {α : Type} {key key' : String}

/-- Of two bindings of a key the later stands. -/
theorem insert_insert_self (value value' : α) (d : Dict α) :
    (d.insert key value).insert key value' = d.insert key value' := by
  apply ext
  intro other
  by_cases hother : other = key
  · rw [hother, get?_insert_self, get?_insert_self]
  · rw [get?_insert_of_ne hother, get?_insert_of_ne hother, get?_insert_of_ne hother]

/-- **Bindings of different keys commute.** -/
theorem insert_comm (h : key ≠ key') (value value' : α) (d : Dict α) :
    (d.insert key value).insert key' value' = (d.insert key' value').insert key value := by
  apply ext
  intro other
  by_cases hother : other = key
  · rw [hother, get?_insert_of_ne h, get?_insert_self, get?_insert_self]
  · rw [get?_insert_of_ne hother]
    by_cases hother' : other = key'
    · rw [hother', get?_insert_self, get?_insert_self]
    · rw [get?_insert_of_ne hother', get?_insert_of_ne hother', get?_insert_of_ne hother]

end Dict

namespace Scope

variable (scope : Scope) {key key' : String}

theorem innermost_set (value : Json) : (scope.set key value).innermost = scope.innermost.set key value :=
  scope.innermost_modifyInnermost _

theorem outer_set (value : Json) : (scope.set key value).outer = scope.outer :=
  scope.outer_modifyInnermost _

theorem set_set_self (value value' : Json) : (scope.set key value).set key value' = scope.set key value' := by
  apply chain_inj
  rw [chain_set, chain_set, innermost_set, outer_set]
  exact congrArg (· :: scope.outer) (Dict.insert_insert_self value value' scope.innermost)

theorem set_comm (h : key ≠ key') (value value' : Json) :
    (scope.set key value).set key' value' = (scope.set key' value').set key value := by
  apply chain_inj
  rw [chain_set, chain_set, innermost_set, innermost_set, outer_set, outer_set]
  exact congrArg (· :: scope.outer) (Dict.insert_comm h value value' scope.innermost)

theorem value?_set_self (value : Json) : (scope.set key value).value? key = some value := by
  rw [value?_eq, innermost_set, Frame.get?_set_self, Option.some_or]

theorem value?_set_of_ne (h : key' ≠ key) (value : Json) : (scope.set key value).value? key' = scope.value? key' := by
  rw [value?_eq, innermost_set, outer_set, Frame.get?_set_of_ne h, ← value?_eq]

/-- What a frame has inherited under a key is overwritten with the key. -/
theorem set_inherit (value : Json) : (scope.inherit key).set key value = scope.set key value := by
  unfold inherit
  split
  · rfl
  · split
    · exact scope.set_set_self _ value
    · rfl

/-- **A nested write** binds the key to what was visible under it with one more entry. -/
theorem setNested_eq_set (nested : String) (value : Json) :
    scope.setNested key nested value =
      scope.set key (.obj (Dict.insert nested value (nestedEntries (scope.value? key)))) := by
  have hinherit : scope.setNested key nested value =
      (scope.inherit key).set key (.obj (Dict.insert nested value (nestedEntries (scope.value? key)))) := by
    apply chain_inj
    rw [chain_setNested, chain_set, Frame.setNested_eq_set, nestedEntries_inherit, outer_inherit]
  rw [hinherit, set_inherit]

/-- **Of two nested writes to one place** the later stands. -/
theorem setNested_setNested_self (nested : String) (value value' : Json) :
    (scope.setNested key nested value).setNested key nested value' = scope.setNested key nested value' := by
  rw [setNested_eq_set, setNested_eq_set, setNested_eq_set, value?_set_self, set_set_self]
  exact congrArg (fun entries => scope.set key (.obj entries)) (Dict.insert_insert_self value value' _)

/-- **Nested writes to different places commute.** -/
theorem setNested_comm {nested nested' : String} (h : (key, nested) ≠ (key', nested')) (value value' : Json) :
    (scope.setNested key nested value).setNested key' nested' value' =
      (scope.setNested key' nested' value').setNested key nested value := by
  rw [setNested_eq_set, setNested_eq_set, setNested_eq_set, setNested_eq_set]
  by_cases hkey : key = key'
  · -- both writes are to one dictionary, and each sees the entry of the other
    subst hkey
    have hnested : nested ≠ nested' := fun heq => h (by rw [heq])
    rw [value?_set_self, value?_set_self, set_set_self, set_set_self]
    exact congrArg (fun entries => scope.set key (.obj entries)) (Dict.insert_comm hnested value value' _)
  · rw [value?_set_of_ne _ hkey, value?_set_of_ne _ (Ne.symm hkey)]
    exact scope.set_comm hkey _ _

end Scope

/-- A value to be written under a nested key of a key. -/
structure NestedWrite where
  key : String
  nested : String
  value : Json

namespace NestedWrite

/-- Where the value is written. -/
def place (write : NestedWrite) : String × String :=
  (write.key, write.nested)

/-- The write as an operation on scopes. -/
def step (write : NestedWrite) : Scope.Step :=
  .setNested write.key write.nested write.value

/-- Nested writes in a row, one after the other and without warnings. -/
theorem performAll_steps (writes : List NestedWrite) (scope : Scope) (w : Warnings) :
    (Scope.performAll (writes.map step) scope w).2.1 =
      writes.foldl (fun scope write => scope.setNested write.key write.nested write.value) scope := by
  induction writes generalizing scope with
  | nil => rfl
  | cons write writes ih => exact ih (scope.setNested write.key write.nested write.value)

end NestedWrite

/-- **Independent nested writes commute.** Whatever the frames bind, two nested writes to different places leave the
same frames in either order, and of two writes to one place the later one alone counts. So writes to different places
leave the same frames in every order. -/
theorem nested_writes_commute (scope : Scope) :
    (∀ key nested value key' nested' value', (key, nested) ≠ (key', nested') →
        (scope.setNested key nested value).setNested key' nested' value' =
          (scope.setNested key' nested' value').setNested key nested value) ∧
      (∀ key nested value value',
        (scope.setNested key nested value).setNested key nested value' = scope.setNested key nested value') ∧
      ∀ (writes writes' : List NestedWrite) (w : Warnings), (writes.map NestedWrite.place).Nodup →
        writes.Perm writes' →
          (Scope.performAll (writes.map NestedWrite.step) scope w).2.1 =
            (Scope.performAll (writes'.map NestedWrite.step) scope w).2.1 := by
  refine ⟨fun key nested value key' nested' value' h => scope.setNested_comm h value value',
    fun key nested value value' => scope.setNested_setNested_self nested value value',
    fun writes writes' w hplaces hperm => ?_⟩
  rw [NestedWrite.performAll_steps, NestedWrite.performAll_steps]
  refine hperm.foldl_eq' (fun write hwrite other hother reached => ?_) scope
  by_cases hplace : write.place = other.place
  · -- places are not repeated, so this is one and the same write
    rw [List.inj_on_of_nodup_map hplaces hwrite hother hplace]
  · exact reached.setNested_comm hplace write.value other.value

/-- A dictionary that the inner frame inherits at the first write, a truth value that gives way to a dictionary, and a
second entry of the inherited dictionary. -/
theorem nested_writes_commute_inherited :
    let scope : Scope :=
      { root := .ofList [("m", .obj (Dict.ofList [("x", .null)]))], frames := [.ofList [("s", .bool true)]] }
    let writes : List NestedWrite := [⟨"m", "y", .bool true⟩, ⟨"s", "y", .null⟩, ⟨"m", "a", .null⟩]
    let written : Scope :=
      { root := .ofList [("m", .obj (Dict.ofList [("x", .null)]))]
        frames := [.ofList [("m", .obj (Dict.ofList [("a", .null), ("x", .null), ("y", .bool true)])),
          ("s", .obj (Dict.ofList [("y", .null)]))]] }
    (("m", "y") ≠ ("m", "a") ∧
        (scope.setNested "m" "y" (.bool true)).setNested "m" "a" .null =
          (scope.setNested "m" "a" .null).setNested "m" "y" (.bool true)) ∧
      ((writes.map NestedWrite.place).Nodup ∧ writes.Perm writes.reverse ∧
        (Scope.performAll (writes.map NestedWrite.step) scope {}).2.1 = written ∧
        (Scope.performAll (writes.reverse.map NestedWrite.step) scope {}).2.1 = written) := by
  intro scope writes written
  obtain ⟨hpairs, -, hlists⟩ := nested_writes_commute scope
  have hplaces : ("m", "y") ≠ ("m", "a") := by decide
  have hnodup : (writes.map NestedWrite.place).Nodup := by decide
  have hperm : writes.Perm writes.reverse := (List.reverse_perm writes).symm
  have hwritten : (Scope.performAll (writes.map NestedWrite.step) scope {}).2.1 = written := by rfl
  have hsame := hlists writes writes.reverse {} hnodup hperm
  exact ⟨⟨hplaces, hpairs "m" "y" _ "m" "a" _ hplaces⟩, hnodup, hperm, hwritten, hsame.symm.trans hwritten⟩

end Hypertext
