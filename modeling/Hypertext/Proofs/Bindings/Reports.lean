import Hypertext.Context.Scope
import Mathlib.Logic.Function.Iterate

/-!
# Reports of values that cannot be converted

A getter that converts the value of a key reports a value that cannot be converted, once.

* `Getter`: the four of them, each with what it reads and what it says was wanted.
* `Getter.get_unbound`, `get_of_convertible`, `get_of_not_convertible`: a key without a value, with one that can
  be converted and with one that cannot.
* `unconvertible_values_reported`: a getter that answers nothing has reported the value, unless it has converted
  it and 32 bits have no room for it.
* `long_integer_not_reported`: then there is no report.
-/

namespace Hypertext.Bindings

/-- The getters that convert a value. -/
inductive Getter where
  | long
  | int
  | float
  | bool
deriving DecidableEq, Repr

namespace Getter

/-- What a getter answers. -/
abbrev Value : Getter → Type
  | .long => Int64
  | .int => Int32
  | .float => Binary64
  | .bool => Bool

/-- What a getter says that a value is not. -/
def wanted : Getter → String
  | .long | .int => "an integer"
  | .float => "a number"
  | .bool => "a boolean"

/-- Asks a store for the value of a key. -/
def get {β : Type} [Bindings β] : (g : Getter) → β → String → Warnings → Option g.Value × Warnings
  | .long, store, key, w => getLong store key w
  | .int, store, key, w => getInt store key w
  | .float, store, key, w => getFloat store key w
  | .bool, store, key, w => getBool store key w

/-- The value is one that the getter can convert. -/
def Convertible : Getter → Json → Prop
  | .long, v | .int, v => v.toInt64?.isSome
  | .float, v => v.toBinary64?.isSome
  | .bool, v => v.toBool?.isSome

/-- What the getter answers for a value. -/
def read : (g : Getter) → Json → Option g.Value
  | .long, v => v.toInt64?
  | .int, v => v.toInt64?.bind fun n => int32? n.toInt
  | .float, v => v.toBinary64?
  | .bool, v => v.toBool?

end Getter

/-- The value is an integer that 64 bits hold and 32 bits do not. -/
def TooLong (v : Json) : Prop :=
  ∃ n : Int64, v.toInt64? = some n ∧ (n.toInt < -0x80000000 ∨ 0x80000000 ≤ n.toInt)

section

variable {β α : Type} [Bindings β] {store : β} {key : String} {v : Json}

theorem convert_unbound (read : Json → Option α) (wanted : String) (w : Warnings)
    (h : value? store key = none) : convert read wanted store key w = (none, w) := by
  unfold convert
  rw [h]

theorem convert_of_isSome {read : Json → Option α} (hread : (read v).isSome) (wanted : String) (w : Warnings)
    (h : value? store key = some v) : convert read wanted store key w = (read v, w) := by
  obtain ⟨a, ha⟩ := Option.isSome_iff_exists.mp hread
  unfold convert
  rw [h]
  dsimp only
  rw [ha]

theorem convert_of_not_isSome {read : Json → Option α} (hread : ¬ (read v).isSome) (wanted : String) (w : Warnings)
    (h : value? store key = some v) :
    convert read wanted store key w = (none, w.warn "Context" (unconvertible key v wanted)) := by
  have hnone : read v = none := Option.not_isSome_iff_eq_none.mp hread
  unfold convert
  rw [h]
  dsimp only
  rw [hnone]
  rfl

namespace Getter

/-- Without a value there is no answer and no report. -/
theorem get_unbound (g : Getter) (w : Warnings) (h : value? store key = none) : g.get store key w = (none, w) := by
  cases g with
  | int => rw [get, getInt, getLong, convert_unbound _ _ w h]; rfl
  | long | float | bool => exact convert_unbound _ _ w h

/-- A value that can be converted is answered, if there is room for it, and not reported. -/
theorem get_of_convertible (g : Getter) (w : Warnings) (h : value? store key = some v)
    (hv : g.Convertible v) : g.get store key w = (g.read v, w) := by
  cases g with
  | int => rw [get, getInt, getLong, convert_of_isSome hv _ w h]; rfl
  | long | float | bool => exact convert_of_isSome hv _ w h

/-- A value that cannot be converted is reported, and there is no answer. -/
theorem get_of_not_convertible (g : Getter) (w : Warnings) (h : value? store key = some v)
    (hv : ¬ g.Convertible v) :
    g.get store key w = (none, w.warn "Context" (unconvertible key v g.wanted)) := by
  cases g with
  | int => rw [get, getInt, getLong, convert_of_not_isSome hv _ w h]; rfl
  | long | float | bool => exact convert_of_not_isSome hv _ w h

/-- There is nothing to read in a value that cannot be converted. -/
theorem read_of_not_convertible (g : Getter) (hv : ¬ g.Convertible v) : g.read v = none := by
  cases g with
  | int => rw [read, Option.not_isSome_iff_eq_none.mp hv]; rfl
  | long | float | bool => exact Option.not_isSome_iff_eq_none.mp hv

/-- The answer is what the getter reads in the value. -/
theorem get_fst (g : Getter) (store : β) (key : String) (w : Warnings) :
    (g.get store key w).1 = (value? store key).bind g.read := by
  cases h : value? store key with
  | none => rw [g.get_unbound w h]; rfl
  | some v =>
    by_cases hv : g.Convertible v
    · rw [g.get_of_convertible w h hv]; rfl
    · rw [g.get_of_not_convertible w h hv, Option.bind_some, g.read_of_not_convertible hv]

/-- Only an integer without room in 32 bits is converted and then not answered. -/
theorem read_eq_none_iff (g : Getter) (hv : g.Convertible v) : g.read v = none ↔ g = .int ∧ TooLong v := by
  cases g with
  | int =>
    obtain ⟨n, hn⟩ := Option.isSome_iff_exists.mp hv
    have hread : read .int v = int32? n.toInt := by rw [read, hn]; rfl
    rw [hread]
    constructor
    · intro hnone
      exact ⟨rfl, n, hn, int32?_eq_none_iff.mp hnone⟩
    · rintro ⟨-, m, hm, hrange⟩
      obtain rfl := Option.some.inj (hn.symm.trans hm)
      exact int32?_eq_none_iff.mpr hrange
  | long | float | bool =>
    constructor
    · intro hnone
      exact absurd hnone (Option.isSome_iff_ne_none.mp hv)
    · rintro ⟨h, -⟩
      cases h

theorem TooLong.convertible (h : TooLong v) : Convertible .int v := by
  obtain ⟨n, hn, -⟩ := h
  exact Option.isSome_iff_exists.mpr ⟨n, hn⟩

/-- A further call adds nothing to the record. -/
theorem get_again (g : Getter) (store : β) (key : String) (w : Warnings) :
    (g.get store key (g.get store key w).2).2 = (g.get store key w).2 := by
  cases h : value? store key with
  | none => rw [g.get_unbound w h, g.get_unbound w h]
  | some v =>
    by_cases hv : g.Convertible v
    · rw [g.get_of_convertible w h hv, g.get_of_convertible w h hv]
    · -- the report of the first call is on record when the second one is made
      rw [g.get_of_not_convertible w h hv, g.get_of_not_convertible _ h hv,
        Warnings.warn_of_has (Warnings.has_warn _ _ _)]

/-- Nor do any number of them. -/
theorem get_repeatedly (g : Getter) (store : β) (key : String) (w : Warnings) (n : Nat) :
    (fun w => (g.get store key w).2)^[n + 1] w = (g.get store key w).2 := by
  rw [Function.iterate_succ_apply]
  exact Function.iterate_fixed (g.get_again store key w) n

end Getter

end

/-- **What cannot be converted is reported once.** If the key has no value, or if the getter answers, then the
record of warnings is as before. If the getter does not answer although there is a value, then the record says
that this value is not what was wanted, and otherwise is as before; it counts at most one warning more. The only
exception is an integer that is asked for in 32 bits and needs more of 64: it is not answered and not reported.
Calling the getter again, however often, leaves the record as it is after the first call. -/
theorem unconvertible_values_reported {β : Type} [Bindings β] (g : Getter) (store : β) (key : String)
    (w : Warnings) :
    (value? store key = none → g.get store key w = (none, w)) ∧
      (∀ a, (g.get store key w).1 = some a → (g.get store key w).2 = w) ∧
      (∀ v, value? store key = some v → (g.get store key w).1 = none → ¬ (g = .int ∧ TooLong v) →
        let report := "value " ++ v.text ++ " for '" ++ key ++ "' is not " ++ g.wanted
        (g.get store key w).2.has "Context" report = true ∧
          (g.get store key w).2 = w.warn "Context" report ∧
          (g.get store key w).2.count = if w.has "Context" report then w.count else w.count + 1) ∧
      (∀ v, value? store key = some v → g = .int ∧ TooLong v → g.get store key w = (none, w)) ∧
      ∀ n, (fun w => (g.get store key w).2)^[n + 1] w = (g.get store key w).2 := by
  refine ⟨g.get_unbound w, fun a ha => ?_, fun v hvalue hnone hroom => ?_, fun v hvalue hlong => ?_,
    g.get_repeatedly store key w⟩
  · cases hvalue : value? store key with
    | none => rw [g.get_unbound w hvalue]
    | some v =>
      by_cases hv : g.Convertible v
      · rw [g.get_of_convertible w hvalue hv]
      · rw [g.get_of_not_convertible w hvalue hv] at ha
        cases ha
  · have hv : ¬ g.Convertible v := by
      intro hv
      rw [g.get_of_convertible w hvalue hv] at hnone
      exact hroom ((g.read_eq_none_iff hv).mp hnone)
    rw [g.get_of_not_convertible w hvalue hv]
    exact ⟨Warnings.has_warn _ _ _, rfl, Warnings.count_warn _ _ _⟩
  · obtain ⟨rfl, hlong⟩ := hlong
    have hv : Getter.Convertible .int v := Getter.TooLong.convertible hlong
    rw [Getter.get_of_convertible .int w hvalue hv, (Getter.read_eq_none_iff .int hv).mpr ⟨rfl, hlong⟩]

/-- A text that is no integer, in an outer frame, and a warning of another value already given. -/
theorem unconvertible_values_reported_in_outer_frame :
    let scope : Scope := { root := .ofList [("n", .str "12 apples")], frames := [.ofList [("m", .null)]] }
    let w : Warnings := ({} : Warnings).warn "Context" "value null for 'm' is not an integer"
    let report := "value \"12 apples\" for 'n' is not an integer"
    (value? scope "n" = some (.str "12 apples") ∧ (Getter.int.get scope "n" w).1 = none) ∧
      (Getter.int.get scope "n" w).2.has "Context" report = true ∧ (Getter.int.get scope "n" w).2.count = 2 ∧
      (fun w => (Getter.int.get scope "n" w).2)^[3] w = (Getter.int.get scope "n" w).2 := by
  intro scope w report
  have hvalue : value? scope "n" = some (.str "12 apples") := rfl
  have hnone : (Getter.int.get scope "n" w).1 = none := by decide +kernel
  have hroom : ¬ (Getter.int = .int ∧ TooLong (.str "12 apples")) := by
    rintro ⟨-, n, hn, -⟩
    have hread : Json.toInt64? (.str "12 apples") = none := by decide +kernel
    rw [hread] at hn
    cases hn
  have htext : "value " ++ Json.text (.str "12 apples") ++ " for '" ++ "n" ++ "' is not " ++ Getter.int.wanted =
    report := by decide +kernel
  obtain ⟨-, -, hreported, -, hagain⟩ := unconvertible_values_reported .int scope "n" w
  obtain ⟨hhas, -, hcount⟩ := hreported _ hvalue hnone hroom
  rw [htext] at hhas hcount
  have hnew : w.has "Context" report = false := by decide +kernel
  rw [hnew] at hcount
  exact ⟨⟨hvalue, hnone⟩, hhas, hcount, hagain 2⟩

/-- **An integer that 32 bits have no room for is not reported.** There is a value and no answer, and no warning
of any kind is recorded. -/
theorem long_integer_not_reported :
    let store : Dict Json := .ofList [("n", .ofInt64 10000000000)]
    value? store "n" = some (.ofInt64 10000000000) ∧ Getter.int.get store "n" {} = (none, {}) ∧
      (∀ component message, (Getter.int.get store "n" {}).2.has component message = false) ∧
      ¬ ∀ (g : Getter) (store : Dict Json) (key : String) (v : Json) (w : Warnings),
        value? store key = some v → (g.get store key w).1 = none →
          (g.get store key w).2.has "Context" ("value " ++ v.text ++ " for '" ++ key ++ "' is not " ++ g.wanted) =
            true := by
  intro store
  have hget : Getter.int.get store "n" {} = (none, {}) := by decide +kernel
  refine ⟨rfl, hget, fun component message => by rw [hget]; rfl, fun hreported => ?_⟩
  have hhas := hreported .int store "n" (.ofInt64 10000000000) {} rfl (by rw [hget])
  rw [hget] at hhas
  cases hhas

end Hypertext.Bindings
