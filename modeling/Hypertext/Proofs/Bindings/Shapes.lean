import Hypertext.Context.Shape
import Mathlib.Data.List.Forall2

/-!
# Typed values as JSON

Storing typed values and reading them back is left to a library. What its documentation says of it is an interface here,
and what follows from the interface holds of every library that keeps to it.

* `Shape.Holds`: which JSON holds which value of a shape.
* `Shape.Documented`: a value is written so that the JSON holds it, and read from exactly the JSON that holds it. A
  double may be written otherwise, since one that is not finite has no JSON.
* `Shape.Documented.decode_encode`: under its own shape every value but a double is read back.
* `Shape.Documented.decode_uint32_encode`, `decode_collection`, `decode_number_str`: what is read under another shape.
* `Shape.documented`: the conversions of shapes keep to the interface.
-/

namespace Hypertext

/-- What is read item by item is read in a row. -/
theorem mapM_eq_some_iff {α β : Type} {read : α → Option β} {Rel : α → β → Prop}
    (h : ∀ a b, read a = some b ↔ Rel a b) {items : List α} {values : List β} :
    items.mapM read = some values ↔ List.Forall₂ Rel items values := by
  induction items generalizing values with
  | nil => simp [List.forall₂_nil_left_iff, eq_comm]
  | cons item items ih =>
    rw [List.mapM_cons, List.forall₂_cons_left_iff]
    simp only [Option.bind_eq_bind, Option.bind_eq_some_iff, Option.pure_def, Option.some.injEq, h, ih]
    constructor
    · rintro ⟨value, hvalue, rest, hrest, rfl⟩
      exact ⟨value, rest, hvalue, hrest, rfl⟩
    · rintro ⟨value, rest, hvalue, hrest, rfl⟩
      exact ⟨value, hvalue, rest, hrest, rfl⟩

namespace Shape

/-- The JSON holds the value. An integer is held by every number of that value that is no double, a missing text by
`null`, everything else by its like. -/
def Holds : (shape : Shape) → Json → shape.Value → Prop
  | .int64, v, n => v.integer? = some n.toInt
  | .uint32, v, n => v.integer? = some (n.toNat : Int)
  | .float, v, x => ∃ n, v = .num n ∧ n.toBinary64 = x
  | .string, v, s => v = .str s
  | .bool, v, b => v = .bool b
  | .optionalString, v, none => v = .null
  | .optionalString, v, some s => v = .str s
  | .int64s, v, ns => ∃ items, v = .arr items ∧ List.Forall₂ (fun item n => item.integer? = some n.toInt) items ns
  | .strings, v, ss => ∃ items, v = .arr items ∧ List.Forall₂ (fun item s => item = .str s) items ss
  | .dict, v, fields => v = .obj fields

/-- What is documented of writing and reading typed values. -/
structure Documented (encode : (shape : Shape) → shape.Value → Json)
    (decode : (shape : Shape) → Json → Option shape.Value) : Prop where
  /-- A value that is no double is written as JSON that holds it. -/
  writes : ∀ (shape : Shape) (x : shape.Value), shape ≠ .float → shape.Holds (encode shape x) x
  /-- A value is read from the JSON that holds it, and nothing is read from any other. -/
  reads : ∀ (shape : Shape) (v : Json) (x : shape.Value), decode shape v = some x ↔ shape.Holds v x

/-- Whether the values of the shape are single ones: numbers, truth values or texts, which may be missing. -/
def IsSingle : Shape → Prop
  | .int64 | .uint32 | .float | .string | .bool | .optionalString => True
  | .int64s | .strings | .dict => False

/-- Whether the values of the shape are numbers. -/
def IsNumber : Shape → Prop
  | .int64 | .uint32 | .float => True
  | _ => False

/-- A sequence or a dictionary holds no single value. -/
theorem not_holds_collection {shape : Shape} (h : shape.IsSingle) {v : Json}
    (hv : (∃ items, v = .arr items) ∨ ∃ fields, v = .obj fields) (x : shape.Value) : ¬ shape.Holds v x := by
  rcases hv with ⟨items, rfl⟩ | ⟨fields, rfl⟩
  all_goals
    cases shape with
    | int64 | uint32 | string | bool => rintro ⟨⟩
    | float => rintro ⟨n, ⟨⟩, -⟩
    | optionalString => cases x <;> rintro ⟨⟩
    | int64s | strings | dict => exact h.elim

/-- A text holds no number. -/
theorem not_holds_number_str {shape : Shape} (h : shape.IsNumber) (s : String) (x : shape.Value) :
    ¬ shape.Holds (.str s) x := by
  cases shape with
  | int64 | uint32 => rintro ⟨⟩
  | float => rintro ⟨n, ⟨⟩, -⟩
  | string | bool | optionalString | int64s | strings | dict => exact h.elim

namespace Documented

variable {encode : (shape : Shape) → shape.Value → Json} {decode : (shape : Shape) → Json → Option shape.Value}

/-- **Every value but a double is read back** under the shape under which it was stored. -/
theorem decode_encode (hdoc : Documented encode decode) {shape : Shape} (h : shape ≠ .float) (x : shape.Value) :
    decode shape (encode shape x) = some x :=
  (hdoc.reads shape _ x).mpr (hdoc.writes shape x h)

/-- **A 64-bit integer** is read as the unsigned 32-bit one that it is. -/
theorem decode_uint32_encode (hdoc : Documented encode decode) (n : Int64) (m : UInt32) :
    decode .uint32 (encode .int64 n) = some m ↔ (m.toNat : Int) = n.toInt := by
  have hwritten : (encode .int64 n).integer? = some n.toInt := hdoc.writes .int64 n (by decide)
  have hread : decode .uint32 (encode .int64 n) = some m ↔ (encode .int64 n).integer? = some (m.toNat : Int) :=
    hdoc.reads .uint32 _ m
  rw [hread, hwritten, Option.some.injEq]
  exact eq_comm

/-- It is read as one at all if it is in the range of these. -/
theorem isSome_decode_uint32_encode (hdoc : Documented encode decode) (n : Int64) :
    (decode .uint32 (encode .int64 n)).isSome = true ↔ 0 ≤ n.toInt ∧ n.toInt < 0x100000000 := by
  rw [Option.isSome_iff_exists, exists_congr (hdoc.decode_uint32_encode n)]
  constructor
  · rintro ⟨m, hm⟩
    have hroom : m.toNat < 0x100000000 := m.toNat_lt
    omega
  · rintro ⟨hnonneg, hroom⟩
    have hsize : n.toInt.toNat < UInt32.size := by
      have hvalue : UInt32.size = 0x100000000 := rfl
      omega
    refine ⟨UInt32.ofNat n.toInt.toNat, ?_⟩
    rw [UInt32.toNat_ofNat_of_lt' hsize]
    exact Int.toNat_of_nonneg hnonneg

/-- **A sequence or a dictionary** is never read as a single value. -/
theorem decode_collection (hdoc : Documented encode decode) {shape : Shape} (h : shape.IsSingle) {v : Json}
    (hv : (∃ items, v = .arr items) ∨ ∃ fields, v = .obj fields) : decode shape v = none :=
  Option.eq_none_iff_forall_ne_some.mpr fun x hx => not_holds_collection h hv x ((hdoc.reads shape v x).mp hx)

/-- **A text** is never read as a number. -/
theorem decode_number_str (hdoc : Documented encode decode) {shape : Shape} (h : shape.IsNumber) (s : String) :
    decode shape (.str s) = none :=
  Option.eq_none_iff_forall_ne_some.mpr fun x hx => not_holds_number_str h s x ((hdoc.reads shape _ x).mp hx)

end Documented

theorem bind_int64?_eq_some_iff {read : Option Int} {n : Int64} :
    read.bind int64? = some n ↔ read = some n.toInt := by
  cases read with
  | none =>
    constructor
    · rintro ⟨⟩
    · rintro ⟨⟩
  | some k =>
    rw [Option.bind_some, Option.some.injEq]
    constructor
    · intro h
      have hk : (int64? k).map Int64.toInt = some n.toInt := by rw [h]; rfl
      exact (int64?_map_toInt.mp hk).1
    · rintro rfl
      exact int64?_toInt n

theorem bind_uint32?_eq_some_iff {read : Option Int} {n : UInt32} :
    read.bind uint32? = some n ↔ read = some (n.toNat : Int) := by
  cases read with
  | none =>
    constructor
    · rintro ⟨⟩
    · rintro ⟨⟩
  | some k => rw [Option.bind_some, uint32?_eq_some_iff, Option.some.injEq, eq_comm]

theorem string?_eq_some_iff {v : Json} {s : String} : v.string? = some s ↔ v = .str s := by
  cases v <;> simp [Json.string?]

/-- Every value but a double is written as JSON that holds it. -/
theorem holds_encode {shape : Shape} (h : shape ≠ .float) (x : shape.Value) : shape.Holds (shape.encode x) x := by
  cases shape with
  | int64 => exact Json.integer?_ofInt64 x
  | uint32 => exact Json.integer?_ofUInt32 x
  | float => exact absurd rfl h
  | string | bool | dict => rfl
  | optionalString => cases x <;> rfl
  | int64s =>
    refine ⟨x.map .ofInt64, rfl, ?_⟩
    exact List.forall₂_map_left_iff.mpr (List.forall₂_same.mpr fun n _ => Json.integer?_ofInt64 n)
  | strings =>
    refine ⟨x.map .str, rfl, ?_⟩
    exact List.forall₂_map_left_iff.mpr (List.forall₂_same.mpr fun _ _ => rfl)

/-- A value is read from exactly the JSON that holds it. -/
theorem decode_eq_some_iff (shape : Shape) (v : Json) (x : shape.Value) :
    shape.decode v = some x ↔ shape.Holds v x := by
  cases shape with
  | int64 => exact bind_int64?_eq_some_iff
  | uint32 => exact bind_uint32?_eq_some_iff
  | float => cases v <;> simp [decode, Holds]
  | string => exact string?_eq_some_iff
  | bool => cases v <;> simp [decode, Holds]
  | optionalString => cases v <;> cases x <;> simp [decode, Holds]
  | int64s => cases v <;> simp [decode, Holds, mapM_eq_some_iff fun _ _ => bind_int64?_eq_some_iff]
  | strings => cases v <;> simp [decode, Holds, mapM_eq_some_iff fun _ _ => string?_eq_some_iff]
  | dict => cases v <;> simp [decode, Holds]

/-- **The conversions of shapes keep to what is documented.** -/
theorem documented : Documented encode decode where
  writes _ x h := holds_encode h x
  reads := decode_eq_some_iff

end Shape

end Hypertext
