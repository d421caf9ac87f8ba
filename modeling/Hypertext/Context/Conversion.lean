import Hypertext.Json.Printer
import Hypertext.Text.Blank

/-!
# Converting values

How a value reads as a text, an integer, a number or a truth value. Numbers and truth values are
written out as texts; a text counts as what it denotes between the white space at its ends.

* `int64?_map_toInt`, `int32?_map_toInt`, `uint32?_eq_some_iff`: an integer of a width is the same integer, within exact
  limits.
-/

namespace Hypertext

/-- The double nearest to a number. -/
def Number.toBinary64 : Number → Binary64
  | .int n => Binary64.ofInt n.toInt
  | .float x => x.value

/-- The 64-bit signed integer of this value, if it is in range. -/
def int64? (n : Int) : Option Int64 :=
  if Int64.minValue.toInt ≤ n ∧ n ≤ Int64.maxValue.toInt then some (Int64.ofInt n) else none

/-- The 32-bit signed integer of this value, if it is in range. -/
def int32? (n : Int) : Option Int32 :=
  if Int32.minValue.toInt ≤ n ∧ n ≤ Int32.maxValue.toInt then some (Int32.ofInt n) else none

/-- The 32-bit unsigned integer of this value, if it is in range. -/
def uint32? (n : Int) : Option UInt32 :=
  if 0 ≤ n ∧ n < UInt32.size then some (UInt32.ofNat n.toNat) else none

theorem int64?_map_toInt {k n : Int} :
    (int64? k).map Int64.toInt = some n ↔ k = n ∧ -0x8000000000000000 ≤ n ∧ n < 0x8000000000000000 := by
  have hmin : Int64.minValue.toInt = -0x8000000000000000 := rfl
  have hmax : Int64.maxValue.toInt = 0x7fffffffffffffff := rfl
  unfold int64?
  rw [hmin, hmax]
  split
  · rename_i hrange
    have hk : (Int64.ofInt k).toInt = k := Int64.toInt_ofInt_of_le hrange.1 (by omega)
    rw [Option.map_some, hk, Option.some.injEq]
    constructor
    · rintro rfl
      omega
    · rintro ⟨rfl, -⟩
      rfl
  · constructor
    · rintro ⟨⟩
    · rintro ⟨rfl, hrange⟩
      omega

theorem int32?_map_toInt {k n : Int} :
    (int32? k).map Int32.toInt = some n ↔ k = n ∧ -0x80000000 ≤ n ∧ n < 0x80000000 := by
  have hmin : Int32.minValue.toInt = -0x80000000 := rfl
  have hmax : Int32.maxValue.toInt = 0x7fffffff := rfl
  unfold int32?
  rw [hmin, hmax]
  split
  · rename_i hrange
    have hk : (Int32.ofInt k).toInt = k := Int32.toInt_ofInt_of_le hrange.1 (by omega)
    rw [Option.map_some, hk, Option.some.injEq]
    constructor
    · rintro rfl
      omega
    · rintro ⟨rfl, -⟩
      rfl
  · constructor
    · rintro ⟨⟩
    · rintro ⟨rfl, hrange⟩
      omega

theorem int32?_eq_none_iff {n : Int} : int32? n = none ↔ n < -0x80000000 ∨ 0x80000000 ≤ n := by
  have hmin : Int32.minValue.toInt = -0x80000000 := rfl
  have hmax : Int32.maxValue.toInt = 0x7fffffff := rfl
  unfold int32?
  rw [hmin, hmax]
  split
  · constructor
    · rintro ⟨⟩
    · omega
  · exact ⟨fun _ => by omega, fun _ => rfl⟩

theorem int64?_toInt (n : Int64) : int64? n.toInt = some n := by
  obtain ⟨m, hm, hmn⟩ := Option.map_eq_some_iff.mp (int64?_map_toInt.mpr ⟨rfl, n.le_toInt, n.toInt_lt⟩)
  rw [hm, Int64.toInt_inj.mp hmn]

/-- An integer is read as the unsigned one that it is. -/
theorem uint32?_eq_some_iff {n : Int} {m : UInt32} : uint32? n = some m ↔ (m.toNat : Int) = n := by
  have hroom : m.toNat < UInt32.size := m.toNat_lt
  unfold uint32?
  split
  · rename_i hrange
    have hnat : n.toNat < UInt32.size := by omega
    have hback : (UInt32.ofNat n.toNat).toNat = n.toNat := UInt32.toNat_ofNat_of_lt' hnat
    rw [Option.some.injEq, ← UInt32.toNat_inj, hback]
    omega
  · rename_i hrange
    constructor
    · rintro ⟨⟩
    · rintro rfl
      exact absurd ⟨Int.natCast_nonneg _, by omega⟩ hrange

namespace Json

/-- The value as a text; sequences, dictionaries and nothing have none. -/
def toText? : Json → Option String
  | .str s => some s
  | .num n => some n.text
  | .bool true => some "true"
  | .bool false => some "false"
  | _ => none

/-- The value as a 64-bit integer. A double is none, even a whole one. -/
def toInt64? : Json → Option Int64
  | .num (.int n) => int64? n.toInt
  | .str s => (Text.integer? (Text.trim s)).bind int64?
  | _ => none

/-- The value as a double. -/
def toBinary64? : Json → Option Binary64
  | .num n => some n.toBinary64
  | .str s => Binary64.ofText? (Text.trim s)
  | _ => none

/-- The value as a truth value; a text must read `true` or `false` in any letter case. -/
def toBool? : Json → Option Bool
  | .bool b => some b
  | .str s =>
    if Text.sameIgnoringCase (Text.trim s) "true" then some true
    else if Text.sameIgnoringCase (Text.trim s) "false" then some false
    else none
  | _ => none

end Json

end Hypertext
