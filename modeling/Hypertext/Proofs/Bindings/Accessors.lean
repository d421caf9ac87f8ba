import Hypertext.Proofs.Bindings.Reports
import Hypertext.Proofs.Text.Spelling

/-!
# Accessors and texts

The getters of integers and truth values agree with the text of the value, whatever kind of value it is, as long
as it is no double: numbers and truth values are converted as they are, texts by what they denote.

* `Json.toInt64?_map_toInt`: a value converts to the integer that its text denotes, if 64 bits have room for it.
* `Json.toBool?_eq_some_iff`: a value converts to the truth value that its text denotes.
* `Json.Shows`: an integer, or a text that spells it. `Json.toInt64?_of_shows`: both convert to the integer.
* `Bindings.accessors_agree_with_text`: what follows for the getters of a store.
-/

namespace Hypertext

namespace Json

variable {v : Json}

theorem bind_int64?_map_toInt {s : String} {n : Int} :
    ((Text.integer? (Text.trim s)).bind int64?).map Int64.toInt = some n ↔
      Text.DenotesInteger s n ∧ -0x8000000000000000 ≤ n ∧ n < 0x8000000000000000 := by
  rw [← Text.integer?_trim_iff]
  cases Text.integer? (Text.trim s) with
  | none =>
    constructor
    · rintro ⟨⟩
    · rintro ⟨⟨⟩, -⟩
  | some k => rw [Option.bind_some, int64?_map_toInt, Option.some.injEq]

theorem integer?_trim_decimal (n : Int) : Text.integer? (Text.trim (Text.decimal n)) = some n :=
  Text.integer?_trim_iff.mpr (Text.spells_decimal n).denotesInteger

/-- A value that is no double converts to an integer as its text does. -/
theorem toInt64?_eq (hfloat : ∀ x, v ≠ .num (.float x)) :
    v.toInt64? = v.toText?.bind fun s => (Text.integer? (Text.trim s)).bind int64? := by
  cases v with
  | num number =>
    cases number with
    | int n =>
      -- the number itself on one side, what is read back from its decimal digits on the other
      have htext : (Json.num (.int n)).toText? = some (Text.decimal n.toInt) := rfl
      rw [htext, Option.bind_some, integer?_trim_decimal]
      rfl
    | float x => exact absurd rfl (hfloat x)
  | bool b => cases b <;> decide +kernel
  | null | str | arr | obj => rfl

/-- **A value converts to the integer that its text denotes**, within the limits of 64 bits. -/
theorem toInt64?_map_toInt (hfloat : ∀ x, v ≠ .num (.float x)) {n : Int} :
    v.toInt64?.map Int64.toInt = some n ↔
      (∃ s, v.toText? = some s ∧ Text.DenotesInteger s n) ∧ -0x8000000000000000 ≤ n ∧ n < 0x8000000000000000 := by
  rw [toInt64?_eq hfloat]
  cases v.toText? with
  | none =>
    constructor
    · rintro ⟨⟩
    · rintro ⟨⟨_, ⟨⟩, -⟩, -⟩
  | some s =>
    rw [Option.bind_some, bind_int64?_map_toInt]
    simp only [Option.some.injEq, exists_eq_left']

theorem toBool?_str (s : String) {b : Bool} : (Json.str s).toBool? = some b ↔ Text.DenotesTruth s b := by
  have hread : (Json.str s).toBool? =
      if Text.sameIgnoringCase (Text.trim s) (Text.truthWord true) then some true
      else if Text.sameIgnoringCase (Text.trim s) (Text.truthWord false) then some false
      else none := rfl
  rw [hread]
  constructor
  · intro h
    split at h
    · rename_i htrue
      cases h
      exact Text.sameIgnoringCase_trim_iff.mp htrue
    · split at h
      · rename_i hfalse
        cases h
        exact Text.sameIgnoringCase_trim_iff.mp hfalse
      · cases h
  · intro h
    cases b with
    | true => rw [if_pos (Text.sameIgnoringCase_trim_iff.mpr h)]
    | false =>
      have htrue : ¬ Text.sameIgnoringCase (Text.trim s) (Text.truthWord true) = true := by
        intro htrue
        cases (Text.sameIgnoringCase_trim_iff.mp htrue).unique h
      rw [if_neg htrue, if_pos (Text.sameIgnoringCase_trim_iff.mpr h)]

/-- **A value converts to the truth value that its text denotes.** -/
theorem toBool?_eq_some_iff (hfloat : ∀ x, v ≠ .num (.float x)) {b : Bool} :
    v.toBool? = some b ↔ ∃ s, v.toText? = some s ∧ Text.DenotesTruth s b := by
  cases v with
  | num number =>
    cases number with
    | int n =>
      -- no number is a truth value, and no decimal text a word for one
      constructor
      · rintro ⟨⟩
      · rintro ⟨s, ⟨⟩, htruth⟩
        exact absurd htruth (Text.spells_decimal n.toInt).denotesInteger.not_denotesTruth
    | float x => exact absurd rfl (hfloat x)
  | bool c =>
    have htext : (Json.bool c).toText? = some (Text.truthWord c) := by cases c <;> rfl
    have hword : Text.DenotesTruth (Text.truthWord c) c :=
      ⟨_, Text.within_self _, Text.sameIgnoringCase_iff.mp (beq_self_eq_true _)⟩
    rw [htext]
    constructor
    · rintro ⟨⟩
      exact ⟨_, rfl, hword⟩
    · rintro ⟨s, ⟨⟩, htruth⟩
      rw [toBool?, hword.unique htruth]
  | str s => rw [toBool?_str]; simp only [toText?, Option.some.injEq, exists_eq_left']
  | null | arr | obj =>
    constructor
    · rintro ⟨⟩
    · rintro ⟨_, ⟨⟩, -⟩

/-- The value is the integer, or a text that spells it. -/
def Shows (v : Json) (n : Int) : Prop :=
  v.integer? = some n ∨ ∃ s, v = .str s ∧ Text.Spells s n

theorem toInt64?_of_integer? {n : Int} (h : v.integer? = some n) : v.toInt64? = int64? n := by
  cases v with
  | num number =>
    cases number with
    | int k => exact congrArg int64? (Option.some.inj h)
    | float x => cases h
  | null | bool | str | arr | obj => cases h

/-- **An integer and all its spellings convert to it.** -/
theorem toInt64?_of_shows {n : Int64} (h : v.Shows n.toInt) : v.toInt64? = some n := by
  have hroom : int64? n.toInt = some n := int64?_toInt n
  rcases h with hinteger | ⟨s, rfl, hspells⟩
  · rw [toInt64?_of_integer? hinteger, hroom]
  · rw [toInt64?, Text.integer?_trim_iff.mpr hspells.denotesInteger, Option.bind_some, hroom]

end Json

namespace Bindings

section

variable {β : Type} [Bindings β] {store : β} {key : String}

theorem getLong_map_toInt (hfloat : ∀ x, value? store key ≠ some (.num (.float x))) (w : Warnings) {n : Int} :
    (getLong store key w).1.map Int64.toInt = some n ↔
      (∃ s, getString store key = some s ∧ Text.DenotesInteger s n) ∧
        -0x8000000000000000 ≤ n ∧ n < 0x8000000000000000 := by
  have hlong : (getLong store key w).1 = (value? store key).bind Json.toInt64? := Getter.long.get_fst store key w
  rw [hlong, getString]
  cases hvalue : value? store key with
  | none =>
    constructor
    · rintro ⟨⟩
    · rintro ⟨⟨_, ⟨⟩, -⟩, -⟩
  | some v => exact Json.toInt64?_map_toInt fun x hx => hfloat x (hx ▸ hvalue)

theorem getInt_map_toInt (w : Warnings) {n : Int} :
    (getInt store key w).1.map Int32.toInt = some n ↔
      (getLong store key w).1.map Int64.toInt = some n ∧ -0x80000000 ≤ n ∧ n < 0x80000000 := by
  have hint : (getInt store key w).1 = (getLong store key w).1.bind fun n => int32? n.toInt := rfl
  rw [hint]
  cases (getLong store key w).1 with
  | none =>
    constructor
    · rintro ⟨⟩
    · rintro ⟨⟨⟩, -⟩
  | some k => rw [Option.bind_some, int32?_map_toInt, Option.map_some, Option.some.injEq]

theorem getBool_eq_some_iff (hfloat : ∀ x, value? store key ≠ some (.num (.float x))) (w : Warnings) {b : Bool} :
    (getBool store key w).1 = some b ↔ ∃ s, getString store key = some s ∧ Text.DenotesTruth s b := by
  have hbool : (getBool store key w).1 = (value? store key).bind Json.toBool? := Getter.bool.get_fst store key w
  rw [hbool, getString]
  cases hvalue : value? store key with
  | none =>
    constructor
    · rintro ⟨⟩
    · rintro ⟨_, ⟨⟩, -⟩
  | some v => exact Json.toBool?_eq_some_iff fun x hx => hfloat x (hx ▸ hvalue)

/-- The getters of integers do not tell an integer from a text that spells it. -/
theorem get_of_shows {v : Json} {n : Int64} (hvalue : value? store key = some v) (h : v.Shows n.toInt)
    (w : Warnings) : getLong store key w = (some n, w) ∧ getInt store key w = (int32? n.toInt, w) := by
  have hread : v.toInt64? = some n := Json.toInt64?_of_shows h
  have hconvertible : v.toInt64?.isSome := Option.isSome_iff_exists.mpr ⟨n, hread⟩
  constructor
  · have hlong : getLong store key w = (v.toInt64?, w) := Getter.long.get_of_convertible w hvalue hconvertible
    rw [hlong, hread]
  · have hint : getInt store key w = (v.toInt64?.bind fun n => int32? n.toInt, w) :=
      Getter.int.get_of_convertible w hvalue hconvertible
    rw [hint, hread, Option.bind_some]

end

/-- **The accessors agree with the text of the value**, whatever value that is no double the key has, if any.

The 64-bit integer is the one that the text denotes: an optional sign and ASCII digits with white space around
them. It is found exactly if 64 bits have room for it, and then as a 32-bit integer exactly if 32 bits have. The
truth value is the one whose word the text is, in some letter case and with white space around it. An integer and
the texts that spell it, with leading zeros, a fitting sign and white space, give the same answers. -/
theorem accessors_agree_with_text {β : Type} [Bindings β] (store : β) (key : String) (w : Warnings)
    (hfloat : ∀ x, value? store key ≠ some (.num (.float x))) :
    (∀ n, (getLong store key w).1.map Int64.toInt = some n ↔
        (∃ s, getString store key = some s ∧ Text.DenotesInteger s n) ∧
          -0x8000000000000000 ≤ n ∧ n < 0x8000000000000000) ∧
      (∀ n, (getInt store key w).1.map Int32.toInt = some n ↔
        (getLong store key w).1.map Int64.toInt = some n ∧ -0x80000000 ≤ n ∧ n < 0x80000000) ∧
      (∀ b, (getBool store key w).1 = some b ↔ ∃ s, getString store key = some s ∧ Text.DenotesTruth s b) ∧
      ∀ (n : Int64) (v : Json), value? store key = some v → v.Shows n.toInt →
        getLong store key w = (some n, w) ∧ getInt store key w = (int32? n.toInt, w) := by
  refine ⟨fun n => ?_, fun n => ?_, fun b => ?_, fun n v hvalue hshows => ?_⟩
  · exact getLong_map_toInt hfloat w
  · exact getInt_map_toInt w
  · exact getBool_eq_some_iff hfloat w
  · exact get_of_shows hvalue hshows w

/-- The least of all 64-bit integers, spelled with zeros and an ideographic space in an outer frame, has no room
in 32 bits. -/
theorem accessors_agree_with_text_least_integer :
    let text := "\u3000-0009223372036854775808\n"
    let scope : Scope := { root := .ofList [("n", .str text)], frames := [.ofList [("m", .null)]] }
    (∀ x, value? scope "n" ≠ some (.num (.float x))) ∧
      (value? scope "n" = some (.str text) ∧ Json.Shows (.str text) Int64.minValue.toInt) ∧
      (getLong scope "n" {} = (some Int64.minValue, {}) ∧ getInt scope "n" {} = (none, {})) ∧
      ((getLong scope "n" {}).1.map Int64.toInt = some (-0x8000000000000000) ∧
        ∃ s, getString scope "n" = some s ∧ Text.DenotesInteger s (-0x8000000000000000)) := by
  intro text scope
  have hfloat : ∀ x, value? scope "n" ≠ some (.num (.float x)) := by
    rintro x ⟨⟩
  have hvalue : value? scope "n" = some (.str text) := rfl
  have hshows : Json.Shows (.str text) Int64.minValue.toInt := by
    refine .inr ⟨text, rfl, .minus, 3, by decide +kernel, ['\u3000'], ['\n'], by decide +kernel, ?_, ?_⟩
    · exact List.forall_mem_singleton.mpr (by decide)
    · exact List.forall_mem_singleton.mpr (by decide)
  obtain ⟨hlong, -, -, hspelled⟩ := accessors_agree_with_text scope "n" {} hfloat
  obtain ⟨hleast, hint⟩ := hspelled Int64.minValue (.str text) hvalue hshows
  have hanswer : (getLong scope "n" {}).1.map Int64.toInt = some (-0x8000000000000000) := by
    rw [hleast]
    rfl
  exact ⟨hfloat, ⟨hvalue, hshows⟩, ⟨hleast, hint⟩, hanswer, ((hlong _).mp hanswer).1⟩

end Bindings

end Hypertext
