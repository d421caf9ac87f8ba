import Hypertext.Text.Blank
import Hypertext.Text.Numeral
import Mathlib.Data.List.Forall2
import Mathlib.Data.List.TakeWhile
import Mathlib.Data.Nat.Digits.Defs

/-!
# Spellings

What it means that a text is a word in some letter case, or a number, when white space at its ends does not count.

* `SameLetters`: the same characters up to the case of ASCII letters. `sameIgnoringCase_iff`: the comparison
  decides it.
* `Within`: a body with white space before and after it. `trimChars_iff`: trimming leaves such a body, if it has
  no white space in it.
* `SignedDigits`: an optional sign and digits, with the integer that they denote by the places of the digits.
  `integer?_trim_iff`: the reader of integers finds exactly these.
* `Spells`: the decimal digits of an integer with leading zeros, a fitting sign and white space around them;
  `Spells.denotesInteger`: they denote it.
* `DenotesTruth`: the word for a truth value. `sameIgnoringCase_trim_iff`: the reader of truth values finds it;
  no text denotes both of them, or one and an integer (`DenotesInteger.not_denotesTruth`).
-/

namespace Hypertext.Text

/-! ### Letter case -/

/-- The first character is an ASCII capital and the second one its small letter. -/
def CapitalOf (c d : Char) : Prop :=
  'A'.toNat ≤ c.toNat ∧ c.toNat ≤ 'Z'.toNat ∧ d.toNat = c.toNat + 32

/-- The same character, or the capital and the small form of one ASCII letter. -/
def SameLetter (c d : Char) : Prop :=
  c = d ∨ CapitalOf c d ∨ CapitalOf d c

/-- The same characters in the same order, up to the case of ASCII letters. -/
def SameLetters (cs ds : List Char) : Prop :=
  List.Forall₂ SameLetter cs ds

theorem toNat_toLower (c : Char) :
    c.toLower.toNat = if 'A'.toNat ≤ c.toNat ∧ c.toNat ≤ 'Z'.toNat then c.toNat + 32 else c.toNat := by
  have hcapital : (c.val ≥ 'A'.val ∧ c.val ≤ 'Z'.val) ↔ 'A'.toNat ≤ c.toNat ∧ c.toNat ≤ 'Z'.toNat := by
    rw [ge_iff_le, UInt32.le_iff_toNat_le, UInt32.le_iff_toNat_le]
    rfl
  unfold Char.toLower
  by_cases h : c.val ≥ 'A'.val ∧ c.val ≤ 'Z'.val
  · have hrange := hcapital.mp h
    have hsum : (c.val + ('a'.val - 'A'.val)).toNat = c.toNat + 32 := by
      have hsmall : c.toNat ≤ 90 := hrange.2
      rw [UInt32.toNat_add]
      exact Nat.mod_eq_of_lt (Nat.lt_of_le_of_lt (Nat.add_le_add_right hsmall _) (by decide))
    rw [dif_pos h, if_pos hrange]
    exact hsum
  · rw [dif_neg h, if_neg fun hrange => h (hcapital.mpr hrange)]

theorem toLower_eq_iff {c d : Char} : c.toLower = d.toLower ↔ SameLetter c d := by
  have hA : 'A'.toNat = 65 := rfl
  have hZ : 'Z'.toNat = 90 := rfl
  unfold SameLetter CapitalOf
  rw [← Char.toNat_inj, ← Char.toNat_inj, toNat_toLower, toNat_toLower, hA, hZ]
  split <;> split <;> omega

theorem sameIgnoringCase_iff {s t : String} : sameIgnoringCase s t = true ↔ SameLetters s.toList t.toList := by
  unfold sameIgnoringCase lowerChars SameLetters
  rw [beq_iff_eq, ← List.forall₂_eq_eq_eq, List.forall₂_map_left_iff, List.forall₂_map_right_iff]
  simp only [toLower_eq_iff]

/-! ### White space at the ends -/

/-- The characters are the body with white space before and after it. -/
def Within (cs body : List Char) : Prop :=
  ∃ before after, cs = before ++ body ++ after ∧ (∀ c ∈ before, isBlank c = true) ∧ ∀ c ∈ after, isBlank c = true

/-- White space in front is dropped up to a character that is none. -/
theorem dropWhile_blank {before rest : List Char} (hbefore : ∀ c ∈ before, isBlank c = true)
    (hrest : ∀ c ∈ rest.head?, isBlank c = false) : (before ++ rest).dropWhile isBlank = rest := by
  rw [List.dropWhile_append_of_pos hbefore]
  cases rest with
  | nil => rfl
  | cons c rest => exact List.dropWhile_cons_of_neg (ne_true_of_eq_false (hrest c rfl))

/-- Trimming takes away what is white space before and after. -/
theorem within_trimChars (cs : List Char) : Within cs (trimChars cs) := by
  have hback : (cs.dropWhile isBlank).reverse.takeWhile isBlank ++ (cs.dropWhile isBlank).reverse.dropWhile isBlank =
    (cs.dropWhile isBlank).reverse := List.takeWhile_append_dropWhile
  refine ⟨cs.takeWhile isBlank, ((cs.dropWhile isBlank).reverse.takeWhile isBlank).reverse, ?_,
    fun c hc => List.mem_takeWhile_imp hc, fun c hc => List.mem_takeWhile_imp (List.mem_reverse.mp hc)⟩
  unfold trimChars
  rw [List.append_assoc, ← List.reverse_append, hback, List.reverse_reverse, List.takeWhile_append_dropWhile]

/-- A body without white space in it is all that trimming leaves. -/
theorem trimChars_eq_of_within {cs body : List Char} (h : Within cs body) (hbody : ∀ c ∈ body, isBlank c = false) :
    trimChars cs = body := by
  obtain ⟨before, after, rfl, hbefore, hafter⟩ := h
  have hback : (after.reverse ++ body.reverse).dropWhile isBlank = body.reverse :=
    dropWhile_blank (fun c hc => hafter c (List.mem_reverse.mp hc))
      fun c hc => hbody c (List.mem_reverse.mp (List.mem_of_mem_head? hc))
  unfold trimChars
  cases body with
  | nil =>
    -- all of it is white space, and dropped from the front
    have hall : (before ++ [] ++ after).dropWhile isBlank = [] := by
      rw [List.append_nil, List.dropWhile_append_of_pos hbefore]
      exact List.dropWhile_eq_nil_iff.mpr hafter
    rw [hall]
    rfl
  | cons c body =>
    have hfront : (before ++ (c :: body ++ after)).dropWhile isBlank = c :: body ++ after := by
      apply dropWhile_blank hbefore
      rintro d ⟨⟩
      exact hbody c List.mem_cons_self
    rw [List.append_assoc, hfront, List.reverse_append, hback, List.reverse_reverse]

/-- **Trimming** leaves a body of some kind exactly if there is one with white space around it, as long as bodies
of that kind have no white space in them. -/
theorem trimChars_iff {P : List Char → Prop} (hbody : ∀ body, P body → ∀ c ∈ body, isBlank c = false)
    {cs : List Char} : P (trimChars cs) ↔ ∃ body, Within cs body ∧ P body := by
  constructor
  · intro h
    exact ⟨trimChars cs, within_trimChars cs, h⟩
  · rintro ⟨body, hwithin, h⟩
    rw [trimChars_eq_of_within hwithin (hbody body h)]
    exact h

/-- Visible ASCII characters are no white space. -/
theorem isBlank_eq_false {c : Char} (h : 0x20 < c.toNat ∧ c.toNat < 0x7F) : isBlank c = false := by
  simp [isBlank, blankRanges]
  omega

/-! ### Integers -/

/-- The value of decimal digits by their places, the units last. -/
def placeValue (digits : List Char) : Nat :=
  Nat.ofDigits 10 (digits.reverse.map fun d => d.toNat - '0'.toNat)

/-- What may stand before digits. -/
inductive Sign where
  | none
  | plus
  | minus
deriving DecidableEq, Repr

namespace Sign

/-- How the sign is written. -/
def chars : Sign → List Char
  | none => []
  | plus => ['+']
  | minus => ['-']

/-- The integer of this size with the sign. -/
def apply (n : Nat) : Sign → Int
  | none | plus => n
  | minus => -n

end Sign

/-- One or more ASCII digits, in which all places count. -/
def Digits (digits : List Char) : Prop :=
  digits ≠ [] ∧ ∀ d ∈ digits, d.isDigit = true

/-- An optional sign and one or more ASCII digits that denote the integer. -/
def SignedDigits (n : Int) (cs : List Char) : Prop :=
  ∃ (sign : Sign) (digits : List Char), cs = sign.chars ++ digits ∧ Digits digits ∧ n = sign.apply (placeValue digits)

/-- The text is an optional sign and digits that denote the integer, with white space around them. -/
def DenotesInteger (s : String) (n : Int) : Prop :=
  ∃ body, Within s.toList body ∧ SignedDigits n body

theorem ofDigitChars_eq_placeValue (digits : List Char) : Nat.ofDigitChars 10 digits 0 = placeValue digits := by
  rw [placeValue, Nat.ofDigits_eq_foldr, List.foldr_map, List.foldr_reverse, Nat.ofDigitChars_eq_foldl]
  congr 1
  funext n d
  exact Nat.add_comm _ _

theorem digits?_eq_some_iff {digits : List Char} {n : Nat} :
    digits? digits = some n ↔ Digits digits ∧ n = placeValue digits := by
  have hdigits : (!digits.isEmpty && digits.all Char.isDigit) = true ↔ Digits digits := by
    rw [Bool.and_eq_true, Bool.not_eq_eq_eq_not, Bool.not_true, List.isEmpty_eq_false_iff, List.all_eq_true]
    rfl
  unfold digits?
  rw [ofDigitChars_eq_placeValue]
  by_cases h : Digits digits
  · rw [if_pos (hdigits.mpr h), Option.some.injEq]
    exact ⟨fun hn => ⟨h, hn.symm⟩, fun hn => hn.2.symm⟩
  · rw [if_neg fun hd => h (hdigits.mp hd)]
    exact ⟨fun hn => (by cases hn), fun hn => absurd hn.1 h⟩

/-- No digit is a sign. -/
theorem ne_sign_of_isDigit {d : Char} (h : d.isDigit = true) : d ≠ '+' ∧ d ≠ '-' := by
  constructor <;> (rintro rfl; exact absurd h (by decide))

theorem integerChars?_eq_digits? {d : Char} (h : d.isDigit = true) (digits : List Char) :
    integerChars? (d :: digits) = (digits? (d :: digits)).map Int.ofNat := by
  obtain ⟨hplus, hminus⟩ := ne_sign_of_isDigit h
  unfold integerChars?
  split
  · rename_i heq
    exact absurd (List.cons.inj heq).1 hplus
  · rename_i heq
    exact absurd (List.cons.inj heq).1 hminus
  · rfl

/-- **The reader of integers** accepts exactly signed digits, and finds what they denote. -/
theorem integerChars?_eq_some_iff {cs : List Char} {n : Int} : integerChars? cs = some n ↔ SignedDigits n cs := by
  constructor
  · intro h
    unfold integerChars? at h
    split at h
    all_goals
      obtain ⟨m, hm, rfl⟩ := Option.map_eq_some_iff.mp h
      obtain ⟨hdigits, rfl⟩ := digits?_eq_some_iff.mp hm
    · exact ⟨.plus, _, rfl, hdigits, rfl⟩
    · exact ⟨.minus, _, rfl, hdigits, rfl⟩
    · exact ⟨.none, _, rfl, hdigits, rfl⟩
  · rintro ⟨sign, digits, rfl, hdigits, rfl⟩
    have hread : digits? digits = some (placeValue digits) := digits?_eq_some_iff.mpr ⟨hdigits, rfl⟩
    cases sign with
    | plus => rw [Sign.chars, List.singleton_append, integerChars?, hread]; rfl
    | minus => rw [Sign.chars, List.singleton_append, integerChars?, hread]; rfl
    | none =>
      obtain ⟨hne, hall⟩ := hdigits
      obtain ⟨d, rest, rfl⟩ := List.exists_cons_of_ne_nil hne
      rw [Sign.chars, List.nil_append, integerChars?_eq_digits? (hall d List.mem_cons_self), hread]
      rfl

/-- Signed digits are visible characters before the letters. -/
theorem SignedDigits.char_range {n : Int} {cs : List Char} (h : SignedDigits n cs) :
    ∀ c ∈ cs, 0x20 < c.toNat ∧ c.toNat < 'A'.toNat := by
  obtain ⟨sign, digits, rfl, ⟨-, hall⟩, -⟩ := h
  intro c hc
  rcases List.mem_append.mp hc with hsign | hdigit
  · have hsigns : sign.chars.all fun c => decide (0x20 < c.toNat ∧ c.toNat < 'A'.toNat) := by cases sign <;> decide
    exact decide_eq_true_iff.mp (List.all_eq_true.mp hsigns c hsign)
  · have hA : 'A'.toNat = 65 := rfl
    have hrange : 48 ≤ c.toNat ∧ c.toNat ≤ 57 := Char.isDigit_iff_toNat.mp (hall c hdigit)
    omega

theorem SignedDigits.ne_nil {n : Int} {cs : List Char} (h : SignedDigits n cs) : cs ≠ [] := by
  obtain ⟨sign, digits, rfl, ⟨hne, -⟩, -⟩ := h
  exact List.append_ne_nil_of_right_ne_nil _ hne

/-- There is no white space in signed digits. -/
theorem SignedDigits.not_blank {n : Int} {cs : List Char} (h : SignedDigits n cs) :
    ∀ c ∈ cs, isBlank c = false := by
  intro c hc
  have hA : 'A'.toNat = 65 := rfl
  have hrange := h.char_range c hc
  exact isBlank_eq_false (by omega)

theorem integer?_trim_iff {s : String} {n : Int} : integer? (trim s) = some n ↔ DenotesInteger s n := by
  rw [integer?, trim, String.toList_ofList, integerChars?_eq_some_iff]
  exact trimChars_iff (P := SignedDigits n) fun body h => h.not_blank

/-- A spelling of an integer: its decimal digits after any number of zeros, with a sign before them that makes it
this integer, and white space around them. -/
def Spells (s : String) (n : Int) : Prop :=
  ∃ (sign : Sign) (zeros : Nat), sign.apply n.natAbs = n ∧
    Within s.toList (sign.chars ++ (List.replicate zeros '0' ++ Nat.toDigits 10 n.natAbs))

theorem digits_toDigits (zeros n : Nat) : Digits (List.replicate zeros '0' ++ Nat.toDigits 10 n) := by
  refine ⟨List.append_ne_nil_of_right_ne_nil _ Nat.toDigits_ne_nil, fun d hd => ?_⟩
  rcases List.mem_append.mp hd with hzero | hdigit
  · rw [List.eq_of_mem_replicate hzero]
    rfl
  · exact Nat.isDigit_of_mem_toDigits (by decide) (by decide) hdigit

theorem placeValue_toDigits (zeros n : Nat) :
    placeValue (List.replicate zeros '0' ++ Nat.toDigits 10 n) = n := by
  rw [← ofDigitChars_eq_placeValue, Nat.ofDigitChars_append, Nat.ofDigitChars_replicate_zero, Nat.mul_zero,
    Nat.ofDigitChars_ten_toDigits]

/-- **Every spelling of an integer denotes it.** -/
theorem Spells.denotesInteger {s : String} {n : Int} (h : Spells s n) : DenotesInteger s n := by
  obtain ⟨sign, zeros, hsign, hwithin⟩ := h
  refine ⟨_, hwithin, sign, _, rfl, digits_toDigits zeros n.natAbs, ?_⟩
  rw [placeValue_toDigits, hsign]

theorem within_self (cs : List Char) : Within cs cs :=
  ⟨[], [], (List.append_nil cs).symm, List.forall_mem_nil _, List.forall_mem_nil _⟩

/-- The decimal form of an integer is a spelling of it. -/
theorem spells_decimal (n : Int) : Spells (decimal n) n := by
  unfold decimal
  split
  · rename_i hneg
    refine ⟨.minus, 0, by simp only [Sign.apply]; omega, ?_⟩
    rw [String.toList_append, decimalNat, String.toList_ofList, String.toList_ofList]
    exact within_self _
  · rename_i hpos
    refine ⟨.none, 0, by simp only [Sign.apply]; omega, ?_⟩
    rw [decimalNat, String.toList_ofList]
    exact within_self _

/-! ### Truth values -/

/-- The word for a truth value. -/
def truthWord : Bool → String
  | true => "true"
  | false => "false"

/-- The text is the word for the truth value in some letter case, with white space around it. -/
def DenotesTruth (s : String) (b : Bool) : Prop :=
  ∃ body, Within s.toList body ∧ SameLetters body (truthWord b).toList

/-- Small letters in any letter case are letters. -/
theorem SameLetters.char_range {cs ds : List Char} (h : SameLetters cs ds) (hds : ∀ d ∈ ds, d.isLower = true) :
    ∀ c ∈ cs, 'A'.toNat ≤ c.toNat ∧ c.toNat ≤ 'z'.toNat := by
  induction h with
  | nil => exact List.forall_mem_nil _
  | @cons c d cs ds hcd hrest ih =>
    obtain ⟨hd, hds⟩ := List.forall_mem_cons.mp hds
    have hlower : 97 ≤ d.toNat ∧ d.toNat ≤ 122 := by
      obtain ⟨hleast, hgreatest⟩ := Bool.and_eq_true_iff.mp hd
      exact ⟨of_decide_eq_true hleast, of_decide_eq_true hgreatest⟩
    have hrange : 'A'.toNat ≤ c.toNat ∧ c.toNat ≤ 'z'.toNat := by
      have hA : 'A'.toNat = 65 := rfl
      have hZ : 'Z'.toNat = 90 := rfl
      have hz : 'z'.toNat = 122 := rfl
      rcases hcd with rfl | ⟨-, -, hcapital⟩ | ⟨-, hcapital, -⟩ <;> omega
    exact List.forall_mem_cons.mpr ⟨hrange, ih hds⟩

theorem isLower_truthWord (b : Bool) : ∀ c ∈ (truthWord b).toList, c.isLower = true := by
  have hall : (truthWord b).toList.all Char.isLower := by cases b <;> decide
  exact List.all_eq_true.mp hall

/-- There is no white space in a word for a truth value. -/
theorem not_blank_of_truthWord {cs : List Char} {b : Bool} (h : SameLetters cs (truthWord b).toList) :
    ∀ c ∈ cs, isBlank c = false := by
  intro c hc
  have hA : 'A'.toNat = 65 := rfl
  have hz : 'z'.toNat = 122 := rfl
  have hrange := h.char_range (isLower_truthWord b) c hc
  exact isBlank_eq_false (by omega)

theorem sameIgnoringCase_trim_iff {s : String} {b : Bool} :
    sameIgnoringCase (trim s) (truthWord b) = true ↔ DenotesTruth s b := by
  rw [sameIgnoringCase_iff, trim, String.toList_ofList]
  exact trimChars_iff (P := fun body => SameLetters body (truthWord b).toList) fun body h => not_blank_of_truthWord h

/-- A text denotes one truth value at most. -/
theorem DenotesTruth.unique {s : String} {b b' : Bool} (h : DenotesTruth s b) (h' : DenotesTruth s b') : b = b' := by
  have hwords : lowerChars (truthWord b) = lowerChars (truthWord b') := by
    have hb := beq_iff_eq.mp (sameIgnoringCase_trim_iff.mpr h)
    have hb' := beq_iff_eq.mp (sameIgnoringCase_trim_iff.mpr h')
    exact hb.symm.trans hb'
  clear h h'
  revert b b'
  decide

/-- What denotes an integer denotes no truth value. -/
theorem DenotesInteger.not_denotesTruth {s : String} {n : Int} {b : Bool} (h : DenotesInteger s n) :
    ¬ DenotesTruth s b := by
  rintro ⟨word, hword, hletters⟩
  obtain ⟨number, hnumber, hdigits⟩ := h
  have hbody : number = word := by
    rw [← trimChars_eq_of_within hnumber hdigits.not_blank,
      trimChars_eq_of_within hword (not_blank_of_truthWord hletters)]
  subst hbody
  obtain ⟨c, hc⟩ := List.exists_mem_of_ne_nil _ hdigits.ne_nil
  have hletter := hletters.char_range (isLower_truthWord b) c hc
  exact absurd hletter.1 (Nat.not_le.mpr (hdigits.char_range c hc).2)

end Hypertext.Text
