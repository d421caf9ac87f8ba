import Hypertext.Proofs.Except
import Hypertext.Resource.Percent
import Mathlib.Tactic.IntervalCases

/-!
# Percent-encoded texts

What it means that a text is a percent-encoded form of bytes, said without the decoder.

* `Encodes`: characters other than the percent sign stand for their UTF-8 bytes, and a percent sign with a pair of
  characters after it for one byte. Which pairs these are is a parameter: `HexPair` for two hexadecimal digits, `Pair`
  if a plus sign may take the place of the first one.
* `decodeFrom_append`: the decoder passes over an encoded part, adds its bytes and goes on behind it.
* `decodeFrom_badEscape`, `decodeFrom_truncated`: it stops at a percent sign without such a pair.
* `decodeFrom_eq_ok_iff`: what the decoder accepts, and with which bytes.
* `encoded_text_decoded`: an encoded text is decoded, and the first bad escape behind it is named.
-/

namespace Hypertext.Percent

/-- The character is the hexadecimal digit of the value, small or capital. -/
def HexDigit (v : Nat) (c : Char) : Prop :=
  "0123456789abcdef".toList[v]? = some c ∨ "0123456789ABCDEF".toList[v]? = some c

instance (v : Nat) (c : Char) : Decidable (HexDigit v c) :=
  inferInstanceAs (Decidable (_ ∨ _))

/-- Two hexadecimal digits that denote the byte. -/
def HexPair (pair : List Char) (b : UInt8) : Prop :=
  ∃ high low h l, pair = [high, low] ∧ HexDigit h high ∧ HexDigit l low ∧ b.toNat = 16 * h + l

/-- A plus sign and one hexadecimal digit that denotes the byte. -/
def SignedDigit (pair : List Char) (b : UInt8) : Prop :=
  ∃ low, pair = ['+', low] ∧ HexDigit b.toNat low

/-- Two hexadecimal digits, or a plus sign and one. -/
def Pair (pair : List Char) (b : UInt8) : Prop :=
  HexPair pair b ∨ SignedDigit pair b

/-- The text is a percent-encoded form of the bytes, in which such pairs may follow a percent sign. -/
inductive Encodes (IsPair : List Char → UInt8 → Prop) : List Char → List UInt8 → Prop
  | nil : Encodes IsPair [] []
  | literal {c : Char} {text : List Char} {bytes : List UInt8} (hc : c ≠ '%') (rest : Encodes IsPair text bytes) :
      Encodes IsPair (c :: text) (Text.utf8Chars [c] ++ bytes)
  | escape {pair : List Char} {b : UInt8} {text : List Char} {bytes : List UInt8} (hpair : IsPair pair b)
      (rest : Encodes IsPair text bytes) : Encodes IsPair ('%' :: (pair ++ text)) (b :: bytes)

/-- The text cannot be decoded, for the reason with this wording. -/
def Refuses (text message : String) : Prop :=
  ∃ cause, decode text = .error cause ∧ cause.message = message

/-! ### Digits and pairs -/

section

variable {c high low : Char} {v start : Nat} {b : UInt8} {pair text rest : List Char} {bytes : List UInt8}

theorem HexDigit.lt (h : HexDigit v c) : v < 16 := by
  rcases h with h | h <;> exact (List.getElem?_eq_some_iff.mp h).1

theorem toNat_lt_of_hexValue? (h : Text.hexValue? c = some v) : c.toNat < 128 := by
  have hle : ∀ d : Char, c ≤ d → c.toNat ≤ d.toNat := fun d hd => UInt32.le_iff_toNat_le.mp hd
  unfold Text.hexValue? at h
  split at h
  · rename_i hrange
    exact Nat.lt_of_le_of_lt (hle _ hrange.2) (by decide)
  · split at h
    · rename_i hrange
      exact Nat.lt_of_le_of_lt (hle _ hrange.2) (by decide)
    · split at h
      · rename_i hrange
        exact Nat.lt_of_le_of_lt (hle _ hrange.2) (by decide)
      · cases h

/-- Each ASCII character with a value is the digit of this value. -/
theorem hexDigit_of_hexValue? : ∀ n < 128, ∀ v ∈ Text.hexValue? (Char.ofNat n), HexDigit v (Char.ofNat n) := by
  decide

theorem hexValue?_eq_some_iff : Text.hexValue? c = some v ↔ HexDigit v c := by
  constructor
  · intro h
    have hdigit := hexDigit_of_hexValue? c.toNat (toNat_lt_of_hexValue? h) v
    rw [Char.ofNat_toNat] at hdigit
    exact hdigit h
  · intro h
    have hv := h.lt
    rcases h with h | h <;> interval_cases v <;> obtain rfl := Option.some.inj h <;> rfl

/-- A digit is one byte, and no sign. -/
theorem HexDigit.utf8Size (h : HexDigit v c) : c.utf8Size = 1 := by
  have hlt := toNat_lt_of_hexValue? (hexValue?_eq_some_iff.mpr h)
  exact Char.utf8Size_eq_one_iff.mpr (UInt32.le_iff_toNat_le.mpr (Nat.le_of_lt_succ hlt))

theorem HexDigit.ne_sign (h : HexDigit v c) : c ≠ '%' ∧ c ≠ '+' := by
  constructor
  · rintro rfl
    exact absurd (hexValue?_eq_some_iff.mpr h) (by simp [Text.hexValue?])
  · rintro rfl
    exact absurd (hexValue?_eq_some_iff.mpr h) (by simp [Text.hexValue?])

theorem byte?_eq_some_iff : byte? high low = some b ↔ Pair [high, low] b := by
  constructor
  · intro h
    unfold byte? at h
    split at h
    · rename_i h' l hhigh hlow
      obtain rfl := Option.some.inj h
      have hdigit := hexValue?_eq_some_iff.mp hlow
      have hl := hdigit.lt
      by_cases hplus : high = '+'
      · rw [if_pos hplus] at hhigh
        obtain rfl := Option.some.inj hhigh
        have hbyte : (UInt8.ofNat (0 * 16 + l)).toNat = l := by
          rw [UInt8.toNat_ofNat']
          omega
        refine .inr ⟨low, by rw [hplus], ?_⟩
        rw [hbyte]
        exact hdigit
      · rw [if_neg hplus] at hhigh
        have hdigit' := hexValue?_eq_some_iff.mp hhigh
        have hh := hdigit'.lt
        refine .inl ⟨high, low, h', l, rfl, hdigit', hdigit, ?_⟩
        rw [UInt8.toNat_ofNat']
        omega
    · cases h
  · rintro (⟨high, low, h, l, heq, hhigh, hlow, hb⟩ | ⟨low, heq, hlow⟩)
    · obtain ⟨rfl, rfl⟩ : _ ∧ _ := by simpa using heq
      have hbyte : UInt8.ofNat (h * 16 + l) = b := by
        rw [Nat.mul_comm, ← hb, UInt8.ofNat_toNat]
      simp only [byte?, if_neg hhigh.ne_sign.2, hexValue?_eq_some_iff.mpr hhigh, hexValue?_eq_some_iff.mpr hlow,
        hbyte]
    · obtain ⟨rfl, rfl⟩ : _ ∧ _ := by simpa using heq
      simp only [byte?, if_pos, hexValue?_eq_some_iff.mpr hlow, Nat.zero_mul, Nat.zero_add, UInt8.ofNat_toNat]

/-- The characters of a pair are one byte each, and none of them is a percent sign. -/
theorem Pair.exists_chars (h : Pair pair b) : ∃ high low, pair = [high, low] ∧ byte? high low = some b ∧
    (high.utf8Size = 1 ∧ low.utf8Size = 1) ∧ high ≠ '%' ∧ low ≠ '%' := by
  rcases id h with ⟨high, low, _, _, rfl, hhigh, hlow, -⟩ | ⟨low, rfl, hlow⟩
  · exact ⟨high, low, rfl, byte?_eq_some_iff.mpr h, ⟨hhigh.utf8Size, hlow.utf8Size⟩, hhigh.ne_sign.1, hlow.ne_sign.1⟩
  · exact ⟨'+', low, rfl, byte?_eq_some_iff.mpr h, ⟨rfl, hlow.utf8Size⟩, by decide, hlow.ne_sign.1⟩

/-- Two bytes are one character or two. -/
theorem chars_of_two_bytes (h : (Text.utf8Chars pair).length = 2) : (∃ c, pair = [c] ∧ c.utf8Size = 2) ∨
    ∃ high low, pair = [high, low] ∧ high.utf8Size = 1 ∧ low.utf8Size = 1 := by
  match pair, h with
  | [c], h =>
    simp only [Text.length_utf8Chars_cons, Text.utf8Chars_nil, List.length_nil] at h
    exact .inl ⟨c, rfl, h⟩
  | high :: low :: rest, h =>
    simp only [Text.length_utf8Chars_cons] at h
    have hhigh := high.utf8Size_pos
    have hlow := low.utf8Size_pos
    match rest, h with
    | [], h => exact .inr ⟨high, low, rfl, by omega, by omega⟩
    | c :: rest, h =>
      have hc := c.utf8Size_pos
      simp only [Text.length_utf8Chars_cons] at h
      omega

/-! ### One step of the decoder -/

theorem decodeFrom_literal (hc : c ≠ '%') (start : Nat) (text : List Char) :
    decodeFrom start (c :: text) =
      (decodeFrom (start + c.utf8Size) text).map (Text.utf8Chars [c] ++ ·) := by
  rw [decodeFrom.eq_def]
  dsimp only
  rw [if_neg hc]

theorem decodeFrom_escape (hpair : Pair pair b) (start : Nat) (text : List Char) :
    decodeFrom start ('%' :: (pair ++ text)) = (decodeFrom (start + 3) text).map (b :: ·) := by
  obtain ⟨high, low, rfl, hbyte, hsize, -, -⟩ := hpair.exists_chars
  rw [List.cons_append, List.singleton_append, decodeFrom, if_pos rfl, if_pos hsize, hbyte]

theorem decodeFrom_badEscape (hsize : (Text.utf8Chars pair).length = 2) (hpair : ∀ b, ¬ Pair pair b) (start : Nat)
    (text : List Char) : decodeFrom start ('%' :: (pair ++ text)) = .error (.badEscape (String.ofList pair)) := by
  rcases chars_of_two_bytes hsize with ⟨c, rfl, hc⟩ | ⟨high, low, rfl, hhigh, hlow⟩
  · have hone : ¬ c.utf8Size = 1 := by omega
    cases text with
    | nil =>
      rw [List.append_nil, decodeFrom, if_pos rfl, if_pos hc]
      rfl
    | cons d text =>
      rw [List.singleton_append, decodeFrom, if_pos rfl, if_neg fun h => hone h.1, if_pos hc]
      rfl
  · have hbyte : byte? high low = none :=
      Option.eq_none_iff_forall_ne_some.mpr fun b hb => hpair b (byte?_eq_some_iff.mp hb)
    rw [List.cons_append, List.singleton_append, decodeFrom, if_pos rfl, if_pos ⟨hhigh, hlow⟩, hbyte]

theorem decodeFrom_truncated (hrest : ∀ pair more, rest = pair ++ more → (Text.utf8Chars pair).length ≠ 2)
    (start : Nat) : decodeFrom start ('%' :: rest) = .error (.truncated start) := by
  have hone : ∀ c more, rest = c :: more → ¬ c.utf8Size = 2 := by
    intro c more heq hc
    exact hrest [c] more heq (by simp [hc])
  match rest, hrest, hone with
  | [], _, _ => rw [decodeFrom, if_pos rfl]
  | [c], _, hone => rw [decodeFrom, if_pos rfl, if_neg (hone c [] rfl)]
  | high :: low :: more, hrest, hone =>
    have htwo : ¬ (high.utf8Size = 1 ∧ low.utf8Size = 1) := by
      rintro ⟨hhigh, hlow⟩
      exact hrest [high, low] more rfl (by simp [hhigh, hlow])
    rw [decodeFrom, if_pos rfl, if_neg htwo, if_neg (hone high _ rfl)]

/-! ### Runs of the decoder -/

theorem Encodes.mono {P Q : List Char → UInt8 → Prop} (hPQ : ∀ pair b, P pair b → Q pair b)
    (h : Encodes P text bytes) : Encodes Q text bytes := by
  induction h with
  | nil => exact .nil
  | literal hc _ ih => exact .literal hc ih
  | escape hpair _ ih => exact .escape (hPQ _ _ hpair) ih

/-- **An encoded part is passed over**: its bytes are added, and the decoder goes on behind it. -/
theorem decodeFrom_append (h : Encodes Pair text bytes) (start : Nat) (rest : List Char) :
    decodeFrom start (text ++ rest) =
      (decodeFrom (start + (Text.utf8Chars text).length) rest).map (bytes ++ ·) := by
  induction h generalizing start with
  | nil =>
    rw [List.nil_append, Text.utf8Chars_nil, List.length_nil, Nat.add_zero]
    cases decodeFrom start rest <;> rfl
  | @literal c text bytes hc _ ih =>
    have hoffset : start + c.utf8Size + (Text.utf8Chars text).length =
        start + (Text.utf8Chars (c :: text)).length := by
      rw [Text.length_utf8Chars_cons]
      omega
    rw [List.cons_append, decodeFrom_literal hc, ih, hoffset]
    cases decodeFrom _ rest with
    | error e => rfl
    | ok more => exact congrArg Except.ok (List.append_assoc ..).symm
  | @escape pair b text bytes hpair _ ih =>
    have hoffset : start + 3 + (Text.utf8Chars text).length =
        start + (Text.utf8Chars ('%' :: (pair ++ text))).length := by
      obtain ⟨high, low, rfl, -, ⟨hhigh, hlow⟩, -⟩ := hpair.exists_chars
      have hsign : '%'.utf8Size = 1 := rfl
      simp only [List.cons_append, List.nil_append, Text.length_utf8Chars_cons, hhigh, hlow, hsign]
      omega
    rw [List.cons_append, List.append_assoc, decodeFrom_escape hpair, ih, hoffset]
    cases decodeFrom _ rest <;> rfl

/-- **What the decoder accepts**: encoded texts, a plus sign in place of a first digit included. -/
theorem decodeFrom_eq_ok_iff : decodeFrom start text = .ok bytes ↔ Encodes Pair text bytes := by
  constructor
  · intro h
    fun_induction decodeFrom start text generalizing bytes with
    | case1 =>
      cases h
      exact .nil
    | case5 start high low text hsize b hbyte ih =>
      obtain ⟨more, hmore, rfl⟩ := map_eq_ok_iff.mp h
      exact .escape (byte?_eq_some_iff.mp hbyte) (ih hmore)
    | case9 start c text hc ih =>
      obtain ⟨more, hmore, rfl⟩ := map_eq_ok_iff.mp h
      exact .literal hc (ih hmore)
    | _ => cases h
  · intro h
    have hrun := decodeFrom_append h start []
    rw [List.append_nil] at hrun
    rw [hrun]
    exact congrArg Except.ok (List.append_nil bytes)

/-- Every percent sign of an encoded text has a pair behind it. -/
theorem Encodes.pair_after_sign (h : Encodes Pair text bytes) :
    ∀ before after, text = before ++ '%' :: after → ∃ pair more b, after = pair ++ more ∧ Pair pair b := by
  induction h with
  | nil =>
    intro before after heq
    simp at heq
  | @literal c text bytes hc _ ih =>
    intro before after heq
    match before, heq with
    | [], heq => exact absurd (List.cons.inj heq).1 hc
    | _ :: before, heq => exact ih before after (List.cons.inj heq).2
  | @escape pair b text bytes hpair _ ih =>
    intro before after heq
    obtain ⟨high, low, rfl, -, -, hhigh, hlow⟩ := hpair.exists_chars
    match before, heq with
    | [], heq => exact ⟨_, text, b, (List.cons.inj heq).2.symm, hpair⟩
    | [_], heq => exact absurd (List.cons.inj (List.cons.inj heq).2).1 hhigh
    | [_, _], heq => exact absurd (List.cons.inj (List.cons.inj (List.cons.inj heq).2).2).1 hlow
    | _ :: _ :: _ :: before, heq =>
      exact ih before after (List.cons.inj (List.cons.inj (List.cons.inj heq).2).2).2

/-- Without a plus sign behind a percent sign, all pairs are two digits. -/
theorem Encodes.hexPair (h : Encodes Pair text bytes) :
    (∀ before after, text ≠ before ++ '%' :: '+' :: after) → Encodes HexPair text bytes := by
  induction h with
  | nil => exact fun _ => .nil
  | @literal c text bytes hc _ ih =>
    intro hplus
    exact .literal hc (ih fun before after heq => hplus (c :: before) after (congrArg (c :: ·) heq))
  | @escape pair b text bytes hpair _ ih =>
    intro hplus
    have hrest : Encodes HexPair text bytes :=
      ih fun before after heq => hplus ('%' :: (pair ++ before)) after (by simp [heq])
    rcases hpair with hhex | ⟨low, rfl, -⟩
    · exact .escape hhex hrest
    · exact absurd rfl (hplus [] (low :: text))

end

/-- **Decoding undoes every percent encoding and fails at the first bad escape.** A text made of characters other
than the percent sign and of escapes with two hexadecimal digits, in either case, is decoded to exactly the bytes
that it stands for. Put a percent sign and anything else behind it. If the two bytes after the sign are missing or
end within a character, the text is refused for the escape that begins where the encoded part ends. If they are
neither two hexadecimal digits nor a plus sign and one, it is refused for these two bytes, whatever follows them. -/
theorem encoded_text_decoded {p : String} {bytes : List UInt8} (h : Encodes HexPair p.toList bytes) :
    decode p = .ok bytes ∧
      (∀ rest : String, ¬ String.Pos.Raw.IsValid rest ⟨2⟩ →
        Refuses (p ++ "%" ++ rest) ("truncated escape at byte " ++ Text.decimalNat (Text.utf8 p).length)) ∧
      ∀ pair rest : String, (Text.utf8 pair).length = 2 → (∀ b, ¬ HexPair pair.toList b) →
        (∀ b, ¬ SignedDigit pair.toList b) → Refuses (p ++ "%" ++ (pair ++ rest)) ("bad escape '%" ++ pair ++ "'") := by
  have hencodes : Encodes Pair p.toList bytes := h.mono fun _ _ => .inl
  have hrun : ∀ rest : String, decode (p ++ "%" ++ rest) =
      (decodeFrom (Text.utf8 p).length ('%' :: rest.toList)).map (bytes ++ ·) := by
    intro rest
    have hchars : (p ++ "%" ++ rest).toList = p.toList ++ '%' :: rest.toList := by simp
    rw [decode, hchars, decodeFrom_append hencodes, Nat.zero_add]
    rfl
  refine ⟨decodeFrom_eq_ok_iff.mpr hencodes, fun rest hboundary => ?_, fun pair rest hsize hhex hsigned => ?_⟩
  · have hrest : ∀ pair more, rest.toList = pair ++ more → (Text.utf8Chars pair).length ≠ 2 := by
      intro pair more heq hsize
      refine hboundary (String.Pos.Raw.isValid_iff_exists_append.mpr ⟨String.ofList pair, String.ofList more, ?_, ?_⟩)
      · rw [← String.ofList_append, ← heq, String.ofList_toList]
      · rw [String.rawEndPos, ← Text.length_utf8, Text.utf8, String.toList_ofList, hsize]
    refine ⟨.truncated (Text.utf8 p).length, ?_, rfl⟩
    rw [hrun, decodeFrom_truncated hrest]
    rfl
  · have hpair : ∀ b, ¬ Pair pair.toList b := fun b hb => hb.elim (hhex b) (hsigned b)
    refine ⟨.badEscape pair, ?_, rfl⟩
    rw [hrun, String.toList_append, decodeFrom_badEscape hsize hpair, String.ofList_toList]
    rfl

/-- A two-byte character and an escape in mixed case; then an escape that ends within a character, and one over a
character of two bytes. -/
theorem encoded_text_decoded_within_character :
    let p := "é%Ff"
    (Encodes HexPair p.toList [0xC3, 0xA9, 0xFF] ∧ ¬ String.Pos.Raw.IsValid "aé" ⟨2⟩ ∧
        (Text.utf8 "é").length = 2 ∧ (∀ b, ¬ HexPair "é".toList b) ∧ ∀ b, ¬ SignedDigit "é".toList b) ∧
      decode p = .ok [0xC3, 0xA9, 0xFF] ∧ Refuses (p ++ "%" ++ "aé") "truncated escape at byte 5" ∧
        Refuses (p ++ "%" ++ ("é" ++ "41")) "bad escape '%é'" := by
  intro p
  have hp : Encodes HexPair p.toList [0xC3, 0xA9, 0xFF] := by
    have hpair : HexPair ['F', 'f'] 0xFF := ⟨'F', 'f', 15, 15, rfl, .inr rfl, .inl rfl, rfl⟩
    have hliteral : 'é' ≠ '%' := by decide
    have hbytes : Text.utf8Chars ['é'] = [0xC3, 0xA9] := by decide
    have hchars : "é%Ff".toList = 'é' :: '%' :: (['F', 'f'] ++ []) := rfl
    have hencodes := Encodes.literal hliteral (.escape hpair .nil)
    rw [hbytes, ← hchars] at hencodes
    exact hencodes
  have hboundary : ¬ String.Pos.Raw.IsValid "aé" ⟨2⟩ := by decide
  have hhex : ∀ b, ¬ HexPair "é".toList b := by
    rintro b ⟨high, low, h, l, heq, -⟩
    cases heq
  have hsigned : ∀ b, ¬ SignedDigit "é".toList b := by
    rintro b ⟨low, heq, -⟩
    cases heq
  have hoffset : Text.decimalNat (Text.utf8 p).length = "5" := by decide +kernel
  obtain ⟨hdecode, htruncated, hbad⟩ := encoded_text_decoded hp
  have htruncated := htruncated "aé" hboundary
  rw [hoffset] at htruncated
  exact ⟨⟨hp, hboundary, rfl, hhex, hsigned⟩, hdecode, htruncated, hbad "é" "41" rfl hhex hsigned⟩

end Hypertext.Percent
