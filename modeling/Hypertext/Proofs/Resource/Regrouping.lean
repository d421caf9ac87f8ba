import Hypertext.Proofs.Resource.Base64
import Hypertext.Text.Utf8
import Mathlib.Data.Nat.Digits.Lemmas

/-!
# The base64 form of bytes

What it means that a text is the base64 form of bytes, said without the encoder and the decoder: bytes and values of
six bits are the digits of one number, in base 256 and in base 64, where zero bits fill the last value up.

* `Regroups`: the values have the bits of the bytes.
* `regroups_values`, `Regroups.unique`: there is one list of such values.
* `Written`: the values as characters of the alphabet, then padding.
* `written_iff`, `existsUnique_written`: each byte list has one such text, and the encoder makes it.
* `decode_utf8_eq_ok_iff`: the decoder accepts it and nothing else.
* `Documented`: what is documented of decoders, and all that the rest of the theory uses of one. `documented`: the
  decoder does that.
-/

namespace Hypertext.Base64

variable {bytes group : List UInt8} {digits digits' : List Nat} {fill fill' : Nat} {t : String}

/-! ### Bytes as values of six bits -/

/-- The digits in base 64 have the bits of the bytes, with `2 * fill` zero bits after them. -/
structure Regroups (bytes : List UInt8) (digits : List Nat) (fill : Nat) : Prop where
  lt : ∀ v ∈ digits, v < 64
  fill_le : fill ≤ 2
  length : 6 * digits.length = 8 * bytes.length + 2 * fill
  number : Nat.ofDigits 64 digits.reverse = Nat.ofDigits 256 (bytes.map UInt8.toNat).reverse <<< (2 * fill)

/-- Digits of one number in one base, as many on both sides, are the same. How much is filled up follows from the number
of bytes. -/
theorem Regroups.unique (h : Regroups bytes digits fill) (h' : Regroups bytes digits' fill') :
    digits = digits' ∧ fill = fill' := by
  have hle := h.fill_le
  have hle' := h'.fill_le
  have hlength := h.length
  have hlength' := h'.length
  obtain rfl : fill = fill' := by omega
  have hcount : digits.reverse.length = digits'.reverse.length := by
    rw [List.length_reverse, List.length_reverse]
    omega
  have hreverse : digits.reverse = digits'.reverse :=
    Nat.ofDigits_inj_of_len_eq (by decide) hcount (fun v hv => h.lt v (List.mem_reverse.mp hv))
      (fun v hv => h'.lt v (List.mem_reverse.mp hv)) (h.number.trans h'.number.symm)
  exact ⟨List.reverse_inj.mp hreverse, rfl⟩

/-- The values of six bits of which the encoder writes the symbols. -/
def values : List UInt8 → List Nat
  | [] => []
  | [x] => [x.toNat / 4, x.toNat % 4 * 16]
  | [x, y] => [x.toNat / 4, x.toNat % 4 * 16 + y.toNat / 16, y.toNat % 16 * 4]
  | x :: y :: z :: rest =>
    [x.toNat / 4, x.toNat % 4 * 16 + y.toNat / 16, y.toNat % 16 * 4 + z.toNat / 64, z.toNat % 64] ++ values rest

/-- The padding that fills the last group up. -/
def padding (bytes : List UInt8) : Nat :=
  (3 - bytes.length % 3) % 3

theorem padding_group (x y z : UInt8) (rest : List UInt8) : padding (x :: y :: z :: rest) = padding rest := by
  simp only [padding, List.length_cons]
  omega

theorem encode_eq (bytes : List UInt8) :
    encode bytes = (values bytes).map symbol ++ List.replicate (padding bytes) pad := by
  fun_induction encode bytes with
  | case1 | case2 | case3 => rfl
  | case4 x y z rest ih =>
    rw [padding_group, ih]
    rfl

theorem lt_of_mem_values : ∀ v ∈ values bytes, v < 64 := by
  fun_induction values bytes with
  | case1 => simp
  | case2 x =>
    have hx : x.toNat < 256 := x.toNat_lt_size
    simp only [List.forall_mem_cons]
    exact ⟨by omega, by omega, List.forall_mem_nil _⟩
  | case3 x y =>
    have hx : x.toNat < 256 := x.toNat_lt_size
    have hy : y.toNat < 256 := y.toNat_lt_size
    simp only [List.forall_mem_cons]
    exact ⟨by omega, by omega, by omega, List.forall_mem_nil _⟩
  | case4 x y z rest ih =>
    obtain ⟨ha, hb, hc, hd⟩ := values_lt x y z
    simp only [List.cons_append, List.nil_append, List.forall_mem_cons]
    exact ⟨ha, hb, hc, hd, ih⟩

theorem length_values (bytes : List UInt8) : 6 * (values bytes).length = 8 * bytes.length + 2 * padding bytes := by
  fun_induction values bytes with
  | case1 | case2 | case3 => rfl
  | case4 x y z rest ih =>
    rw [padding_group]
    simp only [List.cons_append, List.nil_append, List.length_cons]
    omega

/-- The number whose highest digit is the first one. -/
theorem ofDigits_reverse (base : Nat) (digits : List Nat) :
    Nat.ofDigits base digits.reverse = digits.foldl (fun n d => d + base * n) 0 := by
  rw [Nat.ofDigits_eq_foldr, List.foldr_reverse]
  rfl

/-- Read from the left, values and bytes make the same number after every three bytes, whatever has been read before
them. -/
theorem foldl_values (bytes : List UInt8) (n : Nat) : (values bytes).foldl (fun n d => d + 64 * n) n =
    (bytes.map UInt8.toNat).foldl (fun n d => d + 256 * n) n <<< (2 * padding bytes) := by
  fun_induction values bytes generalizing n with
  | case1 => rfl
  | case2 x =>
    have hpadding : 2 * padding [x] = 4 := rfl
    simp only [hpadding, List.map_cons, List.map_nil, List.foldl_cons, List.foldl_nil, Nat.shiftLeft_eq]
    omega
  | case3 x y =>
    have hpadding : 2 * padding [x, y] = 2 := rfl
    simp only [hpadding, List.map_cons, List.map_nil, List.foldl_cons, List.foldl_nil, Nat.shiftLeft_eq]
    omega
  | case4 x y z rest ih =>
    have hgroup : z.toNat % 64 + 64 * (y.toNat % 16 * 4 + z.toNat / 64 +
        64 * (x.toNat % 4 * 16 + y.toNat / 16 + 64 * (x.toNat / 4 + 64 * n))) =
          z.toNat + 256 * (y.toNat + 256 * (x.toNat + 256 * n)) := by
      omega
    simp only [List.cons_append, List.nil_append, List.foldl_cons, List.map_cons]
    rw [hgroup, padding_group, ih]

theorem regroups_values (bytes : List UInt8) : Regroups bytes (values bytes) (padding bytes) where
  lt := lt_of_mem_values
  fill_le := Nat.le_of_lt_succ (Nat.mod_lt _ (by decide))
  length := length_values bytes
  number := by rw [ofDigits_reverse, ofDigits_reverse, foldl_values]

/-! ### As a text -/

/-- The characters for the values from 0 to 63. -/
def alphabet : List Char :=
  "ABCDEFGHIJKLMNOPQRSTUVWXYZabcdefghijklmnopqrstuvwxyz0123456789+/".toList

/-- The text is the base64 form of the bytes: the bits of the bytes as characters, six bits each, then a padding sign
for every two bits that are filled up. -/
def Written (bytes : List UInt8) (t : String) : Prop :=
  ∃ digits fill, Regroups bytes digits fill ∧
    t.toList = digits.map (fun v => alphabet.getD v '=') ++ List.replicate fill '='

/-- The encoded bytes as a text. -/
def text (bytes : List UInt8) : String :=
  String.ofList ((encode bytes).map fun s => Char.ofNat s.toNat)

theorem alphabet_eq : alphabet = (List.range 64).map fun v => Char.ofNat (symbol v).toNat := by
  decide

theorem getD_alphabet {v : Nat} (hv : v < 64) : alphabet.getD v '=' = Char.ofNat (symbol v).toNat := by
  rw [alphabet_eq, List.getD_eq_getElem?_getD, List.getElem?_map, List.getElem?_range hv]
  rfl

theorem toList_text (bytes : List UInt8) : (text bytes).toList =
    (values bytes).map (fun v => alphabet.getD v '=') ++ List.replicate (padding bytes) '=' := by
  have hpad : Char.ofNat pad.toNat = '=' := by decide
  rw [text, String.toList_ofList, encode_eq, List.map_append, List.map_map, List.map_replicate, hpad]
  exact congrArg (· ++ _) (List.map_congr_left fun v hv => (getD_alphabet (lt_of_mem_values v hv)).symm)

/-- **The encoder writes the base64 form**, and nothing else is it. -/
theorem written_iff : Written bytes t ↔ t = text bytes := by
  constructor
  · rintro ⟨digits, fill, hregroups, ht⟩
    obtain ⟨rfl, rfl⟩ := hregroups.unique (regroups_values bytes)
    rw [← String.toList_inj, ht, toList_text]
  · rintro rfl
    exact ⟨values bytes, padding bytes, regroups_values bytes, toList_text bytes⟩

theorem existsUnique_written (bytes : List UInt8) : ∃! t, Written bytes t :=
  ⟨text bytes, written_iff.mpr rfl, fun _ h => written_iff.mp h⟩

/-! ### What is decoded -/

/-- The encoded form is ASCII. -/
theorem toNat_lt_of_mem_encode : ∀ s ∈ encode bytes, s.toNat < 128 := by
  have hsymbol : ∀ v < 64, (symbol v).toNat < 128 := by decide
  have hpad : pad.toNat < 128 := by decide
  intro s hs
  rw [encode_eq, List.mem_append, List.mem_map, List.mem_replicate] at hs
  obtain ⟨v, hv, rfl⟩ | ⟨-, rfl⟩ := hs
  · exact hsymbol v (lt_of_mem_values v hv)
  · exact hpad

/-- Each ASCII character is the byte of its code point. -/
theorem utf8EncodeChar_ascii : ∀ n < 128, String.utf8EncodeChar (Char.ofNat n) = [UInt8.ofNat n] := by
  decide

theorem utf8Chars_ascii (h : ∀ s ∈ group, s.toNat < 128) :
    Text.utf8Chars (group.map fun s => Char.ofNat s.toNat) = group := by
  induction group with
  | nil => rfl
  | cons s group ih =>
    obtain ⟨hs, hgroup⟩ := List.forall_mem_cons.mp h
    have hchar := utf8EncodeChar_ascii s.toNat hs
    rw [UInt8.ofNat_toNat] at hchar
    rw [List.map_cons, Text.utf8Chars, List.flatMap_cons, hchar, List.singleton_append]
    exact congrArg (s :: ·) (ih hgroup)

/-- **A text is accepted** if it is the base64 form of the bytes. -/
theorem decode_utf8_eq_ok_iff {payload : String} :
    decode (Text.utf8 payload) = .ok bytes ↔ Written bytes payload := by
  have htext : Text.utf8 (text bytes) = encode bytes := by
    rw [Text.utf8, text, String.toList_ofList, utf8Chars_ascii toNat_lt_of_mem_encode]
  rw [decode_eq_ok_iff, ← htext, Text.utf8_inj, written_iff]

/-- What is documented of a decoder for the standard alphabet with padding: each byte list is decoded from its base64
form, and nothing from any other text. -/
structure Documented (decoder : List UInt8 → Except Error (List UInt8)) : Prop where
  accepts : ∀ (payload : String) (bytes : List UInt8),
    decoder (Text.utf8 payload) = .ok bytes ↔ Written bytes payload

/-- **The decoder does what is documented.** -/
theorem documented : Documented decode where
  accepts _ _ := decode_utf8_eq_ok_iff

end Hypertext.Base64
