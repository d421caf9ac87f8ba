import Hypertext.Proofs.Except
import Hypertext.Resource.Base64

/-!
# Base64 has one spelling

The decoder accepts the encoded form of each byte list and nothing else.

* `value?_eq_some_iff`: symbols and six-bit values correspond to each other.
* `quadBytes_eq_iff`, `threeValues_iff`, `twoValues_iff`: three bytes and four values are the same bits, and so are
  two bytes or one and the values of the last group, if the bits left over are zero.
* `lastSymbols_sound`: what the last group looks like where its symbols can be read.
* `decodeLast_eq_ok_iff`, `decodeFrom_eq_ok_iff`, `decode_eq_ok_iff`: from the last group to the whole text.
-/

namespace Hypertext.Base64

variable {a b c d v start : Nat} {x y z s : UInt8} {bytes group rest : List UInt8}

/-! ### Symbols and values -/

theorem value?_symbol : ∀ v < 64, value? (symbol v) = some v := by
  decide

theorem ofNat_eq_iff {n : Nat} (hn : n < 256) : UInt8.ofNat n = x ↔ n = x.toNat := by
  rw [← UInt8.toNat_inj, UInt8.toNat_ofNat', Nat.mod_eq_of_lt hn]

/-- A byte with a value lies in one of the three ranges or is one of the two signs. -/
theorem symbol_of_value? (h : value? s = some v) : v < 64 ∧ s = symbol v := by
  have h65 : (65 : UInt8).toNat = 65 := rfl
  have h90 : (90 : UInt8).toNat = 90 := rfl
  have h97 : (97 : UInt8).toNat = 97 := rfl
  have h122 : (122 : UInt8).toNat = 122 := rfl
  have h48 : (48 : UInt8).toNat = 48 := rfl
  have h57 : (57 : UInt8).toNat = 57 := rfl
  simp only [value?, UInt8.le_iff_toNat_le, h65, h90, h97, h122, h48, h57] at h
  split at h
  · obtain rfl := Option.some.inj h
    refine ⟨by omega, ?_⟩
    rw [symbol, if_pos (by omega), eq_comm, ofNat_eq_iff (by omega)]
    omega
  · split at h
    · obtain rfl := Option.some.inj h
      refine ⟨by omega, ?_⟩
      rw [symbol, if_neg (by omega), if_pos (by omega), eq_comm, ofNat_eq_iff (by omega)]
      omega
    · split at h
      · obtain rfl := Option.some.inj h
        refine ⟨by omega, ?_⟩
        rw [symbol, if_neg (by omega), if_neg (by omega), if_pos (by omega), eq_comm, ofNat_eq_iff (by omega)]
        omega
      · split at h
        · obtain rfl := Option.some.inj h
          exact ⟨by omega, ‹s = 43›⟩
        · split at h
          · obtain rfl := Option.some.inj h
            exact ⟨by omega, ‹s = 47›⟩
          · cases h

theorem value?_eq_some_iff : value? s = some v ↔ v < 64 ∧ s = symbol v := by
  constructor
  · exact symbol_of_value?
  · rintro ⟨hv, rfl⟩
    exact value?_symbol v hv

theorem symbol_ne_pad (hv : v < 64) : symbol v ≠ pad := by
  intro h
  have hvalue := value?_symbol v hv
  rw [h] at hvalue
  cases hvalue

theorem symbolAt_symbol (hv : v < 64) (offset : Nat) : symbolAt (symbol v) offset = .ok v := by
  rw [symbolAt, value?_symbol v hv]

theorem symbolAt_eq_ok_iff {offset : Nat} : symbolAt s offset = .ok v ↔ v < 64 ∧ s = symbol v := by
  rw [← value?_eq_some_iff, symbolAt]
  cases value? s <;> simp

/-! ### Bytes and values -/

/-- Four values and three bytes of the same bits. -/
theorem quadBytes_eq_iff (ha : a < 64) (hb : b < 64) (hc : c < 64) (hd : d < 64) : quadBytes a b c d = [x, y, z] ↔
    a = x.toNat / 4 ∧ b = x.toNat % 4 * 16 + y.toNat / 16 ∧ c = y.toNat % 16 * 4 + z.toNat / 64 ∧
      d = z.toNat % 64 := by
  have hx : x.toNat < 256 := x.toNat_lt_size
  have hy : y.toNat < 256 := y.toNat_lt_size
  have hz : z.toNat < 256 := z.toNat_lt_size
  simp only [quadBytes, List.cons.injEq, and_true]
  rw [ofNat_eq_iff (by omega), ofNat_eq_iff (by omega), ofNat_eq_iff (by omega)]
  omega

theorem values_lt (x y z : UInt8) : x.toNat / 4 < 64 ∧ x.toNat % 4 * 16 + y.toNat / 16 < 64 ∧
    y.toNat % 16 * 4 + z.toNat / 64 < 64 ∧ z.toNat % 64 < 64 := by
  have hx : x.toNat < 256 := x.toNat_lt_size
  have hy : y.toNat < 256 := y.toNat_lt_size
  have hz : z.toNat < 256 := z.toNat_lt_size
  omega

/-- Three values and two bytes of the same bits, two of them zero. -/
theorem threeValues_iff (ha : a < 64) (hb : b < 64) (hc : c < 64) :
    (c % 4 = 0 ∧ [UInt8.ofNat (a * 4 + b / 16), UInt8.ofNat (b % 16 * 16 + c / 4)] = [x, y]) ↔
      a = x.toNat / 4 ∧ b = x.toNat % 4 * 16 + y.toNat / 16 ∧ c = y.toNat % 16 * 4 := by
  have hx : x.toNat < 256 := x.toNat_lt_size
  have hy : y.toNat < 256 := y.toNat_lt_size
  simp only [List.cons.injEq, and_true]
  rw [ofNat_eq_iff (by omega), ofNat_eq_iff (by omega)]
  omega

/-- Two values and one byte of the same bits, four of them zero. -/
theorem twoValues_iff (ha : a < 64) (hb : b < 64) :
    (b % 16 = 0 ∧ [UInt8.ofNat (a * 4 + b / 16)] = [x]) ↔ a = x.toNat / 4 ∧ b = x.toNat % 4 * 16 := by
  have hx : x.toNat < 256 := x.toNat_lt_size
  simp only [List.cons.injEq, and_true]
  rw [ofNat_eq_iff (by omega)]
  omega

/-! ### The last group -/

/-- Where the last group can be read, it is the symbols of the values and then padding, of which there is some only
after two bytes. -/
theorem lastSymbols_sound {index pads p : Nat} {values : List Nat}
    (h : lastSymbols start index pads group = .ok (values, p)) :
    ∃ q, p = pads + q ∧ group = values.map symbol ++ List.replicate q pad ∧ (∀ v ∈ values, v < 64) ∧
      (0 < pads → values = []) := by
  fun_induction lastSymbols start index pads group generalizing values p with
  | case1 index pads =>
    cases h
    exact ⟨0, rfl, rfl, by simp, fun _ => rfl⟩
  | case2 => cases h
  | case3 index pads rest hindex ih =>
    obtain ⟨q, rfl, rfl, hvalues, hnone⟩ := ih h
    obtain rfl := hnone (Nat.succ_pos _)
    exact ⟨q + 1, by omega, rfl, hvalues, fun _ => rfl⟩
  | case4 => cases h
  | case5 index pads s rest hs hpads ih =>
    obtain ⟨v, hv, h⟩ := bind_eq_ok_iff.mp h
    obtain ⟨⟨vs, p'⟩, hrest, h⟩ := bind_eq_ok_iff.mp h
    cases h
    obtain ⟨hlt, rfl⟩ := symbolAt_eq_ok_iff.mp hv
    obtain ⟨q, rfl, rfl, hvalues, -⟩ := ih hrest
    exact ⟨q, rfl, rfl, List.forall_mem_cons.mpr ⟨hlt, hvalues⟩, fun h => absurd h hpads⟩

/-! ### Groups -/

/-- Four symbols for every three bytes that have begun. -/
theorem length_encode (bytes : List UInt8) : (encode bytes).length = 4 * ((bytes.length + 2) / 3) := by
  fun_induction encode bytes with
  | case1 | case2 | case3 => simp
  | case4 x y z rest ih =>
    simp only [List.length_cons, ih]
    omega

theorem decodeLast_two (ha : a < 64) (hb : b < 64) : decodeLast start [symbol a, symbol b, pad, pad] = .ok bytes ↔
    b % 16 = 0 ∧ [UInt8.ofNat (a * 4 + b / 16)] = bytes := by
  have hlast : lastSymbols start 0 0 [symbol a, symbol b, pad, pad] = .ok ([a, b], 2) := by
    simp only [lastSymbols, symbol_ne_pad ha, symbol_ne_pad hb, symbolAt_symbol ha, symbolAt_symbol hb]
    rfl
  rw [decodeLast, hlast, ok_bind]
  by_cases hzero : b % 16 = 0 <;> simp [hzero]

theorem decodeLast_three (ha : a < 64) (hb : b < 64) (hc : c < 64) :
    decodeLast start [symbol a, symbol b, symbol c, pad] = .ok bytes ↔
      c % 4 = 0 ∧ [UInt8.ofNat (a * 4 + b / 16), UInt8.ofNat (b % 16 * 16 + c / 4)] = bytes := by
  have hlast : lastSymbols start 0 0 [symbol a, symbol b, symbol c, pad] = .ok ([a, b, c], 1) := by
    simp only [lastSymbols, symbol_ne_pad ha, symbol_ne_pad hb, symbol_ne_pad hc, symbolAt_symbol ha,
      symbolAt_symbol hb, symbolAt_symbol hc]
    rfl
  rw [decodeLast, hlast, ok_bind]
  by_cases hzero : c % 4 = 0 <;> simp [hzero]

theorem decodeLast_four (ha : a < 64) (hb : b < 64) (hc : c < 64) (hd : d < 64) :
    decodeLast start [symbol a, symbol b, symbol c, symbol d] = .ok bytes ↔ quadBytes a b c d = bytes := by
  have hlast : lastSymbols start 0 0 [symbol a, symbol b, symbol c, symbol d] = .ok ([a, b, c, d], 0) := by
    simp only [lastSymbols, symbol_ne_pad ha, symbol_ne_pad hb, symbol_ne_pad hc, symbol_ne_pad hd,
      symbolAt_symbol ha, symbolAt_symbol hb, symbolAt_symbol hc, symbolAt_symbol hd]
    rfl
  rw [decodeLast, hlast, ok_bind]
  simp

/-- What is read from the last group has this group as its encoded form. -/
theorem encode_of_decodeLast (hlen : group.length ≤ 4) (h : decodeLast start group = .ok bytes) :
    group = encode bytes := by
  obtain ⟨⟨values, pads⟩, hlast, hgroup⟩ := bind_eq_ok_iff.mp h
  obtain ⟨q, rfl, rfl, hvalues, -⟩ := lastSymbols_sound hlast
  have hcount : 2 ≤ values.length ∧ values.length + q = 4 := by
    dsimp only at hgroup
    split at hgroup
    · cases hgroup
    · split at hgroup
      · cases hgroup
      · rw [List.length_append, List.length_map, List.length_replicate] at hlen
        omega
  match values, hvalues, hcount with
  | [a, b], hvalues, hcount =>
    obtain rfl : q = 2 := Nat.add_left_cancel hcount.2
    obtain ⟨ha, hb, -⟩ : a < 64 ∧ b < 64 ∧ _ := by simpa only [List.forall_mem_cons] using hvalues
    obtain ⟨hzero, rfl⟩ := (decodeLast_two ha hb).mp h
    obtain ⟨ha', hb'⟩ := (twoValues_iff ha hb).mp ⟨hzero, rfl⟩
    rw [encode, ← ha', ← hb']
    rfl
  | [a, b, c], hvalues, hcount =>
    obtain rfl : q = 1 := Nat.add_left_cancel hcount.2
    obtain ⟨ha, hb, hc, -⟩ : a < 64 ∧ b < 64 ∧ c < 64 ∧ _ := by simpa only [List.forall_mem_cons] using hvalues
    obtain ⟨hzero, rfl⟩ := (decodeLast_three ha hb hc).mp h
    obtain ⟨ha', hb', hc'⟩ := (threeValues_iff ha hb hc).mp ⟨hzero, rfl⟩
    rw [encode, ← ha', ← hb', ← hc']
    rfl
  | [a, b, c, d], hvalues, hcount =>
    obtain rfl : q = 0 := Nat.add_left_cancel hcount.2
    obtain ⟨ha, hb, hc, hd, -⟩ : a < 64 ∧ b < 64 ∧ c < 64 ∧ d < 64 ∧ _ := by
      simpa only [List.forall_mem_cons] using hvalues
    obtain rfl := (decodeLast_four ha hb hc hd).mp h
    obtain ⟨ha', hb', hc', hd'⟩ := (quadBytes_eq_iff ha hb hc hd).mp rfl
    rw [quadBytes, encode, ← ha', ← hb', ← hc', ← hd']
    rfl
  | _ :: _ :: _ :: _ :: _ :: _, _, hcount =>
    simp only [List.length_cons] at hcount
    omega

/-- The encoded form of one to three bytes is read back. -/
theorem decodeLast_encode (hne : encode bytes ≠ []) (hlen : (encode bytes).length ≤ 4) :
    decodeLast start (encode bytes) = .ok bytes := by
  match bytes, hne, hlen with
  | [x], _, _ =>
    have hx : x.toNat < 256 := x.toNat_lt_size
    have ha : x.toNat / 4 < 64 := by omega
    have hb : x.toNat % 4 * 16 < 64 := by omega
    exact (decodeLast_two ha hb).mpr ((twoValues_iff ha hb).mpr ⟨rfl, rfl⟩)
  | [x, y], _, _ =>
    have hx : x.toNat < 256 := x.toNat_lt_size
    have hy : y.toNat < 256 := y.toNat_lt_size
    have ha : x.toNat / 4 < 64 := by omega
    have hb : x.toNat % 4 * 16 + y.toNat / 16 < 64 := by omega
    have hc : y.toNat % 16 * 4 < 64 := by omega
    exact (decodeLast_three ha hb hc).mpr ((threeValues_iff ha hb hc).mpr ⟨rfl, rfl, rfl⟩)
  | [x, y, z], _, _ =>
    obtain ⟨ha, hb, hc, hd⟩ := values_lt x y z
    exact (decodeLast_four ha hb hc hd).mpr ((quadBytes_eq_iff ha hb hc hd).mpr ⟨rfl, rfl, rfl, rfl⟩)
  | _ :: _ :: _ :: w :: rest, _, hlen =>
    rw [length_encode, List.length_cons, List.length_cons, List.length_cons, List.length_cons] at hlen
    omega

/-- **The last group** is accepted if it is the encoded form of the bytes. -/
theorem decodeLast_eq_ok_iff (hne : group ≠ []) (hlen : group.length ≤ 4) :
    decodeLast start group = .ok bytes ↔ group = encode bytes := by
  constructor
  · exact encode_of_decodeLast hlen
  · rintro rfl
    exact decodeLast_encode hne hlen

/-! ### The whole text -/

theorem decodeFrom_eq_ok_iff : decodeFrom start group = .ok bytes ↔ group = encode bytes := by
  fun_induction decodeFrom start group generalizing bytes with
  | case1 start =>
    constructor
    · rintro ⟨⟩
      rfl
    · intro h
      have hlen := length_encode bytes
      rw [← h, List.length_nil] at hlen
      obtain rfl : bytes = [] := List.length_eq_zero_iff.mp (by omega)
      rfl
  | case2 start s₁ s₂ s₃ s₄ s₅ rest ih =>
    constructor
    · intro h
      obtain ⟨a, hsa, h⟩ := bind_eq_ok_iff.mp h
      obtain ⟨b, hsb, h⟩ := bind_eq_ok_iff.mp h
      obtain ⟨c, hsc, h⟩ := bind_eq_ok_iff.mp h
      obtain ⟨d, hsd, h⟩ := bind_eq_ok_iff.mp h
      obtain ⟨more, hmore, h⟩ := bind_eq_ok_iff.mp h
      obtain rfl := Except.ok.inj h
      obtain ⟨ha, rfl⟩ := symbolAt_eq_ok_iff.mp hsa
      obtain ⟨hb, rfl⟩ := symbolAt_eq_ok_iff.mp hsb
      obtain ⟨hc, rfl⟩ := symbolAt_eq_ok_iff.mp hsc
      obtain ⟨hd, rfl⟩ := symbolAt_eq_ok_iff.mp hsd
      obtain ⟨ha', hb', hc', hd'⟩ := (quadBytes_eq_iff ha hb hc hd).mp rfl
      rw [ih.mp hmore, quadBytes, List.cons_append, List.cons_append, List.singleton_append, encode, ← ha', ← hb',
        ← hc', ← hd']
    · intro h
      match bytes, h with
      | x :: y :: z :: more, h =>
        obtain ⟨ha, hb, hc, hd⟩ := values_lt x y z
        rw [encode] at h
        injection h with h₁ h
        injection h with h₂ h
        injection h with h₃ h
        injection h with h₄ h
        have hquad := (quadBytes_eq_iff ha hb hc hd).mpr ⟨rfl, rfl, rfl, rfl⟩
        rw [h₁, h₂, h₃, h₄, symbolAt_symbol ha, ok_bind, symbolAt_symbol hb, ok_bind, symbolAt_symbol hc, ok_bind,
          symbolAt_symbol hd, ok_bind, ih.mpr h, ok_bind, hquad]
        rfl
  | case3 start group hne hfive =>
    have hlen : group.length ≤ 4 := by
      match group, hfive with
      | [], _ => simp
      | [_], _ => simp
      | [_, _], _ => simp
      | [_, _, _], _ => simp
      | [_, _, _, _], _ => simp
      | s₁ :: s₂ :: s₃ :: s₄ :: s₅ :: rest, hfive => exact (hfive s₁ s₂ s₃ s₄ s₅ rest rfl).elim
    exact decodeLast_eq_ok_iff hne hlen

/-- **The decoder accepts one spelling of each byte list**, the encoded form. -/
theorem decode_eq_ok_iff : decode group = .ok bytes ↔ group = encode bytes := by
  unfold decode
  cases hlast : group.getLast? with
  | none =>
    have hempty : decodeFrom 0 [] = .ok bytes ↔ [] = encode bytes := decodeFrom_eq_ok_iff
    rw [List.getLast?_eq_none_iff.mp hlast, ← hempty]
    rfl
  | some last =>
    dsimp only
    by_cases hforeign : group.length % 4 = 1 ∧ last ≠ pad ∧ value? last = none
    · rw [if_pos hforeign]
      constructor
      · rintro ⟨⟩
      · rintro rfl
        have hlen := length_encode bytes
        omega
    · rw [if_neg hforeign]
      exact decodeFrom_eq_ok_iff

end Hypertext.Base64
