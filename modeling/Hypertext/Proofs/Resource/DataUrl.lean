import Hypertext.Proofs.Resource.Percent
import Hypertext.Proofs.Resource.Regrouping
import Hypertext.Resource.DataUrl

/-!
# Payloads of data URLs

* `parse_text`: a text that consists of the scheme, metadata without a comma, a comma and a payload is this data URL.
* `isBase64_iff`: the end of the metadata decides between the two decoders.
* `percent_payload_accepted`: which payloads without base64 are decoded, and which are refused.
* `base64_payload_accepted`: a base64 payload is decoded to bytes if it is the base64 form of these bytes.
-/

namespace Hypertext

namespace DataUrl

/-- The first comma is the one after a part without commas. -/
theorem splitComma?_append {before : List Char} (h : ',' ∉ before) (after : List Char) :
    splitComma? (before ++ ',' :: after) = some (before, after) := by
  induction before with
  | nil => rw [List.nil_append, splitComma?, if_pos rfl]
  | cons c before ih =>
    rw [List.mem_cons, not_or] at h
    rw [List.cons_append, splitComma?, if_neg (Ne.symm h.1), ih h.2, Option.map_some]

theorem parse_text (url : DataUrl) (h : ',' ∉ url.metadata.toList) : parse url.text = .ok url := by
  have htext : url.text.toList = scheme ++ (url.metadata.toList ++ ',' :: url.payload.toList) := by
    simp [text]
  have hscheme : scheme.isPrefixOf (scheme ++ (url.metadata.toList ++ ',' :: url.payload.toList)) = true :=
    List.isPrefixOf_iff_prefix.mpr (List.prefix_append _ _)
  rw [parse, htext, if_pos hscheme, List.drop_left, splitComma?_append h]
  simp only [String.ofList_toList]

theorem isBase64_iff {url : DataUrl} : url.isBase64 = true ↔ ∃ m, url.metadata = m ++ ";base64" := by
  have hmark : ";base64".toList = base64Mark := rfl
  rw [isBase64, List.isSuffixOf_iff_suffix]
  constructor
  · rintro ⟨m, hm⟩
    refine ⟨String.ofList m, ?_⟩
    rw [← String.toList_inj, String.toList_append, String.toList_ofList, hmark, hm]
  · rintro ⟨m, hm⟩
    exact ⟨m.toList, by rw [hm, String.toList_append, hmark]⟩

theorem isBase64_eq_false_iff {url : DataUrl} : url.isBase64 = false ↔ ∀ m, url.metadata ≠ m ++ ";base64" := by
  rw [← Bool.not_eq_true, isBase64_iff, not_exists]

section

variable {url : DataUrl} {decoder : List UInt8 → Except Base64.Error (List UInt8)} {m : String} {bytes : List UInt8}

theorem decode_percent (h : ∀ m, url.metadata ≠ m ++ ";base64") :
    url.decode = (Percent.decode url.payload).mapError .percent := by
  have hplain : ¬ url.isBase64 = true := fun hbase64 => (isBase64_iff.mp hbase64).elim h
  rw [decode, decodeWith, if_neg hplain]

theorem decodeWith_base64 (h : url.metadata = m ++ ";base64") :
    url.decodeWith decoder = (decoder (Text.utf8 url.payload)).mapError .base64 := by
  rw [decodeWith, if_pos (isBase64_iff.mpr ⟨m, h⟩)]

theorem decode_percent_eq_ok_iff (h : ∀ m, url.metadata ≠ m ++ ";base64") :
    url.decode = .ok bytes ↔ Percent.Encodes Percent.Pair url.payload.toList bytes := by
  rw [decode_percent h, mapError_eq_ok_iff]
  exact Percent.decodeFrom_eq_ok_iff

/-- With every decoder that does what is documented, a base64 payload is decoded exactly if it is the base64 form of
some bytes. -/
theorem decodeWith_base64_eq_ok_iff (hdoc : Base64.Documented decoder) (h : url.metadata = m ++ ";base64") :
    url.decodeWith decoder = .ok bytes ↔ Base64.Written bytes url.payload := by
  rw [decodeWith_base64 h, mapError_eq_ok_iff]
  exact hdoc.accepts url.payload bytes

theorem decodeWith_base64_refused (hdoc : Base64.Documented decoder) (h : url.metadata = m ++ ";base64")
    (hpayload : ∀ bytes, ¬ Base64.Written bytes url.payload) :
    ∃ cause, url.decodeWith decoder = .error (.base64 cause) := by
  rw [decodeWith_base64 h]
  exact exists_mapError_eq _ fun bytes hbytes => hpayload bytes ((hdoc.accepts url.payload bytes).mp hbytes)

end

/-- **Which percent escapes are accepted.** A payload that is not base64 is decoded exactly if it is made of
characters other than the percent sign and of escapes with two hexadecimal digits, or with a plus sign and one: with
anything else behind some percent sign it is refused. So if no plus sign stands behind a percent sign, the payloads
that are decoded are the ones made of such characters and of two-digit escapes, and the bytes those for which they
stand. -/
theorem percent_payload_accepted (url : DataUrl) (h : ∀ m, url.metadata ≠ m ++ ";base64") :
    (∀ bytes, url.decode = .ok bytes ↔ Percent.Encodes Percent.Pair url.payload.toList bytes) ∧
      (∀ before rest : String, url.payload = before ++ "%" ++ rest →
        (∀ pair more b, rest.toList = pair ++ more → ¬ Percent.Pair pair b) →
          ∃ cause, url.decode = .error (.percent cause)) ∧
      ((∀ before rest : String, url.payload ≠ before ++ "%+" ++ rest) →
        ∀ bytes, url.decode = .ok bytes ↔ Percent.Encodes Percent.HexPair url.payload.toList bytes) := by
  refine ⟨fun bytes => decode_percent_eq_ok_iff h, fun before rest hpayload hrest => ?_, fun hplus bytes => ?_⟩
  · rw [decode_percent h]
    refine exists_mapError_eq _ fun bytes hbytes => ?_
    have hencodes : Percent.Encodes Percent.Pair url.payload.toList bytes := Percent.decodeFrom_eq_ok_iff.mp hbytes
    have hchars : url.payload.toList = before.toList ++ '%' :: rest.toList := by simp [hpayload]
    obtain ⟨pair, more, b, heq, hpair⟩ := hencodes.pair_after_sign _ _ hchars
    exact hrest pair more b heq hpair
  · rw [decode_percent_eq_ok_iff h]
    constructor
    · intro hencodes
      refine hencodes.hexPair fun before rest heq => hplus (String.ofList before) (String.ofList rest) ?_
      rw [← String.toList_inj, heq]
      simp
    · exact Percent.Encodes.mono fun _ _ => .inl

/-- A plus sign and an escape of a comma, behind a mark that is not at the end; then a percent sign before a character
of two bytes. -/
theorem percent_payload_accepted_comma :
    let url : DataUrl := ⟨"text/plain;base64;v=1", "+%2c"⟩
    let broken : DataUrl := ⟨"", "%2c%é"⟩
    ((∀ m, url.metadata ≠ m ++ ";base64") ∧ (∀ before rest : String, url.payload ≠ before ++ "%+" ++ rest) ∧
        url.decode = .ok [0x2B, 0x2C] ∧ Percent.Encodes Percent.HexPair url.payload.toList [0x2B, 0x2C]) ∧
      (∀ m, broken.metadata ≠ m ++ ";base64") ∧ broken.payload = "%2c" ++ "%" ++ "é" ∧
        ∃ cause, broken.decode = .error (.percent cause) := by
  intro url broken
  have hurl : ∀ m, url.metadata ≠ m ++ ";base64" := isBase64_eq_false_iff.mp (by decide)
  have hbroken : ∀ m, broken.metadata ≠ m ++ ";base64" := isBase64_eq_false_iff.mp (by decide)
  have hplus : ∀ before rest : String, url.payload ≠ before ++ "%+" ++ rest := by
    intro before rest heq
    have hinfix : ['%', '+'] <:+: url.payload.toList := ⟨before.toList, rest.toList, by simp [heq]⟩
    exact absurd hinfix (by decide)
  have hdecode : url.decode = .ok [0x2B, 0x2C] := by decide
  have hpair : ∀ pair more b, "é".toList = pair ++ more → ¬ Percent.Pair pair b := by
    intro pair more b heq hpair
    obtain ⟨high, low, rfl, -⟩ := hpair.exists_chars
    cases heq
  obtain ⟨-, -, hexact⟩ := percent_payload_accepted url hurl
  obtain ⟨-, hrefuses, -⟩ := percent_payload_accepted broken hbroken
  exact ⟨⟨hurl, hplus, hdecode, (hexact hplus _).mp hdecode⟩, hbroken, rfl, hrefuses "%2c" "é" rfl hpair⟩

/-- **A plus sign passes for a hexadecimal digit.** The payload is no sequence of characters and two-digit escapes, and
it is decoded to one byte. -/
theorem signed_escape_accepted :
    let url : DataUrl := ⟨"", "%+f"⟩
    parse "data:,%+f" = .ok url ∧ (∀ m, url.metadata ≠ m ++ ";base64") ∧ url.decode = .ok [15] ∧
      ¬ ∀ (url : DataUrl) (bytes : List UInt8), (∀ m, url.metadata ≠ m ++ ";base64") → url.decode = .ok bytes →
        ∃ bytes', Percent.Encodes Percent.HexPair url.payload.toList bytes' := by
  intro url
  have hurl : ∀ m, url.metadata ≠ m ++ ";base64" := isBase64_eq_false_iff.mp (by decide)
  have hdecode : url.decode = .ok [15] := by decide
  refine ⟨by decide, hurl, hdecode, fun haccepted => ?_⟩
  obtain ⟨bytes, hencodes⟩ := haccepted url [15] hurl hdecode
  have hchars : "%+f".toList = ['%', '+', 'f'] := rfl
  change Percent.Encodes Percent.HexPair "%+f".toList bytes at hencodes
  rw [hchars] at hencodes
  generalize htext : ['%', '+', 'f'] = text at hencodes
  cases hencodes with
  | nil => cases htext
  | literal hc _ => exact hc (List.cons.inj htext).1.symm
  | escape hpair rest =>
    obtain ⟨high, low, h, l, rfl, hhigh, -⟩ := hpair
    obtain rfl : '+' = high := (List.cons.inj (List.cons.inj htext).2).1
    exact hhigh.ne_sign.2 rfl

/-- **A base64 payload has one spelling.** It is decoded to bytes exactly if it is the base64 form of these bytes, with
its padding, and each byte list has one such form. Every other payload is refused. -/
theorem base64_payload_accepted (url : DataUrl) {m : String} (h : url.metadata = m ++ ";base64") :
    (∀ bytes, url.decode = .ok bytes ↔ Base64.Written bytes url.payload) ∧
      (∀ bytes, ∃! payload, Base64.Written bytes payload) ∧
      ((∀ bytes, ¬ Base64.Written bytes url.payload) → ∃ cause, url.decode = .error (.base64 cause)) := by
  refine ⟨fun bytes => ?_, Base64.existsUnique_written, fun hpayload => ?_⟩
  · exact decodeWith_base64_eq_ok_iff Base64.documented h
  · exact decodeWith_base64_refused Base64.documented h hpayload

/-- One byte, and the same symbols with a bit of the last one set that belongs to no byte. -/
theorem base64_payload_accepted_one_byte :
    let url : DataUrl := ⟨"text/plain;base64", "QQ=="⟩
    let other : DataUrl := ⟨"text/plain;base64", "QR=="⟩
    (url.metadata = "text/plain" ++ ";base64" ∧ url.decode = .ok [0x41] ∧ Base64.Written [0x41] url.payload) ∧
      other.metadata = "text/plain" ++ ";base64" ∧ (∀ bytes, ¬ Base64.Written bytes other.payload) ∧
        ∃ cause, other.decode = .error (.base64 cause) := by
  intro url other
  have hurl : url.metadata = "text/plain" ++ ";base64" := by decide
  have hother : other.metadata = "text/plain" ++ ";base64" := by decide
  have hdecode : url.decode = .ok [0x41] := by decide
  obtain ⟨haccepted, -, -⟩ := base64_payload_accepted url hurl
  obtain ⟨haccepted', -, hrefused⟩ := base64_payload_accepted other hother
  have hspelling : ∀ bytes, ¬ Base64.Written bytes other.payload := by
    intro bytes hwritten
    have hok := (haccepted' bytes).mpr hwritten
    have herror : other.decode = .error (.base64 (.invalidLastSymbol 82 1)) := by decide
    rw [herror] at hok
    cases hok
  exact ⟨⟨hurl, hdecode, (haccepted _).mp hdecode⟩, hother, hspelling, hrefused hspelling⟩

end DataUrl

end Hypertext
