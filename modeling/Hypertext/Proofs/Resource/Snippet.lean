import Hypertext.Proofs.Program.Requests
import Hypertext.Proofs.Resource.DataUrl

/-!
# Texts carried in data URLs

A text that is put into a data URL, in base64 or percent-encoded, comes out of it unchanged, also when it is written
to a canvas.

* `Carries`: the location is a data URL with these bytes in it.
* `loadText_of_carries`: what is loaded from such a location.
* `run_snippet_ok`, `run_snippet_error`: a snippet is rendered by appending the text and changing nothing else.
* `carried_text_survives`: both together.
-/

namespace Hypertext

/-- The location is a data URL with these bytes in it, in base64 or percent-encoded. -/
inductive Carries : String → List UInt8 → Prop
  | base64 {m e : String} {bytes : List UInt8} (hm : ',' ∉ m.toList) (he : Base64.Written bytes e) :
      Carries ("data:" ++ m ++ ";base64," ++ e) bytes
  | percent {m e : String} {bytes : List UInt8} (hm : ',' ∉ m.toList) (hplain : ∀ start, m ≠ start ++ ";base64")
      (he : Percent.Encodes Percent.HexPair e.toList bytes) : Carries ("data:" ++ m ++ "," ++ e) bytes

variable {location t : String} {bytes : List UInt8} {world : World}

/-- What carries bytes is a data URL that is parsed and decoded to them. -/
theorem Carries.exists_url (h : Carries location bytes) :
    ∃ url : DataUrl, location = url.text ∧ DataUrl.parse location = .ok url ∧ url.decode = .ok bytes := by
  cases h with
  | @base64 m e bytes hm he =>
    let url : DataUrl := ⟨m ++ ";base64", e⟩
    have htext : "data:" ++ m ++ ";base64," ++ e = url.text := by
      rw [← String.toList_inj]
      simp [url, DataUrl.text, DataUrl.scheme]
    have hcomma : ',' ∉ url.metadata.toList := by simpa [url] using hm
    refine ⟨url, htext, ?_, (DataUrl.decodeWith_base64_eq_ok_iff Base64.documented rfl).mpr he⟩
    rw [htext, DataUrl.parse_text url hcomma]
  | @percent m e bytes hm hplain he =>
    let url : DataUrl := ⟨m, e⟩
    have htext : "data:" ++ m ++ "," ++ e = url.text := rfl
    refine ⟨url, htext, ?_, (DataUrl.decode_percent_eq_ok_iff hplain).mpr (he.mono fun _ _ => .inl)⟩
    rw [htext, DataUrl.parse_text url hm]

/-- A data URL is no web address, so it is read as a data URL. -/
theorem loadText_text (world : World) (url : DataUrl) : loadText world url.text = dataText url.text := by
  have hchars : url.text.toList = 'd' :: 'a' :: 't' :: 'a' :: ':' :: (url.metadata ++ "," ++ url.payload).toList := by
    simp [DataUrl.text, DataUrl.scheme]
  have hweb : isWebAddress url.text = false := by
    simp [isWebAddress, afterStart?, hchars]
  have hdata : (afterStart? "data:" url.text).isSome = true := by
    simp [afterStart?, hchars]
  rw [loadText, hweb, if_neg Bool.false_ne_true, if_pos hdata]

theorem loadText_of_carries (h : Carries location bytes) (world : World) :
    loadText world location = match Text.ofUtf8? bytes with
      | some text => .ok text
      | none => .error (.notUtf8 location) := by
  obtain ⟨url, htext, hparse, hdecode⟩ := h.exists_url
  have hload : loadText world location = dataText location := by rw [htext, loadText_text]
  rw [hload, dataText, hparse]
  change (url.decode.mapError ResourceError.decode >>= _) = _
  rw [hdecode]
  rfl

/-- A snippet whose text is loaded is rendered by appending the text, whatever the canvas. -/
theorem run_snippet_ok (h : loadText world location = .ok t) (c : Canvas String) :
    ((Program.render (.snippet location) .done).run world c).result = .ok () ∧
      ((Program.render (.snippet location) .done).run world c).canvas = { c with sink := c.sink ++ t } := by
  have hrun : (Program.snippet location).run world c.enterFrame =
      ⟨{ c.enterFrame with sink := c.sink ++ t }, .ok (), [],
        [.wrote (.text (some t) .noEscape) (.ok ()) c.openTags]⟩ := by
    rw [Program.run, h]
    rfl
  rw [run_render, hrun]
  exact ⟨rfl, rfl⟩

/-- A snippet whose text is not loaded fails for that reason and changes nothing. -/
theorem run_snippet_error {e : ResourceError} (h : loadText world location = .error e) (c : Canvas String) :
    ((Program.render (.snippet location) .done).run world c).result = .error (.resource e) ∧
      ((Program.render (.snippet location) .done).run world c).canvas = c := by
  have hrun : (Program.snippet location).run world c.enterFrame =
      ⟨c.enterFrame, .error (.resource e), [], []⟩ := by
    rw [Program.run, h]
  rw [run_render, hrun]
  exact ⟨rfl, rfl⟩

/-- **Text survives a data URL.** Put any bytes into a data URL, in base64 or in any percent encoding, behind any
metadata without a comma. If they are the UTF-8 form of a text, then this text is loaded, and a snippet with this
location appends exactly the text to whatever canvas it is rendered on, and changes nothing else there. If they are
no text's form, loading fails and names the location, and rendering the snippet fails for that reason and leaves
the canvas as it was. -/
theorem carried_text_survives (world : World) (location : String) (bytes : List UInt8)
    (h : Carries location bytes) :
    (∀ t, bytes = Text.utf8 t → loadText world location = .ok t ∧ ∀ c : Canvas String,
        let run := (Program.render (.snippet location) .done).run world c
        run.result = .ok () ∧ run.canvas = { c with sink := c.sink ++ t }) ∧
      ((∀ t, bytes ≠ Text.utf8 t) → loadText world location = .error (.notUtf8 location) ∧ ∀ c : Canvas String,
        let run := (Program.render (.snippet location) .done).run world c
        run.result = .error (.resource (.notUtf8 location)) ∧ run.canvas = c) := by
  have hload := loadText_of_carries h world
  constructor
  · intro t ht
    rw [Text.ofUtf8?_eq_some_iff.mpr ht] at hload
    exact ⟨hload, run_snippet_ok hload⟩
  · intro hbytes
    rw [Text.ofUtf8?_eq_none_iff.mpr hbytes] at hload
    exact ⟨hload, run_snippet_error hload⟩

/-- Percent-encoded text with a comma and a bracket, then a byte in base64 that is no text, on a canvas in the middle of
an element. -/
theorem carried_text_survives_open_element :
    let c : Canvas String :=
      { sink := "<p>", openTags := ["</p>"], context := { frames := [.ofList [("key", .null)]] }, lastId := 7 }
    let location := "data:text/plain;v=1,%c3%A9,<"
    let broken := "data:;base64,/w=="
    (Carries location (Text.utf8 "é,<") ∧ loadText {} location = .ok "é,<" ∧
        ((Program.render (.snippet location) .done).run {} c).canvas = { c with sink := "<p>é,<" }) ∧
      Carries broken [0xFF] ∧ (∀ t, [0xFF] ≠ Text.utf8 t) ∧
        ((Program.render (.snippet broken) .done).run {} c).result = .error (.resource (.notUtf8 broken)) ∧
        ((Program.render (.snippet broken) .done).run {} c).canvas = c := by
  intro c location broken
  have hcarries : Carries location (Text.utf8 "é,<") := by
    have hencodes : Percent.Encodes Percent.HexPair "%c3%A9,<".toList (Text.utf8 "é,<") := by
      have hfirst : Percent.HexPair ['c', '3'] 0xC3 := ⟨'c', '3', 12, 3, rfl, .inl rfl, .inl rfl, rfl⟩
      have hsecond : Percent.HexPair ['A', '9'] 0xA9 := ⟨'A', '9', 10, 9, rfl, .inr rfl, .inl rfl, rfl⟩
      have hcomma : ',' ≠ '%' := by decide
      have hbracket : '<' ≠ '%' := by decide
      have hbytes : 0xC3 :: 0xA9 :: (Text.utf8Chars [','] ++ (Text.utf8Chars ['<'] ++ [])) = Text.utf8 "é,<" := by
        decide
      rw [← hbytes]
      exact .escape hfirst (.escape hsecond (.literal hcomma (.literal hbracket .nil)))
    have hplain : ∀ start, "text/plain;v=1" ≠ start ++ ";base64" :=
      DataUrl.isBase64_eq_false_iff.mp (show DataUrl.isBase64 ⟨"text/plain;v=1", ""⟩ = false by decide)
    exact .percent (by decide) hplain hencodes
  have hbroken : Carries broken [0xFF] := by
    have hcomma : ',' ∉ "".toList := by decide
    have hwritten : Base64.Written [0xFF] "/w==" := Base64.decode_utf8_eq_ok_iff.mp (by decide)
    exact .base64 hcomma hwritten
  have hno : ∀ t, [0xFF] ≠ Text.utf8 t := Text.ofUtf8?_eq_none_iff.mp (by decide +kernel)
  obtain ⟨hload, hrun⟩ := (carried_text_survives {} location _ hcarries).1 "é,<" rfl
  obtain ⟨-, hrun'⟩ := (carried_text_survives {} broken _ hbroken).2 hno
  exact ⟨⟨hcarries, hload, (hrun c).2⟩, hbroken, hno, hrun' c⟩

end Hypertext
