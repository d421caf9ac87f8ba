/-!
# Texts as bytes

* `utf8` is the UTF-8 form of a text.
* `ofUtf8?` reads it back (`ofUtf8?_eq_some_iff`) and refuses every byte list that is no text's form
  (`ofUtf8?_eq_none_iff`).
-/

namespace Hypertext.Text

/-- The UTF-8 bytes of a list of characters. -/
def utf8Chars (cs : List Char) : List UInt8 :=
  cs.flatMap String.utf8EncodeChar

/-- The UTF-8 bytes of a text. -/
def utf8 (s : String) : List UInt8 :=
  utf8Chars s.toList

/-- The text with these UTF-8 bytes, if there is one. -/
def ofUtf8? (bytes : List UInt8) : Option String :=
  String.fromUTF8? ⟨bytes.toArray⟩

@[simp] theorem utf8Chars_nil : utf8Chars [] = [] := rfl

@[simp] theorem utf8Chars_append (cs ds : List Char) : utf8Chars (cs ++ ds) = utf8Chars cs ++ utf8Chars ds := by
  simp [utf8Chars]

@[simp] theorem utf8_append (s t : String) : utf8 (s ++ t) = utf8 s ++ utf8 t := by
  simp [utf8]

@[simp] theorem length_utf8Chars_cons (c : Char) (cs : List Char) :
    (utf8Chars (c :: cs)).length = c.utf8Size + (utf8Chars cs).length := by
  simp [utf8Chars]

theorem length_utf8 (s : String) : (utf8 s).length = s.utf8ByteSize := by
  rw [← String.size_toByteArray, ← String.utf8Encode_toList, List.utf8Encode, List.size_toByteArray]
  rfl

theorem toByteArray_utf8 (s : String) : (⟨(utf8 s).toArray⟩ : ByteArray) = s.toByteArray := by
  rw [← String.utf8Encode_toList, List.utf8Encode]
  exact ByteArray.ext List.data_toByteArray.symm

/-- Reading back finds exactly the text that was written. -/
theorem ofUtf8?_eq_some_iff {bytes : List UInt8} {s : String} : ofUtf8? bytes = some s ↔ bytes = utf8 s := by
  unfold ofUtf8? String.fromUTF8?
  constructor
  · intro h
    split at h
    · obtain rfl := Option.some.inj h
      have hbytes := congrArg (fun b => b.data.toList) (toByteArray_utf8 (String.fromUTF8 ⟨bytes.toArray⟩ ‹_›))
      exact hbytes.symm
    · cases h
  · rintro rfl
    rw [dif_pos (toByteArray_utf8 s ▸ s.isValidUTF8), Option.some.injEq, ← String.toByteArray_inj]
    exact toByteArray_utf8 s

/-- What is no text's form is refused. -/
theorem ofUtf8?_eq_none_iff {bytes : List UInt8} : ofUtf8? bytes = none ↔ ∀ s, bytes ≠ utf8 s := by
  rw [Option.eq_none_iff_forall_ne_some]
  exact forall_congr' fun s => not_congr ofUtf8?_eq_some_iff

theorem utf8_inj {s t : String} : utf8 s = utf8 t ↔ s = t := by
  constructor
  · intro h
    have hself : ofUtf8? (utf8 s) = some s := ofUtf8?_eq_some_iff.mpr rfl
    rw [ofUtf8?_eq_some_iff.mpr h] at hself
    exact (Option.some.inj hself).symm
  · rintro rfl
    rfl

end Hypertext.Text
