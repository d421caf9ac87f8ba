import Hypertext.Proofs.Scope.Chain
import Hypertext.Proofs.Text.Spelling

/-!
# Headers after a write

A header is written under the exact name and read under any spelling of it. Among several spellings that are
bound, the one that comes first in the order of the names is read.

* `Entries.exists_toList_insert_eq`: a binding is inserted after the names that come before it.
* `Dict.headerText?`: what a dictionary of headers says under a name.
* `Dict.Hides`: a spelling that comes before the name is bound already. `Dict.headerText?_insert`,
  `Dict.headerText?_insert_of_hides`: what an insertion does to the header without and with one.
* `Scope.headers`: the headers that a scope shows, which a write adds to (`Scope.headers_setNested`).
* `header_after_write`: a written header is read back under every spelling of its name, unless it is hidden so;
  then all of them read what they did before the write.
* `inner_header_hidden`: such a header, written in an inner frame.
-/

namespace Hypertext

namespace Entries

variable {α : Type} {bound : Option String} {key : String}

/-- A binding is inserted after those whose names come before it. -/
theorem exists_toList_insert_eq (value : α) (h : After bound key) (d : Entries α bound) :
    ∃ rest, (d.insert key value h).toList = d.toList.takeWhile (fun b => b.1 < key) ++ (key, value) :: rest := by
  induction d with
  | nil => exact ⟨[], rfl⟩
  | cons k v after d ih =>
    unfold insert
    split
    · rename_i heq
      have hless : ¬ k < key := heq ▸ String.lt_irrefl k
      refine ⟨d.toList, ?_⟩
      rw [toList, toList, List.takeWhile_cons_of_neg (by simpa using hless), List.nil_append, heq]
    · split
      · rename_i hbefore
        have hless : ¬ k < key := String.lt_asymm hbefore
        refine ⟨(k, v) :: d.toList, ?_⟩
        rw [toList, toList, List.takeWhile_cons_of_neg (by simpa using hless), List.nil_append]
        rfl
      · rename_i heq hbefore
        have hless : k < key := key_lt_of_not heq hbefore
        obtain ⟨rest, hrest⟩ := ih hless
        refine ⟨rest, ?_⟩
        rw [toList, toList, hrest, List.takeWhile_cons_of_pos (by simpa using hless), List.cons_append]

/-- The names before a name are at the front. -/
theorem mem_takeWhile {d : Entries α bound} {binding : String × α} (hmem : binding ∈ d.toList)
    (hbefore : binding.1 < key) : binding ∈ d.toList.takeWhile fun b => b.1 < key := by
  induction d with
  | nil => cases hmem
  | cons k v after d ih =>
    have hless : k < key := by
      rcases List.mem_cons.mp hmem with rfl | hmem
      · exact hbefore
      · exact String.lt_trans (after_of_mem_toList hmem) hbefore
    rw [toList, List.takeWhile_cons_of_pos (by simpa using hless)]
    rcases List.mem_cons.mp hmem with rfl | hmem
    · exact List.mem_cons_self
    · exact List.mem_cons_of_mem _ (ih hmem)

end Entries

namespace Dict

theorem exists_toList_insert_eq {α : Type} (key : String) (value : α) (d : Dict α) :
    ∃ rest, (d.insert key value).toList = d.toList.takeWhile (fun b => b.1 < key) ++ (key, value) :: rest :=
  Entries.exists_toList_insert_eq value (.start key) d

/-- The text of the first header whose name is a spelling of this one. -/
def headerText? (name : String) (headers : Dict Json) : Option String :=
  (headers.toList.find? fun (key, _) => Text.sameIgnoringCase key name).bind fun (key, _) =>
    Bindings.getString headers key

/-- A spelling of the name that comes before it is bound. -/
def Hides (headers : Dict Json) (name : String) : Prop :=
  ∃ binding ∈ headers.toList, binding.1 < name ∧ Text.SameLetters binding.1.toList name.toList

section

variable {headers : Dict Json} {name other : String}

/-- All spellings of a name find the same header. -/
theorem headerText?_congr (h : Text.SameLetters name.toList other.toList) (headers : Dict Json) :
    headers.headerText? name = headers.headerText? other := by
  have hlower : Text.lowerChars name = Text.lowerChars other := by
    simpa [Text.sameIgnoringCase] using Text.sameIgnoringCase_iff.mpr h
  unfold headerText? Text.sameIgnoringCase
  rw [hlower]

theorem headerText?_of_find? {binding : String × Json}
    (h : (headers.toList.find? fun (key, _) => Text.sameIgnoringCase key name) = some binding) :
    headers.headerText? name = (headers.get? binding.1).bind Json.toText? := by
  unfold headerText?
  rw [h]
  rfl

/-- Without a spelling before it, the name that is written is the first one found. -/
theorem headerText?_insert (h : ¬ headers.Hides name) (text : String) :
    (headers.insert name (.str text)).headerText? name = some text := by
  obtain ⟨rest, hinsert⟩ := exists_toList_insert_eq name (.str text) headers
  have hbefore : (headers.toList.takeWhile fun b => b.1 < name).find?
      (fun (key, _) => Text.sameIgnoringCase key name) = none := by
    rw [List.find?_eq_none]
    intro b hb hsame
    have hless : b.1 < name := by simpa using List.mem_takeWhile_imp hb
    exact h ⟨b, (List.takeWhile_prefix _).subset hb, hless, Text.sameIgnoringCase_iff.mp hsame⟩
  have hself : Text.sameIgnoringCase name name = true := beq_self_eq_true _
  have hfind : (headers.insert name (.str text)).toList.find? (fun (key, _) => Text.sameIgnoringCase key name) =
      some (name, .str text) := by
    rw [hinsert, List.find?_append, hbefore, Option.none_or]
    exact List.find?_cons_of_pos hself
  rw [headerText?_of_find? hfind, get?_insert_self]
  rfl

/-- With a spelling before it, that one is found, and what is written makes no difference. -/
theorem headerText?_insert_of_hides (h : headers.Hides name) (value : Json) :
    (headers.insert name value).headerText? name = headers.headerText? name := by
  obtain ⟨rest, hinsert⟩ := exists_toList_insert_eq name value headers
  obtain ⟨hidden, hmem, hbefore, hsame⟩ := h
  obtain ⟨first, hfirst⟩ : ∃ first, (headers.toList.takeWhile fun b => b.1 < name).find?
      (fun (key, _) => Text.sameIgnoringCase key name) = some first := by
    rw [← Option.isSome_iff_exists, List.find?_isSome]
    exact ⟨hidden, Entries.mem_takeWhile hmem hbefore, Text.sameIgnoringCase_iff.mpr hsame⟩
  -- the same front stands before and after the insertion, and the first match is in it
  have hne : first.1 ≠ name := by
    have hless : first.1 < name := by simpa using List.mem_takeWhile_imp (List.mem_of_find?_eq_some hfirst)
    rintro rfl
    exact String.lt_irrefl _ hless
  have hold : headers.toList.find? (fun (key, _) => Text.sameIgnoringCase key name) = some first := by
    rw [← List.takeWhile_append_dropWhile (p := fun b : String × Json => b.1 < name) (l := headers.toList),
      List.find?_append, hfirst, Option.some_or]
  have hnew : (headers.insert name value).toList.find? (fun (key, _) => Text.sameIgnoringCase key name) =
      some first := by
    rw [hinsert, List.find?_append, hfirst, Option.some_or]
  rw [headerText?_of_find? hold, headerText?_of_find? hnew, get?_insert_of_ne hne]

end

end Dict

namespace Scope

/-- The headers that are visible in the innermost frame. -/
def headers (scope : Scope) : Dict Json :=
  nestedEntries (scope.value? Request.headers)

theorem header_eq (scope : Scope) (name : String) : scope.header name = scope.headers.headerText? name := by
  have hbind : scope.header name = ((scope.value? Request.headers).bind Json.fields?).bind
    fun headers => headers.headerText? name := rfl
  rw [hbind]
  unfold headers
  -- without a dictionary under the key there is no header, as in an empty one
  cases scope.value? Request.headers with
  | none => rfl
  | some value => cases value <;> rfl

theorem headers_setNested (scope : Scope) (name : String) (value : Json) :
    (scope.setNested Request.headers name value).headers = scope.headers.insert name value := by
  unfold headers
  rw [value?_setNested_self]
  rfl

end Scope

/-- **A header that is written is read back under every spelling of its name**, whatever the frames bind, unless
a spelling that comes before the name is visible. If one is, the header reads under every spelling what it read before
the write. -/
theorem header_after_write (scope : Scope) (n m text : String) (h : Text.SameLetters m.toList n.toList) :
    (¬ scope.headers.Hides n → (scope.setNested Request.headers n (.str text)).header m = some text) ∧
      (scope.headers.Hides n →
        (scope.setNested Request.headers n (.str text)).header m = scope.header m) := by
  rw [Scope.header_eq, Scope.header_eq, Scope.headers_setNested, Dict.headerText?_congr h, Dict.headerText?_congr h]
  constructor
  · intro hfree
    exact Dict.headerText?_insert hfree text
  · intro hhidden
    exact Dict.headerText?_insert_of_hides hhidden _

/-- An outer frame binds two headers. A spelling that comes before the inherited one is written and read back; a
spelling that comes after the inherited one stays hidden. -/
theorem header_after_write_inherited :
    let headers : Dict Json := .ofList [("Host", .str "here"), ("accept", .str "nl")]
    let scope : Scope := { root := .ofList [("request.headers", .obj headers)], frames := [.nil] }
    ((Text.SameLetters "ACCEPT".toList "Accept".toList ∧ ¬ scope.headers.Hides "Accept") ∧
        (scope.setNested Request.headers "Accept" (.str "fr")).header "ACCEPT" = some "fr") ∧
      (Text.SameLetters "HOST".toList "host".toList ∧ scope.headers.Hides "host") ∧
        (scope.setNested Request.headers "host" (.str "there")).header "HOST" = scope.header "HOST" := by
  intro headers scope
  have haccept : Text.SameLetters "ACCEPT".toList "Accept".toList := Text.sameIgnoringCase_iff.mp (by decide)
  have hhost : Text.SameLetters "HOST".toList "host".toList := Text.sameIgnoringCase_iff.mp (by decide)
  have hfree : ¬ scope.headers.Hides "Accept" := by
    rintro ⟨binding, hmem, hbefore, hletters⟩
    have hheaders : scope.headers.toList = [("Host", .str "here"), ("accept", .str "nl")] := rfl
    rw [hheaders, List.mem_cons, List.mem_singleton] at hmem
    rcases hmem with rfl | rfl
    · exact absurd (Text.sameIgnoringCase_iff.mpr hletters) (by decide)
    · exact absurd hbefore (by decide)
  have hhidden : scope.headers.Hides "host" :=
    ⟨("Host", .str "here"), List.mem_cons_self, by decide, Text.sameIgnoringCase_iff.mp (by decide)⟩
  exact ⟨⟨⟨haccept, hfree⟩, (header_after_write scope "Accept" "ACCEPT" "fr" haccept).1 hfree⟩,
    ⟨hhost, hhidden⟩, (header_after_write scope "host" "HOST" "there" hhost).2 hhidden⟩

/-- **An outer header hides an inner one of the same name.** The inner frame writes the header in small letters; read
in the same spelling, it is still the outer one, whose capital letter comes first. -/
theorem inner_header_hidden :
    let scope : Scope :=
      { root := .ofList [("request.headers", .obj (Dict.ofList [("Accept", .str "nl")]))], frames := [.nil] }
    (scope.setNested Request.headers "accept" (.str "fr")).header "accept" = some "nl" ∧
      (scope.setNested Request.headers "accept" (.str "fr")).nestedString Request.headers "accept" = some "fr" ∧
      ¬ ∀ (scope : Scope) (n m text : String), Text.SameLetters m.toList n.toList →
        (scope.setNested Request.headers n (.str text)).header m = some text := by
  intro scope
  have houter : (scope.setNested Request.headers "accept" (.str "fr")).header "accept" = some "nl" := by
    decide +kernel
  refine ⟨houter, by decide +kernel, fun hread => ?_⟩
  have hinner := hread scope "accept" "accept" "fr" (Text.sameIgnoringCase_iff.mp (by decide))
  rw [houter] at hinner
  exact absurd hinner (by decide)

end Hypertext
