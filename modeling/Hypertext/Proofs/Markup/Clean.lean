import Hypertext.Proofs.Markup.Emitted

/-!
# Clean operations

An operation is clean if nothing that it is given can be taken for markup: names are made of letters,
digits and hyphens, and texts and values are escaped. A switch is clean whatever its policy, since its value
is its name.

* `Attribute.Clean`, `Operation.Clean`: clean attributes and operations.
* `Attributes.clean_attr`, `clean_addWith`, `clean_add`, `clean_flag`: how lists of clean attributes are built.
* `Markup.clean_tagWith`, `Markup.clean_element`: whole elements are written by clean operations, since all
  names of HTML are names (`Element.isName`, `AttributeName.isName`).
-/

namespace Hypertext

/-- An attribute that is escaped, or a switch, whose value is its name. -/
structure Attribute.Clean (a : Attribute) : Prop where
  name : IsName a.name
  value : a.policy = .escapeChars ∨ a.value = a.name

/-- A list of clean attributes. -/
def Attributes.Clean (list : Attributes) : Prop :=
  ∀ a ∈ list, a.Clean

/-- Tags with clean attributes, end tags and escaped text. -/
def Operation.Clean : Operation → Prop
  | .openTag name attributes => IsName name ∧ ∃ list, Carrier.Lists attributes list ∧ list.Clean
  | .voidTag name attributes => IsName name ∧ ∃ list, Carrier.Lists attributes list ∧ list.Clean
  | .closeTag => True
  | .closeExpecting _ => True
  | .text _ policy => policy = .escapeChars
  | .char _ => False
  | .rawBlock _ _ _ => False

/-- Escaped or not, a clean value is written as if it were escaped. -/
theorem Attribute.Clean.written_eq {a : Attribute} (h : a.Clean) :
    a.policy.written a.value = escapeHtml a.value := by
  rcases h.value with hpolicy | hvalue
  · rw [hpolicy]
    rfl
  · have hname : escapeHtml a.value = a.value := by
      rw [hvalue]
      exact h.name.escapeHtml_eq_self
    cases a.policy with
    | escapeChars => rfl
    | noEscape => exact hname.symm

theorem Element.isName (e : Element) : IsName e.name := by
  cases e <;> decide

theorem AttributeName.isName (a : AttributeName) : IsName a.spelling := by
  cases a <;> decide

namespace Attributes

variable {list : Attributes}

theorem clean_append (h : list.Clean) {last : Attribute} (hlast : last.Clean) : Clean (list ++ [last]) := by
  intro a ha
  rcases List.mem_append.mp ha with ha | ha
  · exact h a ha
  · rw [List.mem_singleton.mp ha]
    exact hlast

/-- Any value may be added under a name. -/
theorem clean_attr (h : list.Clean) {name : String} (hname : IsName name) (value : String) :
    (list.attr name value).Clean := by
  rw [attr_eq]
  exact clean_append h ⟨hname, .inl rfl⟩

/-- Any value may be added to an attribute of HTML if it is to be escaped. -/
theorem clean_addWith (h : list.Clean) (a : AttributeName) (value : String) :
    (list.addWith a value .escapeChars).Clean := by
  rw [addWith_eq]
  exact clean_append h ⟨a.isName, .inl rfl⟩

/-- Any value may be added to an attribute of HTML whose values are escaped. -/
theorem clean_add (h : list.Clean) {a : AttributeName} (ha : a.escaping = .escapeChars) (value : String) :
    (list.add a value).Clean := by
  rw [add_eq, ha]
  exact clean_append h ⟨a.isName, .inl rfl⟩

/-- Any switch of HTML may be added. -/
theorem clean_flag (h : list.Clean) (a : AttributeName) (on : Bool) : (list.flag a on).Clean := by
  cases on with
  | true =>
    rw [flag_true]
    exact clean_append h ⟨a.isName, .inr rfl⟩
  | false =>
    rw [flag_false]
    exact h

end Attributes

namespace Markup

/-- Every element of HTML may be opened, or written whole if it is void. -/
theorem clean_tagWith (e : Element) {attributes : Option Carrier} {list : Attributes}
    (hlist : Carrier.Lists attributes list) (h : list.Clean) :
    ∀ operation ∈ tagWith e attributes, operation.Clean := by
  intro operation hoperation
  unfold tagWith at hoperation
  split at hoperation <;> rw [List.mem_singleton.mp hoperation] <;> exact ⟨e.isName, list, hlist, h⟩

/-- Every element of HTML may be written around any text. -/
theorem clean_element (e : Element) (t : Option String) :
    ∀ operation ∈ element e t, operation.Clean := by
  intro operation hoperation
  rcases List.mem_append.mp hoperation with hoperation | hend
  · rcases List.mem_append.mp hoperation with htag | htext
    · exact clean_tagWith e .none (fun a ha => absurd ha List.not_mem_nil) operation htag
    · rw [List.mem_singleton.mp htext]
      rfl
  · rw [List.mem_singleton.mp hend]
    exact trivial

end Markup

end Hypertext
