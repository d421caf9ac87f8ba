import Mathlib.Data.List.Basic

/-!
# Reading markup

A `Reader` takes markup character by character, knowing nothing of what wrote it. It makes out tags with
their attributes and character data, decodes the five entities, and keeps the names of the elements that
are open. It refuses an end tag that is not that of the innermost open element.

* `Event`, `Transcript`: what is made out, adjacent character data as one text.
* `Reader.step`: one character. `readMarkup`: a whole text, which must not end within a tag or an entity.
* `Reader.Reads`: a stretch of markup takes a reader from here to there. Stretches are joined by
  `Reads.append`.
* `Reader.reads_word`: letters, digits and hyphens are taken into a name that is being read.
* `Reader.Tag.Open`: where a tag may go on with an attribute or end, after its name or after an attribute.
-/

namespace Hypertext

/-- Something that is made out of markup. -/
inductive Event where
  | opened (name : String) (attributes : List (String × String))
  | void (name : String) (attributes : List (String × String))
  | closed (name : String)
  | text (text : String)
deriving DecidableEq, Repr

/-- What has been made out of markup so far. -/
structure Transcript where
  /-- The names of the elements that are open, innermost first. -/
  openNames : List String := []
  /-- The events, latest first. -/
  events : List Event := []
deriving DecidableEq, Repr

namespace Transcript

/-- Character data is added to the text before it, if there is one. -/
def data (t : Transcript) (text : String) : Transcript :=
  if text = "" then t
  else
    match t.events with
    | .text before :: earlier => { t with events := .text (before ++ text) :: earlier }
    | events => { t with events := .text text :: events }

/-- An element is opened. -/
def opened (t : Transcript) (name : String) (attributes : List (String × String)) : Transcript :=
  { openNames := name :: t.openNames, events := .opened name attributes :: t.events }

/-- A whole element without content. -/
def void (t : Transcript) (name : String) (attributes : List (String × String)) : Transcript :=
  { t with events := .void name attributes :: t.events }

/-- The innermost element is closed. -/
def closed (t : Transcript) : Transcript :=
  match t.openNames with
  | [] => t
  | name :: openNames => { openNames, events := .closed name :: t.events }

theorem data_empty (t : Transcript) : t.data "" = t := rfl

/-- Character data opens nothing. -/
theorem openNames_data (t : Transcript) (text : String) : (t.data text).openNames = t.openNames := by
  unfold data
  split
  · rfl
  · split <;> rfl

/-- Character data in two pieces is the same as in one. -/
theorem data_data (t : Transcript) (text text' : String) :
    (t.data text).data text' = t.data (text ++ text') := by
  by_cases h : text = ""
  · rw [h, data_empty, String.empty_append]
  by_cases h' : text' = ""
  · rw [h', data_empty, String.append_empty]
  have happend : text ++ text' ≠ "" := fun he => h (String.append_eq_empty_iff.mp he).1
  obtain ⟨openNames, events⟩ := t
  unfold data
  rw [if_neg h, if_neg h', if_neg happend]
  rcases events with _ | ⟨_ | _ | _ | before, earlier⟩
  case cons.text => simp only [String.append_assoc]
  all_goals rfl

end Transcript

/-- The characters of names. -/
def isNameChar (c : Char) : Bool :=
  c.isAlphanum || c = '-'

/-- A name of letters, digits and hyphens. -/
structure IsName (name : String) : Prop where
  nonempty : name ≠ ""
  chars : ∀ c ∈ name.toList, isNameChar c = true

instance (name : String) : Decidable (IsName name) :=
  decidable_of_iff (name ≠ "" ∧ name.toList.all isNameChar = true)
    ⟨fun h => ⟨h.1, List.all_eq_true.mp h.2⟩, fun h => ⟨h.nonempty, List.all_eq_true.mpr h.chars⟩⟩

/-- A tag as far as it has been read. -/
structure Reader.Tag where
  name : String
  attributes : List (String × String) := []

/-- Where the characters of a text stand. -/
inductive Reader.Place where
  /-- Between the tags. -/
  | data
  /-- In the value of an attribute, which has been read so far. -/
  | value (tag : Reader.Tag) (name read : String)

/-- What a reader is in the middle of. -/
inductive Reader.Mode where
  | text (place : Reader.Place)
  /-- An entity, after its ampersand. -/
  | entity (place : Reader.Place) (name : String)
  /-- A tag, after its opening bracket. -/
  | bracket
  | name (tag : Reader.Tag)
  | endName (name : String)
  /-- After the closing quote of an attribute. -/
  | quoted (tag : Reader.Tag)
  | attribute (tag : Reader.Tag) (name : String)
  /-- After the equals sign of an attribute. -/
  | equals (tag : Reader.Tag) (name : String)
  /-- After the slash that ends a void tag. -/
  | slash (tag : Reader.Tag)

/-- A reader in the middle of markup. -/
structure Reader where
  mode : Reader.Mode := .text .data
  transcript : Transcript := {}

namespace Reader

/-- The character that an entity stands for. -/
def named? : String → Option Char
  | "amp" => some '&'
  | "lt" => some '<'
  | "gt" => some '>'
  | "quot" => some '"'
  | "#39" => some '\''
  | _ => none

/-- A text is taken where it stands. -/
def Place.take (t : Transcript) (text : String) : Place → Reader
  | .data => ⟨.text .data, t.data text⟩
  | .value tag name read => ⟨.text (.value tag name (read ++ text)), t⟩

/-- The attribute is complete. -/
def Tag.add (tag : Tag) (name value : String) : Tag :=
  { tag with attributes := tag.attributes ++ [(name, value)] }

/-- A character of a text. Character data ends at a tag, a value at its quote. -/
def Place.step (t : Transcript) (c : Char) (place : Place) : Option Reader :=
  if c = '&' then some ⟨.entity place "", t⟩
  else
    match place with
    | .data => if c = '<' then some ⟨.bracket, t⟩ else some (place.take t (String.singleton c))
    | .value tag name read =>
      if c = '"' then some ⟨.quoted (tag.add name read), t⟩
      else if c = '<' then none
      else some (place.take t (String.singleton c))

/-- A tag goes on with an attribute or ends. -/
def Tag.step (t : Transcript) (c : Char) (tag : Tag) : Option Reader :=
  if c = ' ' then some ⟨.attribute tag "", t⟩
  else if c = '/' then some ⟨.slash tag, t⟩
  else if c = '>' then some ⟨.text .data, t.opened tag.name tag.attributes⟩
  else none

/-- The end of an end tag, which must be that of the innermost open element. -/
def close (t : Transcript) (name : String) : Option Reader :=
  if t.openNames.head? = some name then some ⟨.text .data, t.closed⟩ else none

/-- One character. -/
def step : Reader → Char → Option Reader
  | ⟨.text place, t⟩, c => place.step t c
  | ⟨.entity place name, t⟩, c =>
    if c = ';' then (named? name).map fun decoded => place.take t (String.singleton decoded)
    else if isNameChar c || c = '#' then some ⟨.entity place (name.push c), t⟩
    else none
  | ⟨.bracket, t⟩, c =>
    if c = '/' then some ⟨.endName "", t⟩
    else if isNameChar c then some ⟨.name { name := String.singleton c }, t⟩
    else none
  | ⟨.name tag, t⟩, c =>
    if isNameChar c then some ⟨.name { tag with name := tag.name.push c }, t⟩ else tag.step t c
  | ⟨.endName name, t⟩, c =>
    if isNameChar c then some ⟨.endName (name.push c), t⟩
    else if c = '>' then close t name
    else none
  | ⟨.quoted tag, t⟩, c => tag.step t c
  | ⟨.attribute tag name, t⟩, c =>
    if isNameChar c then some ⟨.attribute tag (name.push c), t⟩
    else if c = '=' ∧ name ≠ "" then some ⟨.equals tag name, t⟩
    else none
  | ⟨.equals tag name, t⟩, c => if c = '"' then some ⟨.text (.value tag name ""), t⟩ else none
  | ⟨.slash tag, t⟩, c =>
    if c = '>' then some ⟨.text .data, t.void tag.name tag.attributes⟩ else none

/-- A stretch of markup takes a reader from one point to another. -/
def Reads (r : Reader) (markup : List Char) (r' : Reader) : Prop :=
  markup.foldlM step r = some r'

end Reader

/-- What a reader makes out of a whole text, unless it refuses it. -/
def readMarkup (markup : String) : Option Transcript :=
  match markup.toList.foldlM Reader.step {} with
  | some ⟨.text .data, t⟩ => some t
  | _ => none

namespace Reader

variable {r r' r'' : Reader} {markup markup' : List Char} {c : Char}

theorem Reads.nothing (r : Reader) : r.Reads [] r := rfl

theorem Reads.char (h : r.step c = some r') : r.Reads [c] r' := by
  unfold Reads
  rw [List.foldlM_cons, h]
  rfl

theorem Reads.append (h : r.Reads markup r') (h' : r'.Reads markup' r'') :
    r.Reads (markup ++ markup') r'' := by
  unfold Reads at *
  rw [List.foldlM_append, h]
  exact h'

theorem Reads.cons (h : r.step c = some r') (h' : r'.Reads markup r'') : r.Reads (c :: markup) r'' :=
  (Reads.char h).append h'

/-- A reader that ends in character data has read the whole. -/
theorem readMarkup_of_reads {markup : String} {t : Transcript}
    (h : Reads {} markup.toList ⟨.text .data, t⟩) : readMarkup markup = some t := by
  unfold Reads at h
  unfold readMarkup
  rw [h]

/-- **Name characters are taken into a name that is being read**, whatever the name is of. -/
theorem reads_word (mode : String → Mode) (t : Transcript)
    (hmode : ∀ name c, isNameChar c = true → step ⟨mode name, t⟩ c = some ⟨mode (name.push c), t⟩)
    (chars : List Char) (hchars : ∀ c ∈ chars, isNameChar c = true) (name : String) :
    Reads ⟨mode name, t⟩ chars ⟨mode (name ++ String.ofList chars), t⟩ := by
  induction chars generalizing name with
  | nil =>
    rw [String.ofList_nil, String.append_empty]
    exact Reads.nothing _
  | cons c chars ih =>
    have hfirst := hmode name c (hchars c List.mem_cons_self)
    have hrest := ih (fun d hd => hchars d (List.mem_cons_of_mem _ hd)) (name.push c)
    have hname : name.push c ++ String.ofList chars = name ++ String.ofList (c :: chars) := by
      rw [String.ofList_cons, String.push_eq_append, String.append_assoc]
    rw [hname] at hrest
    exact Reads.cons hfirst hrest

theorem reads_startName {name : String} (h : IsName name) (t : Transcript) :
    Reads ⟨.bracket, t⟩ name.toList ⟨.name { name }, t⟩ := by
  have hchars := h.chars
  obtain ⟨c, chars, hname⟩ : ∃ c chars, name.toList = c :: chars :=
    List.exists_cons_of_ne_nil fun he => h.nonempty (String.toList_eq_nil_iff.mp he)
  rw [hname] at hchars
  have hc := hchars c List.mem_cons_self
  -- the first character tells a start tag from an end tag
  have hslash : c ≠ '/' := by
    rintro rfl
    exact absurd hc (by decide)
  have hfirst : step ⟨.bracket, t⟩ c = some ⟨.name { name := String.singleton c }, t⟩ := by
    simp only [step, hslash, hc, if_false, if_true]
  have hrest := reads_word (fun name => .name { name }) t
    (fun name c hc => by simp only [step, hc, if_true]) chars
    (fun d hd => hchars d (List.mem_cons_of_mem _ hd)) (String.singleton c)
  have hwhole : String.singleton c ++ String.ofList chars = name := by
    rw [← String.ofList_cons, ← hname, String.ofList_toList]
  rw [hwhole] at hrest
  rw [hname]
  exact Reads.cons hfirst hrest

theorem reads_endName {name : String} (h : IsName name) (t : Transcript) :
    Reads ⟨.endName "", t⟩ name.toList ⟨.endName name, t⟩ := by
  have hread := reads_word .endName t (fun name c hc => by simp only [step, hc, if_true])
    name.toList h.chars ""
  rwa [String.ofList_toList, String.empty_append] at hread

theorem reads_attributeName {name : String} (h : IsName name) (tag : Tag) (t : Transcript) :
    Reads ⟨.attribute tag "", t⟩ name.toList ⟨.attribute tag name, t⟩ := by
  have hread := reads_word (.attribute tag) t (fun name c hc => by simp only [step, hc, if_true])
    name.toList h.chars ""
  rwa [String.ofList_toList, String.empty_append] at hread

theorem Place.take_empty (t : Transcript) (place : Place) : place.take t "" = ⟨.text place, t⟩ := by
  cases place with
  | data => rfl
  | value tag name read =>
    have happend : read ++ "" = read := String.append_empty
    simp only [Place.take, happend]

/-- Taking a text leads to a place where the rest of it can be taken. -/
theorem Place.take_append (t : Transcript) (place : Place) (text : String) :
    ∃ place' t', place.take t text = ⟨.text place', t'⟩ ∧
      ∀ rest, Place.take t' rest place' = place.take t (text ++ rest) := by
  cases place with
  | data =>
    refine ⟨.data, t.data text, rfl, fun rest => ?_⟩
    simp only [Place.take, Transcript.data_data]
  | value tag name read =>
    refine ⟨.value tag name (read ++ text), t, rfl, fun rest => ?_⟩
    simp only [Place.take, String.append_assoc]

/-- After this a tag may go on with an attribute or end. -/
def Tag.Open (tag : Tag) (mode : Mode) : Prop :=
  ∀ (t : Transcript) (c : Char), isNameChar c = false → Reader.step ⟨mode, t⟩ c = tag.step t c

theorem Tag.open_name (tag : Tag) : tag.Open (.name tag) := by
  intro t c hc
  simp [Reader.step, hc]

theorem Tag.open_quoted (tag : Tag) : tag.Open (.quoted tag) := fun _ _ _ => rfl

theorem Tag.Open.reads_end {tag : Tag} {mode : Mode} (h : tag.Open mode) (t : Transcript) :
    Reads ⟨mode, t⟩ ['>'] ⟨.text .data, t.opened tag.name tag.attributes⟩ :=
  Reads.char (h t '>' (by decide))

theorem Tag.Open.reads_voidEnd {tag : Tag} {mode : Mode} (h : tag.Open mode) (t : Transcript) :
    Reads ⟨mode, t⟩ ['/', '>'] ⟨.text .data, t.void tag.name tag.attributes⟩ :=
  (Reads.char (h t '/' (by decide))).append (Reads.char (r := ⟨.slash tag, t⟩) rfl)

/-- The end tag of the innermost open element closes it. -/
theorem reads_endTag {name : String} (h : IsName name) {t : Transcript}
    (htop : t.openNames.head? = some name) :
    Reads ⟨.text .data, t⟩ ("</" ++ name ++ ">").toList ⟨.text .data, t.closed⟩ := by
  have hend : step ⟨.endName name, t⟩ '>' = some ⟨.text .data, t.closed⟩ := by
    have hchar : isNameChar '>' = false := by decide
    simp [step, hchar, close, htop]
  have hstart : Reads ⟨.text .data, t⟩ ['<', '/'] ⟨.endName "", t⟩ := Reads.cons rfl (Reads.char rfl)
  rw [String.toList_append, String.toList_append]
  exact (hstart.append (reads_endName h t)).append (Reads.char hend)

end Reader

end Hypertext
