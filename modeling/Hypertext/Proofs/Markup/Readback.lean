import Hypertext.Proofs.Markup.Clean
import Hypertext.Proofs.Program.Law

/-!
# Markup is read back

Whatever a program does on a text with operations that escape, a reader of the text makes out just what
was written: the tags with their attributes and the character data, in order. No value of an attribute and
no text can turn into markup.

* `Transcript.tell`: what an act adds to the transcript of a canvas. One that failed adds nothing.
* `Canvas.Told`: the invariant. A reader of what has been written stands between the tags with this
  transcript, and the open end tags are those of its open names.
* `told_perform`: every clean operation keeps it. `readMarkup_run`: so does every run.
-/

namespace Hypertext

/-- The name and the value of an attribute. -/
def Attribute.pair (a : Attribute) : String × String :=
  (a.name, a.value)

/-- The names and values of the attributes of a tag that has a list of them. -/
def Carrier.pairs : Option Carrier → List (String × String)
  | some (.attributes list) => list.map Attribute.pair
  | _ => []

theorem Carrier.Lists.pairs_eq {attributes : Option Carrier} {list : Attributes}
    (h : Carrier.Lists attributes list) : Carrier.pairs attributes = list.map Attribute.pair := by
  cases h <;> rfl

/-- What an operation adds that has succeeded. Nothing is said of those that do not escape. -/
def Transcript.wrote (t : Transcript) : Operation → Transcript
  | .openTag name attributes => t.opened name (Carrier.pairs attributes)
  | .voidTag name attributes => t.void name (Carrier.pairs attributes)
  | .closeTag => t.closed
  | .closeExpecting _ => t.closed
  | .text text _ => t.data (text.getD "")
  | .char _ => t
  | .rawBlock _ _ _ => t

/-- What an act adds. -/
def Transcript.tell (t : Transcript) : Act → Transcript
  | .wrote operation (.ok ()) _ => t.wrote operation
  | _ => t

/-- The end tag of an element. -/
def endTag (name : String) : String :=
  "</" ++ name ++ ">"

namespace Reader

/-- **A clean attribute is read as its name and its value**, whatever characters the value has. -/
theorem reads_attribute {a : Attribute} (h : a.Clean) {tag : Tag} {mode : Mode} (hopen : tag.Open mode)
    (t : Transcript) : Reads ⟨mode, t⟩ a.markup.toList ⟨.quoted (tag.add a.name a.value), t⟩ := by
  have hspace : Reads ⟨mode, t⟩ " ".toList ⟨.attribute tag "", t⟩ := Reads.char (hopen t ' ' (by decide))
  have hname := reads_attributeName h.name tag t
  have hequals : Reads ⟨.attribute tag a.name, t⟩ "=\"".toList ⟨.text (.value tag a.name ""), t⟩ := by
    have hchar : isNameChar '=' = false := by decide
    have hnext : step ⟨.attribute tag a.name, t⟩ '=' = some ⟨.equals tag a.name, t⟩ := by
      simp [step, hchar, h.name.nonempty]
    exact Reads.cons hnext (Reads.char (r := ⟨.equals tag a.name, t⟩) rfl)
  have hvalue := reads_escaped t (.value tag a.name "") a.value
  have hquote : Reads ⟨.text (.value tag a.name a.value), t⟩ "\"".toList
    ⟨.quoted (tag.add a.name a.value), t⟩ := Reads.char rfl
  rw [← h.written_eq, Place.take, String.empty_append] at hvalue
  unfold Attribute.markup
  simp only [String.toList_append]
  exact hspace.append (hname.append (hequals.append (hvalue.append hquote)))

/-- Clean attributes are read one after the other, and the tag may go on or end after the last one. -/
theorem reads_attributes {list : Attributes} (h : list.Clean) {tag : Tag} {mode : Mode}
    (hopen : tag.Open mode) (t : Transcript) :
    ∃ mode', Tag.Open ⟨tag.name, tag.attributes ++ list.map Attribute.pair⟩ mode' ∧
      Reads ⟨mode, t⟩ list.markup.toList ⟨mode', t⟩ := by
  induction list generalizing tag mode with
  | nil =>
    refine ⟨mode, ?_, Reads.nothing _⟩
    rw [List.map_nil, List.append_nil]
    exact hopen
  | cons a rest ih =>
    have hfirst := reads_attribute (h a List.mem_cons_self) hopen t
    obtain ⟨mode', hopen', hrest⟩ := ih (fun b hb => h b (List.mem_cons_of_mem _ hb))
      (tag.add a.name a.value).open_quoted
    refine ⟨mode', ?_, ?_⟩
    · rw [Tag.add, List.append_assoc] at hopen'
      exact hopen'
    · rw [Attributes.markup, String.toList_append]
      exact hfirst.append hrest

/-- The beginning of a tag is read as its name and its attributes. -/
theorem reads_start {name : String} (hname : IsName name) {list : Attributes} (h : list.Clean)
    (t : Transcript) :
    ∃ mode, Tag.Open ⟨name, list.map Attribute.pair⟩ mode ∧
      Reads ⟨.text .data, t⟩ ("<" ++ name ++ list.markup).toList ⟨mode, t⟩ := by
  have hbracket : Reads ⟨.text .data, t⟩ "<".toList ⟨.bracket, t⟩ := Reads.char rfl
  obtain ⟨mode, hopen, hattributes⟩ := reads_attributes h (Tag.open_name { name }) t
  refine ⟨mode, hopen, ?_⟩
  rw [String.toList_append, String.toList_append]
  exact (hbracket.append (reads_startName hname t)).append hattributes

end Reader

/-- **The invariant**: a reader of what has been written stands between the tags with this transcript,
and the open end tags are those of the elements that it finds open. -/
structure Canvas.Told (c : Canvas String) (t : Transcript) : Prop where
  handler : c.config.handler = some EscapeHandler.html
  reads : Reader.Reads {} c.sink.toList ⟨.text .data, t⟩
  openTags : c.openTags = t.openNames.map endTag
  names : ∀ name ∈ t.openNames, IsName name

namespace Canvas

variable {c d : Canvas String} {t : Transcript}

theorem Told.congr (h : c.Told t) (hconfig : d.config = c.config) (hsink : d.sink = c.sink)
    (htags : d.openTags = c.openTags) : d.Told t := by
  refine ⟨?_, ?_, ?_, h.names⟩
  · rw [hconfig]
    exact h.handler
  · rw [hsink]
    exact h.reads
  · rw [htags]
    exact h.openTags

/-- An operation that succeeds adds to the transcript what the reader makes out of its markup. -/
theorem Told.wrote (h : c.Told t) {operation : Operation} {markup : String} {openTags : List String}
    (hadds : c.Adds (perform operation) markup openTags)
    (hreads : Reader.Reads ⟨.text .data, t⟩ markup.toList ⟨.text .data, t.wrote operation⟩)
    (htags : openTags = (t.wrote operation).openNames.map endTag)
    (hnames : ∀ name ∈ (t.wrote operation).openNames, IsName name) (seen : List String) :
    (c.perform operation).1.Told (t.tell (.wrote operation (c.perform operation).2 seen)) := by
  have htell : t.tell (.wrote operation (c.perform operation).2 seen) = t.wrote operation := by
    rw [hadds.result]
    rfl
  rw [htell]
  refine ⟨?_, ?_, ?_, hnames⟩
  · rw [(perform_keeps operation c).config]
    exact h.handler
  · rw [hadds.sink, String.toList_append]
    exact h.reads.append hreads
  · rw [hadds.openTags, htags]

/-- An operation that fails and writes nothing adds nothing. -/
theorem Told.failed (h : c.Told t) {operation : Operation} {e : CanvasError}
    (hfail : c.perform operation = (c, .error e)) (seen : List String) :
    (c.perform operation).1.Told (t.tell (.wrote operation (c.perform operation).2 seen)) := by
  rw [hfail]
  exact h

/-- Closing the innermost element, if there is one. -/
theorem Told.close (h : c.Told t) {operation : Operation} (hstep : c.perform operation = c.closeTag)
    (hwrote : t.wrote operation = t.closed) (seen : List String) :
    (c.perform operation).1.Told (t.tell (.wrote operation (c.perform operation).2 seen)) := by
  have htags := h.openTags
  -- the canvas has an end tag to write exactly where the reader has an element to close
  cases hopen : t.openNames with
  | nil =>
    have hfail : c.closeTag = (c, .error .emptyStack) := by
      rw [hopen] at htags
      unfold closeTag
      rw [htags]
      rfl
    exact h.failed (hstep.trans hfail) seen
  | cons name names =>
    rw [hopen] at htags
    have hclosed : t.closed.openNames = names := by
      unfold Transcript.closed
      rw [hopen]
    have hname : IsName name := h.names name (by rw [hopen]; exact List.mem_cons_self)
    have hreads := Reader.reads_endTag hname (t := t) (by rw [hopen]; rfl)
    have hadds := (adds_closeTag htags).congr hstep
    rw [← hwrote] at hreads
    refine h.wrote hadds hreads ?_ ?_ seen
    · rw [hwrote, hclosed]
    · rw [hwrote, hclosed]
      intro later hlater
      exact h.names later (by rw [hopen]; exact List.mem_cons_of_mem _ hlater)

/-- **Every clean operation keeps the invariant**, whether it succeeds or fails. -/
theorem told_perform {operation : Operation} (hclean : operation.Clean) (h : c.Told t)
    (seen : List String) :
    (c.perform operation).1.Told (t.tell (.wrote operation (c.perform operation).2 seen)) := by
  cases operation with
  | openTag name attributes =>
    obtain ⟨hname, list, hlist, hattributes⟩ := hclean
    obtain ⟨mode, hopen, hreads⟩ := Reader.reads_start hname hattributes t
    have hwhole := hreads.append (hopen.reads_end t)
    have hwrote : t.wrote (.openTag name attributes) = t.opened name (list.map Attribute.pair) := by
      rw [← hlist.pairs_eq]
      rfl
    have hadds : c.Adds (perform (.openTag name attributes)) _ _ :=
      adds_openTag h.handler hname.nonempty hlist
    refine h.wrote hadds ?_ ?_ ?_ seen
    · rw [String.toList_append, hwrote]
      exact hwhole
    · rw [hwrote, h.openTags]
      rfl
    · intro later hlater
      rcases List.mem_cons.mp hlater with rfl | hlater
      · exact hname
      · exact h.names later hlater
  | voidTag name attributes =>
    obtain ⟨hname, list, hlist, hattributes⟩ := hclean
    obtain ⟨mode, hopen, hreads⟩ := Reader.reads_start hname hattributes t
    have hwhole := hreads.append (hopen.reads_voidEnd t)
    have hwrote : t.wrote (.voidTag name attributes) = t.void name (list.map Attribute.pair) := by
      rw [← hlist.pairs_eq]
      rfl
    have hadds : c.Adds (perform (.voidTag name attributes)) _ _ :=
      adds_voidTag h.handler hname.nonempty hlist
    refine h.wrote hadds ?_ h.openTags h.names seen
    rw [String.toList_append, hwrote]
    exact hwhole
  | closeTag => exact h.close rfl rfl seen
  | closeExpecting expected =>
    have hcases : c.perform (.closeExpecting expected) = c.closeTag ∨
        ∃ e, c.perform (.closeExpecting expected) = (c, .error e) := closeExpecting_cases expected c
    rcases hcases with hstep | ⟨e, hfail⟩
    · exact h.close hstep rfl seen
    · exact h.failed hfail seen
  | text text policy =>
    obtain rfl : policy = .escapeChars := hclean
    cases text with
    | none => exact h
    | some text =>
      have hadds : c.Adds (perform (.text (some text) .escapeChars)) _ _ :=
        adds_text h.handler text .escapeChars
      -- character data neither opens nor closes, so both stacks stay
      have hnames : (t.data text).openNames = t.openNames := t.openNames_data text
      refine h.wrote hadds (Reader.reads_escaped t .data text) ?_ ?_ seen
      · rw [h.openTags, ← hnames]
        rfl
      · intro name hname
        exact h.names name (hnames ▸ hname)
  | char ch => exact hclean.elim
  | rawBlock opening content closing => exact hclean.elim

/-- What is done to a canvas besides writing keeps the invariant as well. -/
theorem toldLaw : Canvas.Law String Operation.Clean (fun _ => True)
    (fun c acts d => ∀ t, c.Told t → d.Told (acts.foldl Transcript.tell t)) where
  nothing _ _ h := h
  trans h h' t ht := by
    rw [List.foldl_append]
    exact h' _ (h t ht)
  wrote _ _ hclean _ h := told_perform hclean h _
  flushed _ _ h := h.congr rfl rfl rfl
  issued _ _ h := h.congr rfl rfl rfl
  bound _ _ _ _ h := h.congr rfl rfl rfl
  rendered h t ht := (h t (ht.congr rfl rfl rfl)).congr rfl rfl rfl
  fragment _ _ _ _ h := h.congr rfl rfl rfl

end Canvas

/-- **Markup is read back.** Take an empty text and a program that writes escaped text, end tags and tags
with clean names and attributes, in whatever regions and components, going on after failures or not. A
reader accepts all that is written. It makes out the tags, attributes and character data of the operations
that succeeded, in order, and finds open the elements whose end tags are still to be written. -/
theorem readMarkup_run (world : World) (c : Canvas String) (hsink : c.sink = "")
    (htags : c.openTags = []) (hhandler : c.config.handler = some EscapeHandler.html) (p : Program)
    (hp : p.Within Operation.Clean (fun _ => True)) :
    let run := p.run world c
    let told := run.acts.foldl Transcript.tell {}
    readMarkup run.canvas.sink = some told ∧ run.canvas.openTags = told.openNames.map endTag := by
  intro run told
  have hbegin : c.Told {} := by
    refine ⟨hhandler, ?_, htags, fun _ hname => absurd hname List.not_mem_nil⟩
    rw [hsink]
    exact Reader.Reads.nothing _
  have hend : run.canvas.Told told := p.run_law world Canvas.toldLaw hp c {} hbegin
  exact ⟨Reader.readMarkup_of_reads hend.reads, hend.openTags⟩

/-- A paragraph full of special characters. A wrong end tag is refused between its two texts. -/
theorem readMarkup_paragraph :
    let title : Attribute := ⟨"title", "a\" b=", .escapeChars⟩
    let p : Program :=
      .write (fun _ => [.openTag "p" (some (.attributes [title])), .text (some "x<") .escapeChars]) fun _ =>
        .write (fun _ => [.closeExpecting "</q>"]) fun r =>
          .write (fun _ => [.text (some "&lt;") .escapeChars, .closeTag]) fun _ => .done r
    let c : Canvas String := { sink := "" }
    p.Within Operation.Clean (fun _ => True) ∧ (p.run {} c).result = .error (.unexpectedTag "</q>" "</p>") ∧
      readMarkup (p.run {} c).canvas.sink =
        some ⟨[], [.closed "p", .text "x<&lt;", .opened "p" [("title", "a\" b=")]]⟩ := by
  intro title p c
  have hname : IsName "p" := by decide
  have htitle : title.Clean := ⟨by decide, .inl rfl⟩
  have hattributes : ∃ list, Carrier.Lists (some (.attributes [title])) list ∧ list.Clean :=
    ⟨[title], .attributes _, List.forall_mem_singleton.mpr htitle⟩
  have hp : p.Within Operation.Clean (fun _ => True) := by
    simp [p, Program.Within, Operation.Clean, hname, hattributes]
  have hread : readMarkup (p.run {} c).canvas.sink = some ((p.run {} c).acts.foldl Transcript.tell {}) :=
    (readMarkup_run {} c rfl rfl rfl p hp).1
  have htold : (p.run {} c).acts.foldl Transcript.tell {} =
      ⟨[], [.closed "p", .text "x<&lt;", .opened "p" [("title", "a\" b=")]]⟩ := by decide +kernel
  have hresult : (p.run {} c).result = .error (.unexpectedTag "</q>" "</p>") := by decide +kernel
  exact ⟨hp, hresult, htold ▸ hread⟩

end Hypertext
