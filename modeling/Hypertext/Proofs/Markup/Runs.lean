import Hypertext.Proofs.Markup.Unescaping
import Hypertext.Proofs.Sink.Offers

/-!
# Runs and entities

A text that is to be escaped goes to the sink in pieces: a run of characters that stand for themselves, then an
entity and a run for every special character.

* `Runs`: a text cut at its special characters. `exists_runs`: every text can be cut so, and
  `Runs.pieces_text`: then its pieces are the runs and the entities.
* `cutByBytes?`: the pieces cut out of the text by byte offsets. `Runs.cutByBytes?_text`: each offset lies between
  characters, and the same pieces come out.
* `escaped_in_runs`: with what becomes of the pieces on a sink, and what they come to when put together.
-/

namespace Hypertext

/-- The character has an entity. -/
def isSpecial (c : Char) : Bool :=
  (entity? c).isSome

/-- No character of the text has an entity. -/
def Plain (text : String) : Prop :=
  ∀ c ∈ text.toList, entity? c = none

/-- A text cut at its special characters: plain runs, and between two of them a special character with its
entity. -/
inductive Runs where
  | last (run : String) (plain : Plain run)
  | more (run : String) (plain : Plain run) (special : Char) (entity : String)
      (has : entity? special = some entity) (rest : Runs)

namespace Runs

/-- The text that has been cut: the runs, with the special characters in their places. -/
def text : Runs → String
  | last run _ => run
  | more run _ special _ _ rest => run ++ (String.singleton special ++ rest.text)

/-- The runs, with the entities of the special characters in their places. -/
def pieces : Runs → List String
  | last run _ => [run]
  | more run _ _ entity _ rest => run :: entity :: rest.pieces

/-- The special characters, in order. -/
def specials : Runs → List Char
  | last _ _ => []
  | more _ _ special _ _ rest => special :: rest.specials

/-- One run more than there are entities. -/
theorem length_pieces (cut : Runs) : cut.pieces.length = 2 * cut.specials.length + 1 := by
  induction cut with
  | last run plain => rfl
  | more run plain special entity has rest ih =>
    simp only [pieces, specials, List.length_cons, ih]
    omega

end Runs

theorem filter_isSpecial_of_plain {run : String} (h : Plain run) : run.toList.filter isSpecial = [] := by
  rw [List.filter_eq_nil_iff]
  intro c hc
  rw [isSpecial, h c hc]
  exact Bool.false_ne_true

/-- The special characters of a text are those it is cut at. -/
theorem Runs.specials_eq (cut : Runs) : cut.specials = cut.text.toList.filter isSpecial := by
  induction cut with
  | last run plain => exact (filter_isSpecial_of_plain plain).symm
  | more run plain special entity has rest ih =>
    have hspecial : isSpecial special = true := by rw [isSpecial, has]; rfl
    rw [text, String.toList_append, String.toList_append, List.filter_append, filter_isSpecial_of_plain plain,
      List.nil_append, List.filter_append, String.toList_singleton, List.filter_singleton, hspecial, specials, ih]
    rfl

/-- A plain character in front of a cut text lengthens its first run. -/
theorem exists_runs_cons_of_plain {c : Char} (h : entity? c = none) (cut : Runs) :
    ∃ cut' : Runs, cut'.text = String.singleton c ++ cut.text := by
  have hplain {run : String} (hrun : Plain run) : Plain (String.singleton c ++ run) := by
    intro d hd
    rw [String.toList_append, String.toList_singleton, List.mem_append, List.mem_singleton] at hd
    rcases hd with rfl | hd
    · exact h
    · exact hrun d hd
  cases cut with
  | last run plain => exact ⟨.last _ (hplain plain), rfl⟩
  | more run plain special entity has rest =>
    exact ⟨.more _ (hplain plain) special entity has rest, String.append_assoc⟩

/-- **Every text can be cut at its special characters.** -/
theorem exists_runs (text : String) : ∃ cut : Runs, cut.text = text := by
  obtain ⟨chars, rfl⟩ := text.exists_eq_ofList
  induction chars with
  | nil => exact ⟨.last "" fun c hc => absurd hc (by simp), rfl⟩
  | cons c chars ih =>
    obtain ⟨cut, hcut⟩ := ih
    have hcons : String.ofList (c :: chars) = String.singleton c ++ cut.text := by
      rw [hcut, ← List.singleton_append, String.ofList_append]
      rfl
    rw [hcons]
    cases h : entity? c with
    | some entity =>
      exact ⟨.more "" (fun d hd => absurd hd (by simp)) c entity h cut, String.empty_append⟩
    | none => exact exists_runs_cons_of_plain h cut

/-- What follows a plain run has the run put in front of its first run. -/
theorem pieceChars_plain_append {run : List Char} (h : ∀ c ∈ run, entity? c = none) (chars : List Char) :
    pieceChars (run ++ chars) = run.foldr extendRun (pieceChars chars) := by
  induction run with
  | nil => rfl
  | cons c run ih =>
    obtain ⟨hc, hrun⟩ := List.forall_mem_cons.mp h
    rw [List.cons_append, pieceChars, hc, ih hrun, List.foldr_cons]

theorem foldr_extendRun (run first : List Char) (rest : List (List Char)) :
    run.foldr extendRun (first :: rest) = (run ++ first) :: rest := by
  induction run with
  | nil => rfl
  | cons c run ih => rw [List.foldr_cons, ih]; rfl

/-- **The pieces of a cut text** are its runs and entities. -/
theorem Runs.pieces_text (cut : Runs) : Hypertext.pieces cut.text = cut.pieces := by
  induction cut with
  | last run plain =>
    have hchars := pieceChars_plain_append plain []
    rw [List.append_nil, pieceChars, foldr_extendRun, List.append_nil] at hchars
    rw [text, pieces, Hypertext.pieces, hchars, List.map_singleton, String.ofList_toList]
  | more run plain special entity has rest ih =>
    have hchars := pieceChars_plain_append plain (special :: rest.text.toList)
    rw [pieceChars, has] at hchars
    dsimp only at hchars
    rw [foldr_extendRun, List.append_nil] at hchars
    rw [text, pieces, Hypertext.pieces, String.toList_append, String.toList_append, String.toList_singleton,
      List.singleton_append, hchars, List.map_cons, List.map_cons, String.ofList_toList, String.ofList_toList, ← ih]
    rfl

/-- The text up to a byte offset, if the offset lies between characters. -/
def upToByte? (text : String) (offset : String.Pos.Raw) : Option String :=
  if h : offset.IsValid text then some (text.sliceTo (text.pos offset h)).copy else none

/-- The text from a byte offset on, if the offset lies between characters. -/
def fromByte? (text : String) (offset : String.Pos.Raw) : Option String :=
  if h : offset.IsValid text then some (text.sliceFrom (text.pos offset h)).copy else none

theorem upToByte?_append (before after : String) :
    upToByte? (before ++ after) before.rawEndPos = some before := by
  have hvalid : before.rawEndPos.IsValid (before ++ after) :=
    String.Pos.Raw.isValid_rawEndPos.append_right after
  rw [upToByte?, dif_pos hvalid, String.Pos.splits_append_rawEndPos.copy_sliceTo_eq]

theorem fromByte?_append (before after : String) :
    fromByte? (before ++ after) before.rawEndPos = some after := by
  have hvalid : before.rawEndPos.IsValid (before ++ after) :=
    String.Pos.Raw.isValid_rawEndPos.append_right after
  rw [fromByte?, dif_pos hvalid, String.Pos.splits_append_rawEndPos.copy_sliceFrom_eq]

theorem eq_append_of_fromByte? {text rest : String} {offset : String.Pos.Raw}
    (h : fromByte? text offset = some rest) : ∃ before, text = before ++ rest ∧ offset = before.rawEndPos := by
  unfold fromByte? at h
  split at h
  · rename_i hvalid
    obtain ⟨before, after, rfl, rfl⟩ := String.Pos.Raw.isValid_iff_exists_append.mp hvalid
    rw [String.Pos.splits_append_rawEndPos.copy_sliceFrom_eq] at h
    obtain rfl := Option.some.inj h
    exact ⟨before, rfl, rfl⟩
  · cases h

/-- The byte offset of the first special character, with its entity. -/
def firstSpecial? : List Char → Option (String.Pos.Raw × String)
  | [] => none
  | c :: chars =>
    match entity? c with
    | some entity => some (0, entity)
    | none => (firstSpecial? chars).map fun (offset, entity) => (⟨c.utf8Size + offset.byteIdx⟩, entity)

/-- The pieces cut out of the text by byte offsets: what lies before the first special character, its entity, and
the pieces of what begins one byte after it. There are none if an offset lies within a character. -/
def cutByBytes? (text : String) : Option (List String) :=
  match firstSpecial? text.toList with
  | none => some [text]
  | some (offset, entity) =>
    match _hrest : fromByte? text ⟨offset.byteIdx + 1⟩ with
    | none => none
    | some rest =>
      (upToByte? text offset).bind fun run => (cutByBytes? rest).map fun pieces => run :: entity :: pieces
termination_by text.utf8ByteSize
decreasing_by
  obtain ⟨before, rfl, hoffset⟩ := eq_append_of_fromByte? _hrest
  have hsize : offset.byteIdx + 1 = before.utf8ByteSize := congrArg String.Pos.Raw.byteIdx hoffset
  rw [String.utf8ByteSize_append]
  omega

theorem firstSpecial?_plain {chars : List Char} (h : ∀ c ∈ chars, entity? c = none) :
    firstSpecial? chars = none := by
  induction chars with
  | nil => rfl
  | cons c chars ih =>
    obtain ⟨hc, hrest⟩ := List.forall_mem_cons.mp h
    rw [firstSpecial?, hc, ih hrest]
    rfl

/-- The first special character stands where the plain run before it ends. -/
theorem firstSpecial?_append {run : List Char} (h : ∀ c ∈ run, entity? c = none) {special : Char}
    {entity : String} (has : entity? special = some entity) (chars : List Char) :
    firstSpecial? (run ++ special :: chars) = some ((String.ofList run).rawEndPos, entity) := by
  induction run with
  | nil => rw [List.nil_append, firstSpecial?, has]; rfl
  | cons c run ih =>
    obtain ⟨hc, hrun⟩ := List.forall_mem_cons.mp h
    have hsize : (String.ofList (c :: run)).rawEndPos = ⟨c.utf8Size + (String.ofList run).utf8ByteSize⟩ := by
      rw [String.rawEndPos, String.ofList_cons, String.utf8ByteSize_append, String.utf8ByteSize_singleton]
    rw [List.cons_append, firstSpecial?, hc, ih hrun, hsize]
    rfl

/-- A special character is one byte. -/
theorem utf8Size_of_entity? {c : Char} {entity : String} (h : entity? c = some entity) : c.utf8Size = 1 := by
  have hsizes : ∀ p ∈ entities, p.1.utf8Size = 1 := by decide
  exact hsizes _ (mem_entities h)

/-- **Cutting by byte offsets** never meets an offset within a character, and gives the runs and entities. -/
theorem Runs.cutByBytes?_text (cut : Runs) : cutByBytes? cut.text = some cut.pieces := by
  induction cut with
  | last run plain =>
    rw [text, cutByBytes?, firstSpecial?_plain plain]
    rfl
  | more run plain special entity has rest ih =>
    have hfirst : firstSpecial? (text (.more run plain special entity has rest)).toList =
        some (run.rawEndPos, entity) := by
      have hchars := firstSpecial?_append plain has rest.text.toList
      rw [String.ofList_toList] at hchars
      rw [text, String.toList_append, String.toList_append, String.toList_singleton, List.singleton_append, hchars]
    have hrun : upToByte? (text (.more run plain special entity has rest)) run.rawEndPos = some run :=
      upToByte?_append run _
    -- one byte further is between characters, because the special one is one byte
    have hrest : fromByte? (text (.more run plain special entity has rest)) ⟨run.rawEndPos.byteIdx + 1⟩ =
        some rest.text := by
      have hnext : (run ++ String.singleton special).rawEndPos = ⟨run.rawEndPos.byteIdx + 1⟩ := by
        simp [String.Pos.Raw.ext_iff, utf8Size_of_entity? has]
      have hassoc : text (.more run plain special entity has rest) = run ++ String.singleton special ++ rest.text :=
        String.append_assoc.symm
      rw [hassoc, ← hnext]
      exact fromByte?_append _ _
    rw [cutByBytes?, hfirst]
    dsimp only
    -- the match keeps an equation for the recursion, which does not let `hrest` be rewritten in it
    split
    · rename_i hnone
      rw [hrest] at hnone
      cases hnone
    · rename_i rest' hsome
      rw [hrest] at hsome
      obtain rfl := Option.some.inj hsome
      rw [hrun, ih]
      rfl

/-- The pieces put together are the escaped text. -/
theorem join_pieces (text : String) : String.join (pieces text) = escapeHtml text := by
  rw [← String.toList_inj, String.toList_join, pieces, escapeHtml, String.toList_ofList, List.flatMap_map,
    List.flatMap_congr fun chars _ => String.toList_ofList (l := chars), List.flatMap_id']

theorem escapeHtml_append (text other : String) :
    escapeHtml (text ++ other) = escapeHtml text ++ escapeHtml other := by
  rw [escapeHtml_eq, escapeHtml_eq, escapeHtml_eq, String.toList_append, List.flatMap_append, String.ofList_append]

/-- **Escaping in runs.** The pieces of a text are a plain run and then, for each special character in order, its
entity and a plain run, so that the special characters in place of the entities give the text; with `k` special
characters these are `2 * k + 1` pieces. Cutting the text by byte offsets gives the same pieces, and no offset
lies within a character. Put together they are the escaped text, in which every character has become its entity
or stayed as it is, so that a text may be escaped in parts. Every sink is offered the pieces in this order, up to
the first one that it refuses, with whose failure the handler fails; and a sink that stores what it takes has then
stored the pieces before that one. -/
theorem escaped_in_runs (text : String) :
    (∃ cut : Runs, cut.text = text ∧ cut.specials = text.toList.filter isSpecial ∧ pieces text = cut.pieces) ∧
      (pieces text).length = 2 * text.toList.countP isSpecial + 1 ∧
      cutByBytes? text = some (pieces text) ∧
      String.join (pieces text) = escapeHtml text ∧
      escapeHtml text = String.ofList (text.toList.flatMap escapedChar) ∧
      (∀ other, escapeHtml (text ++ other) = escapeHtml text ++ escapeHtml other) ∧
      (EscapeHandler.html text).OffersInOrder id (pieces text) ∧
      ∀ {σ : Type} [Sink σ] {stored : σ → List String}, Sink.Stores stored → ∀ s : σ,
        (((EscapeHandler.html text).run s).2 = .ok () →
            stored ((EscapeHandler.html text).run s).1 = stored s ++ pieces text) ∧
          ∀ cause, ((EscapeHandler.html text).run s).2 = .error cause →
            stored ((EscapeHandler.html text).run s).1 =
              stored s ++ ((EscapeHandler.html text).offered s).dropLast := by
  obtain ⟨cut, rfl⟩ := exists_runs text
  have hoffers : (EscapeHandler.html cut.text).OffersInOrder id (pieces cut.text) :=
    Emission.ofPieces_offersInOrder id (pieces cut.text)
  refine ⟨⟨cut, rfl, cut.specials_eq, cut.pieces_text⟩, ?_, ?_, join_pieces _, escapeHtml_eq _,
    escapeHtml_append _, hoffers, fun hstores s => hoffers.stored hstores s⟩
  · rw [cut.pieces_text, cut.length_pieces, cut.specials_eq, List.countP_eq_length_filter]
  · rw [cut.cutByBytes?_text, cut.pieces_text]

/-- A text with a two-byte character between two special ones, on a record with room for two pieces: the third
piece is refused. -/
theorem escaped_in_runs_full_record :
    let s : Pieces := { room := some 2 }
    let handler := EscapeHandler.html "a<é&"
    (Sink.Stores Pieces.pieces ∧ Sink.Takes ["a", "&lt;"] s) ∧
      cutByBytes? "a<é&" = some ["a", "&lt;", "é", "&amp;", ""] ∧
      handler.offered s = ["a", "&lt;", "é"] ∧ (handler.run s).2 = .error Pieces.closed ∧
      (handler.run s).1.pieces = ["a", "&lt;"] := by
  intro s handler
  have hpieces : pieces "a<é&" = ["a", "&lt;", "é", "&amp;", ""] := by decide +kernel
  have htakes : Sink.Takes ["a", "&lt;"] s := ⟨rfl, rfl, trivial⟩
  obtain ⟨-, -, hcut, -, -, -, hoffers, hstored⟩ := escaped_in_runs "a<é&"
  obtain ⟨hoffered, hrun⟩ := hoffers.refused s ["a", "&lt;"] "é" ["&amp;", ""] _ Pieces.closed hpieces htakes rfl
  have hfails : (handler.run s).2 = .error Pieces.closed := congrArg Prod.snd hrun
  have hkept := (hstored Pieces.stores s).2 Pieces.closed hfails
  rw [hoffered] at hkept
  rw [hpieces] at hcut
  exact ⟨⟨Pieces.stores, htakes⟩, hcut, hoffered, hfails, hkept⟩

end Hypertext
