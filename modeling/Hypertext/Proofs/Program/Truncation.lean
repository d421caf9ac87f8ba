import Hypertext.Proofs.Program.Coupling
import Hypertext.Proofs.Sink.Bounded

/-!
# Programs on sinks with room for so much

A program that is run on a sink with a limit goes on after the first failure, or stops, or starts again
elsewhere; what the sink has received is nevertheless the first part of what it would have received without a
limit.

* `operationsOf`: the operations among acts. Performed again they leave the same markup (`Canvas.markupLaw`).
* `Config.HandlerReports`: the escape handler fails as the sink does, and so does every operation
  (`Operation.emission_reports`).
* `Canvas.InStep`, `Canvas.PartedBy`: two canvases before and after there is too much. Single operations keep
  them in step or part them (`Canvas.InStep.wrote`), and so do runs (`truncationCoupling`,
  `Program.run_truncated`).
* `sinks_agree_up_to_truncation`: a text beside a stream over a writer with a limit, and a record of all pieces
  beside a sink that fails after so many.
-/

namespace Hypertext

/-- The operation that was performed, if the act is one. -/
def Act.operation? : Act → Option Operation
  | .wrote operation _ _ => some operation
  | _ => none

/-- The operations that were performed. -/
def operationsOf (acts : List Act) : List Operation :=
  acts.filterMap Act.operation?

/-- Two canvases have seen the same up to this operation, which has failed with this cause on the second one
only. -/
def Act.PartAt (cause : CanvasError) (common : List Act) (operation : Operation) (acts acts' : List Act) :
    Prop :=
  ∃ result openTags openTags' rest rest', result ≠ .error cause ∧
    acts = common ++ .wrote operation result openTags :: rest ∧
    acts' = common ++ .wrote operation (.error cause) openTags' :: rest'

theorem operationsOf_append (acts acts' : List Act) :
    operationsOf (acts ++ acts') = operationsOf acts ++ operationsOf acts' :=
  List.filterMap_append

theorem Act.PartAt.append {cause : CanvasError} {common acts acts' : List Act} {operation : Operation}
    (h : PartAt cause common operation acts acts') (more more' : List Act) :
    PartAt cause common operation (acts ++ more) (acts' ++ more') := by
  obtain ⟨result, openTags, openTags', rest, rest', hdiffers, rfl, rfl⟩ := h
  refine ⟨result, openTags, openTags', rest ++ more, rest' ++ more', hdiffers, ?_, ?_⟩
  · rw [List.append_assoc, List.cons_append]
  · rw [List.append_assoc, List.cons_append]

namespace Canvas

section

variable {σ τ : Type}

/-- The canvas on another sink. -/
def onto (c : Canvas σ) (t : τ) : Canvas τ :=
  { c with sink := t }

/-- What is written next comes out the same: the sink, the open elements and the settings are. -/
structure SameMarkup (c d : Canvas σ) : Prop where
  sink : d.sink = c.sink
  openTags : d.openTags = c.openTags
  config : d.config = c.config

section

theorem SameMarkup.trans {c d e : Canvas σ} (h : SameMarkup c d) (h' : SameMarkup d e) : SameMarkup c e :=
  ⟨h'.sink.trans h.sink, h'.openTags.trans h.openTags, h'.config.trans h.config⟩

variable [Sink σ] {c d : Canvas σ}

theorem SameMarkup.perform (h : SameMarkup c d) (operation : Operation) :
    SameMarkup (c.perform operation).1 (d.perform operation).1 where
  sink := by rw [perform_sink, perform_sink, h.sink, h.openTags, h.config]
  openTags := by
    rw [perform_openTags, perform_openTags, perform_result, perform_result, h.sink, h.openTags, h.config]
  config := by rw [(perform_keeps operation c).config, (perform_keeps operation d).config, h.config]

theorem SameMarkup.afterEach (h : SameMarkup c d) (operations : List Operation) :
    SameMarkup (c.afterEach operations) (d.afterEach operations) := by
  induction operations generalizing c d with
  | nil => exact h
  | cons operation operations ih => exact ih (h.perform operation)

/-- The markup that acts leave is what their operations leave. -/
theorem markupLaw (hflush : ∀ s : σ, (Sink.flush s).1 = s) (writes : Operation → Prop)
    (binds : Scope.Step → Prop) :
    Law σ writes binds fun c acts d => SameMarkup (c.afterEach (operationsOf acts)) d where
  nothing _ := ⟨rfl, rfl, rfl⟩
  trans := by
    intro c d e acts acts' h h'
    rw [operationsOf_append, afterEach_append]
    exact (h.afterEach (operationsOf acts')).trans h'
  wrote _ _ _ := ⟨rfl, rfl, rfl⟩
  flushed c := ⟨hflush c.sink, rfl, rfl⟩
  issued _ := ⟨rfl, rfl, rfl⟩
  bound _ _ _ := ⟨rfl, rfl, rfl⟩
  rendered := by
    intro c d acts h
    have hentered : SameMarkup c c.enterFrame := ⟨rfl, rfl, rfl⟩
    have hleft : SameMarkup d d.leaveFrame := ⟨rfl, rfl, rfl⟩
    exact ((hentered.afterEach (operationsOf acts)).trans h).trans hleft
  fragment _ _ _ := ⟨rfl, rfl, rfl⟩

end

/-- What an operation does to the sink is all that depends on the sink. -/
theorem perform_onto [Sink σ] [Sink τ] {c : Canvas σ} {t : τ} {operation : Operation}
    (h : ((c.onto t).perform operation).2 = (c.perform operation).2) :
    ((c.onto t).perform operation).1 =
      (c.perform operation).1.onto ((c.onto t).perform operation).1.sink := by
  have hwarned : (c.onto t).warnedBy operation = c.warnedBy operation :=
    warnedBy_congr (c := c) (d := c.onto t) rfl rfl operation
  rw [perform_result, perform_result] at h
  rw [perform_eq, perform_eq, hwarned]
  unfold emit
  rw [h]
  rfl

end

end Canvas

/-- The escape handler, if there is one, fails as the sink does. -/
def Config.HandlerReports (config : Config) : Prop :=
  ∀ handler, config.handler = some handler → ∀ text, (handler text).Reports id

/-- **Operations fail as the sink does**, if the escape handler does. The beginning of a tag is put together
before it is written, so it does not matter what its attributes do about a failure. -/
theorem Operation.emission_reports {config : Config} (h : config.HandlerReports) (openTags : List String)
    (operation : Operation) : (operation.emission config.handler openTags).Reports CanvasError.io :=
  emission_of_parts (fun _ => trivial) Emission.reports_put Emission.reports_putChar
    (fun _ _ hfirst hsecond => hfirst.andThen hsecond)
    (fun escape hescape text => (h escape hescape text).mapError CanvasError.io) openTags operation

section

variable {σ τ α : Type} [Sink σ] [Sink τ]

/-- **One operation on both sinks**: they agree afterwards, and the results are the same unless there was too
much. -/
theorem perform_agree {T : Sink.Truncation σ τ α} {c : Canvas σ} {t : τ} (hreports : c.config.HandlerReports)
    (hagree : T.Agree c.sink t) (operation : Operation) :
    T.Agree (c.perform operation).1.sink ((c.onto t).perform operation).1.sink ∧
      (((c.onto t).perform operation).2 = (c.perform operation).2 ∨
        ((c.onto t).perform operation).2 = .error (.io T.stop) ∧
          T.Overflows (c.perform operation).1.sink) := by
  rw [Canvas.perform_sink, Canvas.perform_sink, Canvas.perform_result, Canvas.perform_result]
  exact Emission.run_agree (operation.emission_appends _ _)
    (Operation.emission_reports hreports c.openTags operation) hagree

/-- The canvases are the same but for the sinks, which agree, and have seen the same since the first one was
`start`. -/
structure Canvas.InStep (T : Sink.Truncation σ τ α) (start c : Canvas σ) (acts : List Act) (c' : Canvas τ)
    (acts' : List Act) : Prop where
  same : acts' = acts
  canvas : c' = c.onto c'.sink
  agree : T.Agree c.sink c'.sink
  markup : SameMarkup (start.afterEach (operationsOf acts)) c
  reports : c.config.HandlerReports

/-- What was done to the canvases parted at an operation by which there was too much, and there still is. -/
def Canvas.PartedBy (T : Sink.Truncation σ τ α) (start : Canvas σ) (s : σ) (acts : List Act) (t : τ)
    (acts' : List Act) : Prop :=
  (T.Agree s t ∧ T.Overflows s) ∧ ∃ common operation, Act.PartAt (.io T.stop) common operation acts acts' ∧
    T.Overflows (start.afterEach (operationsOf common ++ [operation])).sink

/-- An act that is no operation does not put the canvases out of step. -/
theorem Canvas.InStep.other {T : Sink.Truncation σ τ α} {start c d : Canvas σ} {acts acts' : List Act}
    {c' d' : Canvas τ} (h : InStep T start c acts c' acts') {act act' : Act} (hact : act.operation? = none)
    (hsame : act' = act) (hd : SameMarkup c d) (hcanvas : d' = d.onto c'.sink) :
    InStep T start d (acts ++ [act]) d' (acts' ++ [act']) where
  same := by rw [hsame, h.same]
  canvas := by rw [hcanvas]; rfl
  agree := by
    rw [hd.sink, hcanvas]
    exact h.agree
  markup := by
    have hnothing : operationsOf [act] = [] := by
      unfold operationsOf
      rw [List.filterMap_cons_none hact]
      rfl
    rw [operationsOf_append, hnothing, List.append_nil]
    exact h.markup.trans hd
  reports := by
    rw [hd.config]
    exact h.reports

/-- **An operation** keeps the canvases in step, or it parts them and has failed for want of room. -/
theorem Canvas.InStep.wrote {T : Sink.Truncation σ τ α} {start c : Canvas σ} {acts acts' : List Act}
    {c' : Canvas τ} (h : InStep T start c acts c' acts') (operation : Operation) :
    Coupled (InStep T start) (PartedBy T start)
      (c.perform operation).1
      (acts ++ [.wrote operation (c.perform operation).2 (c.perform operation).1.openTags])
      (c.perform operation).2
      (c'.perform operation).1
      (acts' ++ [.wrote operation (c'.perform operation).2 (c'.perform operation).1.openTags])
      (c'.perform operation).2 := by
  obtain ⟨rfl, hcanvas, hagree, hmarkup, hreports⟩ := h
  obtain ⟨t, rfl⟩ : ∃ t, c' = c.onto t := ⟨_, hcanvas⟩
  have hagree : T.Agree c.sink t := hagree
  obtain ⟨hsinks, hresult⟩ := perform_agree hreports hagree operation
  have hagain : SameMarkup (start.afterEach (operationsOf acts' ++ [operation])) (c.perform operation).1 := by
    rw [afterEach_append]
    exact hmarkup.perform operation
  by_cases hsame : ((c.onto t).perform operation).2 = (c.perform operation).2
  -- the result decides which elements are open, so with the same result only the sinks can differ
  · have honto := perform_onto hsame
    refine .inl ⟨hsame.symm, ?_, honto, hsinks, ?_, ?_⟩
    · rw [hsame, honto]
      rfl
    · rw [operationsOf_append]
      exact hagain
    · rw [(perform_keeps operation c).config]
      exact hreports
  · obtain ⟨hstop, hover⟩ := hresult.resolve_left hsame
    refine .inr ⟨⟨hsinks, hover⟩, acts', operation,
      ⟨_, _, ((c.onto t).perform operation).1.openTags, [], [], ?_, rfl, ?_⟩, ?_⟩
    · rw [← hstop]
      exact Ne.symm hsame
    · rw [hstop]
    · unfold Sink.Truncation.Overflows
      rw [← hagain.sink]
      exact hover

/-- **Beside a sink that takes everything**, a sink with a limit leaves the canvas in step until there is too
much. -/
theorem truncationCoupling (T : Sink.Truncation σ τ α) (start : Canvas σ) :
    Canvas.Coupling σ τ (· = .output) False (Canvas.InStep T start) (Canvas.PartedBy T start) where
  shared h := by
    rw [h.canvas]
    rfl
  look h query hquery := by
    rw [h.canvas]
    cases query with
    | output => exact absurd rfl hquery
    | pending | balanced | config | hasWarned => rfl
  wrote h operation := h.wrote operation
  flushed hflush := hflush.elim
  issued := by
    intro c acts c' acts' h
    obtain ⟨t, rfl⟩ : ∃ t, c' = c.onto t := ⟨_, h.canvas⟩
    exact .inl ⟨rfl, h.other rfl rfl ⟨rfl, rfl, rfl⟩ rfl⟩
  bound := by
    intro c acts c' acts' h step
    obtain ⟨t, rfl⟩ : ∃ t, c' = c.onto t := ⟨_, h.canvas⟩
    exact h.other rfl rfl ⟨rfl, rfl, rfl⟩ rfl
  enter h := ⟨h.same, by rw [h.canvas]; rfl, h.agree, h.markup.trans ⟨rfl, rfl, rfl⟩, h.reports⟩
  leave h := ⟨h.same, by rw [h.canvas]; rfl, h.agree, h.markup.trans ⟨rfl, rfl, rfl⟩, h.reports⟩
  fragment h inner w := by
    refine h.other rfl rfl ⟨rfl, rfl, rfl⟩ ?_
    rw [h.canvas]
    rfl
  later := by
    rintro s acts t acts' ⟨hsinks, common, operation, hpart, hstart⟩ more more'
    exact ⟨hsinks, common, operation, hpart.append more more', hstart⟩
  left acts t acts' :=
    Sink.Truncation.closed_of_append T.char_whole fun text s ⟨hsinks, hparted⟩ =>
      ⟨(T.closed_left t).append text s hsinks, hparted⟩
  right s acts acts' :=
    Sink.Truncation.closed_of_append T.char_part fun text t ⟨hsinks, hparted⟩ =>
      ⟨(T.closed_right s).append text t hsinks, hparted⟩

/-- The canvas of the second run has seen what that of the first one has, at least as long as what was
performed fits. Either nothing differs in the end but the sinks, or what was done parts at an operation that has
failed with this cause. -/
structure Run.SameWhileFits (whole : Run σ) (part : Run τ) (cause : CanvasError)
    (fits : List Operation → Prop) : Prop where
  before : ∀ k, fits (operationsOf (whole.acts.take k)) → part.acts.take k = whole.acts.take k
  parting :
    part.acts = whole.acts ∧ part.result = whole.result ∧ part.canvas = whole.canvas.onto part.canvas.sink ∨
      ∃ common operation, Act.PartAt cause common operation whole.acts part.acts

/-- What has been too much stays too much. -/
theorem overflows_afterEach {T : Sink.Truncation σ τ α} {c : Canvas σ} (hendless : T.Endless c.sink)
    {operations : List Operation} (h : T.Overflows (c.afterEach operations).sink) (more : List Operation) :
    T.Overflows (c.afterEach (operations ++ more)).sink := by
  have hstays := Canvas.afterEach_preserves T.closed_endless operations hendless
  rw [Canvas.afterEach_append]
  exact (Canvas.afterEach_preserves T.closed_overflows more ⟨hstays, h⟩).2

/-- **A run beside one that has room for everything**: the sinks agree at the end, and the runs are the same
while everything fits. -/
theorem Program.run_truncated (world : World) (T : Sink.Truncation σ τ α) {p : Program}
    (hp : p.Ignores (· = .output) False) {c : Canvas σ} {t : τ} (hagree : T.Agree c.sink t)
    (hreports : c.config.HandlerReports) :
    T.Agree (p.run world c).canvas.sink (p.run world (c.onto t)).canvas.sink ∧
      (p.run world c).SameWhileFits (p.run world (c.onto t)) (.io T.stop)
        fun operations => (T.whole (c.afterEach operations).sink).length ≤ T.limit := by
  have hstart : Canvas.InStep T c c [] (c.onto t) [] := ⟨rfl, rfl, hagree, ⟨rfl, rfl, rfl⟩, hreports⟩
  rcases p.run_coupled world (truncationCoupling T c) hp hstart with
    ⟨hresult, hstep⟩ | ⟨⟨hsinks, -⟩, hparted⟩
  · have hacts : (p.run world (c.onto t)).acts = (p.run world c).acts := hstep.same
    refine ⟨hstep.agree, fun k _ => ?_, .inl ⟨hacts, hresult.symm, hstep.canvas⟩⟩
    rw [hacts]
  · obtain ⟨common, operation, hpart, hthere⟩ := hparted
    refine ⟨hsinks, fun k hfits => ?_, .inr ⟨common, operation, hpart⟩⟩
    obtain ⟨result, openTags, openTags', rest, rest', -, hacts, hacts'⟩ := hpart
    rw [List.nil_append] at hacts hacts'
    rcases Nat.lt_or_ge common.length k with hbeyond | hwithin
    -- the operation at which they part is among these, and by it there was too much
    · refine absurd hfits (Nat.not_le.mpr ?_)
      obtain ⟨n, rfl⟩ : ∃ n, k = common.length + (n + 1) := ⟨k - common.length - 1, by omega⟩
      have htake : operationsOf ((p.run world c).acts.take (common.length + (n + 1))) =
          (operationsOf common ++ [operation]) ++ operationsOf (rest.take n) := by
        rw [hacts, List.take_length_add_append, List.take_succ_cons, operationsOf_append, List.append_assoc]
        rfl
      rw [htake]
      exact overflows_afterEach hagree.1 hthere _
    · rw [hacts, hacts', List.take_append_of_le_length hwithin, List.take_append_of_le_length hwithin]

end

/-- **All sinks agree up to truncation.** Let a program look at no output and flush nothing, and let the
escape handler, if there is one, fail as the sink does. Run on an empty text, it leaves the text and the elements
that the operations in its acts leave when they are performed again.

Run on a stream over a writer that takes at least one byte and at most `chunk` bytes at a call, unless the call is
interrupted, up to `limit` in all, it leaves the writer with exactly the first `limit` bytes of that text. As
long as the text does not exceed the limit, whatever was done had the same result and left the same elements
open, and the first thing that differs is an operation that has failed on the stream because nothing more could
be written.

Run on a sink that takes `n` pieces and then fails for good, it leaves that sink with exactly the first `n` of
the pieces that a record without limit gets, and the same holds of what was done. -/
theorem sinks_agree_up_to_truncation (world : World) (p : Program) (hp : p.Ignores (· = .output) False)
    (c : Canvas String) (hempty : c.sink = "") (hreports : c.config.HandlerReports) :
    let whole := p.run world c
    let record : Canvas Pieces := c.onto {}
    let recorded := p.run world record
    (Canvas.SameMarkup (c.afterEach (operationsOf whole.acts)) whole.canvas ∧
      ∀ (ω : Type) [Writer ω] (limit chunk : Nat) (w : ω), Writer.Bounded limit chunk w →
        Writer.received w = [] →
          let part := p.run world (c.onto (Stream.mk w))
          Writer.received part.canvas.sink.writer = (Text.utf8 whole.canvas.sink).take limit ∧
            whole.SameWhileFits part (.io .writeZero) fun operations =>
              (Text.utf8 (c.afterEach operations).sink).length ≤ limit) ∧
    (Canvas.SameMarkup (record.afterEach (operationsOf recorded.acts)) recorded.canvas ∧
      ∀ (τ : Type) [Sink τ] (n : Nat) (stop : IoError) (pieces : τ → List String) (t : τ),
        Sink.FailsAfter n stop pieces t → pieces t = [] →
          let part := p.run world (c.onto t)
          pieces part.canvas.sink = recorded.canvas.sink.pieces.take n ∧
            recorded.SameWhileFits part (.io stop) fun operations =>
              (record.afterEach operations).sink.pieces.length ≤ n) := by
  intro whole record recorded
  refine ⟨⟨?_, fun ω _ limit chunk w hbounded hnothing => ?_⟩,
    ⟨?_, fun τ _ n stop pieces t hfails hnothing => ?_⟩⟩
  · exact p.run_law world (Canvas.markupLaw (fun _ => rfl) _ _) p.within_all c
  · have hagree : (Stream.truncation ω limit chunk).Agree c.sink (Stream.mk w) := by
      refine ⟨trivial, hbounded, ?_⟩
      rw [hempty]
      exact hnothing.trans List.take_nil.symm
    obtain ⟨hsinks, hruns⟩ := p.run_truncated world (Stream.truncation ω limit chunk) hp hagree hreports
    exact ⟨hsinks.2.2, hruns⟩
  · exact p.run_law world (Canvas.markupLaw (fun _ => rfl) _ _) p.within_all record
  · have hagree : (Pieces.truncation n stop pieces hfails.appendChar).Agree {} t := by
      refine ⟨rfl, ⟨hfails, ?_⟩, ?_⟩
      · rw [hnothing]
        exact Nat.zero_le n
      · exact hnothing.trans List.take_nil.symm
    obtain ⟨hsinks, hruns⟩ := Program.run_truncated (c := record) world
      (Pieces.truncation n stop pieces hfails.appendChar) hp hagree hreports
    exact ⟨hsinks.2.2, hruns⟩

/-- A paragraph and a character after it, whatever came of the paragraph. The writer has room for half of the
first character of its text, the other sink for the three pieces up to the entity. -/
theorem sinks_agree_up_to_truncation_split_character :
    let p : Program :=
      .write (fun _ => Markup.element .p (some "é&")) fun _ => .write (fun _ => [.char '!']) .done
    let c : Canvas String := { sink := "" }
    let w : LimitedWriter := { room := some 4, chunk := some 3 }
    let t : Pieces := { room := some 3 }
    (p.Ignores (· = .output) False ∧ c.config.HandlerReports ∧ Writer.Bounded 4 3 w ∧
        Sink.FailsAfter 3 Pieces.closed Pieces.pieces t) ∧
      (p.run {} c).canvas.sink = "<p>é&amp;</p>!" ∧
      Writer.received (p.run {} (c.onto (Stream.mk w))).canvas.sink.writer = [60, 112, 62, 195] ∧
      (p.run {} (c.onto t)).canvas.sink.pieces = ["<p", ">", "é"] := by
  intro p c w t
  have hp : p.Ignores (· = .output) False := fun _ _ => trivial
  have hreports : c.config.HandlerReports := by
    rintro handler hhandler text
    obtain rfl : EscapeHandler.html = handler := Option.some.inj hhandler
    exact Emission.reports_ofPieces _
  have hroom : w.room = some 4 := rfl
  have hchunk : w.chunk = some 3 := rfl
  have hbounded : Writer.Bounded 4 3 w := LimitedWriter.bounded hroom hchunk (by decide)
  have hleft : t.room = some 3 := rfl
  have hfails : Sink.FailsAfter 3 Pieces.closed Pieces.pieces t := Pieces.failsAfter hleft
  obtain ⟨⟨-, hstream⟩, ⟨-, hpieces⟩⟩ := sinks_agree_up_to_truncation {} p hp c rfl hreports
  have hwhole : (p.run {} c).canvas.sink = "<p>é&amp;</p>!" := by decide +kernel
  have hrecorded : (p.run {} (c.onto ({} : Pieces))).canvas.sink.pieces.take 3 = ["<p", ">", "é"] := by
    decide +kernel
  have hbytes : (Text.utf8 "<p>é&amp;</p>!").take 4 = [60, 112, 62, 195] := by decide +kernel
  refine ⟨⟨hp, hreports, hbounded, hfails⟩, hwhole, ?_, ?_⟩
  · rw [(hstream LimitedWriter 4 3 w hbounded rfl).1, hwhole, hbytes]
  · exact (hpieces Pieces 3 Pieces.closed Pieces.pieces t hfails rfl).1.trans hrecorded

end Hypertext
