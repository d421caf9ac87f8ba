import Hypertext.Proofs.Program.Fragments
import Hypertext.Proofs.Program.Warnings
import Hypertext.Proofs.Text.Spelling
import Mathlib.Data.List.Induction
import Mathlib.Data.List.Nodup

/-!
# Warnings of obsolete elements

Whether obsolete elements are warned of is a setting. It changes the record of warnings and nothing else.

* `Element.ofName?_obsolete_iff`: the look-up knows the names of obsolete elements in every letter case.
* `Warnings.textsOf`: the recorded texts of one component.
* `Act.attempted`: the names with which tags were attempted, in fragments, too.
* `Config.report`: what an attempt adds to the texts of the canvas. `NewlyReported`: the names that attempts in a row
  add. `reportLaw`: every run reports the attempts that it has made.
* `setting_only_warns`: runs under both settings do the same, and the one that warns reports every spelling of
  an obsolete name once.
-/

namespace Hypertext

/-! ### Names of elements -/

namespace Element

theorem mem_all (e : Element) : e ∈ all := by
  have hplace : all[e.ctorIdx]? = some e := by cases e <;> rfl
  exact List.mem_of_getElem? hplace

/-- The code points of the name in lower case. -/
def lowerName (e : Element) : List Nat :=
  (Text.lowerChars e.name).map Char.toNat

/-- The elements are listed in alphabetical order, each once. -/
theorem nodup_lowerName : (all.map lowerName).Nodup := by
  have hascending : (all.map lowerName).IsChain (· < ·) := by decide +kernel
  refine hascending.pairwise.imp fun {ks ls} hless hsame => ?_
  rw [hsame] at hless
  exact List.lt_irrefl ls hless

/-- No two elements have one name, in whatever letter case. -/
theorem eq_of_sameIgnoringCase {e e' : Element} (h : Text.sameIgnoringCase e.name e'.name = true) : e = e' := by
  have hsame : Text.lowerChars e.name = Text.lowerChars e'.name := eq_of_beq h
  have hlower : e.lowerName = e'.lowerName := congrArg (List.map Char.toNat) hsame
  exact List.inj_on_of_nodup_map nodup_lowerName e.mem_all e'.mem_all hlower

/-- What the look-up finds has the name, in some letter case. -/
theorem sameIgnoringCase_of_ofName? {name : String} {e : Element} (h : ofName? name = some e) :
    Text.sameIgnoringCase e.name name = true := by
  have hfound := @List.find?_some _ (fun e : Element => Text.sameIgnoringCase e.name name) e all h
  exact hfound

/-- **The look-up** finds an obsolete element exactly under the names of obsolete elements, in any letter case. -/
theorem ofName?_obsolete_iff (name : String) :
    (ofName? name).any isObsolete = true ↔
      ∃ e : Element, e.isObsolete = true ∧ Text.SameLetters e.name.toList name.toList := by
  cases hlookup : ofName? name with
  | none =>
    refine ⟨fun hany => absurd hany Bool.false_ne_true, ?_⟩
    rintro ⟨e, -, hletters⟩
    have hother := List.find?_eq_none.mp hlookup e e.mem_all
    exact absurd (Text.sameIgnoringCase_iff.mpr hletters) hother
  | some found =>
    have hname := sameIgnoringCase_of_ofName? hlookup
    have hany : (some found).any isObsolete = found.isObsolete := rfl
    rw [hany]
    constructor
    · intro hobsolete
      exact ⟨found, hobsolete, Text.sameIgnoringCase_iff.mp hname⟩
    · rintro ⟨e, hobsolete, hletters⟩
      -- the element that is found has the same name as the obsolete one
      have hboth : Text.sameIgnoringCase found.name e.name = true := by
        have hleft : Text.lowerChars found.name = Text.lowerChars name := eq_of_beq hname
        have hright : Text.lowerChars e.name = Text.lowerChars name :=
          eq_of_beq (Text.sameIgnoringCase_iff.mpr hletters)
        exact beq_iff_eq.mpr (hleft.trans hright.symm)
      obtain rfl := eq_of_sameIgnoringCase hboth
      exact hobsolete

end Element

/-! ### Texts of one component -/

namespace Warnings

/-- The recorded texts that begin with the component in brackets. -/
def textsOf (w : Warnings) (component : String) : List String :=
  w.recorded.filter fun t => (text component "").toList.isPrefixOf t.toList

theorem isPrefixOf_text (component message : String) :
    (text component "").toList.isPrefixOf (text component message).toList = true := by
  rw [List.isPrefixOf_iff_prefix]
  exact ⟨message.toList, by simp [text]⟩

theorem mem_textsOf (w : Warnings) (component message : String) :
    text component message ∈ w.textsOf component ↔ w.has component message = true := by
  unfold textsOf has
  rw [List.mem_filter, List.contains_iff_mem]
  exact ⟨fun h => h.1, fun h => ⟨h, isPrefixOf_text component message⟩⟩

/-- A warning of the component adds its text, unless it is recorded. -/
theorem textsOf_warn (w : Warnings) (component message : String) :
    (w.warn component message).textsOf component =
      if text component message ∈ w.textsOf component then w.textsOf component
      else w.textsOf component ++ [text component message] := by
  by_cases hhas : w.has component message = true
  · rw [warn_of_has hhas, if_pos ((w.mem_textsOf _ _).mpr hhas)]
  · rw [if_neg fun hmem => hhas ((w.mem_textsOf _ _).mp hmem), warn, if_neg hhas]
    unfold textsOf
    have hone : ([text component message].filter fun t => (text component "").toList.isPrefixOf t.toList) =
      [text component message] := List.filter_cons_of_pos (isPrefixOf_text component message)
    rw [List.filter_append, hone]

/-- A warning that does not begin as those of the component do leaves them alone. -/
theorem textsOf_warn_of_not_prefix (w : Warnings) {component other message : String}
    (h : (text component "").toList.isPrefixOf (text other message).toList = false) :
    (w.warn other message).textsOf component = w.textsOf component := by
  unfold warn
  split
  · rfl
  · unfold textsOf
    have hnone : ([text other message].filter fun t => (text component "").toList.isPrefixOf t.toList) = [] :=
      List.filter_cons_of_neg (ne_true_of_eq_false h)
    rw [List.filter_append, hnone, List.append_nil]

end Warnings

/-! ### Warnings of the bindings -/

/-- Converting a value gives no warning, or one of the bindings. -/
theorem Bindings.convert_warnings {β α : Type} [Bindings β] (read : Json → Option α) (wanted : String) (store : β)
    (key : String) (w : Warnings) :
    (convert read wanted store key w).2 = w ∨
      ∃ message, (convert read wanted store key w).2 = w.warn Bindings.component message := by
  unfold convert
  cases value? store key with
  | none => exact .inl rfl
  | some value =>
    dsimp only
    cases read value with
    | some a => exact .inl rfl
    | none => exact .inr ⟨_, rfl⟩

theorem Reading.perform_warnings {β : Type} [Bindings β] (reading : Reading) (store : β) (w : Warnings) :
    (reading.perform store w).2 = w ∨
      ∃ message, (reading.perform store w).2 = w.warn Bindings.component message := by
  cases reading with
  | nested key reading =>
    unfold perform
    cases Bindings.getMap store key with
    | none => exact .inl rfl
    | some fields => exact perform_warnings reading fields w
  | getLong | getLongOr | getInt | getIntOr => exact Bindings.convert_warnings _ _ store _ w
  | getFloat | getFloatOr => exact Bindings.convert_warnings _ _ store _ w
  | getBool | getBoolOr => exact Bindings.convert_warnings _ _ store _ w
  | value | contains | getString | getStringOr | getMap | getAs | hasWarned => exact .inl rfl

theorem Scope.perform_warnings (step : Scope.Step) (scope : Scope) (w : Warnings) :
    (perform step scope w).2.2 = w ∨ ∃ message, (perform step scope w).2.2 = w.warn Bindings.component message := by
  cases step with
  | read reading => exact reading.perform_warnings scope w
  | setSerialized key serialized => cases serialized <;> exact .inl rfl
  | push | pop | set | setNested | get | remove | innermost | requestPath | parameter | header | cookie
  | sessionValue => exact .inl rfl

/-- **Steps on the bindings** leave the warnings of the canvas alone. -/
theorem Scope.textsOf_perform (step : Scope.Step) (scope : Scope) (w : Warnings) :
    (perform step scope w).2.2.textsOf Canvas.component = w.textsOf Canvas.component := by
  rcases Scope.perform_warnings step scope w with hsame | ⟨message, hwarned⟩
  · rw [hsame]
  · rw [hwarned]
    refine w.textsOf_warn_of_not_prefix ?_
    have hchars : (Warnings.text Bindings.component message).toList = "[Context] ".toList ++ message.toList := by
      simp [Warnings.text, Bindings.component]
    rw [hchars]
    rfl

/-! ### Attempts -/

/-- The name of the tag that the operation begins with. -/
def Operation.attempted? : Operation → Option String
  | .openTag name _ => some name
  | .voidTag name _ => some name
  | _ => none

mutual

/-- The names with which tags were attempted by the act, whatever came of it. -/
def Act.attempted : Act → List String
  | .wrote operation _ _ => operation.attempted?.toList
  | .fragment acts => Act.attemptedAll acts
  | _ => []

/-- The names with which tags were attempted, in order and in the fragments, too. -/
def Act.attemptedAll : List Act → List String
  | [] => []
  | act :: acts => act.attempted ++ Act.attemptedAll acts

end

theorem Act.attemptedAll_append (acts acts' : List Act) :
    attemptedAll (acts ++ acts') = attemptedAll acts ++ attemptedAll acts' := by
  induction acts with
  | nil => rfl
  | cons act acts ih =>
    rw [List.cons_append, attemptedAll, attemptedAll, ih, List.append_assoc]

theorem Act.attemptedAll_singleton (act : Act) : attemptedAll [act] = act.attempted :=
  List.append_nil _

/-- The text with which a canvas reports an obsolete element. -/
def Canvas.report (name : String) : String :=
  Warnings.text component (obsolete name)

theorem Canvas.report_injective : Function.Injective report := by
  intro name name' h
  have hchars := congrArg String.toList h
  simp only [report, Warnings.text, obsolete, String.toList_append, List.append_cancel_left_eq,
    List.append_cancel_right_eq] at hchars
  exact String.toList_inj.mp hchars

/-- The texts of the canvas after the attempt at a tag of this name. -/
def Config.report (config : Config) (texts : List String) (name : String) : List String :=
  if config.warnsOfObsolete = true ∧ (Element.ofName? name).any Element.isObsolete = true ∧ Canvas.report name ∉ texts
  then texts ++ [Canvas.report name] else texts

/-- The empty name is not that of an obsolete element. -/
theorem Config.report_empty (config : Config) (texts : List String) : config.report texts "" = texts := by
  have hunknown : ¬ (Element.ofName? "").any Element.isObsolete = true := by decide +kernel
  unfold report
  rw [if_neg fun h => hunknown h.2.1]

/-- **Without the setting** nothing is reported. -/
theorem Config.foldl_report_of_quiet {config : Config} (h : config.warnsOfObsolete = false)
    (attempts texts : List String) : attempts.foldl config.report texts = texts := by
  induction attempts with
  | nil => rfl
  | cons name attempts ih =>
    have hone : config.report texts name = texts := by
      unfold report
      rw [if_neg fun hreported => absurd (hreported.1.symm.trans h) (by decide)]
    rw [List.foldl_cons, hone, ih]

/-- The names are those of the attempts that are names of obsolete elements and not reported in the texts, each of
them once. -/
structure NewlyReported (attempts texts names : List String) : Prop where
  nodup : names.Nodup
  mem : ∀ name, name ∈ names ↔
    name ∈ attempts ∧ (Element.ofName? name).any Element.isObsolete = true ∧ Canvas.report name ∉ texts

namespace NewlyReported

variable {attempts texts names : List String} {last : String}

theorem nothing (texts : List String) : NewlyReported [] texts [] where
  nodup := List.nodup_nil
  mem name := by simp

theorem mem_reports : Canvas.report last ∈ texts ++ names.map Canvas.report ↔
    Canvas.report last ∈ texts ∨ last ∈ names := by
  rw [List.mem_append, List.mem_map_of_injective Canvas.report_injective]

/-- A further attempt that is reported. -/
theorem concat_reported (h : NewlyReported attempts texts names)
    (hobsolete : (Element.ofName? last).any Element.isObsolete = true)
    (hnew : Canvas.report last ∉ texts ++ names.map Canvas.report) :
    NewlyReported (attempts ++ [last]) texts (names ++ [last]) := by
  obtain ⟨htext, hname⟩ := not_or.mp (mt mem_reports.mpr hnew)
  refine ⟨?_, fun name => ?_⟩
  · rw [← List.concat_eq_append]
    exact h.nodup.concat hname
  · rw [List.mem_append, List.mem_append, List.mem_singleton, h.mem]
    constructor
    · rintro (⟨hmem, hrest⟩ | rfl)
      · exact ⟨.inl hmem, hrest⟩
      · exact ⟨.inr rfl, hobsolete, htext⟩
    · rintro ⟨hmem | rfl, hrest⟩
      · exact .inl ⟨hmem, hrest⟩
      · exact .inr rfl

/-- A further attempt that is not reported, since the name is not that of an obsolete element or has been reported. -/
theorem concat_unreported (h : NewlyReported attempts texts names)
    (hold : ¬ ((Element.ofName? last).any Element.isObsolete = true ∧
      Canvas.report last ∉ texts ++ names.map Canvas.report)) :
    NewlyReported (attempts ++ [last]) texts names := by
  refine ⟨h.nodup, fun name => ?_⟩
  rw [List.mem_append, List.mem_singleton]
  constructor
  · intro hname
    obtain ⟨hmem, hrest⟩ := (h.mem name).mp hname
    exact ⟨.inl hmem, hrest⟩
  · rintro ⟨hmem | rfl, hobsolete, htext⟩
    · exact (h.mem name).mpr ⟨hmem, hobsolete, htext⟩
    · have hreported : Canvas.report name ∈ texts ++ names.map Canvas.report :=
        Decidable.not_not.mp fun hnew => hold ⟨hobsolete, hnew⟩
      exact (mem_reports.mp hreported).resolve_left htext

end NewlyReported

/-- **With the setting** every spelling of an obsolete name that was attempted is reported once, unless it is in the
texts from before. -/
theorem Config.foldl_report_of_loud {config : Config} (h : config.warnsOfObsolete = true)
    (attempts texts : List String) :
    ∃ names, NewlyReported attempts texts names ∧
      attempts.foldl config.report texts = texts ++ names.map Canvas.report := by
  -- on the end of the attempts, where it is known what has been reported
  induction attempts using List.reverseRecOn with
  | nil => exact ⟨[], .nothing texts, (List.append_nil texts).symm⟩
  | append_singleton attempts last ih =>
    obtain ⟨names, hnames, htexts⟩ := ih
    rw [List.foldl_append, List.foldl_cons, List.foldl_nil, htexts]
    unfold report
    by_cases hnew : (Element.ofName? last).any Element.isObsolete = true ∧
        Canvas.report last ∉ texts ++ names.map Canvas.report
    · refine ⟨names ++ [last], hnames.concat_reported hnew.1 hnew.2, ?_⟩
      rw [if_pos ⟨h, hnew⟩, List.map_append, List.append_assoc]
      rfl
    · exact ⟨names, hnames.concat_unreported hnew, if_neg fun hall => hnew hall.2⟩

/-! ### Runs -/

namespace Canvas

variable {σ : Type}

/-- The texts of the canvas after an operation. -/
theorem textsOf_warnedBy (c : Canvas σ) (operation : Operation) :
    (c.warnedBy operation).textsOf component =
      operation.attempted?.toList.foldl c.config.report (c.warnings.textsOf component) := by
  have hnamed : ∀ name, (if name = "" then c.warnings else (c.warnOfObsolete name).warnings).textsOf component =
      c.config.report (c.warnings.textsOf component) name := by
    intro name
    split
    · rename_i hempty
      rw [hempty, Config.report_empty]
    · unfold warnOfObsolete Config.report
      by_cases hwarns : (c.config.warnsOfObsolete && (Element.ofName? name).any Element.isObsolete) = true
      · obtain ⟨hsetting, hobsolete⟩ := Bool.and_eq_true_iff.mp hwarns
        have hwarned : (c.warnings.warn component (obsolete name)).textsOf component =
          if report name ∈ c.warnings.textsOf component then c.warnings.textsOf component
          else c.warnings.textsOf component ++ [report name] := c.warnings.textsOf_warn component (obsolete name)
        rw [if_pos hwarns]
        refine hwarned.trans ?_
        by_cases hknown : report name ∈ c.warnings.textsOf component
        · rw [if_pos hknown, if_neg fun h => h.2.2 hknown]
        · rw [if_neg hknown, if_pos ⟨hsetting, hobsolete, hknown⟩]
      · rw [if_neg hwarns, if_neg fun h => hwarns (Bool.and_eq_true_iff.mpr ⟨h.1, h.2.1⟩)]
  cases operation with
  | openTag name attributes => exact hnamed name
  | voidTag name attributes => exact hnamed name
  | closeTag | closeExpecting | text | char | rawBlock => rfl

/-- The settings are the same, and the texts of the canvas are those from before and what the attempts of the acts
report. -/
structure Reports (c : Canvas σ) (acts : List Act) (d : Canvas σ) : Prop where
  config : d.config = c.config
  texts : d.warnings.textsOf component =
    (Act.attemptedAll acts).foldl c.config.report (c.warnings.textsOf component)

theorem Reports.refl (c : Canvas σ) : Reports c [] c := ⟨rfl, rfl⟩

theorem Reports.trans {c d e : Canvas σ} {acts acts' : List Act} (h : Reports c acts d) (h' : Reports d acts' e) :
    Reports c (acts ++ acts') e where
  config := h'.config.trans h.config
  texts := by
    rw [Act.attemptedAll_append, List.foldl_append, ← h.texts, ← h.config]
    exact h'.texts

theorem Reports.wrote [Sink σ] (c : Canvas σ) (operation : Operation) (r : Except CanvasError Unit)
    (openTags : List String) : Reports c [.wrote operation r openTags] (c.perform operation).1 where
  config := (perform_keeps operation c).config
  texts := by
    rw [Act.attemptedAll_singleton, perform_eq]
    exact c.textsOf_warnedBy operation

/-- **Every run reports its attempts**, those of its fragments among them. -/
theorem reportLaw : DeepLaw fun c acts d => Reports c acts d where
  steps :=
    { nothing := Reports.refl
      trans := Reports.trans
      wrote := fun c operation _ => Reports.wrote c operation _ _
      flushed := fun _ => ⟨rfl, rfl⟩
      issued := fun _ => ⟨rfl, rfl⟩
      bound := fun c step _ => ⟨rfl, Scope.textsOf_perform step c.context c.warnings⟩
      rendered := fun h => ⟨h.config, h.texts⟩ }
  fragment _ _ _ h :=
    { config := rfl
      texts := by
        rw [Act.attemptedAll_singleton]
        exact h.texts }

/-- The canvas with the setting whether obsolete elements are warned of. -/
def warning (c : Canvas σ) (warns : Bool) : Canvas σ :=
  { c with config := { c.config with warnsOfObsolete := warns } }

end Canvas

/-- **The setting changes nothing but warnings.** A program that asks neither for the settings nor for recorded
warnings does the same whether obsolete elements are warned of or not. Without the setting no warning of the canvas is
added. With it the warnings added are one for each name, in the spelling with which a tag was attempted, that is the
name of an obsolete element up to letter case and has not been warned of before. -/
theorem setting_only_warns (world : World) {σ : Type} [Sink σ] (p : Program)
    (hp : p.Avoids fun query => query.OfWarnings ∨ query = .config) (c : Canvas σ) :
    let quiet := p.run world (c.warning false)
    let loud := p.run world (c.warning true)
    quiet.SameButWarnings (fun query => query.OfWarnings ∨ query = .config) loud ∧
      quiet.canvas.warnings.textsOf "Canvas" = c.warnings.textsOf "Canvas" ∧
      ∃ names : List String, names.Nodup ∧
        (∀ name, name ∈ names ↔
          name ∈ Act.attemptedAll loud.acts ∧
            (∃ e : Element, e.isObsolete = true ∧ Text.SameLetters e.name.toList name.toList) ∧
            c.warnings.has "Canvas" ("<" ++ name ++ "> is an obsolete element") = false) ∧
        loud.canvas.warnings.textsOf "Canvas" = c.warnings.textsOf "Canvas" ++
          names.map fun name => Warnings.text "Canvas" ("<" ++ name ++ "> is an obsolete element") := by
  intro quiet loud
  refine ⟨?_, ?_, ?_⟩
  · exact p.run_sameButWarnings world (fun query => Or.inl) hp ⟨c.warnings, true, rfl, .inl (.inr rfl)⟩
  · have hquiet := p.run_deepLaw world Canvas.reportLaw (c.warning false)
    exact hquiet.texts.trans (Config.foldl_report_of_quiet rfl _ _)
  · have hloud := p.run_deepLaw world Canvas.reportLaw (c.warning true)
    have hsetting : (c.warning true).config.warnsOfObsolete = true := rfl
    obtain ⟨names, hnames, htexts⟩ := Config.foldl_report_of_loud hsetting (Act.attemptedAll loud.acts)
      (c.warnings.textsOf Canvas.component)
    refine ⟨names, hnames.nodup, fun name => ?_, hloud.texts.trans htexts⟩
    have hnew : Canvas.report name ∉ c.warnings.textsOf Canvas.component ↔
        c.warnings.has Canvas.component (Canvas.obsolete name) = false := by
      unfold Canvas.report
      rw [Warnings.mem_textsOf, Bool.not_eq_true]
    rw [hnames.mem, Element.ofName?_obsolete_iff, hnew]
    rfl

/-- Tags in capital and small letters, one that fails on a fragment and one that is skipped. -/
theorem setting_only_warns_letter_case :
    let failing : Carrier := .custom fun _ => .done (.error .emptyStack)
    let page : Program :=
      .write (fun _ => [.openTag "FONT" none, .voidTag "p" none, .closeTag, .openTag "FONT" none]) fun _ =>
        .fragment (.write (fun _ => [.openTag "font" (some failing)]) .done) fun _ =>
          .region false (.write [.openTag "tt" none] fun _ => .leave .dropped) .done
    let c : Canvas String := { sink := "" }
    (page.Avoids fun query => query.OfWarnings ∨ query = .config) ∧
      (page.run {} (c.warning false)).SameButWarnings (fun query => query.OfWarnings ∨ query = .config)
        (page.run {} (c.warning true)) ∧
      (page.run {} (c.warning false)).canvas.warnings.textsOf "Canvas" = [] ∧
      Act.attemptedAll (page.run {} (c.warning true)).acts = ["FONT", "p", "FONT", "font"] ∧
      (page.run {} (c.warning true)).canvas.warnings.textsOf "Canvas" =
        ["[Canvas] <FONT> is an obsolete element", "[Canvas] <font> is an obsolete element"] := by
  intro failing page c
  have hp : page.Avoids fun query => query.OfWarnings ∨ query = .config := by
    simp [page, Program.Avoids, Program.region, Region.Avoids]
  obtain ⟨hsame, hquiet, -⟩ := setting_only_warns {} page hp c
  exact ⟨hp, hsame, hquiet, by decide +kernel, by decide +kernel⟩

end Hypertext
