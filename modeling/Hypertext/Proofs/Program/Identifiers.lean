import Hypertext.Proofs.Canvas.Surroundings
import Hypertext.Proofs.Program.Fragments
import Mathlib.Data.List.Nodup
import Mathlib.Data.List.Range
import Mathlib.Data.String.Basic

/-!
# Identifiers

A canvas issues identifiers one after the other: the beginning that its settings name and a number behind it, which
counts up. Components write to the canvas of their caller and count on. A fragment has a canvas of its own and
counts from one.

* `Config.identifier`: the identifier with a number. No two numbers have the same one, whatever the beginning, and there
  is no greatest number.
* `Act.identifiers`: the identifiers that were taken on a canvas. `Act.fragmentsIn`: what was done to the fragments that
  it asked for, and to theirs.
* `Canvas.Counts`: the canvas has counted what was taken on it, and every fragment what was taken on the fragment.
  `countLaw`: every run does so.
* `Program.TakesNone`: the program never asks for an identifier, so its run takes none.
* `identifiers_unique`: the identifiers of a run, by number, and what the next request for one is answered.
-/

namespace Hypertext

/-! ### Numbers behind a beginning -/

theorem Text.decimalNat_injective : Function.Injective decimalNat := by
  intro n m h
  have hdigits : Nat.toDigits 10 n = Nat.toDigits 10 m := String.ofList_injective h
  calc n = Nat.ofDigitChars 10 (Nat.toDigits 10 n) 0 := Nat.ofDigitChars_ten_toDigits.symm
    _ = Nat.ofDigitChars 10 (Nat.toDigits 10 m) 0 := by rw [hdigits]
    _ = m := Nat.ofDigitChars_ten_toDigits

/-- As long as 64 bits hold the numbers, they go up one by one. -/
theorem toNat_add_ofNat {last : UInt64} {n : Nat} (h : last.toNat + n < UInt64.size) :
    (last + UInt64.ofNat n).toNat = last.toNat + n := by
  have hn : n < UInt64.size := Nat.lt_of_le_of_lt (Nat.le_add_left _ _) h
  rw [UInt64.toNat_add, UInt64.toNat_ofNat_of_lt' hn]
  exact Nat.mod_eq_of_lt h

namespace Config

/-- The identifier with this number. -/
def identifier (config : Config) (n : UInt64) : String :=
  config.idStart ++ Text.decimalNat n.toNat

/-- The beginning may end in digits: it is the same one for both numbers. -/
theorem identifier_injective (config : Config) : Function.Injective config.identifier := by
  intro n m h
  have hchars := congrArg String.toList h
  simp only [identifier, String.toList_append, List.append_cancel_left_eq] at hchars
  exact UInt64.toNat_inj.mp (Text.decimalNat_injective (String.toList_inj.mp hchars))

/-- So many identifiers, with the numbers after the given one. -/
def identifiersAfter (config : Config) (last : UInt64) (count : Nat) : List String :=
  (List.range count).map fun i => config.identifier (last + UInt64.ofNat (i + 1))

variable (config : Config) {last : UInt64} {count i : Nat}

theorem identifiersAfter_append (last : UInt64) (count count' : Nat) :
    config.identifiersAfter last count ++ config.identifiersAfter (last + UInt64.ofNat count) count' =
      config.identifiersAfter last (count + count') := by
  have hnumber : ∀ i, last + UInt64.ofNat count + UInt64.ofNat (i + 1) = last + UInt64.ofNat (count + i + 1) := by
    intro i
    rw [Nat.add_assoc, UInt64.ofNat_add count, UInt64.add_assoc]
  unfold identifiersAfter
  rw [List.range_add, List.map_append, List.map_map]
  exact congrArg (_ ++ ·) (List.map_congr_left fun i _ => congrArg config.identifier (hnumber i))

/-- No number comes back before all numbers of 64 bits have been used. -/
theorem nodup_identifiersAfter (h : count ≤ UInt64.size) : (config.identifiersAfter last count).Nodup := by
  refine List.Nodup.map_on (fun i hi j hj hsame => ?_) List.nodup_range
  have hi : i < count := List.mem_range.mp hi
  have hj : j < count := List.mem_range.mp hj
  have hnumbers := (UInt64.add_right_inj last).mp (config.identifier_injective hsame)
  have hmod := congrArg UInt64.toNat hnumbers
  rw [UInt64.toNat_ofNat', UInt64.toNat_ofNat'] at hmod
  have hsize : UInt64.size = 0x10000000000000000 := rfl
  omega

theorem getElem?_identifiersAfter (h : i < count) :
    (config.identifiersAfter last count)[i]? = some (config.identifier (last + UInt64.ofNat (i + 1))) := by
  unfold identifiersAfter
  rw [List.getElem?_map, List.getElem?_range h]
  rfl

end Config

/-! ### What was taken -/

namespace Act

/-- The identifier that was taken. -/
def identifier? : Act → Option String
  | .issued id => some id
  | _ => none

/-- The identifiers that were taken on the canvas itself, in order. -/
def identifiers (acts : List Act) : List String :=
  acts.filterMap identifier?

theorem identifiers_append (acts acts' : List Act) :
    identifiers (acts ++ acts') = identifiers acts ++ identifiers acts' :=
  List.filterMap_append

mutual

/-- What was done to the fragment, and to the fragments that were asked for on it. -/
def fragments : Act → List (List Act)
  | .fragment acts => acts :: fragmentsIn acts
  | _ => []

/-- What was done to each fragment that was asked for, at any depth. -/
def fragmentsIn : List Act → List (List Act)
  | [] => []
  | act :: acts => act.fragments ++ fragmentsIn acts

end

theorem fragmentsIn_append (acts acts' : List Act) :
    fragmentsIn (acts ++ acts') = fragmentsIn acts ++ fragmentsIn acts' := by
  induction acts with
  | nil => rfl
  | cons act acts ih => rw [List.cons_append, fragmentsIn, fragmentsIn, ih, List.append_assoc]

theorem fragmentsIn_singleton (act : Act) : fragmentsIn [act] = act.fragments :=
  List.append_nil _

end Act

/-! ### Counting -/

namespace Canvas

variable {σ : Type}

/-- The identifiers that were taken have the numbers after those from before, the canvas remembers the last one of
them, and those taken on each fragment have the numbers from one on. -/
structure Counts (c : Canvas σ) (acts : List Act) (d : Canvas σ) : Prop where
  config : d.config = c.config
  lastId : d.lastId = c.lastId + UInt64.ofNat (Act.identifiers acts).length
  identifiers : Act.identifiers acts = c.config.identifiersAfter c.lastId (Act.identifiers acts).length
  fragments : ∀ inner ∈ Act.fragmentsIn acts,
    Act.identifiers inner = c.config.identifiersAfter 0 (Act.identifiers inner).length

namespace Counts

/-- What takes no identifier and asks for no fragment, and keeps the settings and the number. -/
theorem of_silent {c d : Canvas σ} {acts : List Act} (hconfig : d.config = c.config) (hlast : d.lastId = c.lastId)
    (hids : Act.identifiers acts = []) (hfragments : Act.fragmentsIn acts = []) : Counts c acts d where
  config := hconfig
  lastId := by
    rw [hids, hlast]
    exact (UInt64.add_zero _).symm
  identifiers := by
    rw [hids]
    rfl
  fragments := by
    rw [hfragments]
    exact List.forall_mem_nil _

theorem trans {c d e : Canvas σ} {acts acts' : List Act} (h : Counts c acts d) (h' : Counts d acts' e) :
    Counts c (acts ++ acts') e where
  config := h'.config.trans h.config
  lastId := by
    rw [h'.lastId, h.lastId, Act.identifiers_append, List.length_append, UInt64.ofNat_add, UInt64.add_assoc]
  identifiers := by
    -- the second part counts on from where the first one has ended
    have hafter := h'.identifiers
    rw [h.config, h.lastId] at hafter
    rw [Act.identifiers_append, List.length_append, ← Config.identifiersAfter_append, ← h.identifiers, ← hafter]
  fragments := by
    intro inner hinner
    rw [Act.fragmentsIn_append, List.mem_append] at hinner
    rcases hinner with hinner | hinner
    · exact h.fragments inner hinner
    · rw [← h.config]
      exact h'.fragments inner hinner

theorem wrote [Sink σ] (c : Canvas σ) (operation : Operation) (r : Except CanvasError Unit) (openTags : List String) :
    Counts c [.wrote operation r openTags] (c.perform operation).1 :=
  of_silent (perform_keeps operation c).config (perform_keeps operation c).lastId rfl rfl

theorem issued (c : Canvas σ) : Counts c [.issued c.nextId.1] c.nextId.2 where
  config := rfl
  lastId := rfl
  identifiers := rfl
  fragments := List.forall_mem_nil _

/-- The canvas of a fragment has the settings of the one that asks for it and has issued nothing. -/
theorem fragment {c : Canvas σ} {acts : List Act} {f : Canvas String} (h : Counts c.fragment.enterFrame acts f)
    (w : Warnings) : Counts c [.fragment acts] { c with warnings := w } where
  config := rfl
  lastId := (UInt64.add_zero _).symm
  identifiers := rfl
  fragments := by
    intro inner hinner
    rw [Act.fragmentsIn_singleton, Act.fragments, List.mem_cons] at hinner
    -- it is the fragment itself or one that was asked for on it
    rcases hinner with rfl | hinner
    · exact h.identifiers
    · exact h.fragments inner hinner

/-- **The next identifier** has the number after all those that were taken, and taking it changes nothing else. -/
theorem nextId_eq {c d : Canvas σ} {acts : List Act} (h : Counts c acts d) :
    d.nextId.1 = c.config.identifier (c.lastId + UInt64.ofNat ((Act.identifiers acts).length + 1)) ∧
      d.nextId.2 = { d with lastId := c.lastId + UInt64.ofNat ((Act.identifiers acts).length + 1) } := by
  rw [UInt64.ofNat_add, ← UInt64.add_assoc, ← h.config, ← h.lastId]
  exact ⟨rfl, rfl⟩

end Counts

/-- **Every run counts** the identifiers that are taken in it. -/
theorem countLaw : DeepLaw fun c acts d => Counts c acts d where
  steps :=
    { nothing := fun _ => .of_silent rfl rfl rfl rfl
      trans := Counts.trans
      wrote := fun c operation _ => Counts.wrote c operation _ _
      flushed := fun _ => .of_silent rfl rfl rfl rfl
      issued := Counts.issued
      bound := fun _ _ _ => .of_silent rfl rfl rfl rfl
      rendered := fun h => ⟨h.config, h.lastId, h.identifiers, h.fragments⟩ }
  fragment _ _ _ h := h.fragment _

end Canvas

/-! ### Programs that ask for none -/

mutual

/-- Whatever the answers, the program asks for no identifier, and neither does a component that it renders. A fragment
that it asks for may do so. -/
def Program.TakesNone : Program → Prop
  | .done _ => True
  | .snippet _ => True
  | .write _ next => ∀ r, (next r).TakesNone
  | .writeWithId _ _ => False
  | .render component next => component.TakesNone ∧ ∀ r, (next r).TakesNone
  | .conditional _ body next => body.TakesNone ∧ ∀ outcome, (next outcome).TakesNone
  | .fragment _ next => ∀ r, (next r).TakesNone
  | .flush next => ∀ r, (next r).TakesNone
  | .nextId _ => False
  | .context _ next => ∀ answers, (next answers).TakesNone
  | .inspect _ next => ∀ sight, (next sight).TakesNone

/-- No component that is rendered in the region asks for an identifier. -/
def Region.TakesNone : Region → Prop
  | .leave _ _ => True
  | .write _ next => ∀ r, (next r).TakesNone
  | .render component next => component.TakesNone ∧ ∀ r, (next r).TakesNone
  | .conditional _ body next => body.TakesNone ∧ ∀ outcome, (next outcome).TakesNone

end

section

variable {σ : Type} [Sink σ]

theorem Canvas.identifiers_acts (operations : List Operation) (c : Canvas σ) :
    Act.identifiers (c.acts operations) = [] := by
  induction operations generalizing c with
  | nil => rfl
  | cons operation operations ih =>
    unfold Canvas.acts
    generalize c.perform operation = after
    obtain ⟨d, r⟩ := after
    cases r with
    | ok u => exact ih d
    | error e => rfl

theorem Act.identifiers_bound (steps : List Scope.Step) (entries : List Scope.Entry) :
    identifiers (List.zipWith Act.bound steps entries) = [] := by
  refine List.filterMap_eq_nil_iff.mpr fun act hact => ?_
  rw [← List.map_uncurry_zip_eq_zipWith] at hact
  obtain ⟨pair, -, rfl⟩ := List.mem_map.mp hact
  rfl

/-- What took no identifier, before what takes none. -/
theorem Act.identifiers_append_nil {acts acts' : List Act} (h : identifiers acts = []) (h' : identifiers acts' = []) :
    identifiers (acts ++ acts') = [] := by
  rw [identifiers_append, h, h', List.append_nil]

mutual

/-- **Only requests take identifiers**: a program that makes none takes none, whatever fails in it. -/
theorem Program.run_takesNone (world : World) (p : Program) (hp : p.TakesNone) (c : Canvas σ) :
    Act.identifiers (p.run world c).acts = [] := by
  cases p with
  | done result => rfl
  | snippet location =>
    unfold Program.run
    cases loadText world location with
    | ok text => rfl
    | error e => rfl
  | write operations next =>
    exact Act.identifiers_append_nil (c.identifiers_acts _) ((next _).run_takesNone world (hp _) _)
  | writeWithId operations next => exact hp.elim
  | render component next =>
    exact Act.identifiers_append_nil (component.run_takesNone world hp.1 _) ((next _).run_takesNone world (hp.2 _) _)
  | conditional condition body next =>
    cases condition with
    | true =>
      rw [run_written_region]
      exact Act.identifiers_append_nil (body.pass_takesNone world hp.1 c) ((next _).run_takesNone world (hp.2 _) _)
    | false =>
      rw [run_skipped_region]
      exact (next _).run_takesNone world (hp.2 _) c
  | fragment component next =>
    -- what is taken on the fragment stands in the fragment's own acts
    exact (next _).run_takesNone world (hp _) _
  | flush next => exact (next _).run_takesNone world (hp _) _
  | nextId next => exact hp.elim
  | context steps next =>
    exact Act.identifiers_append_nil (Act.identifiers_bound steps _) ((next _).run_takesNone world (hp _) _)
  | inspect query next => exact (next _).run_takesNone world (hp _) c

/-- The same of a region that is written. -/
theorem Region.pass_takesNone (world : World) (body : Region) (hbody : body.TakesNone) (c : Canvas σ) :
    Act.identifiers (body.pass world c).acts = [] := by
  cases body with
  | leave ending kept => rfl
  | write operations next =>
    rw [pass_write]
    exact Act.identifiers_append_nil (c.identifiers_acts _) ((next _).pass_takesNone world (hbody _) _)
  | render component next =>
    exact Act.identifiers_append_nil (component.run_takesNone world hbody.1 _)
      ((next _).pass_takesNone world (hbody.2 _) _)
  | conditional condition body next =>
    cases condition with
    | true =>
      rw [pass_written_region]
      exact Act.identifiers_append_nil (body.pass_takesNone world hbody.1 c)
        ((next _).pass_takesNone world (hbody.2 _) _)
    | false =>
      rw [pass_skipped_region]
      exact (next _).pass_takesNone world (hbody.2 _) c

end

end

/-! ### Identifiers of a run -/

/-- **Identifiers are unique on a canvas.** Let a program be run on a canvas with any beginning of identifiers. The
identifiers that it takes, in components at any depth and whether they fail or not, are those with the numbers after the
last one that the canvas has issued, in order, so no two of them are equal as long as 64 bits hold the numbers. The
canvas remembers the last one; a program that asks for none leaves it as it was. The identifiers that are taken on a
fragment, at any depth, are those with the numbers from one on. Whatever the program was, the next identifier that is
asked for has the next number. -/
theorem identifiers_unique (world : World) {σ : Type} [Sink σ] (p : Program) (c : Canvas σ) :
    let run := p.run world c
    let ids := Act.identifiers run.acts
    let number (n : Nat) := (c.lastId + UInt64.ofNat n).toNat
    (∀ n, c.lastId.toNat + n < UInt64.size → number n = c.lastId.toNat + n) ∧
      (∀ i < ids.length, ids[i]? = some (c.config.idStart ++ Text.decimalNat (number (i + 1)))) ∧
      (ids.length ≤ UInt64.size → ids.Nodup) ∧
      run.canvas.lastId = c.lastId + UInt64.ofNat ids.length ∧
      (p.TakesNone → run.canvas.lastId = c.lastId) ∧
      (∀ inner ∈ Act.fragmentsIn run.acts, (Act.identifiers inner).length < UInt64.size →
        (Act.identifiers inner).Nodup ∧
          ∀ i < (Act.identifiers inner).length,
            (Act.identifiers inner)[i]? = some (c.config.idStart ++ Text.decimalNat (i + 1))) ∧
      let id := c.config.idStart ++ Text.decimalNat (number (ids.length + 1))
      let issued := { run.canvas with lastId := c.lastId + UInt64.ofNat (ids.length + 1) }
      (∀ next, (Program.nextId next).run world run.canvas =
          ((next id).run world issued).after (run.canvas.entry issued (.id id) none none) [.issued id]) ∧
        ∀ operations next,
          let written := issued.performAll (operations id)
          (Program.writeWithId operations next).run world run.canvas =
            ((next written.2).run world written.1).after (run.canvas.entry written.1 (.result written.2) none none)
              (.issued id :: issued.acts (operations id)) := by
  intro run ids number
  have hrun : Canvas.Counts c run.acts run.canvas := p.run_deepLaw world Canvas.countLaw c
  have hids : ids = c.config.identifiersAfter c.lastId ids.length := hrun.identifiers
  refine ⟨fun n => toNat_add_ofNat, fun i hi => ?_, fun hroom => ?_, hrun.lastId, fun hp => ?_,
    fun inner hinner hroom => ?_, ?_⟩
  · rw [hids]
    exact c.config.getElem?_identifiersAfter hi
  · rw [hids]
    exact c.config.nodup_identifiersAfter hroom
  · have hnone : ids = [] := p.run_takesNone world hp c
    have hlast : run.canvas.lastId = c.lastId + UInt64.ofNat ids.length := hrun.lastId
    rw [hlast, List.length_eq_zero_iff.mpr hnone]
    exact UInt64.add_zero _
  · have hinner := hrun.fragments inner hinner
    refine ⟨?_, fun i hi => ?_⟩
    · rw [hinner]
      exact c.config.nodup_identifiersAfter (Nat.le_of_lt hroom)
    · have hnumber : ((0 : UInt64) + UInt64.ofNat (i + 1)).toNat = i + 1 := by
        rw [UInt64.zero_add]
        exact UInt64.toNat_ofNat_of_lt' (Nat.lt_of_le_of_lt hi hroom)
      rw [hinner, c.config.getElem?_identifiersAfter hi, Config.identifier, hnumber]
  · intro id issued
    have hid : run.canvas.nextId.1 = id := hrun.nextId_eq.1
    have hissued : run.canvas.nextId.2 = issued := hrun.nextId_eq.2
    refine ⟨fun next => ?_, fun operations next => ?_⟩
    · rw [run_nextId, hid, hissued]
    · rw [run_writeWithId, hid, hissued]

/-- A beginning that ends in a digit, a component that fails after taking an identifier, and one that takes two on a
fragment and fails. -/
theorem identifiers_unique_across_components :
    let failing : Program :=
      .writeWithId (fun id => [.openTag "p" (some (.verbatim (" id=" ++ id))), .closeExpecting "</b>"]) .done
    let silent : Program :=
      .fragment (.nextId fun _ => .nextId fun _ => .done (.ok ())) fun _ =>
        .write (fun _ => [.closeExpecting "</b>"]) .done
    let page : Program :=
      .nextId fun _ => .render failing fun _ => .render silent fun _ =>
        .region true (.render failing fun _ => .leave .dropped) .done
    let c : Canvas String := { sink := "", config := { idStart := "a1" } }
    let ids := Act.identifiers (page.run {} c).acts
    silent.TakesNone ∧ (silent.run {} c).canvas.lastId = 0 ∧
      ids = ["a11", "a12", "a13"] ∧ ids.Nodup ∧ ids[2]? = some ("a1" ++ Text.decimalNat 3) ∧
      (page.run {} c).canvas.lastId = 3 ∧
      (page.run {} c).canvas.sink = "<p id=a12><p id=a13>" ∧
      ∃ inner ∈ Act.fragmentsIn (page.run {} c).acts,
        Act.identifiers inner = ["a11", "a12"] ∧ (Act.identifiers inner).Nodup := by
  intro failing silent page c ids
  have hsilent : silent.TakesNone := by simp [silent, Program.TakesNone]
  obtain ⟨-, -, -, -, hkept, -⟩ := identifiers_unique {} silent c
  obtain ⟨hnumber, hnumbers, hnodup, hlast, -, hfragments, -⟩ := identifiers_unique {} page c
  have hids : ids = ["a11", "a12", "a13"] := by decide +kernel
  have hcount : ids.length = 3 := by
    rw [hids]
    rfl
  have hroom : ids.length < UInt64.size := by
    rw [hcount]
    decide
  have hinner : (Act.fragmentsIn (page.run {} c).acts).map Act.identifiers = [["a11", "a12"]] := by decide +kernel
  have hmem : ["a11", "a12"] ∈ (Act.fragmentsIn (page.run {} c).acts).map Act.identifiers := by
    rw [hinner]
    exact List.mem_singleton_self _
  obtain ⟨inner, hmem, htaken⟩ := List.mem_map.mp hmem
  have hinnerRoom : (Act.identifiers inner).length < UInt64.size := by
    rw [htaken]
    decide
  have hthird : ids[2]? = some ("a1" ++ Text.decimalNat 3) := by
    have hless : 2 < ids.length := by
      rw [hcount]
      decide
    have hnumbered := hnumbers 2 hless
    rw [hnumber 3 (by decide)] at hnumbered
    exact hnumbered
  have hlast : (page.run {} c).canvas.lastId = 0 + UInt64.ofNat ids.length := hlast
  rw [hcount] at hlast
  exact ⟨hsilent, hkept hsilent, hids, hnodup (Nat.le_of_lt hroom), hthird, hlast, by decide +kernel,
    inner, hmem, htaken, (hfragments inner hmem hinnerRoom).1⟩

end Hypertext
