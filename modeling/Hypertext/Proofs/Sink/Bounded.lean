import Hypertext.Proofs.Sink.Truncation
import Hypertext.Sink.Pieces
import Hypertext.Sink.Stream

/-!
# Streams and pieces with a limit

* `Writer.Bounded`: at every call that is not interrupted the writer takes at least one byte if there is one and room
  for it, no more than so many at a time, and no more than so many in all. `LimitedWriter.bounded` gives the writers
  that are.
* `writeAll_bounded`: writing to such a writer to the end takes the bytes for which there is room.
* `Sink.FailsAfter`: the sink takes so many texts and then none. `Pieces.failsAfter` gives the ones that do.
* `Stream.truncation`, `Pieces.truncation`: beside a text and beside a record of all the pieces, these sinks
  truncate.
-/

namespace Hypertext

namespace Writer

variable {ω : Type} [Writer ω]

/-- The writer after it has been offered these bytes, one call after the other. -/
def afterCalls (calls : List (List UInt8)) (w : ω) : ω :=
  calls.foldl (fun w bytes => (write bytes w).1) w

/-- The writer answers the offer of these bytes by taking a first part of them, at most `chunk` bytes and at
least one if it can, and by then it has taken at most `limit` in all. -/
def TakesPart (limit chunk : Nat) (bytes : List UInt8) (w : ω) : Prop :=
  ∃ n, (write bytes w).2 = .ok n ∧ received (write bytes w).1 = received w ++ bytes.take n ∧
    n ≤ bytes.length ∧ n ≤ chunk ∧ (received w).length + n ≤ limit ∧
    (bytes ≠ [] → (received w).length < limit → 0 < n)

/-- The writer is interrupted when it is offered these bytes, and takes none. -/
def Interrupted (bytes : List UInt8) (w : ω) : Prop :=
  ∃ e, (write bytes w).2 = .error e ∧ e.kind = .interrupted ∧ received (write bytes w).1 = received w

/-- Whatever the writer has been offered before, it takes at least one byte and at most `chunk` bytes at a
call that is not interrupted, and no more than `limit` in all. -/
def Bounded (limit chunk : Nat) (w : ω) : Prop :=
  (received w).length ≤ limit ∧
    ∀ calls bytes, TakesPart limit chunk bytes (afterCalls calls w) ∨ Interrupted bytes (afterCalls calls w)

variable {limit chunk : Nat} {w : ω}

/-- After a call the writer is still bounded. -/
theorem Bounded.of_write (h : Bounded limit chunk w) {bytes : List UInt8} {w' : ω} {r : Except IoError Nat}
    (hwrite : write bytes w = (w', r)) : Bounded limit chunk w' := by
  obtain rfl : (write bytes w).1 = w' := congrArg Prod.fst hwrite
  obtain ⟨hlength, hcalls⟩ := h
  refine ⟨?_, fun calls => hcalls (bytes :: calls)⟩
  obtain ⟨n, -, hreceived, -, -, hlimit, -⟩ | ⟨e, -, -, hreceived⟩ :
      TakesPart limit chunk bytes w ∨ Interrupted bytes w := hcalls [] bytes
  · rw [hreceived, List.length_append, List.length_take]
    omega
  · rw [hreceived]
    exact hlength

/-- A call that fails was interrupted, and has taken nothing. -/
theorem Bounded.of_write_error (h : Bounded limit chunk w) {bytes : List UInt8} {w' : ω} {cause : IoError}
    (hwrite : write bytes w = (w', .error cause)) :
    cause.kind = .interrupted ∧ received w' = received w := by
  obtain ⟨n, hn, -⟩ | ⟨e, he, hkind, hreceived⟩ : TakesPart limit chunk bytes w ∨ Interrupted bytes w := h.2 [] bytes
  · rw [hwrite] at hn
    cases hn
  · rw [hwrite] at he hreceived
    cases he
    exact ⟨hkind, hreceived⟩

/-- After another call the writer has taken as many bytes as it said; if it took none, it was full or there was
none. -/
theorem Bounded.of_write_ok (h : Bounded limit chunk w) {bytes : List UInt8} {w' : ω} {n : Nat}
    (hwrite : write bytes w = (w', .ok n)) :
    received w' = received w ++ bytes.take n ∧ (bytes ≠ [] → n = 0 → limit ≤ (received w).length) := by
  obtain ⟨m, hm, hreceived, -, -, -, hprogress⟩ | ⟨e, he, -⟩ :
      TakesPart limit chunk bytes w ∨ Interrupted bytes w := h.2 [] bytes
  · rw [hwrite] at hm hreceived
    obtain rfl : n = m := Except.ok.inj hm
    refine ⟨hreceived, fun hbytes hzero => Nat.le_of_not_lt fun hroom => ?_⟩
    have hpositive := hprogress hbytes hroom
    omega
  · rw [hwrite] at he
    cases he

end Writer

/-- **Writing to the end** leaves a bounded writer with the bytes for which there was room, and fails exactly
if there was not enough. -/
theorem writeAll_bounded {ω : Type} [Writer ω] {limit chunk : Nat} (bytes : List UInt8) {w : ω}
    (h : Writer.Bounded limit chunk w) :
    Writer.Bounded limit chunk (writeAll bytes w).1 ∧
      Writer.received (writeAll bytes w).1 = (Writer.received w ++ bytes).take limit ∧
      (writeAll bytes w).2 =
        if (Writer.received w ++ bytes).length ≤ limit then .ok () else .error .writeZero := by
  fun_induction writeAll bytes w with
  | case1 w =>
    rw [List.append_nil, List.take_of_length_le h.1, if_pos h.1]
    exact ⟨h, rfl, rfl⟩
  | case2 b rest w w' hwrite =>
    -- a writer that takes nothing is full
    obtain ⟨hreceived, hfull⟩ := h.of_write_ok hwrite
    have hlength : (Writer.received w).length = limit :=
      Nat.le_antisymm h.1 (hfull (List.cons_ne_nil b rest) rfl)
    have hmore : ¬ (Writer.received w ++ b :: rest).length ≤ limit := by
      rw [List.length_append, List.length_cons, hlength]
      omega
    refine ⟨h.of_write hwrite, ?_, (if_neg hmore).symm⟩
    rw [hreceived, List.take_zero, List.append_nil, ← hlength, List.take_left]
  | case3 b rest w w' n hwrite ih =>
    obtain ⟨hreceived, -⟩ := h.of_write_ok hwrite
    have htotal : Writer.received w' ++ rest.drop n = Writer.received w ++ b :: rest := by
      rw [hreceived, List.take_succ_cons, List.append_assoc, List.cons_append, List.take_append_drop]
    have hrest := ih (h.of_write hwrite)
    rw [htotal] at hrest
    exact hrest
  | case4 b rest w w' cause hwrite hkind ih =>
    -- an interrupted call is made again, with all the bytes
    have hrest := ih (h.of_write hwrite)
    rw [(h.of_write_error hwrite).2] at hrest
    exact hrest
  | case5 b rest w w' cause hwrite hkind => exact absurd (h.of_write_error hwrite).1 hkind

/-- Beside a text, a stream over a bounded writer that has received nothing truncates the text's bytes. -/
def Stream.truncation (ω : Type) [Writer ω] (limit chunk : Nat) :
    Sink.Truncation String (Stream ω) UInt8 where
  units := Text.utf8
  whole := Text.utf8
  part t := Writer.received t.writer
  limit
  stop := .writeZero
  Endless _ := True
  Bounded t := Writer.Bounded limit chunk t.writer
  char_whole ch s := by
    have hpush : s.push ch = s ++ String.singleton ch := String.push_eq_append ch
    exact congrArg (fun text => (text, Except.ok ())) hpush
  char_part _ _ := rfl
  append_whole text s _ := ⟨trivial, Text.utf8_append s text, rfl⟩
  append_part text _ h := writeAll_bounded (Text.utf8 text) h

namespace LimitedWriter

variable {w : LimitedWriter} {room chunk : Nat}

/-- One call takes as many bytes as both bounds allow. -/
theorem write_eq (hroom : w.room = some room) (hchunk : w.chunk = some chunk) (bytes : List UInt8) :
    (write bytes w).1.room = some (room - min room (min chunk bytes.length)) ∧
      (write bytes w).1.chunk = some chunk ∧
      (write bytes w).1.accepted = w.accepted ++ bytes.take (min room (min chunk bytes.length)) ∧
      (write bytes w).2 = .ok (min room (min chunk bytes.length)) := by
  have hpart : upTo w.room (upTo w.chunk bytes) = bytes.take (min room (min chunk bytes.length)) := by
    have htwice : upTo (some room) (upTo (some chunk) bytes) = (bytes.take chunk).take room := rfl
    rw [hroom, hchunk, htwice, List.take_take, List.take_eq_take_iff]
    omega
  have hlength :
      (bytes.take (min room (min chunk bytes.length))).length = min room (min chunk bytes.length) := by
    rw [List.length_take]
    omega
  unfold write accepted
  rw [hpart]
  dsimp only
  rw [hlength, hroom, List.reverse_append, List.reverse_reverse]
  exact ⟨rfl, hchunk, rfl, rfl⟩

/-- Whatever it has been offered before, the writer takes as much of an offer as there is room for. -/
theorem takesPart (hroom : w.room = some room) (hchunk : w.chunk = some chunk) (hpositive : 0 < chunk)
    (calls : List (List UInt8)) (bytes : List UInt8) :
    Writer.TakesPart (w.accepted.length + room) chunk bytes (Writer.afterCalls calls w) := by
  induction calls generalizing w room with
  | nil =>
    obtain ⟨-, -, haccepted, hresult⟩ := write_eq hroom hchunk bytes
    refine ⟨_, hresult, haccepted, by omega, by omega, ?_, fun hbytes hless => ?_⟩
    · exact Nat.add_le_add_left (Nat.min_le_left _ _) _
    · have hlength := List.length_pos_iff.mpr hbytes
      have hleft : w.accepted.length < w.accepted.length + room := hless
      omega
  | cons call calls ih =>
    obtain ⟨hroom', hchunk', haccepted, -⟩ := write_eq hroom hchunk call
    have hrest := ih hroom' hchunk'
    -- what has been taken and the room that is left come to the same as before
    have htotal : (write call w).1.accepted.length + (room - min room (min chunk call.length)) =
        w.accepted.length + room := by
      rw [haccepted, List.length_append, List.length_take]
      omega
    rw [htotal] at hrest
    exact hrest

/-- A writer with room for so many bytes that takes at most so many at a time, and at least one, is bounded. -/
theorem bounded (hroom : w.room = some room) (hchunk : w.chunk = some chunk) (hpositive : 0 < chunk) :
    Writer.Bounded (w.accepted.length + room) chunk w :=
  ⟨Nat.le_add_right _ _, fun calls bytes => .inl (takesPart hroom hchunk hpositive calls bytes)⟩

end LimitedWriter

namespace Sink

variable {τ : Type} [Sink τ]

/-- The sink after it has been given these texts. -/
def afterTexts (texts : List String) (t : τ) : τ :=
  texts.foldl (fun t text => (append text t).1) t

/-- Whatever the sink has been given before, it takes a text whole while it has taken less than `n` pieces,
and fails from then on. A character it takes as a text. -/
structure FailsAfter (n : Nat) (stop : IoError) (pieces : τ → List String) (t : τ) : Prop where
  appendChar : ∀ ch (u : τ), Sink.appendChar ch u = append (String.singleton ch) u
  taken : ∀ texts text, (pieces (afterTexts texts t)).length < n →
    pieces (append text (afterTexts texts t)).1 = pieces (afterTexts texts t) ++ [text] ∧
      (append text (afterTexts texts t)).2 = .ok ()
  refused : ∀ texts text, n ≤ (pieces (afterTexts texts t)).length →
    pieces (append text (afterTexts texts t)).1 = pieces (afterTexts texts t) ∧
      (append text (afterTexts texts t)).2 = .error stop

theorem FailsAfter.append {n : Nat} {stop : IoError} {pieces : τ → List String} {t : τ}
    (h : FailsAfter n stop pieces t) (text : String) : FailsAfter n stop pieces (Sink.append text t).1 where
  appendChar := h.appendChar
  taken texts := h.taken (text :: texts)
  refused texts := h.refused (text :: texts)

end Sink

namespace Pieces

theorem append_eq_of_room {s : Pieces} {n : Nat} (h : s.room = some n) (text : String) :
    append text s =
      if n = 0 then (s, .error closed) else ({ room := some (n - 1), taken := text :: s.taken }, .ok ()) := by
  obtain ⟨room, taken⟩ := s
  obtain rfl : room = some n := h
  cases n <;> rfl

theorem append_endless {s : Pieces} (h : s.room = none) (text : String) :
    append text s = ({ s with taken := text :: s.taken }, .ok ()) := by
  obtain ⟨room, taken⟩ := s
  obtain rfl : room = none := h
  rfl

/-- What has been taken and the room that is left come to the same whatever has been offered. -/
theorem afterTexts_room {s : Pieces} {n : Nat} (h : s.room = some n) (texts : List String) :
    ∃ m, (Sink.afterTexts texts s).room = some m ∧
      (Sink.afterTexts texts s).pieces.length + m = s.pieces.length + n := by
  induction texts generalizing s n with
  | nil => exact ⟨n, h, rfl⟩
  | cons text texts ih =>
    have hcons : Sink.afterTexts (text :: texts) s = Sink.afterTexts texts (append text s).1 := rfl
    rw [hcons, append_eq_of_room h]
    by_cases hzero : n = 0
    · rw [if_pos hzero]
      exact ih h
    · rw [if_neg hzero]
      obtain ⟨m, hroom, htotal⟩ := ih (s := { room := some (n - 1), taken := text :: s.taken }) rfl
      refine ⟨m, hroom, htotal.trans ?_⟩
      unfold pieces
      rw [List.length_reverse, List.length_reverse, List.length_cons]
      omega

/-- A record with room for so many more pieces fails after them. -/
theorem failsAfter {s : Pieces} {n : Nat} (h : s.room = some n) :
    Sink.FailsAfter (s.pieces.length + n) closed pieces s where
  appendChar _ _ := rfl
  taken texts text hless := by
    obtain ⟨m, hroom, htotal⟩ := afterTexts_room h texts
    have happend : Sink.append text (Sink.afterTexts texts s) = append text (Sink.afterTexts texts s) := rfl
    rw [happend, append_eq_of_room hroom, if_neg (by omega)]
    exact ⟨List.reverse_cons, rfl⟩
  refused texts text hfull := by
    obtain ⟨m, hroom, htotal⟩ := afterTexts_room h texts
    have happend : Sink.append text (Sink.afterTexts texts s) = append text (Sink.afterTexts texts s) := rfl
    rw [happend, append_eq_of_room hroom, if_pos (by omega)]
    exact ⟨rfl, rfl⟩

/-- Beside a record of all the pieces, a sink that fails after so many of them truncates. -/
def truncation {τ : Type} [Sink τ] (n : Nat) (stop : IoError) (pieces : τ → List String)
    (hchar : ∀ ch (t : τ), Sink.appendChar ch t = Sink.append (String.singleton ch) t) :
    Sink.Truncation Pieces τ String where
  units text := [text]
  whole := Pieces.pieces
  part := pieces
  limit := n
  stop
  Endless s := s.room = none
  Bounded t := Sink.FailsAfter n stop pieces t ∧ (pieces t).length ≤ n
  char_whole _ _ := rfl
  char_part := hchar
  append_whole text s h := by
    have happend : Sink.append text s = ({ s with taken := text :: s.taken }, .ok ()) := append_endless h text
    rw [happend]
    exact ⟨h, List.reverse_cons, rfl⟩
  append_part text t h := by
    obtain ⟨hfails, hless⟩ := h
    by_cases hroom : (pieces t).length < n
    · obtain ⟨htaken, hok⟩ :
          pieces (Sink.append text t).1 = pieces t ++ [text] ∧ (Sink.append text t).2 = .ok () :=
        hfails.taken [] text hroom
      have hlength : (pieces t ++ [text]).length ≤ n := by
        rw [List.length_append]
        exact hroom
      rw [htaken, hok, if_pos hlength, List.take_of_length_le hlength]
      exact ⟨⟨hfails.append text, hlength⟩, rfl, rfl⟩
    · obtain ⟨hsame, hstop⟩ :
          pieces (Sink.append text t).1 = pieces t ∧ (Sink.append text t).2 = .error stop :=
        hfails.refused [] text (Nat.le_of_not_lt hroom)
      have hfull : (pieces t).length = n := by omega
      have hmore : ¬ (pieces t ++ [text]).length ≤ n := by
        rw [List.length_append]
        exact fun h => absurd h (by rw [hfull]; exact Nat.not_succ_le_self n)
      rw [hsame, hstop, if_neg hmore, ← hfull, List.take_left]
      exact ⟨⟨hfull ▸ hfails.append text, Nat.le_refl _⟩, rfl, rfl⟩

end Pieces

end Hypertext
