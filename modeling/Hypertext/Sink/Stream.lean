import Hypertext.Sink.Basic

/-!
# Streams

* A `Writer` takes some of the bytes it is offered and says how many.
* `writeAll` offers the rest again until nothing is left, also after an interrupted call, and fails when a writer takes
  nothing.
* A `Stream` is the sink that writes each text as UTF-8 to a writer and keeps nothing itself.
* `LimitedWriter` takes a bounded number of bytes at a time and in all.
-/

namespace Hypertext

/-- A destination for bytes. -/
class Writer (ω : Type) where
  /-- Takes a first part of the bytes and answers its length, or fails. -/
  write : List UInt8 → ω → ω × Except IoError Nat
  /-- Passes on what is held back, or fails. -/
  flush : Attempt IoError ω
  /-- The bytes taken so far. -/
  received : ω → List UInt8
  /-- How many calls in a row can be interrupted at most. -/
  patience : ω → Nat
  patience_lt : ∀ {bytes w w' e}, write bytes w = (w', .error e) → e.kind = .interrupted → patience w' < patience w

/-- Writes all the bytes, in as many calls as the writer needs. -/
def writeAll {ω : Type} [Writer ω] : List UInt8 → Attempt IoError ω
  | [], w => (w, .ok ())
  | b :: rest, w =>
    match _hwrite : Writer.write (b :: rest) w with
    | (w', .ok 0) => (w', .error IoError.writeZero)
    | (w', .ok (n + 1)) => writeAll (rest.drop n) w'
    | (w', .error e) => if _hkind : e.kind = .interrupted then writeAll (b :: rest) w' else (w', .error e)
termination_by bytes w => (bytes.length, Writer.patience w)
decreasing_by
  · refine .left _ _ (Nat.lt_succ_of_le ?_)
    rw [List.length_drop]
    exact Nat.sub_le _ _
  · exact .right _ (Writer.patience_lt _hwrite _hkind)

/-- The sink over a writer. -/
structure Stream (ω : Type) where
  writer : ω

instance {ω : Type} [Writer ω] : Sink (Stream ω) where
  append text := fun s =>
    match writeAll (Text.utf8 text) s.writer with
    | (w, r) => (⟨w⟩, r)
  flush := fun s =>
    match Writer.flush s.writer with
    | (w, r) => (⟨w⟩, r)
  received s := Writer.received s.writer

/-- A writer that has room for so many bytes in all and takes at most `chunk` of them at a time; a
missing bound does not bind. -/
structure LimitedWriter where
  room : Option Nat := none
  chunk : Option Nat := none
  /-- Whether flushing fails. -/
  flushFails : Bool := false
  /-- The bytes taken, newest first. -/
  taken : List UInt8 := []
deriving DecidableEq, Repr

namespace LimitedWriter

/-- The bytes up to a bound. -/
def upTo (bound : Option Nat) (bytes : List UInt8) : List UInt8 :=
  match bound with
  | some n => bytes.take n
  | none => bytes

/-- The bytes taken, in the order in which they came. -/
def accepted (w : LimitedWriter) : List UInt8 :=
  w.taken.reverse

/-- Takes as many bytes as the bounds allow. -/
def write (bytes : List UInt8) (w : LimitedWriter) : LimitedWriter × Except IoError Nat :=
  let part := upTo w.room (upTo w.chunk bytes)
  ({ w with
      room := w.room.map (· - part.length)
      taken := part.reverse ++ w.taken },
    .ok part.length)

/-- The failure of a flush. -/
def flushFailed : IoError := ⟨.other, "flush failed"⟩

/-- Fails if flushing does. -/
def flush : Attempt IoError LimitedWriter := fun w =>
  (w, if w.flushFails then .error flushFailed else .ok ())

end LimitedWriter

instance : Writer LimitedWriter where
  write := LimitedWriter.write
  flush := LimitedWriter.flush
  received := LimitedWriter.accepted
  patience _ := 0
  patience_lt h := by cases h

end Hypertext
