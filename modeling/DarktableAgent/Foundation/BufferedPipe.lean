import Mathlib.Data.List.Basic

/-! A pipe behind a reader that takes items ahead.

Readiness is a matter of the pipe alone. The reader serves what it holds first, and
takes from the pipe only when it holds nothing; how much it then takes is not up to
its caller.
-/

set_option autoImplicit false

namespace DarktableAgent.Foundation

variable {α : Type}

structure BufferedPipe (α : Type) where
  pipe : List α
  buffer : List α
  -- nobody can write to the pipe any more
  closed : Bool
  deriving DecidableEq

namespace BufferedPipe

def empty : BufferedPipe α := ⟨[], [], false⟩

variable (stream : BufferedPipe α)

/-- Everything that was written and not read yet, in order. -/
def pending : List α := stream.buffer ++ stream.pipe

/-- What a test for readiness sees: items in the pipe, or its end. -/
def readable : Bool := !stream.pipe.isEmpty || stream.closed

def write (items : List α) : BufferedPipe α :=
  if stream.closed then stream else { stream with pipe := stream.pipe ++ items }

/-- Read one item. From the pipe, the reader takes up to `ahead` further items into its buffer. -/
def read (ahead : Nat) : Option α × BufferedPipe α :=
  match stream.buffer, stream.pipe with
  | item :: buffer, _ => (some item, { stream with buffer })
  | [], item :: pipe => (some item, { stream with buffer := pipe.take ahead, pipe := pipe.drop ahead })
  | [], [] => (none, stream)

variable {stream}

theorem pending_eq_nil : stream.pending = [] ↔ stream.buffer = [] ∧ stream.pipe = [] :=
  List.append_eq_nil_iff

theorem pending_write {items : List α} (opened : stream.closed = false) :
    (stream.write items).pending = stream.pending ++ items := by
  simp [write, pending, opened]

/-- Where nothing can be read, whatever is pending is in the buffer. -/
theorem pending_of_not_readable (quiet : stream.readable = false) :
    stream.pending = stream.buffer ∧ stream.closed = false := by
  simp only [readable, Bool.or_eq_false_iff, Bool.not_eq_false', List.isEmpty_iff] at quiet
  simp [pending, quiet]

/-- A read takes the first pending item, however many the reader takes ahead. -/
theorem read_pending (ahead : Nat) :
    (stream.read ahead).1 = stream.pending.head? ∧ (stream.read ahead).2.pending = stream.pending.tail ∧
      (stream.read ahead).2.closed = stream.closed := by
  obtain ⟨pipe, buffer, closed⟩ := stream
  cases buffer with
  | cons item buffer => simp [read, pending]
  | nil => cases pipe <;> simp [read, pending]

theorem read_none {ahead : Nat} (drained : stream.pending = []) : stream.read ahead = (none, stream) := by
  obtain ⟨noBuffer, noPipe⟩ := pending_eq_nil.mp drained
  simp [read, noBuffer, noPipe]

theorem read_fst_none {ahead : Nat} : (stream.read ahead).1 = none ↔ stream.pending = [] := by
  rw [(read_pending ahead).1, List.head?_eq_none_iff]

/-- A reader that takes nothing ahead holds nothing. -/
theorem read_buffer_nil {ahead : Nat} (holdsNothing : stream.buffer = [])
    (takesNothing : ahead = 0 ∨ stream.pipe.length ≤ 1) : (stream.read ahead).2.buffer = [] := by
  unfold read
  rw [holdsNothing]
  cases pipe : stream.pipe with
  | nil => exact holdsNothing
  | cons item rest =>
    rw [pipe, List.length_cons] at takesNothing
    rcases takesNothing with rfl | short
    · simp
    · have last : rest = [] := List.eq_nil_of_length_eq_zero (by omega)
      simp [last]

end BufferedPipe

end DarktableAgent.Foundation
