import Mathlib.Data.List.Basic

/-! Incremental framing of a byte stream.

A framing cuts the first complete frame off a buffer. A reader keeps the
incomplete tail between deliveries, so what it consumes must not depend on how
the stream was divided into deliveries.
-/

set_option autoImplicit false

namespace DarktableAgent.Foundation

/-- Cutting a frame leaves less input, and later input does not move the cut. -/
structure Framing (α Frame : Type) where
  split : List α → Option (Frame × List α)
  shrinks : ∀ {input frame rest}, split input = some (frame, rest) → rest.length < input.length
  stable : ∀ {input frame rest} (more : List α),
    split input = some (frame, rest) → split (input ++ more) = some (frame, rest ++ more)

namespace Framing

variable {α Frame σ : Type} (framing : Framing α Frame) (consume : σ → Frame → σ)

theorem split_nil : framing.split [] = none := by
  cases found : framing.split [] with
  | none => rfl
  | some cut =>
    obtain ⟨frame, rest⟩ := cut
    exact absurd (framing.shrinks found) (Nat.not_lt_zero _)

/-- Consume every complete frame of the buffer and keep the incomplete tail. -/
def drain (state : σ) (buffer : List α) : σ × List α :=
  match found : framing.split buffer with
  | none => (state, buffer)
  | some (frame, rest) =>
    have := framing.shrinks found
    drain (consume state frame) rest
termination_by buffer.length

theorem drain_of_none {state : σ} {buffer : List α} (incomplete : framing.split buffer = none) :
    framing.drain consume state buffer = (state, buffer) := by
  unfold drain
  split <;> simp_all

theorem drain_of_some {state : σ} {buffer rest : List α} {frame : Frame}
    (found : framing.split buffer = some (frame, rest)) :
    framing.drain consume state buffer = framing.drain consume (consume state frame) rest := by
  rw [drain]
  split <;> simp_all

/-- What is left after draining holds no complete frame. -/
theorem drain_settled (state : σ) (buffer : List α) :
    framing.split (framing.drain consume state buffer).2 = none := by
  induction state, buffer using drain.induct framing consume with
  | case1 state buffer incomplete => rw [drain_of_none framing consume incomplete]; exact incomplete
  | case2 state buffer frame rest found _ ih => rw [drain_of_some framing consume found]; exact ih

/-- Draining early, before more input arrives, changes nothing. -/
theorem drain_append (state : σ) (buffer more : List α) :
    framing.drain consume state (buffer ++ more) =
      framing.drain consume (framing.drain consume state buffer).1
        ((framing.drain consume state buffer).2 ++ more) := by
  induction state, buffer using drain.induct framing consume with
  | case1 state buffer incomplete => rw [drain_of_none framing consume incomplete]
  | case2 state buffer frame rest found _ ih =>
    rw [drain_of_some framing consume found, drain_of_some framing consume (framing.stable more found), ih]

/-- One delivery: append the chunk to the kept tail, then drain. -/
def feed (reader : σ × List α) (chunk : List α) : σ × List α :=
  framing.drain consume reader.1 (reader.2 ++ chunk)

/-- Any division of a stream into chunks is read as the undivided stream. -/
theorem feed_chunks (reader : σ × List α) (settled : framing.split reader.2 = none)
    (chunks : List (List α)) :
    chunks.foldl (framing.feed consume) reader =
      framing.drain consume reader.1 (reader.2 ++ chunks.flatten) := by
  induction chunks generalizing reader with
  | nil => simp [drain_of_none framing consume settled]
  | cons chunk rest ih =>
    have kept : framing.split (framing.feed consume reader chunk).2 = none :=
      framing.drain_settled consume _ _
    rw [List.foldl_cons, ih _ kept, List.flatten_cons, ← List.append_assoc,
      framing.drain_append consume reader.1 (reader.2 ++ chunk)]
    rfl

end Framing

end DarktableAgent.Foundation
