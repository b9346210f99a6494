import RemoteSurface.Stream.Frames
/-!
Decoding in chunks. What a decoder holds and gives after some bytes does not depend on how they
were cut, because it takes them one by one. The end of a stream is like an empty line, and leaves
nothing behind.
-/
namespace RemoteSurface

namespace Decoder

theorem push_cons (d : Decoder) (b : UInt8) (rest : List UInt8) :
    d.push (b :: rest) =
      (((d.step b).1.push rest).1, (d.step b).2 ++ ((d.step b).1.push rest).2) := rfl

/-- Bytes taken at once leave and give what they leave and give when the later ones come in a
chunk of their own. -/
theorem push_append (d : Decoder) (bytes more : List UInt8) :
    d.push (bytes ++ more) =
      (((d.push bytes).1.push more).1, (d.push bytes).2 ++ ((d.push bytes).1.push more).2) := by
  induction bytes generalizing d with
  | nil => rfl
  | cons b rest ih =>
    rw [List.cons_append, push_cons, ih, push_cons, List.append_assoc]

theorem pushAll_cons (d : Decoder) (chunk : List UInt8) (rest : List (List UInt8)) :
    d.pushAll (chunk :: rest) =
      (((d.push chunk).1.pushAll rest).1,
        (d.push chunk).2 ++ ((d.push chunk).1.pushAll rest).2) := rfl

/-- Chunks leave and give what all of their bytes do when they come at once. -/
theorem pushAll_eq_push (d : Decoder) (chunks : List (List UInt8)) :
    d.pushAll chunks = d.push chunks.flatten := by
  induction chunks generalizing d with
  | nil => rfl
  | cons chunk rest ih => rw [pushAll_cons, ih, List.flatten_cons, push_append]

theorem lineBack_dispatch (d : Decoder) : d.dispatch.1.lineBack = d.lineBack := by
  unfold dispatch
  split <;> rfl

theorem lineBack_takeLine (d : Decoder) (bytes : List UInt8) :
    (d.takeLine bytes).1.lineBack = d.lineBack := by
  unfold takeLine
  dsimp only
  split
  · exact d.lineBack_dispatch
  · rfl
  · split <;> rfl

theorem dataBack_dispatch (d : Decoder) : d.dispatch.1.dataBack = [] := by
  unfold dispatch
  split
  next empty => exact empty
  next => rfl

theorem dispatch_of_nil {d : Decoder} (empty : d.dataBack = []) : d.dispatch = (d, []) := by
  rw [dispatch, empty]

theorem push_lineFeed (d : Decoder) :
    d.push [0x0A] = takeLine { d with lineBack := [] } d.lineBack.reverse := by
  rw [push_cons]
  simp only [push, List.append_nil]
  rfl

theorem push_lineFeed_of_nil {d : Decoder} (empty : d.lineBack = []) :
    d.push [0x0A] = d.dispatch := by
  have whole : { d with lineBack := [] } = d := by rw [← empty]
  rw [push_lineFeed, empty, whole]
  rfl

/-- Ending a stream is taking an empty line after the line that it leaves unfinished. -/
theorem finish_eq_push (d : Decoder) : d.finish = d.push [0x0A, 0x0A] := by
  have apart : d.push [0x0A, 0x0A] =
      (((d.push [0x0A]).1.push [0x0A]).1,
        (d.push [0x0A]).2 ++ ((d.push [0x0A]).1.push [0x0A]).2) :=
    d.push_append [0x0A] [0x0A]
  cases unfinished : d.lineBack with
  | nil =>
    have empty : d.dispatch.1.lineBack = [] := by rw [lineBack_dispatch, unfinished]
    rw [apart, push_lineFeed_of_nil unfinished, push_lineFeed_of_nil empty,
      dispatch_of_nil d.dataBack_dispatch, finish, unfinished, List.append_nil]
    rfl
  | cons b back =>
    have empty : (takeLine { d with lineBack := [] } (b :: back).reverse).1.lineBack = [] :=
      lineBack_takeLine _ _
    have line : d.push [0x0A] = takeLine { d with lineBack := [] } (b :: back).reverse := by
      rw [push_lineFeed, unfinished]
    rw [apart, line, push_lineFeed_of_nil empty, finish, unfinished]

theorem dispatch_fst {d : Decoder} (empty : d.lineBack = []) : d.dispatch.1 = start := by
  have line : d.dispatch.1.lineBack = [] := by rw [lineBack_dispatch, empty]
  have data := d.dataBack_dispatch
  generalize d.dispatch.1 = left at line data
  obtain ⟨lineBack, dataBack⟩ := left
  rw [start, show lineBack = [] from line, show dataBack = [] from data]

/-- A decoder at the end of its stream is as it was before the first byte. -/
theorem finish_fst (d : Decoder) : d.finish.1 = start := by
  unfold finish
  cases unfinished : d.lineBack with
  | nil => exact dispatch_fst unfinished
  | cons b back => exact dispatch_fst (lineBack_takeLine _ _)

end Decoder

end RemoteSurface
