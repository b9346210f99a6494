import RemoteSurface.Proofs.EventStreams
/-!
Streams of any bytes, well encoded or not. The frames of a stream are told by its lines alone, so
the cuts between its chunks do not show in them. Nothing of a stream is left in a decoder after its
end, so one decoder gives for streams that come in turn what it gives for each of them alone.
-/
namespace RemoteSurface

namespace EventStream

/-- What a line of any bytes says, if it says anything. -/
def partOfBytes? (bytes : List UInt8) : Option Part :=
  let decoded := Text.decodeLossy bytes
  let line := (Text.dropLast? '\r' decoded).getD decoded
  if line = [] then some .boundary
  else if fieldName line = dataName then some (.data (Decoder.fieldOf line).2)
  else none

/-- What the lines of a stream say; the last of them may be unfinished. -/
def partsOfBytes (bytes : List UInt8) : List Part := (bytes.splitOn 0x0A).filterMap partOfBytes?

theorem takeLine_said (values : List (List Char)) (bytes : List UInt8) :
    (holding values).takeLine bytes =
      (holding (hear values (partOfBytes? bytes)).1, (hear values (partOfBytes? bytes)).2) := by
  rw [Decoder.takeLine, partOfBytes?]
  dsimp only
  generalize (Text.dropLast? '\r' (Text.decodeLossy bytes)).getD (Text.decodeLossy bytes) = line
  cases line with
  | nil => exact dispatch_holding values
  | cons c rest =>
    rw [if_neg (List.cons_ne_nil c rest), ← fst_fieldOf]
    by_cases colon : c = ':'
    · subst colon
      rw [if_neg (comment_unnamed rest)]
      rfl
    · split
      next empty => cases empty
      next same => exact absurd (List.cons.inj same).1 colon
      next =>
        by_cases data : (Decoder.fieldOf (c :: rest)).1 = dataName
        · rw [if_pos data]
          refine (if_pos data).trans ?_
          simp [holding, hear]
        · rw [if_neg data]
          exact if_neg data

/-- A decoder within a line, with the data lines of an unfinished event. -/
def within (values : List (List Char)) (back : List UInt8) : Decoder := ⟨back, values.reverse⟩

theorem push_within_lineFeed (values : List (List Char)) (back : List UInt8) :
    (within values back).push [0x0A] =
      (holding (hear values (partOfBytes? back.reverse)).1,
        (hear values (partOfBytes? back.reverse)).2) := by
  rw [Decoder.push_lineFeed, within, ← takeLine_said]
  rfl

theorem finish_within (values : List (List Char)) (back : List UInt8) :
    (within values back).finish.2 = framesFrom values (partOfBytes? back.reverse).toList := by
  have apart := (within values back).push_append [0x0A] [0x0A]
  have said := framesFrom_hear values (partOfBytes? back.reverse) []
  rw [List.append_nil] at said
  rw [Decoder.finish_eq_push, said]
  refine (congrArg Prod.snd apart).trans ?_
  rw [push_within_lineFeed]
  have ended := dispatch_holding (hear values (partOfBytes? back.reverse)).1
  rw [← Decoder.push_lineFeed_of_nil (d := holding _) rfl] at ended
  rw [ended]
  rfl

theorem filterMap_partOfBytes?_cons (line : List UInt8) (lines : List (List UInt8)) :
    (line :: lines).filterMap partOfBytes? =
      (partOfBytes? line).toList ++ lines.filterMap partOfBytes? := by
  rw [List.filterMap_cons]
  cases partOfBytes? line <;> rfl

theorem modifyHead_begun_nil (lines : List (List UInt8)) :
    lines.modifyHead (fun line => [].reverse ++ line) = lines := by
  cases lines <;> rfl

/-- The frames of the bytes that are still to come, and of the line and the event begun before. -/
theorem frames_within (values : List (List Char)) (back bytes : List UInt8) :
    ((within values back).push bytes).2 ++ ((within values back).push bytes).1.finish.2 =
      framesFrom values
        (((bytes.splitOn 0x0A).modifyHead fun line => back.reverse ++ line).filterMap
          partOfBytes?) := by
  -- over the bytes; a line feed completes the line begun before, any other byte lengthens it
  induction bytes generalizing values back with
  | nil =>
    rw [List.splitOn_nil, List.modifyHead_cons, filterMap_partOfBytes?_cons, List.append_nil,
      List.filterMap_nil, List.append_nil, ← finish_within]
    rfl
  | cons b rest ih =>
    have lines : (b :: rest).splitOn 0x0A =
        if b = 0x0A then [] :: rest.splitOn 0x0A
        else (rest.splitOn 0x0A).modifyHead (List.cons b) := by
      simp only [List.splitOn, List.splitOnP_cons_eq_if_modifyHead, beq_iff_eq]
    by_cases feed : b = 0x0A
    · subst feed
      have head := push_within_lineFeed values back
      have later := ih (hear values (partOfBytes? back.reverse)).1 []
      rw [modifyHead_begun_nil] at later
      rw [lines, if_pos rfl, List.modifyHead_cons, filterMap_partOfBytes?_cons, List.append_nil,
        framesFrom_hear, ← later, ← List.append_assoc, ← List.singleton_append,
        Decoder.push_append, head]
      rfl
    · have step : (within values back).step b = (within values (b :: back), []) := by
        rw [Decoder.step, if_neg feed]
        rfl
      have longer : ((rest.splitOn 0x0A).modifyHead (List.cons b)).modifyHead
            (fun line => back.reverse ++ line) =
          (rest.splitOn 0x0A).modifyHead fun line => (b :: back).reverse ++ line := by
        rw [List.modifyHead_modifyHead]
        congr 1
        funext line
        simp
      rw [lines, if_neg feed, longer, ← ih, Decoder.push_cons, step]
      rfl

end EventStream

namespace Decoder

open EventStream

/-- Takes the chunks of a stream and then its end. -/
def decode (d : Decoder) (chunks : List (List UInt8)) : Decoder × List Frame :=
  let (d, frames) := d.pushAll chunks
  let (d, last) := d.finish
  (d, frames ++ last)

/-- Takes streams one after another, each as the chunks in which it comes. -/
def decodeInTurn (d : Decoder) : List (List (List UInt8)) → Decoder × List Frame
  | [] => (d, [])
  | chunks :: later =>
    let (d, frames) := d.decode chunks
    let (d, others) := d.decodeInTurn later
    (d, frames ++ others)

theorem decode_start (chunks : List (List UInt8)) :
    start.decode chunks = (start, framesFrom [] (partsOfBytes chunks.flatten)) := by
  have frames := frames_within [] [] chunks.flatten
  rw [modifyHead_begun_nil] at frames
  refine Prod.ext ((start.pushAll chunks).1.finish_fst) ?_
  rw [decode, pushAll_eq_push]
  exact frames

theorem decodeInTurn_start (streams : List (List (List UInt8))) :
    start.decodeInTurn streams =
      (start, streams.flatMap fun chunks => (start.decode chunks).2) := by
  induction streams with
  | nil => rfl
  | cons chunks later ih =>
    rw [decodeInTurn]
    simp only [decode_start, ih, List.flatMap_cons]

/-- A decoder gives the frames that the lines of a stream say, however its bytes are cut into
chunks, and at the end of the stream it is as it was before the first byte. So the frames of streams
that one decoder takes in turn are those of each stream alone, one after another. -/
theorem frames_do_not_show_cuts_or_earlier_streams :
    (∀ chunks, (start.decode chunks).2 = framesFrom [] (partsOfBytes chunks.flatten)) ∧
    (∀ one other : List (List UInt8), one.flatten = other.flatten →
      (start.decode one).2 = (start.decode other).2) ∧
    (∀ d : Decoder, d.finish.1 = start) ∧
    (∀ streams, (start.decodeInTurn streams).2 =
      streams.flatMap fun chunks => (start.decode chunks).2) ∧
    ∀ first second : List UInt8, ∀ one other : List (List UInt8),
      one.flatten = first → other.flatten = second →
      (start.decodeInTurn [one, other]).2 =
        (start.decode [first]).2 ++ (start.decode [second]).2 := by
  refine ⟨?_, ?_, finish_fst, ?_, ?_⟩
  · intro chunks
    rw [decode_start]
  · intro one other same
    rw [decode_start, decode_start, same]
  · intro streams
    rw [decodeInTurn_start]
  · intro first second one other cut cutToo
    rw [decodeInTurn_start, List.flatMap_cons, List.flatMap_cons, List.flatMap_nil, List.append_nil]
    simp only [decode_start, cut, cutToo, List.flatten_singleton]

/-- A stream with a character cut in two, and one with bytes that begin no character. -/
def cutCharacter : List (List UInt8) :=
  [[0x64, 0x61, 0x74, 0x61, 0x3A, 0xC3], [], [0xA9, 0x0D], [0x0A]]

def brokenCharacters : List (List UInt8) := [[0x64, 0x61, 0x74, 0x61, 0x3A, 0xFF, 0x0A, 0x0A, 0xC3]]

theorem cut_and_broken_characters_are_read_in_turn :
    cutCharacter.flatten = [0x64, 0x61, 0x74, 0x61, 0x3A, 0xC3, 0xA9, 0x0D, 0x0A] ∧
      (start.decodeInTurn [cutCharacter, brokenCharacters]).2 = [.data "é", .data "\uFFFD"] := by
  have cut : cutCharacter.flatten = [0x64, 0x61, 0x74, 0x61, 0x3A, 0xC3, 0xA9, 0x0D, 0x0A] := rfl
  have apart := frames_do_not_show_cuts_or_earlier_streams.2.2.2.2 _ _ _ brokenCharacters cut rfl
  exact ⟨cut, apart.trans (by decide)⟩

end Decoder

end RemoteSurface
