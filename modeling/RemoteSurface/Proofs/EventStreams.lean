import Mathlib.Data.List.TakeWhile
import RemoteSurface.Proofs.DecoderChunks
import RemoteSurface.Proofs.TextEncoding
import RemoteSurface.Proofs.TextPieces
/-!
Event streams as they are written, and that reading them gives back what was written. A payload is
written as one data line for each of its lines, and blank lines end it; comments and other fields
may stand anywhere and say nothing. What a stream says is therefore a list of parts, and the frames
of a stream can be told from its parts alone.
-/
namespace RemoteSurface

namespace EventStream

/-- How a line is ended. -/
inductive LineEnd where
  | lf
  | crlf

def LineEnd.returns : LineEnd → List Char
  | .lf => []
  | .crlf => ['\r']

def IsSingleLine (text : List Char) : Prop := '\r' ∉ text ∧ '\n' ∉ text

instance : DecidablePred IsSingleLine := fun text =>
  inferInstanceAs (Decidable ('\r' ∉ text ∧ '\n' ∉ text))

/-- What stands before the first colon, or the whole line. -/
def fieldName (text : List Char) : List Char := text.takeWhile (· ≠ ':')

def dataName : List Char := ['d', 'a', 't', 'a']

/-- A line as an origin may write it. -/
inductive Line where
  | spaced (value : List Char)
  | compact (value : List Char) (unspaced : value.head? ≠ some ' ')
  | blank
  | comment (text : List Char) (single : IsSingleLine text)
  | field (text : List Char) (filled : text ≠ []) (other : fieldName text ≠ dataName)
      (single : IsSingleLine text)

def Line.text : Line → List Char
  | .spaced value => dataName ++ ':' :: ' ' :: value
  | .compact value _ => dataName ++ ':' :: value
  | .blank => []
  | .comment text _ => ':' :: text
  | .field text _ _ _ => text

/-- What a line may say: a line of a payload, or that the payload is complete. -/
inductive Part where
  | data (value : List Char)
  | boundary

def Line.part? : Line → Option Part
  | .spaced value => some (.data value)
  | .compact value _ => some (.data value)
  | .blank => some .boundary
  | .comment _ _ => none
  | .field _ _ _ _ => none

def bytesOf (lines : List (Line × LineEnd)) : List UInt8 :=
  lines.flatMap fun l => Text.encode (l.1.text ++ l.2.returns) ++ [0x0A]

def partsOf (lines : List (Line × LineEnd)) : List Part := lines.filterMap fun l => l.1.part?

/-- The lines of a payload. -/
def linesOf (payload : String) : List (List Char) := Text.pieces '\n' payload.toList

/-- Parts that say the payloads of a list one after the other. Only the last of them may be without
a boundary, because the end of the stream is one. -/
inductive Carries : List String → List Part → Prop where
  | nothing : Carries [] []
  | unended (payload : String) : Carries [payload] ((linesOf payload).map .data)
  | event (payload : String) (blanks : Nat) {payloads : List String} {parts : List Part}
      (rest : Carries payloads parts) :
      Carries (payload :: payloads)
        ((linesOf payload).map .data ++ (List.replicate (blanks + 1) .boundary ++ parts))

/-- The frame of the data lines that came before a boundary, if any came. -/
def eventOf : List (List Char) → List Frame
  | [] => []
  | values => [Decoder.frameOf values]

theorem eventOf_of_ne_nil {values : List (List Char)} (nonempty : values ≠ []) :
    eventOf values = [Decoder.frameOf values] := by
  obtain ⟨first, others, rfl⟩ := List.exists_cons_of_ne_nil nonempty
  rfl

/-- The frames of parts, after the data lines of an unfinished event. The end is a boundary. -/
def framesFrom (values : List (List Char)) : List Part → List Frame
  | [] => eventOf values
  | .data value :: parts => framesFrom (values ++ [value]) parts
  | .boundary :: parts => eventOf values ++ framesFrom [] parts

theorem framesFrom_data (values more : List (List Char)) (parts : List Part) :
    framesFrom values (more.map .data ++ parts) = framesFrom (values ++ more) parts := by
  induction more generalizing values with
  | nil => rw [List.append_nil]; rfl
  | cons value more ih =>
    rw [List.map_cons, List.cons_append, framesFrom, ih, List.append_assoc]
    rfl

theorem framesFrom_boundaries (n : Nat) (parts : List Part) :
    framesFrom [] (List.replicate n .boundary ++ parts) = framesFrom [] parts := by
  induction n with
  | zero => rfl
  | succ n ih =>
    rw [List.replicate_succ, List.cons_append, framesFrom, ih]
    rfl

theorem eventOf_linesOf (payload : String) :
    eventOf (linesOf payload) =
      [if Text.trim payload = Decoder.doneMarker then .done else .data payload] := by
  have nonempty : linesOf payload ≠ [] := Text.pieces_ne_nil '\n' payload.toList
  have whole : Text.joinWith '\n' (linesOf payload) = payload.toList :=
    Text.joinWith_pieces '\n' payload.toList
  have marker : Text.trimChars payload.toList = Decoder.doneMarker.toList ↔
      Text.trim payload = Decoder.doneMarker := by
    rw [← String.toList_inj, Text.trim, String.toList_ofList]
  rw [eventOf_of_ne_nil nonempty, Decoder.frameOf, whole]
  simp only [marker, String.ofList_toList]

/-- Parts that carry payloads have one frame for each. -/
theorem Carries.framesFrom_eq {payloads : List String} {parts : List Part}
    (carries : Carries payloads parts) :
    framesFrom [] parts = payloads.map fun payload =>
      if Text.trim payload = Decoder.doneMarker then .done else .data payload := by
  induction carries with
  | nothing => rfl
  | unended payload =>
    rw [← List.append_nil (List.map _ _), framesFrom_data, List.nil_append, framesFrom,
      eventOf_linesOf]
    rfl
  | event payload blanks rest ih =>
    rw [framesFrom_data, List.nil_append, List.replicate_succ, List.cons_append, framesFrom,
      framesFrom_boundaries, eventOf_linesOf, ih]
    rfl

/-- The plain way to write payloads: spaced values, line feeds, and one blank line after each. -/
def plainLines (payloads : List String) : List (Line × LineEnd) :=
  payloads.flatMap fun payload =>
    (linesOf payload).map (fun value => (.spaced value, .lf)) ++ [(.blank, .lf)]

theorem plainLines_carry (payloads : List String) :
    Carries payloads (partsOf (plainLines payloads)) := by
  induction payloads with
  | nil => exact .nothing
  | cons payload payloads ih =>
    have values : partsOf ((linesOf payload).map fun value => (.spaced value, .lf)) =
        (linesOf payload).map .data := by
      rw [partsOf, List.filterMap_map]
      exact congrFun List.filterMap_eq_map (linesOf payload)
    have parts : partsOf (plainLines (payload :: payloads)) =
        (linesOf payload).map .data ++
          (List.replicate (0 + 1) .boundary ++ partsOf (plainLines payloads)) := by
      rw [← values, ← List.append_assoc, plainLines, List.flatMap_cons]
      exact List.filterMap_append.trans (congrArg (· ++ _) List.filterMap_append)
    rw [parts]
    exact .event payload 0 ih

theorem Carries.mem_linesOf {payloads : List String} {parts : List Part}
    (carries : Carries payloads parts) {value : List Char} (said : .data value ∈ parts) :
    ∃ payload ∈ payloads, value ∈ linesOf payload := by
  induction carries with
  | nothing => exact absurd said List.not_mem_nil
  | unended payload =>
    exact ⟨payload, List.mem_singleton_self payload, by simpa using said⟩
  | event payload blanks rest ih =>
    simp only [List.mem_append, List.mem_map, List.mem_replicate, Part.data.injEq,
      exists_eq_right, reduceCtorEq, and_false, false_or] at said
    obtain here | later := said
    · exact ⟨payload, List.mem_cons_self, here⟩
    · obtain ⟨other, among, line⟩ := ih later
      exact ⟨other, List.mem_cons_of_mem payload among, line⟩

/-- A text that a line can hold whole: no line ends within it, and it does not look ended. -/
structure IsReadable (text : List Char) : Prop where
  unbroken : '\n' ∉ text
  unreturned : text.getLast? ≠ some '\r'

theorem IsSingleLine.readable {text : List Char} (single : IsSingleLine text) : IsReadable text :=
  ⟨single.2, fun last => single.1 (List.mem_of_getLast? last)⟩

theorem IsSingleLine.append {front text : List Char} (single : IsSingleLine front)
    (readable : IsReadable text) : IsReadable (front ++ text) := by
  constructor
  · intro member
    exact (List.mem_append.mp member).elim single.2 readable.unbroken
  · intro last
    rw [List.getLast?_append] at last
    cases own : text.getLast? with
    | none => exact single.readable.unreturned (by rwa [own, Option.none_or] at last)
    | some c => exact readable.unreturned (by rwa [own, Option.some_or, ← own] at last)

theorem Line.readable (line : Line)
    (values : ∀ value, line.part? = some (.data value) → IsReadable value) :
    IsReadable line.text := by
  have nothing : IsReadable [] := IsSingleLine.readable (by decide)
  cases line with
  | spaced value =>
    have front : IsSingleLine (dataName ++ [':', ' ']) := by decide
    exact front.append (values value rfl)
  | compact value _ =>
    have front : IsSingleLine (dataName ++ [':']) := by decide
    exact front.append (values value rfl)
  | blank => exact nothing
  | comment text single =>
    have front : IsSingleLine [':'] := by decide
    exact front.append single.readable
  | field text _ _ single => exact single.readable

/-- A decoder between two lines, with the data lines of an unfinished event. -/
def holding (values : List (List Char)) : Decoder := ⟨[], values.reverse⟩

/-- What a part does to the data lines of an unfinished event, and the frames that it completes. -/
def hear (values : List (List Char)) : Option Part → List (List Char) × List Frame
  | some (.data value) => (values ++ [value], [])
  | some .boundary => ([], eventOf values)
  | none => (values, [])

theorem framesFrom_hear (values : List (List Char)) (part? : Option Part) (parts : List Part) :
    framesFrom values (part?.toList ++ parts) =
      (hear values part?).2 ++ framesFrom (hear values part?).1 parts := by
  obtain _ | _ | _ := part? <;> rfl

theorem dispatch_holding (values : List (List Char)) :
    (holding values).dispatch = (holding [], eventOf values) := by
  rw [Decoder.dispatch]
  split
  next empty =>
    obtain rfl := List.reverse_eq_nil_iff.mp empty
    rfl
  next filled =>
    have nonempty : values ≠ [] := fun none => filled (List.reverse_eq_nil_iff.mpr none)
    rw [eventOf_of_ne_nil nonempty]
    simp [holding]

theorem fst_fieldOf (text : List Char) : (Decoder.fieldOf text).1 = fieldName text := by
  rw [Decoder.fieldOf, Text.cut?_eq]
  by_cases colon : ':' ∈ text
  · rw [if_pos colon]
    split
    next same => exact congrArg Prod.fst (Option.some.inj same).symm
    next same => exact congrArg Prod.fst (Option.some.inj same).symm
    next none => exact absurd none (Option.some_ne_none _)
  · rw [if_neg colon]
    have whole : fieldName text = text := by
      refine List.takeWhile_eq_self_iff.mpr fun c member => decide_eq_true ?_
      rintro rfl
      exact colon member
    exact whole.symm

theorem cut?_dataName (value : List Char) :
    Text.cut? ':' (dataName ++ ':' :: value) = some (dataName, value) := by
  simp [dataName, Text.cut?]

theorem fieldOf_spaced (value : List Char) :
    Decoder.fieldOf (dataName ++ ':' :: ' ' :: value) = (dataName, value) := by
  rw [Decoder.fieldOf, cut?_dataName]
  rfl

theorem fieldOf_compact {value : List Char} (unspaced : value.head? ≠ some ' ') :
    Decoder.fieldOf (dataName ++ ':' :: value) = (dataName, value) := by
  rw [Decoder.fieldOf, cut?_dataName]
  split
  next spaced =>
    obtain ⟨-, rfl⟩ := Prod.mk.inj (Option.some.inj spaced)
    exact absurd rfl unspaced
  next other _ same => exact Option.some.inj same.symm
  next none => exact absurd none (Option.some_ne_none _)

theorem returns_dropped {text : List Char} (readable : IsReadable text) (ending : LineEnd) :
    (Text.dropLast? '\r' (text ++ ending.returns)).getD (text ++ ending.returns) = text := by
  cases ending with
  | lf =>
    rw [LineEnd.returns, List.append_nil, Text.dropLast?, if_neg readable.unreturned]
    rfl
  | crlf =>
    rw [LineEnd.returns, Text.dropLast?, if_pos List.getLast?_concat, List.dropLast_concat]
    rfl

theorem comment_unnamed (text : List Char) : (Decoder.fieldOf (':' :: text)).1 ≠ dataName := by
  rw [fst_fieldOf]
  exact (List.cons_ne_nil _ _).symm

/-- A line that is not blank is taken for its field alone: a comment has a field without a name. -/
theorem takeLine_filled (d : Decoder) {text : List Char} (filled : text ≠ [])
    (readable : IsReadable text) (ending : LineEnd) :
    d.takeLine (Text.encode (text ++ ending.returns)) =
      if (Decoder.fieldOf text).1 = dataName then
        ({ d with dataBack := (Decoder.fieldOf text).2 :: d.dataBack }, [])
      else (d, []) := by
  rw [Decoder.takeLine, Text.decodeLossy_encode]
  dsimp only
  rw [returns_dropped readable]
  split
  next => exact absurd rfl filled
  next rest => rw [if_neg (comment_unnamed rest)]
  next => rfl

theorem takeLine_data (values : List (List Char)) {text value : List Char} (filled : text ≠ [])
    (readable : IsReadable text) (ending : LineEnd)
    (data : Decoder.fieldOf text = (dataName, value)) :
    (holding values).takeLine (Text.encode (text ++ ending.returns)) =
      (holding (values ++ [value]), []) := by
  rw [takeLine_filled _ filled readable, data, if_pos rfl, holding, holding, List.reverse_concat]

theorem takeLine_holding (values : List (List Char)) (line : Line) (ending : LineEnd)
    (readable : IsReadable line.text) :
    (holding values).takeLine (Text.encode (line.text ++ ending.returns)) =
      (holding (hear values line.part?).1, (hear values line.part?).2) := by
  cases line with
  | spaced value =>
    exact takeLine_data values (List.cons_ne_nil _ _) readable ending (fieldOf_spaced value)
  | compact value unspaced =>
    exact takeLine_data values (List.cons_ne_nil _ _) readable ending (fieldOf_compact unspaced)
  | blank =>
    rw [Decoder.takeLine, Text.decodeLossy_encode]
    dsimp only
    rw [returns_dropped readable]
    exact dispatch_holding values
  | comment text single =>
    have taken := takeLine_filled (holding values) (List.cons_ne_nil ':' text) readable ending
    exact taken.trans (if_neg (comment_unnamed text))
  | field text filled other single =>
    rw [← fst_fieldOf] at other
    exact (takeLine_filled (holding values) filled readable ending).trans (if_neg other)

theorem push_unbroken (d : Decoder) {bytes : List UInt8} (unbroken : 0x0A ∉ bytes) :
    d.push bytes = ({ d with lineBack := bytes.reverse ++ d.lineBack }, []) := by
  induction bytes generalizing d with
  | nil => rfl
  | cons b rest ih =>
    have other : b ≠ 0x0A := fun same => unbroken (same ▸ List.mem_cons_self)
    have later : 0x0A ∉ rest := fun member => unbroken (List.mem_cons_of_mem b member)
    rw [Decoder.push_cons, Decoder.step, if_neg other, ih _ later]
    simp

theorem push_line (values : List (List Char)) (line : Line) (ending : LineEnd)
    (readable : IsReadable line.text) :
    (holding values).push (Text.encode (line.text ++ ending.returns) ++ [0x0A]) =
      (holding (hear values line.part?).1, (hear values line.part?).2) := by
  have unbroken : 0x0A ∉ Text.encode (line.text ++ ending.returns) := by
    intro byte
    obtain own | added := List.mem_append.mp (Text.mem_of_mem_encode byte (by decide))
    · exact readable.unbroken own
    · cases ending <;> simp [LineEnd.returns] at added
  rw [Decoder.push_append, push_unbroken _ unbroken, Decoder.push_lineFeed]
  dsimp only
  rw [holding, List.append_nil, List.reverse_reverse]
  exact takeLine_holding values line ending readable

theorem finish_holding (values : List (List Char)) :
    (holding values).finish.2 = eventOf values := by
  rw [holding, Decoder.finish]
  dsimp only
  rw [← holding, dispatch_holding]
  rfl

theorem frames_of_lines (values : List (List Char)) {lines : List (Line × LineEnd)}
    (readable : ∀ l ∈ lines, IsReadable l.1.text) :
    ((holding values).push (bytesOf lines)).2 ++
        ((holding values).push (bytesOf lines)).1.finish.2 =
      framesFrom values (partsOf lines) := by
  -- over the lines; between two of them the decoder holds the data lines of the unfinished event
  induction lines generalizing values with
  | nil => exact finish_holding values
  | cons l lines ih =>
    have head := push_line values l.1 l.2 (readable l List.mem_cons_self)
    have later := ih (hear values l.1.part?).1 fun m among =>
      readable m (List.mem_cons_of_mem l among)
    have parts : partsOf (l :: lines) = l.1.part?.toList ++ partsOf lines := by
      rw [partsOf, List.filterMap_cons]
      cases l.1.part? <;> rfl
    rw [bytesOf, List.flatMap_cons, Decoder.push_append, head, parts, framesFrom_hear, ← later,
      ← List.append_assoc]
    rfl

/-- Reading an event stream gives back what was written, however the bytes are cut into chunks: one
frame for each payload, in order. -/
theorem written_payloads_are_read {payloads : List String} {lines : List (Line × LineEnd)}
    {chunks : List (List UInt8)}
    (unreturned : ∀ payload ∈ payloads, ∀ line ∈ Text.pieces '\n' payload.toList,
      line.getLast? ≠ some '\r')
    (carries : Carries payloads (partsOf lines)) (cut : chunks.flatten = bytesOf lines) :
    (Decoder.start.pushAll chunks).2 ++ (Decoder.start.pushAll chunks).1.finish.2 =
      payloads.map fun payload =>
        if Text.trim payload = Decoder.doneMarker then .done else .data payload := by
  have readable : ∀ l ∈ lines, IsReadable l.1.text := by
    intro l among
    refine l.1.readable fun value said => ?_
    have part : .data value ∈ partsOf lines := List.mem_filterMap.mpr ⟨l, among, said⟩
    obtain ⟨payload, listed, line⟩ := carries.mem_linesOf part
    exact ⟨Text.not_mem_of_mem_pieces line, unreturned payload listed value line⟩
  have frames := frames_of_lines [] readable
  rw [carries.framesFrom_eq] at frames
  rw [Decoder.pushAll_eq_push, cut]
  exact frames

/-- Two events, of which the first has a line between its data lines and the second ends with the
stream. -/
def mixedLines : List (Line × LineEnd) :=
  [(.comment [' ', 'h', 'i'] (by decide), .crlf),
    (.spaced ['a', ':'], .lf),
    (.field ['i', 'd'] (by decide) (by decide) (by decide), .crlf),
    (.spaced [' ', 'b'], .crlf),
    (.blank, .lf),
    (.blank, .crlf),
    (.compact ['[', 'D', 'O', 'N', 'E', ']', ' '] (by decide), .lf)]

theorem written_mixed_lines_are_read :
    Carries ["a:\n b", "[DONE] "] (partsOf mixedLines) ∧
      (Decoder.start.pushAll [(bytesOf mixedLines).take 9, (bytesOf mixedLines).drop 9]).2 ++
          (Decoder.start.pushAll
            [(bytesOf mixedLines).take 9, (bytesOf mixedLines).drop 9]).1.finish.2 =
        [.data "a:\n b", .done] := by
  have carries : Carries ["a:\n b", "[DONE] "] (partsOf mixedLines) :=
    Carries.event "a:\n b" 1 (Carries.unended "[DONE] ")
  have unreturned : ∀ payload ∈ ["a:\n b", "[DONE] "],
      ∀ line ∈ Text.pieces '\n' payload.toList, line.getLast? ≠ some '\r' := by decide
  have cut : [(bytesOf mixedLines).take 9, (bytesOf mixedLines).drop 9].flatten =
      bytesOf mixedLines := by simp
  exact ⟨carries, written_payloads_are_read unreturned carries cut⟩

end EventStream

end RemoteSurface
