import Mathlib.Data.List.DropRight
import RemoteSurface.Path
import RemoteSurface.Proofs.TextPieces
/-!
Paths that were written from keys. Escaping replaces the tildes of a key and then its slashes. It
leaves no slash in a key and is undone by reading, so escaped keys between slashes are cut into the
keys that they were written from, except for those that have no path. What reading a path does beyond
that happens at its end: blanks there are dropped, and they are the last key's own if it ends in any.
-/
namespace RemoteSurface

namespace Text

theorem rdropWhile_append_cons {drops : Char → Bool} {c : Char} (stays : drops c = false)
    (before after : List Char) :
    List.rdropWhile drops (before ++ c :: after) = before ++ c :: List.rdropWhile drops after := by
  induction after using List.reverseRecOn with
  | nil =>
    have kept : ¬ drops c = true := by rw [stays]; exact Bool.false_ne_true
    rw [List.rdropWhile_concat_neg _ _ _ kept, List.rdropWhile_nil]
  | append_singleton after x ih =>
    rw [← List.cons_append, ← List.append_assoc, List.rdropWhile_concat, List.rdropWhile_concat, ih]
    split
    · rfl
    · simp

theorem rdropWhile_append_of_pos {drops : Char → Bool} {blanks : List Char}
    (dropped : ∀ c ∈ blanks, drops c = true) (s : List Char) :
    List.rdropWhile drops (s ++ blanks) = List.rdropWhile drops s := by
  have droppedToo : ∀ c ∈ blanks.reverse, drops c = true :=
    fun c member => dropped c (List.mem_reverse.mp member)
  rw [List.rdropWhile, List.reverse_append, List.dropWhile_append_of_pos droppedToo, List.rdropWhile]

theorem rdropWhile_eq_self_iff_getLast? {drops : Char → Bool} (s : List Char) :
    List.rdropWhile drops s = s ↔ s.getLast?.any drops = false := by
  induction s using List.reverseRecOn with
  | nil => simp
  | append_singleton s c _ =>
    rw [List.rdropWhile_eq_self_iff]
    simp

/-- A text with some characters in place of each occurrence of one. -/
def replaceChar (old : Char) (new s : List Char) : List Char :=
  s.flatMap fun c => if c = old then new else [c]

theorem replaceChar_cons (old : Char) (new : List Char) (c : Char) (s : List Char) :
    replaceChar old new (c :: s) = (if c = old then new else [c]) ++ replaceChar old new s :=
  List.flatMap_cons

theorem replaceChar_append (old : Char) (new s t : List Char) :
    replaceChar old new (s ++ t) = replaceChar old new s ++ replaceChar old new t :=
  List.flatMap_append

theorem replaceChar_of_not_mem {old : Char} {s : List Char} (absent : old ∉ s) (new : List Char) :
    replaceChar old new s = s := by
  induction s with
  | nil => rfl
  | cons c s ih =>
    rw [List.mem_cons, not_or] at absent
    rw [replaceChar_cons, if_neg (Ne.symm absent.1), ih absent.2, List.singleton_append]

/-- In front of a character that is not blank nothing is trimmed. -/
theorem trimChars_cons {c : Char} (filled : isBlankChar c = false) (s : List Char) :
    trimChars (c :: s) = List.rdropWhile isBlankChar (c :: s) := by
  rw [trimChars, List.dropWhile_cons, filled]
  rfl

end Text

namespace Segment

/-- Whether a key has a path: it is neither empty nor a single dot. -/
def isNameable (key : String) : Bool := counts key.toList

/-- A key without the blank characters at its end. -/
def trimEnd (key : String) : String :=
  String.ofList (List.rdropWhile Text.isBlankChar key.toList)

/-- Whether a key ends in a blank character. -/
def endsBlank (key : String) : Bool := key.toList.getLast?.any Text.isBlankChar

theorem isNameable_iff (key : String) : isNameable key = true ↔ key ≠ "" ∧ key ≠ "." := by
  have empty : key.toList = [] ↔ key = "" := by
    rw [← String.toList_inj]
    rfl
  have dot : key.toList = ['.'] ↔ key = "." := by
    rw [← String.toList_inj]
    rfl
  simp only [isNameable, counts, Bool.and_eq_true, bne_iff_ne, ne_eq, empty, dot]

theorem trimEnd_eq_self_iff (key : String) : trimEnd key = key ↔ endsBlank key = false := by
  have lists : trimEnd key = key ↔
      List.rdropWhile Text.isBlankChar key.toList = key.toList := by
    rw [← String.toList_inj, trimEnd, String.toList_ofList]
  rw [lists, endsBlank]
  exact Text.rdropWhile_eq_self_iff_getLast? key.toList

theorem escape_cons (c : Char) (key : List Char) : escape (c :: key) = escapeChar c ++ escape key :=
  List.flatMap_cons

theorem escape_concat (key : List Char) (c : Char) :
    escape (key ++ [c]) = escape key ++ escapeChar c := by
  rw [escape, escape, List.flatMap_append, List.flatMap_singleton]

theorem slash_not_mem_escape (key : List Char) : '/' ∉ escape key := by
  intro member
  obtain ⟨c, -, written⟩ := List.mem_flatMap.mp member
  unfold escapeChar at written
  split at written
  · simp at written
  · split at written
    next => simp at written
    next other => exact other (List.mem_singleton.mp written).symm

/-- A character other than the tilde is read as it stands. -/
theorem unescape_cons {c : Char} (plain : c ≠ '~') (rest : List Char) :
    unescape (c :: rest) = c :: unescape rest := by
  rw [unescape]
  · intro s same
    exact absurd same plain
  · intro s same
    exact absurd same plain

theorem unescape_escape (key : List Char) : unescape (escape key) = key := by
  induction key with
  | nil => rfl
  | cons c key ih =>
    rw [escape_cons, escapeChar]
    by_cases tilde : c = '~'
    · rw [if_pos tilde, tilde]
      exact congrArg (List.cons '~') ih
    · rw [if_neg tilde]
      by_cases slash : c = '/'
      · rw [if_pos slash, slash]
        exact congrArg (List.cons '/') ih
      · rw [if_neg slash, List.singleton_append, unescape_cons tilde, ih]

/-- Escaping replaces the tildes first, so that it leaves those of the escaped slashes alone. -/
theorem escape_eq_replaceChar (key : List Char) :
    escape key = Text.replaceChar '/' ['~', '1'] (Text.replaceChar '~' ['~', '0'] key) := by
  induction key with
  | nil => rfl
  | cons c key ih =>
    rw [escape_cons, Text.replaceChar_cons, Text.replaceChar_append, ← ih, escapeChar]
    by_cases tilde : c = '~'
    · rw [if_pos tilde, if_pos tilde, Text.replaceChar_of_not_mem (by decide)]
    · rw [if_neg tilde, if_neg tilde]
      by_cases slash : c = '/'
      · rw [if_pos slash, slash]
        rfl
      · have absent : '/' ∉ [c] := fun member => slash (List.mem_singleton.mp member).symm
        rw [if_neg slash, Text.replaceChar_of_not_mem absent]

-- In the other order a slash would not come back.
example : unescape (Text.replaceChar '~' ['~', '0'] (Text.replaceChar '/' ['~', '1'] ['/'])) =
    ['~', '1'] := by decide

/-- A key counts as it does when it is written. -/
theorem counts_escape (key : List Char) : counts (escape key) = counts key := by
  have fixed : ∀ s : List Char, escape s = s → (escape key = s ↔ key = s) := by
    intro s still
    constructor
    · intro same
      calc
        key = unescape (escape key) := (unescape_escape key).symm
        _ = unescape (escape s) := by rw [same, still]
        _ = s := unescape_escape s
    · intro same
      rw [same, still]
  have empty := fixed [] rfl
  have dot := fixed ['.'] rfl
  rw [Bool.eq_iff_iff]
  simp only [counts, Bool.and_eq_true, bne_iff_ne, ne_eq, empty, dot]

/-- Blanks at the end of a written key are those at the end of the key. -/
theorem rdropWhile_escape (key : List Char) :
    List.rdropWhile Text.isBlankChar (escape key) =
      escape (List.rdropWhile Text.isBlankChar key) := by
  induction key using List.reverseRecOn with
  | nil => rfl
  | append_singleton key c ih =>
    rw [escape_concat, List.rdropWhile_concat]
    cases blank : Text.isBlankChar c with
    | true =>
      have tilde : c ≠ '~' := by
        rintro rfl
        revert blank
        decide
      have slash : c ≠ '/' := by
        rintro rfl
        revert blank
        decide
      rw [escapeChar, if_neg tilde, if_neg slash, List.rdropWhile_concat_pos _ _ _ blank, ih]
      rfl
    | false =>
      -- Whatever is written for the character ends in one that is not blank either.
      obtain ⟨front, last, written, stays⟩ :
          ∃ front last, escapeChar c = front ++ [last] ∧ Text.isBlankChar last = false := by
        unfold escapeChar
        split
        · exact ⟨['~'], '0', rfl, by decide⟩
        · split
          · exact ⟨['~'], '1', rfl, by decide⟩
          · exact ⟨[], c, rfl, blank⟩
      rw [written, ← List.append_assoc, List.rdropWhile_concat_neg _ _ _ (by rw [stays]; simp),
        if_neg (by simp), escape_concat, written, List.append_assoc]

end Segment

namespace DataPath

open Segment

/-- The piece in front of a leading slash does not count. -/
theorem segmentsOf_slash (s : List Char) : segmentsOf ('/' :: s) = segmentsOf s := by
  have front : Text.pieces '/' ('/' :: s) = [] :: Text.pieces '/' s :=
    Text.pieces_append List.not_mem_nil s
  rw [segmentsOf, front]
  rfl

theorem segmentsOf_joinWith {ps : List (List Char)} (absent : ∀ p ∈ ps, '/' ∉ p) :
    segmentsOf (Text.joinWith '/' ps) =
      (ps.filter counts).map fun p => String.ofList (unescape p) := by
  cases ps with
  -- Cutting the empty text gives one piece, which is empty and does not count.
  | nil => rfl
  | cons p ps => rw [segmentsOf, Text.pieces_joinWith (List.cons_ne_nil p ps) absent]

/-- Between slashes, escaped keys are read back, except for those that have no path. -/
theorem segmentsOf_escaped (keys : List String) :
    segmentsOf (Text.joinWith '/' (keys.map fun k => escape k.toList)) = keys.filter isNameable := by
  rw [segmentsOf_joinWith]
  · rw [List.filter_map, List.map_map]
    have kept : (counts ∘ fun k : String => escape k.toList) = isNameable := by
      funext k
      exact counts_escape k.toList
    have read : ((fun p => String.ofList (unescape p)) ∘ fun k : String => escape k.toList) = id := by
      funext k
      simp [unescape_escape]
    rw [kept, read, List.map_id]
  · intro p member
    obtain ⟨k, -, rfl⟩ := List.mem_map.mp member
    exact slash_not_mem_escape k.toList

/-- A path written from keys is absolute, and leads over those of them that have a path, the last
one without the blanks at its end. -/
theorem parse_write (init : List String) (last : String) :
    parse (write (init ++ [last])) = ⟨true, (init ++ [trimEnd last]).filter isNameable⟩ := by
  have slash : Text.isBlankChar '/' = false := by decide
  have written : (write (init ++ [last])).toList =
      '/' :: Text.joinWith '/' ((init.map fun k => escape k.toList) ++ [escape last.toList]) := by
    rw [write, String.toList_ofList, List.map_append, List.map_singleton]
  have trimmed : Text.trimChars (write (init ++ [last])).toList =
      '/' :: Text.joinWith '/' ((init ++ [trimEnd last]).map fun k => escape k.toList) := by
    rw [written, Text.trimChars_cons slash, Text.cons_joinWith_concat,
      Text.rdropWhile_append_cons slash, rdropWhile_escape, ← Text.cons_joinWith_concat,
      List.map_append, List.map_singleton, trimEnd, String.toList_ofList]
  have keys : segmentsOf (Text.trimChars (write (init ++ [last])).toList) =
      (init ++ [trimEnd last]).filter isNameable := by
    rw [trimmed, segmentsOf_slash, segmentsOf_escaped]
  rw [parse, keys, trimmed]
  rfl

/-- Writing a key replaces its tildes and then its slashes, leaves no slash in it, and is undone by
reading. So any keys, written between slashes, are cut apart and read back, exactly if none of them
is empty or a single dot. -/
theorem escaped_keys_are_cut_apart :
    (∀ key : String,
      (Segment.write key).toList =
        Text.replaceChar '/' ['~', '1'] (Text.replaceChar '~' ['~', '0'] key.toList) ∧
      '/' ∉ (Segment.write key).toList ∧
      Segment.read (Segment.write key) = key) ∧
    ∀ keys : List String,
      segmentsOf (Text.joinWith '/' (keys.map fun key => (Segment.write key).toList)) = keys ↔
        ∀ key ∈ keys, key ≠ "" ∧ key ≠ "." := by
  have written (key : String) : (Segment.write key).toList = escape key.toList :=
    String.toList_ofList
  constructor
  · intro key
    refine ⟨?_, ?_, ?_⟩
    · rw [written, escape_eq_replaceChar]
    · rw [written]
      exact slash_not_mem_escape key.toList
    · rw [Segment.read, written, unescape_escape, String.ofList_toList]
  · intro keys
    simp only [written]
    rw [segmentsOf_escaped, List.filter_eq_self]
    exact forall₂_congr fun key _ => isNameable_iff key

/-- Keys that look escaped are escaped once more. -/
theorem keys_that_look_escaped_are_cut_apart :
    (∀ key ∈ ["~01", "~~1", "a/b ", ".."], key ≠ "" ∧ key ≠ ".") ∧
      segmentsOf "~001/~0~01/a~1b /..".toList = ["~01", "~~1", "a/b ", ".."] :=
  have nameable : ∀ key ∈ ["~01", "~~1", "a/b ", ".."], key ≠ "" ∧ key ≠ "." := by decide
  ⟨nameable, (escaped_keys_are_cut_apart.2 ["~01", "~~1", "a/b ", ".."]).mpr nameable⟩

end DataPath

end RemoteSurface
