import RemoteSurface.Proofs.LowerCase
import RemoteSurface.Proofs.WrittenPaths
/-!
Normal forms of names. Blanks are trimmed before separators are dropped, so a separator outside of
blanks keeps them: a normal form has blanks at an end if the trimmed name has them there once its
separators are dropped. A name matches like its normal form unless that happens, and a separator
that is put into a name changes what it matches only if it comes to stand outside of blanks that
were trimmed before.
-/
namespace RemoteSurface

namespace Text

/-- Whether the first or the last of some characters is blank. -/
def hasBlankEnd (s : List Char) : Bool := s.head?.any isBlankChar || s.getLast?.any isBlankChar

theorem trimChars_eq (s : List Char) :
    trimChars s = List.rdropWhile isBlankChar (s.dropWhile isBlankChar) := rfl

/-- Trimming takes blanks away at the ends and nothing else. -/
theorem trimChars_split (s : List Char) :
    ∃ front back, s = front ++ trimChars s ++ back ∧
      (∀ c ∈ front, isBlankChar c = true) ∧ ∀ c ∈ back, isBlankChar c = true := by
  refine ⟨s.takeWhile isBlankChar, (s.dropWhile isBlankChar).rtakeWhile isBlankChar, ?_, ?_, ?_⟩
  · rw [trimChars_eq, List.append_assoc, List.rdropWhile_append_rtakeWhile,
      List.takeWhile_append_dropWhile]
  · exact fun c member => List.mem_takeWhile_imp member
  · exact fun c member => List.mem_rtakeWhile_imp member

theorem dropWhile_eq_self_iff_head? {drops : Char → Bool} (s : List Char) :
    s.dropWhile drops = s ↔ s.head?.any drops = false := by
  rw [List.dropWhile_eq_self_iff]
  cases s with
  | nil => simp
  | cons c s => simp

theorem trimChars_eq_self_iff (s : List Char) : trimChars s = s ↔ hasBlankEnd s = false := by
  rw [hasBlankEnd, Bool.or_eq_false_iff, ← dropWhile_eq_self_iff_head?,
    ← rdropWhile_eq_self_iff_getLast?]
  constructor
  · intro whole
    have front : (trimChars s).length ≤ (s.dropWhile isBlankChar).length :=
      (List.rdropWhile_prefix isBlankChar (s.dropWhile isBlankChar)).length_le
    have back : (s.dropWhile isBlankChar).length ≤ s.length :=
      (List.dropWhile_suffix isBlankChar).length_le
    rw [whole] at front
    have kept : s.dropWhile isBlankChar = s :=
      (List.dropWhile_suffix isBlankChar).eq_of_length (Nat.le_antisymm back front)
    rw [trimChars_eq, kept] at whole
    exact ⟨kept, whole⟩
  · rintro ⟨front, back⟩
    rw [trimChars_eq, front, back]

theorem trimChars_append_of_pos {blanks : List Char} (blank : ∀ c ∈ blanks, isBlankChar c = true)
    (s : List Char) : trimChars (s ++ blanks) = trimChars s := by
  rw [trimChars_eq, trimChars_eq, List.dropWhile_append]
  split
  next empty =>
    rw [List.dropWhile_eq_nil_iff.mpr blank, List.isEmpty_iff.mp empty]
  next => exact rdropWhile_append_of_pos blank _

/-- Blanks at the outer ends of two parts are trimmed as well before the parts are joined. -/
theorem trimChars_parts (before after : List Char) :
    trimChars (before.dropWhile isBlankChar ++ List.rdropWhile isBlankChar after) =
      trimChars (before ++ after) := by
  have front : ∀ c ∈ before.takeWhile isBlankChar, isBlankChar c = true :=
    fun c member => List.mem_takeWhile_imp member
  have back : ∀ c ∈ after.rtakeWhile isBlankChar, isBlankChar c = true :=
    fun c member => List.mem_rtakeWhile_imp member
  calc trimChars (before.dropWhile isBlankChar ++ List.rdropWhile isBlankChar after)
      = trimChars (before.dropWhile isBlankChar ++ List.rdropWhile isBlankChar after ++
          after.rtakeWhile isBlankChar) := (trimChars_append_of_pos back _).symm
    _ = trimChars (before.dropWhile isBlankChar ++ after) := by
        rw [List.append_assoc, List.rdropWhile_append_rtakeWhile]
    _ = trimChars (before.takeWhile isBlankChar ++ (before.dropWhile isBlankChar ++ after)) := by
        rw [trimChars_eq, trimChars_eq, List.dropWhile_append_of_pos front]
    _ = trimChars (before ++ after) := by
        rw [← List.append_assoc, List.takeWhile_append_dropWhile]

/-- A character that is not blank parts what is trimmed in front from what is trimmed behind. -/
theorem trimChars_append_cons {c : Char} (filled : isBlankChar c = false)
    (before after : List Char) :
    trimChars (before ++ c :: after) =
      before.dropWhile isBlankChar ++ c :: List.rdropWhile isBlankChar after := by
  have kept : (c :: after).dropWhile isBlankChar = c :: after := by
    rw [List.dropWhile_cons, filled]
    rfl
  rw [trimChars_eq, List.dropWhile_append, kept]
  split
  next empty =>
    rw [List.isEmpty_iff.mp empty]
    exact rdropWhile_append_cons filled [] after
  next => exact rdropWhile_append_cons filled _ after

/-- Lower case has blanks where there were blanks before. -/
theorem hasBlankEnd_lowercase (s : List Char) :
    hasBlankEnd (s.flatMap lowercase) = hasBlankEnd s := by
  have front : (s.flatMap lowercase).head?.any isBlankChar = s.head?.any isBlankChar := by
    cases s with
    | nil => rfl
    | cons c s =>
      obtain ⟨d, ds, shape⟩ := List.exists_cons_of_ne_nil (lowercase_ne_nil c)
      have member : d ∈ lowercase c := shape ▸ .head _
      rw [List.flatMap_cons, shape]
      exact (marks_of_mem_lowercase member).1
  have back : (s.flatMap lowercase).getLast?.any isBlankChar = s.getLast?.any isBlankChar := by
    rcases List.eq_nil_or_concat' s with rfl | ⟨s, c, rfl⟩
    · rfl
    · have last := List.getLast?_eq_some_getLast (lowercase_ne_nil c)
      rw [List.flatMap_append, List.flatMap_singleton, List.getLast?_append, last,
        List.getLast?_concat]
      exact (marks_of_mem_lowercase (List.getLast_mem _)).1
  rw [hasBlankEnd, front, back, hasBlankEnd]

end Text

namespace Catalog

open Text (hasBlankEnd isBlankChar lowercase trimChars)

theorem not_blank_of_separator {c : Char} (separates : isSeparator c = true) :
    isBlankChar c = false := by
  simp only [isSeparator, Bool.or_eq_true, beq_iff_eq] at separates
  rcases separates with rfl | rfl <;> decide

/-- The lower-case form of some characters without the separators among them. -/
def lowerLetters (s : List Char) : List Char := (s.filter fun c => !isSeparator c).flatMap lowercase

theorem normalChars_eq (name : List Char) : normalChars name = lowerLetters (trimChars name) := rfl

theorem lowerLetters_append (s t : List Char) :
    lowerLetters (s ++ t) = lowerLetters s ++ lowerLetters t := by
  rw [lowerLetters, List.filter_append, List.flatMap_append, lowerLetters, lowerLetters]

theorem lowerLetters_cons_of_separator {sep : Char} (separates : isSeparator sep = true)
    (s : List Char) : lowerLetters (sep :: s) = lowerLetters s := by
  rw [lowerLetters, List.filter_cons, separates, lowerLetters]
  rfl

/-- What is in lower case already and has no separators stays as it is. -/
theorem lowerLetters_eq_self {s : List Char}
    (plain : ∀ c ∈ s, isSeparator c = false ∧ lowercase c = [c]) : lowerLetters s = s := by
  have kept : (s.filter fun c => !isSeparator c) = s := by
    rw [List.filter_eq_self]
    intro c member
    rw [(plain c member).1]
    rfl
  calc lowerLetters s
      = s.flatMap lowercase := by rw [lowerLetters, kept]
    _ = s.flatMap fun c => [c] := List.flatMap_congr fun c member => (plain c member).2
    _ = s := List.flatMap_singleton' s

/-- Blanks are no separators, so none of them is lost. -/
theorem eq_nil_of_lowerLetters {blanks : List Char} (blank : ∀ c ∈ blanks, isBlankChar c = true)
    (none : lowerLetters blanks = []) : blanks = [] := by
  rw [List.eq_nil_iff_forall_not_mem]
  intro c member
  have stays : (!isSeparator c) = true := by
    rw [Bool.not_eq_true', ← Bool.not_eq_true]
    intro separates
    have filled := not_blank_of_separator separates
    rw [blank c member] at filled
    cases filled
  exact Text.lowercase_ne_nil c
    (List.flatMap_eq_nil_iff.mp none c (List.mem_filter.mpr ⟨member, stays⟩))

theorem plain_of_mem {name : List Char} {c : Char} (member : c ∈ normalChars name) :
    isSeparator c = false ∧ lowercase c = [c] := by
  obtain ⟨d, letter, lower⟩ := List.mem_flatMap.mp member
  rw [(Text.marks_of_mem_lowercase lower).2]
  exact ⟨by simpa using (List.mem_filter.mp letter).2, Text.lowercase_of_mem_lowercase lower⟩

/-- The normal form of a normal form is trimmed, and nothing else is done to it. -/
theorem normalChars_normalChars (name : List Char) :
    normalChars (normalChars name) = trimChars (normalChars name) := by
  obtain ⟨front, back, parts, -, -⟩ := Text.trimChars_split (normalChars name)
  rw [normalChars_eq (normalChars name)]
  apply lowerLetters_eq_self
  intro c member
  have within : c ∈ normalChars name := by
    rw [parts]
    exact List.mem_append_left _ (List.mem_append_right _ member)
  exact plain_of_mem within

/-- Characters that are trimmed before they are lowered have the form that they have without that
only if there is nothing to trim. -/
theorem lowerLetters_trimChars_eq_iff (s : List Char) :
    lowerLetters s = lowerLetters (trimChars s) ↔ trimChars s = s := by
  constructor
  · intro same
    obtain ⟨front, back, parts, blankFront, blankBack⟩ := Text.trimChars_split s
    have spread : lowerLetters s =
        lowerLetters front ++ lowerLetters (trimChars s) ++ lowerLetters back := by
      rw [← lowerLetters_append, ← lowerLetters_append, ← parts]
    -- Both sides are as long, so nothing stands beside the trimmed middle.
    have sizes := congrArg List.length (spread.symm.trans same)
    simp only [List.length_append] at sizes
    have noFront := eq_nil_of_lowerLetters blankFront (List.length_eq_zero_iff.mp (by omega))
    have noBack := eq_nil_of_lowerLetters blankBack (List.length_eq_zero_iff.mp (by omega))
    rw [noFront, noBack, List.append_nil, List.nil_append] at parts
    exact parts.symm
  · intro whole
    rw [whole]

/-- Whether a separator between two parts of a name keeps blanks that are trimmed without it: the
parts, trimmed at their outer ends, have a blank at an end when they are put together. -/
def shields (before after : List Char) : Bool :=
  hasBlankEnd (before.dropWhile isBlankChar ++ List.rdropWhile isBlankChar after)

theorem normalChars_insert_eq_iff {sep : Char} (separates : isSeparator sep = true)
    (before after : List Char) :
    normalChars (before ++ sep :: after) = normalChars (before ++ after) ↔
      shields before after = false := by
  have inserted : normalChars (before ++ sep :: after) =
      lowerLetters (before.dropWhile isBlankChar ++ List.rdropWhile isBlankChar after) := by
    rw [normalChars_eq, Text.trimChars_append_cons (not_blank_of_separator separates),
      lowerLetters_append, lowerLetters_cons_of_separator separates, ← lowerLetters_append]
  rw [inserted, normalChars_eq, ← Text.trimChars_parts, lowerLetters_trimChars_eq_iff,
    Text.trimChars_eq_self_iff, shields]

/-- The characters of a name without the blanks around it and without its separators. -/
def letters (name : String) : List Char := (trimChars name.toList).filter fun c => !isSeparator c

theorem toList_normalize (name : String) : (normalize name).toList = normalChars name.toList :=
  String.toList_ofList

theorem normalize_normalize (name : String) :
    normalize (normalize name) = Text.trim (normalize name) := by
  rw [normalize, toList_normalize, normalChars_normalChars, Text.trim, toList_normalize]

theorem hasBlankEnd_normalize (name : String) :
    hasBlankEnd (normalize name).toList = hasBlankEnd (letters name) := by
  rw [toList_normalize]
  exact Text.hasBlankEnd_lowercase (letters name)

theorem normalize_normalize_eq_iff (name : String) :
    normalize (normalize name) = normalize name ↔ hasBlankEnd (letters name) = false := by
  rw [normalize_normalize, ← String.toList_inj, Text.trim, String.toList_ofList,
    Text.trimChars_eq_self_iff, hasBlankEnd_normalize]

/-- Two names match alike in all catalogs only if they have one normal form: a catalog of one of
them tells them apart if not. -/
theorem lookup?_eq_iff (a b : String) :
    (∀ ids, (ofList ids).lookup? a = (ofList ids).lookup? b) ↔ normalize a = normalize b := by
  constructor
  · intro alike
    have found := alike [a]
    have single (name : String) :
        (ofList [a]).lookup? name = if normalize name = normalize a then some a else none := rfl
    rw [single, single, if_pos rfl] at found
    by_contra apart
    rw [if_neg (Ne.symm apart)] at found
    cases found
  · intro same ids
    rw [lookup?, same, lookup?]

/-- A normal form has no separators, and it is a normal form itself but for blanks at its ends. It
has such blanks if the name, trimmed, has them there without its separators; only if it has none is
the normal form of it the same again, and does it match in every catalog what the name matches. A
separator that is put into a name, wherever it is, changes nothing in any catalog if and only if it
keeps no blanks that are trimmed without it. -/
theorem names_match_like_their_normal_forms_iff (name : String) :
    (∀ c ∈ (normalize name).toList, isSeparator c = false) ∧
    normalize (normalize name) = Text.trim (normalize name) ∧
    (hasBlankEnd (normalize name).toList = false ↔ hasBlankEnd (letters name) = false) ∧
    (normalize (normalize name) = normalize name ↔ hasBlankEnd (letters name) = false) ∧
    ((∀ ids, (ofList ids).lookup? name = (ofList ids).lookup? (normalize name)) ↔
      hasBlankEnd (letters name) = false) ∧
    ∀ before after sep, name.toList = before ++ after → isSeparator sep = true →
      ((∀ ids, (ofList ids).lookup? (String.ofList (before ++ sep :: after)) =
          (ofList ids).lookup? name) ↔
        shields before after = false) := by
  refine ⟨?_, normalize_normalize name, ?_, normalize_normalize_eq_iff name, ?_, ?_⟩
  · intro c member
    rw [toList_normalize] at member
    exact (plain_of_mem member).1
  · rw [hasBlankEnd_normalize]
  · rw [lookup?_eq_iff, eq_comm, normalize_normalize_eq_iff]
  · intro before after sep parts separates
    rw [lookup?_eq_iff, normalize, normalize, String.ofList_inj, String.toList_ofList, parts,
      normalChars_insert_eq_iff separates]

/-- A separator in front of a blank keeps the blank, so the name does not match what it matches
without the separator, and its normal form does. -/
theorem separator_in_front_of_blank_hides_name :
    normalize "_ open" = " open" ∧ normalize (normalize "_ open") = "open" ∧
      (ofList ["open"]).lookup? "_ open" = none ∧
      (ofList ["open"]).lookup? (normalize "_ open") = some "open" ∧
      (ofList ["open"]).lookup? " open" = some "open" := by
  decide +kernel

end Catalog

end RemoteSurface
