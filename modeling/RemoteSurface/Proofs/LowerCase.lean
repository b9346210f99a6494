import Mathlib.Data.Nat.Bitwise
import RemoteSurface.Action.Catalog
/-!
Lower case is lower already, and it neither makes nor takes away blanks and separators. The tables
say so: no character that is a lower-case form is a capital, and neither of the two is a mark. A set
of code points is told as a number here, so that whether two of them meet is one operation.
-/
namespace RemoteSurface

namespace Text

/-- A set of code points as a number, with one bit for each. -/
def bits : List Nat → Nat
  | [] => 0
  | n :: ns => 1 <<< n ||| bits ns

theorem testBit_bits {n : Nat} {ns : List Nat} (member : n ∈ ns) : (bits ns).testBit n = true := by
  induction ns with
  | nil => cases member
  | cons m ns ih =>
    rw [bits, Nat.testBit_or, Bool.or_eq_true]
    rcases List.mem_cons.mp member with rfl | there
    · left
      rw [Nat.one_shiftLeft, Nat.testBit_two_pow_self]
    · exact Or.inr (ih there)

theorem not_mem_of_land_bits {ms ns : List Nat} (apart : bits ms &&& bits ns = 0) {n : Nat}
    (here : n ∈ ms) : n ∉ ns := by
  intro there
  have both : (bits ms &&& bits ns).testBit n = true := by
    rw [Nat.testBit_and, testBit_bits here, testBit_bits there]
    rfl
  rw [apart, Nat.zero_testBit] at both
  cases both

/-- The code points of a run. -/
def CaseRun.codes (r : CaseRun) : List Nat :=
  (List.range ((r.last - r.first) / r.step + 1)).map fun i => r.first + i * r.step

theorem CaseRun.mem_codes {r : CaseRun} {n : Nat} (covered : r.covers n = true) : n ∈ r.codes := by
  simp only [covers, Bool.and_eq_true, decide_eq_true_eq, beq_iff_eq] at covered
  obtain ⟨⟨least, most⟩, whole⟩ := covered
  refine List.mem_map.mpr ⟨(n - r.first) / r.step, ?_, ?_⟩
  · have upTo : (n - r.first) / r.step ≤ (r.last - r.first) / r.step :=
      Nat.div_le_div_right (by omega)
    exact List.mem_range.mpr (Nat.lt_succ_of_le upTo)
  · have back : (n - r.first) / r.step * r.step = n - r.first :=
      Nat.div_mul_cancel (Nat.dvd_of_mod_eq_zero whole)
    omega

/-- The code points of the capitals among the first hundred and twenty-eight. -/
def plainCapitals : List Nat := List.range' 0x41 26

/-- The code points of their forms. -/
def plainForms : List Nat := List.range' 0x61 26

/-- The code points whose characters have another lower-case form. -/
def capitals : List Nat := 0x130 :: plainCapitals ++ caseRuns.flatMap CaseRun.codes

/-- The code points of the forms that capitals have. -/
def lowered : List Nat :=
  0x69 :: 0x307 :: plainForms ++
    caseRuns.flatMap fun r => r.codes.map fun (n : Nat) => (n + r.offset).toNat

/-- The code points of blanks and separators. -/
def marks : List Nat :=
  [0x09, 0x0A, 0x0B, 0x0C, 0x0D, 0x20, 0x85, 0xA0, 0x1680, 0x2000, 0x2001, 0x2002, 0x2003, 0x2004,
    0x2005, 0x2006, 0x2007, 0x2008, 0x2009, 0x200A, 0x2028, 0x2029, 0x202F, 0x205F, 0x3000,
    0x2D, 0x5F]

theorem lowered_not_capital {n : Nat} : n ∈ lowered → n ∉ capitals :=
  not_mem_of_land_bits (by decide +kernel)

theorem lowered_not_mark {n : Nat} : n ∈ lowered → n ∉ marks :=
  not_mem_of_land_bits (by decide +kernel)

theorem capital_not_mark {n : Nat} : n ∈ capitals → n ∉ marks :=
  not_mem_of_land_bits (by decide +kernel)

/-- The forms that a run has are characters, not surrogates. -/
theorem caseRuns_valid : ∀ r ∈ caseRuns, r.last + r.offset < 0xD800 ∨
    (0xE000 ≤ r.first + r.offset ∧ r.last + r.offset < 0x110000) := by
  decide +kernel

theorem toLower_cases : ∀ n < 128,
    (Char.ofNat n).toLower = Char.ofNat n ∨
      n ∈ plainCapitals ∧ (Char.ofNat n).toLower.toNat ∈ plainForms := by
  decide +kernel

theorem toLower_cases_of_lt {c : Char} (plain : c.toNat < 128) :
    c.toLower = c ∨ c.toNat ∈ plainCapitals ∧ c.toLower.toNat ∈ plainForms := by
  have cases := toLower_cases c.toNat plain
  rw [Char.ofNat_toNat] at cases
  exact cases

theorem find?_caseRuns {n : Nat} (noCapital : n ∉ capitals) :
    caseRuns.find? (·.covers n) = none := by
  rw [List.find?_eq_none]
  intro r member covered
  have there : n ∈ caseRuns.flatMap CaseRun.codes :=
    List.mem_flatMap.mpr ⟨r, member, CaseRun.mem_codes covered⟩
  exact noCapital (.tail _ (List.mem_append_right _ there))

theorem lowercase_of_not_capital {c : Char} (noCapital : c.toNat ∉ capitals) :
    lowercase c = [c] := by
  unfold lowercase
  split
  next plain =>
    rcases toLower_cases_of_lt plain with same | ⟨capital, -⟩
    · rw [same]
    · exact absurd (.tail _ (List.mem_append_left _ capital)) noCapital
  next =>
    split
    next dotted => exact absurd (dotted ▸ .head _) noCapital
    next => rw [find?_caseRuns noCapital]

/-- The form that a run has for one of its characters. -/
theorem toNat_of_run {r : CaseRun} {n : Nat} (member : r ∈ caseRuns) (covered : r.covers n = true) :
    (Char.ofNat (n + r.offset).toNat).toNat ∈ lowered := by
  have lower : (n + r.offset).toNat ∈ lowered :=
    .tail _ (.tail _ (List.mem_append_right _ (List.mem_flatMap.mpr
      ⟨r, member, List.mem_map.mpr ⟨n, CaseRun.mem_codes covered, rfl⟩⟩)))
  have valid : (n + r.offset).toNat.isValidChar := by
    have bounds := caseRuns_valid r member
    simp only [CaseRun.covers, Bool.and_eq_true, decide_eq_true_eq] at covered
    unfold Nat.isValidChar
    omega
  rw [Char.ofNat, dif_pos valid]
  exact lower

/-- A character has another lower-case form only if it is a capital. -/
theorem lowercase_cases (c : Char) :
    lowercase c = [c] ∨ c.toNat ∈ capitals ∧ ∀ d ∈ lowercase c, d.toNat ∈ lowered := by
  unfold lowercase
  split
  next plain =>
    rcases toLower_cases_of_lt plain with same | ⟨capital, lower⟩
    · exact Or.inl (by rw [same])
    · refine Or.inr ⟨.tail _ (List.mem_append_left _ capital), List.forall_mem_singleton.mpr ?_⟩
      exact .tail _ (.tail _ (List.mem_append_left _ lower))
  next =>
    split
    next dotted =>
      refine Or.inr ⟨dotted ▸ .head _, ?_⟩
      exact List.forall_mem_cons.mpr ⟨.head _, List.forall_mem_singleton.mpr (.tail _ (.head _))⟩
    next =>
      split
      next r found =>
        have member := List.mem_of_find?_eq_some found
        have covered := List.find?_some found
        have capital : c.toNat ∈ caseRuns.flatMap CaseRun.codes :=
          List.mem_flatMap.mpr ⟨r, member, CaseRun.mem_codes covered⟩
        exact Or.inr ⟨.tail _ (List.mem_append_right _ capital),
          List.forall_mem_singleton.mpr (toNat_of_run member covered)⟩
      next => exact Or.inl rfl

theorem lowercase_ne_nil (c : Char) : lowercase c ≠ [] := by
  unfold lowercase
  split
  · exact List.cons_ne_nil _ _
  · split
    · exact List.cons_ne_nil _ _
    · split <;> exact List.cons_ne_nil _ _

/-- Lower case is lower already. -/
theorem lowercase_of_mem_lowercase {c d : Char} (member : d ∈ lowercase c) : lowercase d = [d] := by
  rcases lowercase_cases c with same | ⟨-, lower⟩
  · rw [same, List.mem_singleton] at member
    rw [member, same]
  · exact lowercase_of_not_capital (lowered_not_capital (lower d member))

theorem mem_marks_of_blank {c : Char} (blank : isBlankChar c = true) : c.toNat ∈ marks := by
  simp only [isBlankChar, Bool.or_eq_true, Bool.and_eq_true, decide_eq_true_eq, beq_iff_eq] at blank
  simp only [marks, List.mem_cons, List.not_mem_nil, or_false]
  omega

theorem mem_marks_of_separator {c : Char} (separates : Catalog.isSeparator c = true) :
    c.toNat ∈ marks := by
  simp only [Catalog.isSeparator, Bool.or_eq_true, beq_iff_eq] at separates
  rcases separates with rfl | rfl <;> decide

theorem not_mark {c : Char} (noMark : c.toNat ∉ marks) :
    isBlankChar c = false ∧ Catalog.isSeparator c = false :=
  ⟨Bool.eq_false_iff.mpr fun blank => noMark (mem_marks_of_blank blank),
    Bool.eq_false_iff.mpr fun separates => noMark (mem_marks_of_separator separates)⟩

/-- What is in the lower-case form of a character is blank or a separator if the character is. -/
theorem marks_of_mem_lowercase {c d : Char} (member : d ∈ lowercase c) :
    isBlankChar d = isBlankChar c ∧ Catalog.isSeparator d = Catalog.isSeparator c := by
  rcases lowercase_cases c with same | ⟨capital, lower⟩
  · rw [same, List.mem_singleton] at member
    rw [member]
    exact ⟨rfl, rfl⟩
  · obtain ⟨noBlank, noSeparator⟩ := not_mark (capital_not_mark capital)
    obtain ⟨noBlankToo, noSeparatorToo⟩ := not_mark (lowered_not_mark (lower d member))
    rw [noBlank, noBlankToo, noSeparator, noSeparatorToo]
    exact ⟨rfl, rfl⟩

end Text

end RemoteSurface
