import RemoteSurface.Text.Normal
import RemoteSurface.Url.Domain.Mapping
/-!
What the tables of runs say of characters of ASCII. A run is finished once the next one has begun, so
the first run of a table stands in its first characters; and a property of the numbers in a table is
checked along its text.
-/
namespace RemoteSurface

namespace Run

/-- Texts, and the characters that they spell one after the other. -/
inductive Spells : List String → List Char → Prop
  | nil : Spells [] []
  | cons {s : String} {cs : List Char} {others : List String} {later : List Char} :
      s = String.ofList cs → Spells others later → Spells (s :: others) (cs ++ later)

theorem spells (texts : List String) : Spells texts (texts.flatMap String.toList) := by
  induction texts with
  | nil => exact .nil
  | cons s others ih => exact .cons String.ofList_toList.symm ih

theorem toList_foldl_append {texts : List String} {cs : List Char} (spelled : Spells texts cs)
    (front : String) : (texts.foldl (· ++ ·) front).toList = front.toList ++ cs := by
  induction spelled generalizing front with
  | nil => exact (List.append_nil _).symm
  | cons spelling _ ih =>
    rw [List.foldl_cons, ih, spelling, String.toList_append, String.toList_ofList, List.append_assoc]

theorem parse_join {texts : List String} {cs : List Char} (spelled : Spells texts cs) :
    parse (String.join texts) = (cs.foldl step {}).back.reverse := by
  have characters : (String.join texts).toList = cs := toList_foldl_append spelled ""
  rw [parse, characters]

theorem tail_addNumber (n : Nat) (runs : List Run) : (addNumber n runs).tail = runs.tail := by
  cases runs <;> rfl

/-- What was read before the last run stays as it is. -/
theorem tail_back_suffix (p : Progress) (cs : List Char) :
    p.back.tail <:+ (cs.foldl step p).back := by
  induction cs generalizing p with
  | nil => exact List.tail_suffix p.back
  | cons c cs ih =>
    have kept : p.back.tail <:+ (step p c).back.tail := by
      rw [step]
      split
      · exact tail_addNumber p.number p.back ▸ List.suffix_rfl
      split
      · exact List.tail_suffix p.back
      · exact List.suffix_rfl
    exact kept.trans (ih (step p c))

/-- A number that the first run of a table covers; the second run begins in the first `k` characters. -/
theorem find?_first {s : String} {cs : List Char} {second : Run} {length : Nat} {label : Char}
    {numbers : List Nat} (k : Nat) (spelling : s = String.ofList cs)
    (begun : ((cs.take k).foldl step {}).back = [second, ⟨0, length, label, numbers⟩])
    (others : List String) {n : Nat} (small : n < length) :
    find? n (parse (String.join (s :: others))) = some ⟨0, length, label, numbers⟩ := by
  obtain ⟨later, shape⟩ := tail_back_suffix ((cs.take k).foldl step {})
    (cs.drop k ++ others.flatMap String.toList)
  rw [begun, List.tail_cons, ← List.foldl_append, ← List.append_assoc, List.take_append_drop] at shape
  rw [parse_join (.cons spelling (spells others)), ← shape, List.reverse_append, List.reverse_singleton,
    List.singleton_append, find?, List.find?_cons_of_pos (by simp [small])]

/-- Whether all numbers of a table have a property; `number` is the one under way. -/
def allNumbers (holds : Nat → Bool) : (number : Nat) → List Char → Bool
  | _, [] => true
  | number, c :: cs =>
    if c = '.' then holds number && allNumbers holds 0 cs
    else if c.isUpper then allNumbers holds 0 cs
    else allNumbers holds (number * 36 + digit c) cs

theorem addNumber_keeps {holds : Nat → Bool} {number : Nat} (fits : holds number = true)
    {runs : List Run} (before : ∀ r ∈ runs, r.numbers.all holds = true) :
    ∀ r ∈ addNumber number runs, r.numbers.all holds = true := by
  cases runs with
  | nil => exact before
  | cons last older =>
    rw [addNumber, List.forall_mem_cons] at *
    refine ⟨?_, before.2⟩
    rw [List.all_append, before.1, List.all_cons, fits]
    rfl

theorem all_numbers_of_foldl {holds : Nat → Bool} {p : Progress} {cs : List Char}
    (before : ∀ r ∈ p.back, r.numbers.all holds = true)
    (checked : allNumbers holds p.number cs = true) :
    ∀ r ∈ (cs.foldl step p).back, r.numbers.all holds = true := by
  induction cs generalizing p with
  | nil => exact before
  | cons c cs ih =>
    rw [List.foldl_cons, step]
    rw [allNumbers] at checked
    split at checked
    next point =>
      rw [Bool.and_eq_true] at checked
      rw [if_pos point]
      exact ih (addNumber_keeps checked.1 before) checked.2
    next other =>
      rw [if_neg other]
      split at checked
      next label =>
        rw [if_pos label]
        exact ih (List.forall_mem_cons.mpr ⟨rfl, before⟩) checked
      next digit =>
        rw [if_neg digit]
        exact ih before checked

theorem all_numbers {holds : Nat → Bool} {texts : List String} {cs : List Char}
    (spelled : Spells texts cs) (checked : allNumbers holds 0 cs = true) :
    ∀ r ∈ parse (String.join texts), r.numbers.all holds = true := by
  intro r member
  rw [parse_join spelled, List.mem_reverse] at member
  exact all_numbers_of_foldl (p := {}) (fun _ none => absurd none List.not_mem_nil) checked r member

end Run

namespace Domain

theorem mapping_of_lt {c : Char} (small : c.toNat < 65) : mapping c = .same := by
  have found : Run.find? c.toNat mappingRuns = some ⟨0, 65, 'V', []⟩ :=
    Run.find?_first 5 rfl rfl _ small
  rw [mapping, found]
  rfl

end Domain

namespace Text

theorem combiningClass_of_lt {c : Char} (small : c.toNat < 768) : combiningClass c = 0 := by
  have found : Run.find? c.toNat classRuns = some ⟨0, 768, 'C', [0]⟩ :=
    Run.find?_first 7 rfl rfl _ small
  rw [combiningClass, found]
  rfl

theorem split?_of_lt {c : Char} (small : c.toNat < 192) : split? c = none := by
  have found : Run.find? c.toNat pairRuns = some ⟨0, 192, 'N', []⟩ :=
    Run.find?_first 5 rfl rfl _ small
  have noSyllable : splitSyllable? c = none := if_pos (.inl (by omega))
  rw [split?, noSyllable, found]
  rfl

/-- No blank or control of ASCII joins what stands before it. -/
theorem join?_of_le (a : Char) {c : Char} (small : c.toNat ≤ 0x20) : join? a c = none := by
  have numbers : ∀ r ∈ pairRuns, r.numbers.all (fun n => 0x20 < n) = true := by
    apply Run.all_numbers
    · dsimp only
      repeat apply Run.Spells.cons rfl
      exact .nil
    · decide +kernel
  have noSyllable : joinSyllable? a c = none := by
    rw [joinSyllable?, if_neg (by omega), if_neg (by omega)]
  have noPair : (pairRuns.find? fun r => r.label == 'P' && r.numbers == [a.toNat, c.toNat]) = none := by
    rw [List.find?_eq_none]
    intro r member found
    have same : r.numbers = [a.toNat, c.toNat] := beq_iff_eq.mp (Bool.and_eq_true_iff.mp found).2
    have large := numbers r member
    rw [same] at large
    simp at large
    omega
  rw [join?, noSyllable, noPair]
  rfl

end Text

end RemoteSurface
