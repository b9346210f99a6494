import RemoteSurface.Json.Source
import RemoteSurface.Proofs.StepwiseReading
/-!
Numbers read back from their text. Whatever form the text takes, positional with zeros before or
behind the digits or scientific, the digits and the power that a reader finds in it make the
decimal that was written. An integer is then itself. A double is, if its digits are few and its
power of ten is small; with more digits it is not always read back, since its reader is in a hurry.
-/
namespace RemoteSurface

namespace Double

/-- A double of few digits: the units of its shortest decimal, written down to the first place
behind the point at least, have fifty-three bits, and it has no more than twenty-two places. -/
def IsShort (x : Double) : Prop :=
  (x.shortest .toEven).units * 10 ^ ((x.shortest .toEven).power + 1).toNat < 2 ^ 53 ∧
    -22 ≤ (x.shortest .toEven).power

theorem digitsValue_digitChars (n : ℕ) : digitsValue (digitChars n) = n := by
  rw [digitsValue_eq, digitChars, Nat.ofDigitChars_ten_toDigits]

theorem isDigit_of_mem_digitChars {n : ℕ} {c : Char} (member : c ∈ digitChars n) : c.isDigit :=
  Nat.isDigit_of_mem_toDigits (by decide) (by decide) member

theorem isDigit_of_mem_zeroDigits {n : ℕ} {c : Char} (member : c ∈ zeroDigits n) : c.isDigit := by
  rw [List.eq_of_mem_replicate member]
  decide

theorem digitChars_head {n : ℕ} (positive : 0 < n) :
    ∃ c cs, digitChars n = c :: cs ∧ c ≠ '0' := by
  induction n using Nat.strongRecOn with
  | ind n ih =>
    rw [digitChars, Nat.toDigits_eq_if (by decide)]
    split
    next small =>
      refine ⟨Nat.digitChar n, [], rfl, ?_⟩
      rw [ne_eq, Nat.digitChar_eq_zero]
      exact positive.ne'
    next large =>
      obtain ⟨c, cs, digits, apart⟩ := ih (n / 10) (by omega) (by omega)
      refine ⟨c, cs ++ [Nat.digitChar (n % 10)], ?_, apart⟩
      rw [← List.cons_append, ← digits, digitChars]

end Double

namespace Source

open Double (Numeral digitsValue digitChars zeroDigits)

/-- What may stand behind the digits of a numeral, and the power of ten that it gives. -/
inductive Tail : List Char → ℤ → Prop where
  | nothing : Tail [] 0
  | power {r : List Char} {p : ℤ} (read : Double.wholePower? r = some p)
    (chars : ∀ c ∈ r, isNumberChar c) : Tail ('e' :: r) p

theorem isNumberChar_of_isDigit {c : Char} (digit : c.isDigit) : isNumberChar c := by
  simp [isNumberChar, digit]

theorem tail_signed (lead : ℤ) :
    Tail ('e' :: (if lead < 0 then '-' else '+') :: digitChars lead.natAbs) lead := by
  have digits : (digitChars lead.natAbs).all Char.isDigit = true :=
    List.all_eq_true.mpr fun c member => Double.isDigit_of_mem_digitChars member
  have some : (digitChars lead.natAbs).isEmpty = false := by
    simp [digitChars]
  have numeric : ∀ c ∈ digitChars lead.natAbs, isNumberChar c := fun c member =>
    isNumberChar_of_isDigit (Double.isDigit_of_mem_digitChars member)
  apply Tail.power
  · split
    all_goals
      simp [Double.wholePower?, Double.takeSign, digits, some, Double.digitsValue_digitChars,
        -Nat.cast_natAbs]
      omega
  · intro c member
    rcases List.mem_cons.mp member with sign | digit
    · rw [sign]
      split <;> decide
    · exact numeric c digit

theorem split_digits {ds : List Char} (rest : List Char) (digits : ∀ c ∈ ds, c.isDigit)
    (ends : ∀ c ∈ rest.head?, ¬c.isDigit) :
    (ds ++ rest).takeWhile Char.isDigit = ds ∧ (ds ++ rest).dropWhile Char.isDigit = rest := by
  rw [List.takeWhile_append_of_pos digits, List.dropWhile_append_of_pos digits]
  cases rest with
  | nil => simp
  | cons c rest =>
    have notDigit : ¬c.isDigit := ends c rfl
    simp [notDigit]

theorem tail_ends {tail : List Char} {power : ℤ} (behind : Tail tail power) :
    ∀ c ∈ tail.head?, ¬c.isDigit := by
  cases behind with
  | nothing => simp
  | power _ _ =>
    intro c member
    cases member
    decide

/-- Whole digits as a numeral writes them: a zero alone, or digits with another in front. -/
inductive Whole : List Char → Prop where
  | zero : Whole ['0']
  | digits {c : Char} {cs : List Char} (digits : ∀ d ∈ c :: cs, d.isDigit) (apart : c ≠ '0') :
    Whole (c :: cs)

theorem Whole.isDigit {ds : List Char} (whole : Whole ds) : ∀ c ∈ ds, c.isDigit := by
  cases whole with
  | zero => simp
  | digits digits _ => exact digits

def signed (negative : Bool) (body : List Char) : List Char :=
  if negative then '-' :: body else body

/-- Whether digits have a zero in front of another digit. -/
def leadingZero (ds : List Char) : Bool :=
  match ds with
  | '0' :: _ :: _ => true
  | _ => false

/-- The parts of a numeral whose sign is read. -/
def unsignedParts? (negative : Bool) (body : List Char) : Option (Bool × Numeral × Bool) :=
  let whole := body.takeWhile Char.isDigit
  let rest := body.dropWhile Char.isDigit
  if whole.isEmpty || leadingZero whole then none
  else
    let (fraction, tail, pointed) := match rest with
      | '.' :: r => (r.takeWhile Char.isDigit, r.dropWhile Char.isDigit, true)
      | r => ([], r, false)
    if pointed && fraction.isEmpty then none
    else match tail with
      | [] => some (negative, ⟨whole, fraction, 0⟩, !pointed)
      | c :: r =>
        if c = 'e' ∨ c = 'E' then
          (Double.wholePower? r).map fun power => (negative, ⟨whole, fraction, power⟩, false)
        else none

theorem numberParts?_signed (negative : Bool) {body : List Char}
    (starts : ∀ c ∈ body.head?, c.isDigit) :
    numberParts? (signed negative body) = unsignedParts? negative body := by
  cases negative with
  | true => rfl
  | false =>
    unfold numberParts? signed
    simp only [Bool.false_eq_true, if_false]
    split
    next r =>
      have impossible : '-'.isDigit := starts '-' rfl
      exact absurd impossible (by decide)
    next => rfl

theorem Whole.accepted {ds : List Char} (whole : Whole ds) :
    ds.isEmpty = false ∧ leadingZero ds = false := by
  cases whole with
  | zero => exact ⟨rfl, rfl⟩
  | @digits c cs _ apart => cases cs <;> simp [leadingZero, apart]

theorem zero_digits : ∀ c ∈ ['0'], c.isDigit := by simp

theorem unsignedParts?_pointed (negative : Bool) {ds fraction tail : List Char} {power : ℤ}
    (whole : Whole ds) (digits : ∀ c ∈ fraction, c.isDigit) (some : fraction ≠ [])
    (behind : Tail tail power) :
    unsignedParts? negative (ds ++ '.' :: (fraction ++ tail)) =
      .some (negative, ⟨ds, fraction, power⟩, false) := by
  obtain ⟨left, right⟩ := split_digits ('.' :: (fraction ++ tail)) whole.isDigit (by simp)
  obtain ⟨left', right'⟩ := split_digits tail digits (tail_ends behind)
  obtain ⟨nonempty, unled⟩ := whole.accepted
  unfold unsignedParts?
  simp only [left, right, left', right', nonempty, unled]
  cases behind with
  | nothing => simp [some]
  | power read _ => simp [some, read]

theorem unsignedParts?_unpointed (negative : Bool) {ds tail : List Char} {power : ℤ}
    (whole : Whole ds) (behind : Tail tail power) :
    unsignedParts? negative (ds ++ tail) =
      some (negative, ⟨ds, [], power⟩, tail.isEmpty) := by
  obtain ⟨left, right⟩ := split_digits tail whole.isDigit (tail_ends behind)
  obtain ⟨nonempty, unled⟩ := whole.accepted
  unfold unsignedParts?
  simp only [left, right, nonempty, unled]
  cases behind with
  | nothing => simp
  | power read _ => simp [read]

/-- A text without a sign writes so many units of a power of ten, and writes them as a double. -/
inductive Writes : List Char → ℕ → ℤ → Prop where
  | pointed {ds fraction tail : List Char} {power : ℤ} (whole : Whole ds)
    (digits : ∀ c ∈ fraction, c.isDigit) (some : fraction ≠ []) (behind : Tail tail power) :
    Writes (ds ++ '.' :: (fraction ++ tail)) (digitsValue (ds ++ fraction))
      (power - fraction.length)
  | scaled {ds r : List Char} {power : ℤ} (whole : Whole ds)
    (behind : Tail ('e' :: r) power) : Writes (ds ++ 'e' :: r) (digitsValue ds) power

theorem Tail.isNumberChar {tail : List Char} {power : ℤ} (behind : Tail tail power) :
    ∀ c ∈ tail, isNumberChar c := by
  cases behind with
  | nothing => simp
  | power _ chars => simpa [List.forall_mem_cons] using ⟨by decide, chars⟩

theorem Writes.isNumberChar {body : List Char} {units : ℕ} {power : ℤ}
    (writes : Writes body units power) : ∀ c ∈ body, isNumberChar c := by
  have numeric : ∀ {ds : List Char}, (∀ c ∈ ds, c.isDigit) → ∀ c ∈ ds, Source.isNumberChar c :=
    fun digits c member => isNumberChar_of_isDigit (digits c member)
  cases writes with
  | pointed whole digits _ behind =>
    simp only [List.forall_mem_append, List.forall_mem_cons]
    exact ⟨numeric whole.isDigit, by decide, numeric digits, behind.isNumberChar⟩
  | scaled whole behind =>
    exact List.forall_mem_append.mpr ⟨numeric whole.isDigit, behind.isNumberChar⟩

theorem Whole.head {ds : List Char} (whole : Whole ds) (rest : List Char) :
    ∀ c ∈ (ds ++ rest).head?, c.isDigit := by
  cases whole with
  | zero => simp
  | digits digits _ =>
    intro c member
    cases member
    exact digits _ List.mem_cons_self

/-- Fifty-three bits of units and a small power of ten are read as the double near them. -/
theorem numberScalar?_of_writes {x : Double} {body : List Char} {units : ℕ} {power : ℤ}
    (writes : Writes body units power) (small : units < 2 ^ 53) (least : -22 ≤ power)
    (most : power ≤ 22) (finite : x.isFinite) (nonzero : 0 < x.significand)
    (near : x.Near (units * 10 ^ power)) :
    numberScalar? (signed x.isNegative body) = some (.number (some (.real x))) := by
  cases writes with
  | @pointed ds fraction tail power whole digits nonempty behind =>
    have read : Double.stepwise x.isNegative ⟨ds, fraction, power⟩ = x :=
      Double.stepwise_of_near finite nonzero small least most near
    rw [numberScalar?, numberParts?_signed _ (whole.head _),
      unsignedParts?_pointed _ whole digits nonempty behind]
    simp [numberValue, read, finite]
  | @scaled ds r power whole behind =>
    have read : Double.stepwise x.isNegative ⟨ds, [], power⟩ = x := by
      rw [← List.append_nil ds] at small near
      rw [← sub_zero power] at least most near
      exact Double.stepwise_of_near finite nonzero small least most near
    rw [numberScalar?, numberParts?_signed _ (whole.head _),
      unsignedParts?_unpointed _ whole behind]
    simp [numberValue, read, finite]

theorem digitsValue_append (ds es : List Char) :
    digitsValue (ds ++ es) = 10 ^ es.length * digitsValue ds + digitsValue es := by
  rw [Double.digitsValue_eq, Double.digitsValue_eq, Double.digitsValue_eq, Nat.ofDigitChars_append,
    Nat.ofDigitChars_eq_ofDigitChars_zero]

theorem digitsValue_zeroDigits (n : ℕ) : digitsValue (Double.zeroDigits n) = 0 := by
  rw [Double.digitsValue_eq, Double.zeroDigits, Nat.ofDigitChars_replicate_zero, Nat.mul_zero]

theorem whole_of_head {ds : List Char} (digits : ∀ d ∈ ds, d.isDigit)
    (head : ∃ c cs, ds = c :: cs ∧ c ≠ '0') : Whole ds := by
  obtain ⟨c, cs, rfl, apart⟩ := head
  exact .digits digits apart

variable {units : ℕ}

theorem writes_below_one (zeros : ℕ) (units : ℕ) :
    Writes ('0' :: '.' :: (zeroDigits zeros ++ digitChars units)) units
      (-(zeros + (digitChars units).length)) := by
  have digits : ∀ c ∈ zeroDigits zeros ++ digitChars units, c.isDigit := by
    intro c member
    rcases List.mem_append.mp member with inZeros | inDigits
    · exact Double.isDigit_of_mem_zeroDigits inZeros
    · exact Double.isDigit_of_mem_digitChars inDigits
  have nonempty : zeroDigits zeros ++ digitChars units ≠ [] := by simp [digitChars]
  have value : digitsValue (['0'] ++ (zeroDigits zeros ++ digitChars units)) = units := by
    rw [digitsValue_append, digitsValue_append, digitsValue_zeroDigits,
      Double.digitsValue_digitChars]
    simp [digitsValue]
  have writes := Writes.pointed Whole.zero digits nonempty .nothing
  rw [value] at writes
  convert writes using 1
  · simp
  · simp [zeroDigits]

theorem writes_whole (positive : 0 < units) (zeros : ℕ) :
    Writes (digitChars units ++ zeroDigits zeros ++ ['.', '0']) (units * 10 ^ (zeros + 1)) (-1) := by
  have whole : Whole (digitChars units ++ zeroDigits zeros) := by
    apply whole_of_head
    · intro d member
      rcases List.mem_append.mp member with inDigits | inZeros
      · exact Double.isDigit_of_mem_digitChars inDigits
      · exact Double.isDigit_of_mem_zeroDigits inZeros
    · obtain ⟨c, cs, known, apart⟩ := Double.digitChars_head positive
      exact ⟨c, cs ++ zeroDigits zeros, by rw [known, List.cons_append], apart⟩
  have writes := Writes.pointed whole zero_digits (List.cons_ne_nil '0' []) .nothing
  have value : digitsValue (digitChars units ++ zeroDigits zeros ++ ['0']) =
      units * 10 ^ (zeros + 1) := by
    rw [digitsValue_append, digitsValue_append, digitsValue_zeroDigits,
      Double.digitsValue_digitChars]
    simp [digitsValue, zeroDigits]
    ring
  rw [value] at writes
  convert writes using 1
  · simp
  · rfl

theorem writes_mixed (positive : 0 < units) {places : ℕ} (some : 0 < places)
    (less : places < (digitChars units).length) :
    Writes ((digitChars units).take places ++ '.' :: (digitChars units).drop places) units
      (places - (digitChars units).length) := by
  have whole : Whole ((digitChars units).take places) := by
    apply whole_of_head
    · intro d member
      exact Double.isDigit_of_mem_digitChars (List.mem_of_mem_take member)
    · obtain ⟨c, cs, known, apart⟩ := Double.digitChars_head positive
      obtain ⟨k, rfl⟩ := Nat.exists_eq_succ_of_ne_zero some.ne'
      exact ⟨c, cs.take k, by rw [known, List.take_succ_cons], apart⟩
  have digits : ∀ c ∈ (digitChars units).drop places, c.isDigit := fun c member =>
    Double.isDigit_of_mem_digitChars (List.mem_of_mem_drop member)
  have nonempty : (digitChars units).drop places ≠ [] := by
    rw [ne_eq, List.drop_eq_nil_iff]
    omega
  have writes := Writes.pointed whole digits nonempty .nothing
  rw [List.take_append_drop, Double.digitsValue_digitChars] at writes
  convert writes using 1
  · simp
  · rw [List.length_drop]
    omega

theorem writes_scientific (positive : 0 < units) (lead : ℤ) :
    Writes (Double.scientific (digitChars units) lead) units
      (lead + 1 - (digitChars units).length) := by
  have value := Double.digitsValue_digitChars units
  have behind := tail_signed lead
  have digits : ∀ d ∈ digitChars units, d.isDigit := fun d => Double.isDigit_of_mem_digitChars
  obtain ⟨c, cs, known, apart⟩ := Double.digitChars_head positive
  rw [known] at value digits ⊢
  cases cs with
  | nil =>
    have writes := Writes.scaled (.digits digits apart) behind
    rw [value] at writes
    simpa [Double.scientific] using writes
  | cons d ds =>
    have whole : Whole [c] := .digits (by simpa using digits c List.mem_cons_self) apart
    have fraction : ∀ e ∈ d :: ds, e.isDigit := fun e member =>
      digits e (List.mem_cons_of_mem c member)
    have writes := Writes.pointed whole fraction (List.cons_ne_nil d ds) behind
    have joined : [c] ++ d :: ds = c :: d :: ds := rfl
    have exponent : lead - (d :: ds).length = lead + 1 - (c :: d :: ds).length := by
      simp only [List.length_cons]
      omega
    rw [joined, value, exponent] at writes
    exact writes

/-- Around the point the units may go on with zeros, down to the first place behind the point. -/
theorem positional_writes (positive : 0 < units) (power : ℤ) : ∃ zeros ≤ (power + 1).toNat,
    Writes (Double.positional (digitChars units) (power + (digitChars units).length - 1) ['.', '0'])
      (units * 10 ^ zeros) (power - zeros) := by
  have some : 0 < (digitChars units).length := Nat.length_toDigits_pos
  rw [Double.positional]
  split
  next below =>
    refine ⟨0, Nat.zero_le _, ?_⟩
    have writes := writes_below_one (-(power + (digitChars units).length - 1) - 1).toNat units
    convert writes using 1
    · simp
    · simp
    · push_cast
      omega
  next above =>
    simp only
    split
    next short =>
      refine ⟨(power + 1).toNat, le_rfl, ?_⟩
      have writes := writes_whole positive
        ((power + (digitChars units).length - 1).toNat + 1 - (digitChars units).length)
      convert writes using 1
      · congr 2
        omega
      · omega
    next long =>
      refine ⟨0, Nat.zero_le _, ?_⟩
      have writes := writes_mixed positive (Nat.succ_pos _) (not_le.mp long)
      convert writes using 1
      · simp
      · push_cast
        omega

theorem significand_pos {x : Double} (nonzero : x.isZero = false) : 0 < x.significand := by
  rw [Double.significand]
  simp only [Double.isZero, Bool.and_eq_false_iff, beq_eq_false_iff_ne] at nonzero
  simp only [Nat.pow_eq]
  split <;> omega

theorem toList_withSign (x : Double) (body : List Char) :
    (x.withSign body).toList = signed x.isNegative body := by
  rw [Double.withSign, String.toList_ofList, signed]

theorem stepwise_zero (negative : Bool) :
    Double.stepwise negative ⟨['0'], ['0'], 0⟩ = Double.zero negative := by
  cases negative <;> decide +kernel

theorem numberScalar?_zero {x : Double} (finite : x.isFinite) (zero : x.isZero = true) :
    numberScalar? (signed x.isNegative ['0', '.', '0']) = some (.number (some (.real x))) := by
  have same : Double.zero x.isNegative = x := by
    have none : x.magnitude = 0 := by
      simp only [Double.isZero, Bool.and_eq_true, beq_iff_eq] at zero
      simp [Double.magnitude, zero]
    have whole := x.ofMagnitude_magnitude
    rwa [none] at whole
  have read : Double.stepwise x.isNegative ⟨['0'], ['0'], 0⟩ = x := (stepwise_zero _).trans same
  have parts := unsignedParts?_pointed x.isNegative .zero zero_digits (List.cons_ne_nil '0' [])
    .nothing
  rw [numberScalar?, numberParts?_signed _ (by simp)]
  refine (congrArg _ parts).trans ?_
  simp [numberValue, read, finite]

/-- What the document form of a double writes: zero, or its shortest decimal with no more zeros
behind it than lead to the first place behind the point. -/
theorem document_writes (x : Double) :
    ∃ body units power, x.document.toList = signed x.isNegative body ∧ Writes body units power ∧
      (x.isZero = true → body = ['0', '.', '0']) ∧
      (x.isZero = false → ∃ zeros ≤ ((x.shortest .toEven).power + 1).toNat,
        units = (x.shortest .toEven).units * 10 ^ zeros ∧
          power = (x.shortest .toEven).power - zeros) := by
  rw [Double.document]
  cases zero : x.isZero with
  | true =>
    rw [if_pos rfl, toList_withSign]
    have writes := Writes.pointed .zero zero_digits (List.cons_ne_nil '0' []) .nothing
    exact ⟨_, _, _, rfl, writes, fun _ => rfl, fun other => absurd other (by simp)⟩
  | false =>
    have nonzero := significand_pos zero
    have positive := (Double.near_shortest nonzero .toEven).units_pos nonzero
    rw [if_neg Bool.false_ne_true, toList_withSign]
    generalize x.shortest .toEven = d at positive ⊢
    simp only
    split
    next small =>
      obtain ⟨zeros, few, writes⟩ := positional_writes positive d.power
      exact ⟨_, _, _, rfl, writes, fun other => absurd other (by simp),
        fun _ => ⟨zeros, few, rfl, rfl⟩⟩
    next large =>
      have writes := writes_scientific positive (d.power + (digitChars d.units).length - 1)
      have exponent : d.power + (digitChars d.units).length - 1 + 1 - (digitChars d.units).length =
          d.power := by
        omega
      rw [exponent] at writes
      exact ⟨_, _, _, rfl, writes, fun other => absurd other (by simp),
        fun _ => ⟨0, Nat.zero_le _, by simp, by simp⟩⟩

/-- A double is read back from its document form if it is short. -/
theorem numberScalar?_document {x : Double} (finite : x.isFinite) (short : x.IsShort) :
    numberScalar? x.document.toList = some (.number (some (.real x))) := by
  obtain ⟨small, least⟩ := short
  obtain ⟨body, units, power, text, writes, none, decimal⟩ := document_writes x
  rw [text]
  cases zero : x.isZero with
  | true =>
    rw [none zero]
    exact numberScalar?_zero finite zero
  | false =>
    have nonzero := significand_pos zero
    have near := Double.near_shortest nonzero .toEven
    have positive := near.units_pos nonzero
    obtain ⟨zeros, few, rfl, rfl⟩ := decimal zero
    generalize x.shortest .toEven = d at *
    have fits : d.units * 10 ^ zeros < 2 ^ 53 :=
      (Nat.mul_le_mul_left _ (Nat.pow_le_pow_right (by decide) few)).trans_lt small
    have most : d.power < 16 := by
      have power : 10 ^ (d.power + 1).toNat < 10 ^ 16 :=
        (Nat.le_mul_of_pos_left _ positive).trans_lt (small.trans (by decide))
      have exponents := (Nat.pow_lt_pow_iff_right (by decide)).mp power
      omega
    refine numberScalar?_of_writes writes fits (by omega) (by omega) finite nonzero ?_
    have same : ((d.units * 10 ^ zeros : ℕ) * 10 ^ (d.power - zeros) : ℚ) = d.value := by
      rw [Decimal.value, zpow_sub₀ (by norm_num), zpow_natCast]
      push_cast
      field_simp
    rw [same]
    exact near

theorem toList_toString (n : ℤ) :
    (toString n).toList = signed (decide (n < 0)) (digitChars n.natAbs) := by
  cases n with
  | ofNat m =>
    have text : toString (Int.ofNat m) = m.repr := rfl
    have unsigned : ¬Int.ofNat m < 0 := by simp
    rw [text, Nat.toList_repr, signed, decide_eq_false unsigned]
    rfl
  | negSucc m =>
    have text : toString (Int.negSucc m) = "-" ++ (m + 1).repr := rfl
    rw [text, String.toList_append, Nat.toList_repr, signed, decide_eq_true (Int.negSucc_lt_zero m)]
    rfl

theorem whole_digitChars (n : ℕ) : Whole (digitChars n) := by
  rcases Nat.eq_zero_or_pos n with zero | positive
  · subst zero
    exact .zero
  · exact whole_of_head (fun d => Double.isDigit_of_mem_digitChars) (Double.digitChars_head positive)

theorem numberScalar?_whole {n : ℤ} (low : -2 ^ 63 ≤ n) (high : n < 2 ^ 64) :
    numberScalar? (toString n).toList = some (.number (some (.whole n))) := by
  have whole := whole_digitChars n.natAbs
  have parts := unsignedParts?_unpointed (decide (n < 0)) whole .nothing
  have starts := whole.head []
  rw [List.append_nil] at parts starts
  rw [toList_toString, numberScalar?, numberParts?_signed _ starts, parts]
  simp only [Option.map_some, numberValue, Double.digitsValue_digitChars, List.isEmpty_nil,
    Bool.true_and]
  by_cases negative : n < 0
  · have some : 0 < n.natAbs := by omega
    have fits : n.natAbs ≤ Nat.pow 2 63 := by
      rw [Nat.pow_eq]
      omega
    have turned : -(n.natAbs : ℤ) = n := by omega
    simp [negative, some, fits, turned, -Nat.cast_natAbs]
  · have fits : n.natAbs < Nat.pow 2 64 := by
      rw [Nat.pow_eq]
      omega
    have kept : (n.natAbs : ℤ) = n := by omega
    simp [negative, fits, kept, -Nat.cast_natAbs]

/-- Every number is written with a digit or a minus sign in front and in number characters. -/
theorem numberText_chars (n : JsonNumber) : ∃ c cs, (Json.numberText n).toList = c :: cs ∧
    (c.isDigit || c == '-') = true ∧ ∀ d ∈ c :: cs, isNumberChar d := by
  have form : ∀ (negative : Bool) (body : List Char), (∀ c ∈ body, isNumberChar c) → body ≠ [] →
      (∀ c ∈ body.head?, c.isDigit) → ∃ c cs, signed negative body = c :: cs ∧
        (c.isDigit || c == '-') = true ∧ ∀ d ∈ c :: cs, isNumberChar d := by
    intro negative body chars nonempty starts
    obtain ⟨c, cs, rfl⟩ := List.exists_cons_of_ne_nil nonempty
    cases negative with
    | true => exact ⟨'-', c :: cs, rfl, rfl, List.forall_mem_cons.mpr ⟨by decide, chars⟩⟩
    | false => exact ⟨c, cs, rfl, by simp [starts c rfl], chars⟩
  cases n with
  | whole n =>
    rw [Json.numberText, toList_toString]
    have starts := (whole_digitChars n.natAbs).head []
    rw [List.append_nil] at starts
    refine form _ _ (fun c member => ?_) (by simp [digitChars]) starts
    exact isNumberChar_of_isDigit (Double.isDigit_of_mem_digitChars member)
  | real x =>
    obtain ⟨body, units, power, text, writes, -, -⟩ := document_writes x
    rw [Json.numberText, text]
    refine form _ _ writes.isNumberChar ?_ ?_
    · cases writes <;> simp
    · cases writes with
      | pointed whole _ _ _ => exact whole.head _
      | scaled whole _ => exact whole.head _

end Source

/-- Whether a number is read back from its text. -/
def JsonNumber.isLegible (n : JsonNumber) : Bool :=
  match Source.numberScalar? (Json.numberText n).toList with
  | some (.number (some m)) => m = n
  | _ => false

namespace JsonNumber

theorem isLegible_iff {n : JsonNumber} : n.isLegible = true ↔
    Source.numberScalar? (Json.numberText n).toList = some (.number (some n)) := by
  unfold isLegible
  constructor
  · intro legible
    split at legible
    next m read => rw [read, of_decide_eq_true legible]
    next => cases legible
  · intro read
    rw [read]
    exact decide_eq_true rfl

theorem isLegible_whole {n : ℤ} (low : -2 ^ 63 ≤ n) (high : n < 2 ^ 64) :
    (whole n).isLegible = true :=
  isLegible_iff.mpr (Source.numberScalar?_whole low high)

theorem isLegible_real {x : Double} (finite : x.isFinite) (short : x.IsShort) :
    (real x).isLegible = true :=
  isLegible_iff.mpr (Source.numberScalar?_document finite short)

/-- Seventeen digits can be too many for the reader. -/
example : (real ⟨4606889344842309170⟩).isLegible = false := by decide +kernel

end JsonNumber

end RemoteSurface
