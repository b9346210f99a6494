import Mathlib.Tactic.IntervalCases
import RemoteSurface.Proofs.TableLaws
import RemoteSurface.Proofs.WrittenNumbers
/-!
JSON values read back from their text. The reader of characters meets the text of a value in the
middle of a document: whatever is open around it and whatever follows, the value is completed
where its text ends, and what follows is read on from there. A number or a word ends only with the
character behind it, so what follows is nothing, a comma or a closing bracket.
-/
namespace RemoteSurface

namespace Source

theorem readChars_cons {s t : Scan} {c : Char} {ts : List Token} (scanned : scanChar s c = some (t, ts))
    (r : Reader) (rest : List Char) :
    readChars s r (c :: rest) = (ts.foldlM Reader.step r).bind fun r => readChars t r rest := by
  rw [readChars, List.map_cons, readUnits, scanUnit, scanned]
  cases known : ts.foldlM Reader.step r <;> simp [known, readChars]

theorem readChars_quiet {s t : Scan} {c : Char} (scanned : scanChar s c = some (t, []))
    (r : Reader) (rest : List Char) : readChars s r (c :: rest) = readChars t r rest :=
  readChars_cons scanned r rest

theorem readChars_token {s t : Scan} {c : Char} (token : Token)
    (scanned : scanChar s c = some (t, [token])) (r : Reader) (rest : List Char) :
    readChars s r (c :: rest) = (r.step token).bind fun r => readChars t r rest := by
  rw [readChars_cons scanned]
  simp

/-! Strings -/

theorem hexValue?_digitChar {d : ℕ} (small : d < 16) : hexValue? (Nat.digitChar d) = some d := by
  interval_cases d <;> rfl

/-- A control character is written by its number, in four hexadecimal digits. -/
theorem readChars_control {c : Char} (control : c.toNat < 0x20) (back : List Char) (r : Reader)
    (rest : List Char) :
    readChars (.inString back true .none none) r
        (['\\', 'u', '0', '0'] ++ Json.hexPair c.toNat ++ rest) =
      readChars (.inString (c :: back) true .none none) r rest := by
  have high := hexValue?_digitChar (d := c.toNat / 16) (by omega)
  have low := hexValue?_digitChar (d := c.toNat % 16) (by omega)
  have number : c.toNat / 16 * 16 + c.toNat % 16 = c.toNat := Nat.div_add_mod' c.toNat 16
  have whole : unit back true none c.toNat = .inString (c :: back) true .none none := by
    have notHigh : ¬(0xD800 ≤ c.toNat ∧ c.toNat < 0xDC00) := by omega
    have notLow : ¬(0xDC00 ≤ c.toNat ∧ c.toNat < 0xE000) := by omega
    simp [unit, notHigh, notLow, Char.ofNat_toNat]
  have third : scanChar (.inString back true (.hex 2 0) none) (Nat.digitChar (c.toNat / 16)) =
      some (.inString back true (.hex 1 (c.toNat / 16)) none, []) := by
    simp [scanChar, scanString, high]
  have fourth : scanChar (.inString back true (.hex 1 (c.toNat / 16)) none)
      (Nat.digitChar (c.toNat % 16)) = some (.inString (c :: back) true .none none, []) := by
    simp [scanChar, scanString, low, number, whole]
  calc readChars (.inString back true .none none) r
          (['\\', 'u', '0', '0'] ++ Json.hexPair c.toNat ++ rest)
      = readChars (.inString back true (.hex 2 0) none) r (Json.hexPair c.toNat ++ rest) := rfl
    _ = readChars (.inString back true (.hex 1 (c.toNat / 16)) none) r
          (Nat.digitChar (c.toNat % 16) :: rest) := readChars_quiet third r _
    _ = readChars (.inString (c :: back) true .none none) r rest := readChars_quiet fourth r rest

theorem readChars_escaped (c : Char) (back : List Char) (r : Reader) (rest : List Char) :
    readChars (.inString back true .none none) r (Json.escapedChar c ++ rest) =
      readChars (.inString (c :: back) true .none none) r rest := by
  unfold Json.escapedChar
  split
  · rfl
  · rfl
  · rfl
  · rfl
  · rfl
  · rfl
  · rfl
  · split
    next control => exact readChars_control control back r rest
    next notQuote notBackslash _ _ _ _ _ plain =>
      apply readChars_quiet
      have above : ¬c.toNat < 0x20 := plain
      simp [scanChar, scanString, above]
      rw [if_neg notQuote, if_neg notBackslash]

theorem readChars_stringBody (cs back : List Char) (r : Reader) (rest : List Char) :
    readChars (.inString back true .none none) r (cs.flatMap Json.escapedChar ++ '"' :: rest) =
      (r.step (.scalar (.text (some (String.ofList (back.reverse ++ cs)))))).bind fun r =>
        readChars .between r rest := by
  induction cs generalizing back with
  | nil =>
    rw [List.flatMap_nil, List.nil_append, List.append_nil]
    exact readChars_token _ rfl r rest
  | cons c cs ih =>
    rw [List.flatMap_cons, List.append_assoc, readChars_escaped, ih, List.reverse_cons,
      List.append_assoc, List.singleton_append]

theorem readChars_string (s : String) (r : Reader) (rest : List Char) :
    readChars .between r (Json.stringChars s ++ rest) =
      (r.step (.scalar (.text (some s)))).bind fun r => readChars .between r rest := by
  have body := readChars_stringBody s.toList [] r rest
  rw [List.reverse_nil, List.nil_append, String.ofList_toList] at body
  rw [Json.stringChars, List.cons_append, List.cons_append, List.append_assoc]
  exact body

/-! Words and numbers -/

/-- What may follow the text of a value inside a document. -/
def Follows (rest : List Char) : Prop := ∀ c ∈ rest.head?, c = ',' ∨ c = ']' ∨ c = '\x7d'

theorem follows_nil : Follows [] := by simp [Follows]

theorem Follows.plain {c : Char} {rest : List Char} (follows : Follows (c :: rest)) :
    isNumberChar c = false ∧ c.isLower = false ∧ ∃ t, scanBetween c = some (.between, [t]) := by
  rcases follows c rfl with comma | bracket | brace
  · subst comma
    exact ⟨rfl, rfl, .comma, rfl⟩
  · subst bracket
    exact ⟨rfl, rfl, .closeArray, rfl⟩
  · subst brace
    exact ⟨rfl, rfl, .closeObject, rfl⟩

/-- The character behind a scalar completes it and is read as what it is. -/
theorem readChars_after {s : Scan} {v : Source} {rest : List Char}
    (ends : scanEnd s = some [.scalar v])
    (next : ∀ c rest', rest = c :: rest' → scanChar s c = scanAfter (some v) c)
    (follows : Follows rest) (r : Reader) :
    readChars s r rest = (r.step (.scalar v)).bind fun r => readChars .between r rest := by
  cases rest with
  | nil =>
    rw [readChars, List.map_nil, readUnits, ends]
    cases known : r.step (.scalar v) <;> simp [known, readChars, readUnits, scanEnd]
  | cons c rest =>
    obtain ⟨-, -, t, scanned⟩ := follows.plain
    have after : scanChar s c = some (.between, [.scalar v, t]) := by
      rw [next c rest rfl, scanAfter, scanned]
      rfl
    have before : scanChar .between c = some (.between, [t]) := scanned
    rw [readChars_cons after]
    cases known : r.step (.scalar v) with
    | none => simp [known]
    | some r' =>
      rw [Option.bind_some, readChars_token t before]
      simp [known]

theorem readChars_word (back : List Char) {v : Source} {rest : List Char}
    (word : wordScalar? back.reverse = some v) (follows : Follows rest) (r : Reader) :
    readChars (.word back) r rest =
      (r.step (.scalar v)).bind fun r => readChars .between r rest := by
  refine readChars_after (by simp [scanEnd, word]) ?_ follows r
  intro c rest' known
  subst known
  obtain ⟨-, notLower, -⟩ := follows.plain
  simp [scanChar, notLower, word]

theorem readChars_numberBody {cs back : List Char} (chars : ∀ c ∈ cs, isNumberChar c)
    (r : Reader) (rest : List Char) :
    readChars (.number back) r (cs ++ rest) = readChars (.number (cs.reverse ++ back)) r rest := by
  induction cs generalizing back with
  | nil => rfl
  | cons c cs ih =>
    have numeric : isNumberChar c = true := chars c List.mem_cons_self
    have scanned : scanChar (.number back) c = some (.number (c :: back), []) := by
      simp [scanChar, numeric]
    rw [List.cons_append, readChars_quiet scanned,
      ih fun d member => chars d (List.mem_cons_of_mem c member)]
    simp

theorem readChars_number {n : JsonNumber} (legible : n.isLegible = true) {rest : List Char}
    (follows : Follows rest) (r : Reader) :
    readChars .between r ((Json.numberText n).toList ++ rest) =
      (r.step (.scalar (.number (some n)))).bind fun r => readChars .between r rest := by
  have read := JsonNumber.isLegible_iff.mp legible
  obtain ⟨c, cs, text, starts, chars⟩ := numberText_chars n
  rw [text] at read ⊢
  have apart : ∀ d : Char, (d.isDigit || d == '-') = false → c ≠ d := by
    intro d other same
    rw [same, other] at starts
    cases starts
  have opened : scanChar .between c = some (.number [c], []) := by
    have notSpace : isSpace c = false := by
      simp [isSpace, apart ' ' rfl, apart '\t' rfl, apart '\n' rfl, apart '\r' rfl]
    have notQuote : (c == '"') = false := by simp [apart '"' rfl]
    simp [scanChar, scanBetween, notSpace, notQuote, starts]
  rw [List.cons_append, readChars_quiet opened,
    readChars_numberBody fun d member => chars d (List.mem_cons_of_mem c member)]
  refine readChars_after (by simp [scanEnd, read]) ?_ follows r
  intro d rest' known
  subst known
  obtain ⟨notNumeric, -, -⟩ := follows.plain
  simp [scanChar, notNumeric, read]

end Source

/-- A number that a text can hold: an integer of sixty-four bits or a finite double. -/
def JsonNumber.Fits : JsonNumber → Prop
  | .whole n => -2 ^ 63 ≤ n ∧ n < 2 ^ 64
  | .real x => x.isFinite = true

namespace Json

mutual

/-- Whether every number of a value, at any depth, is read back from its text. -/
def isLegible : Json → Bool
  | .null => true
  | .bool _ => true
  | .number n => n.isLegible
  | .text _ => true
  | .array items => itemsLegible items
  | .object members => membersLegible members

def itemsLegible : List Json → Bool
  | [] => true
  | v :: rest => isLegible v && itemsLegible rest

def membersLegible : List (String × Json) → Bool
  | [] => true
  | (_, v) :: rest => isLegible v && membersLegible rest

end

mutual

/-- A value that a text can hold with `room` containers left to open: the numbers fit, and the
keys of every object ascend. -/
def Fits (room : ℕ) : Json → Prop
  | .null => True
  | .bool _ => True
  | .number n => n.Fits
  | .text _ => True
  | .array items => 0 < room ∧ ItemsFit (room - 1) items
  | .object members => 0 < room ∧ Members.Sorted members ∧ MembersFit (room - 1) members

def ItemsFit (room : ℕ) : List Json → Prop
  | [] => True
  | v :: rest => Fits room v ∧ ItemsFit room rest

def MembersFit (room : ℕ) : List (String × Json) → Prop
  | [] => True
  | (_, v) :: rest => Fits room v ∧ MembersFit room rest

end

mutual

/-- The doubles that stand in a value, at any depth. -/
def doubles : Json → List Double
  | .null => []
  | .bool _ => []
  | .number (.whole _) => []
  | .number (.real x) => [x]
  | .text _ => []
  | .array items => itemDoubles items
  | .object members => memberDoubles members

def itemDoubles : List Json → List Double
  | [] => []
  | v :: rest => doubles v ++ itemDoubles rest

def memberDoubles : List (String × Json) → List Double
  | [] => []
  | (_, v) :: rest => doubles v ++ memberDoubles rest

end

mutual

/-- In a value that fits every number is read back if the doubles are short. -/
theorem isLegible_of_short {room : ℕ} : (v : Json) → v.Fits room → (∀ x ∈ v.doubles, x.IsShort) →
    v.isLegible = true
  | .null, _, _ => rfl
  | .bool _, _, _ => rfl
  | .number (.whole _), fits, _ => JsonNumber.isLegible_whole fits.1 fits.2
  | .number (.real x), finite, short =>
    JsonNumber.isLegible_real finite (short x List.mem_cons_self)
  | .text _, _, _ => rfl
  | .array items, fits, short => itemsLegible_of_short items fits.2 short
  | .object members, fits, short => membersLegible_of_short members fits.2.2 short

theorem itemsLegible_of_short {room : ℕ} : (items : List Json) → ItemsFit room items →
    (∀ x ∈ itemDoubles items, x.IsShort) → itemsLegible items = true
  | [], _, _ => rfl
  | v :: rest, fits, short => by
    obtain ⟨here, there⟩ := List.forall_mem_append.mp short
    exact Bool.and_eq_true_iff.mpr
      ⟨isLegible_of_short v fits.1 here, itemsLegible_of_short rest fits.2 there⟩

theorem membersLegible_of_short {room : ℕ} : (members : List (String × Json)) →
    MembersFit room members → (∀ x ∈ memberDoubles members, x.IsShort) →
    membersLegible members = true
  | [], _, _ => rfl
  | (_, v) :: rest, fits, short => by
    obtain ⟨here, there⟩ := List.forall_mem_append.mp short
    exact Bool.and_eq_true_iff.mpr
      ⟨isLegible_of_short v fits.1 here, membersLegible_of_short rest fits.2 there⟩

end

mutual

/-- A value as it is written. -/
def source : Json → Source
  | .null => .null
  | .bool b => .bool b
  | .number n => .number (some n)
  | .text s => .text (some s)
  | .array items => .array (itemSources items)
  | .object members => .object (memberSources members)

def itemSources : List Json → List Source
  | [] => []
  | v :: rest => source v :: itemSources rest

def memberSources : List (String × Json) → List (Option String × Source)
  | [] => []
  | (k, v) :: rest => (some k, source v) :: memberSources rest

end

mutual

theorem value?_source {room : ℕ} : (v : Json) → v.Fits room → v.source.value? room = some v
  | .null, _ => rfl
  | .bool _, _ => rfl
  | .number _, _ => rfl
  | .text _, _ => rfl
  | .array items, fits => by
    obtain ⟨some, inside⟩ := fits
    rw [source, Source.value?, if_neg some.ne', itemValues?_itemSources items inside]
    rfl
  | .object members, fits => by
    obtain ⟨some, sorted, inside⟩ := fits
    rw [source, Source.value?, if_neg some.ne', memberValues?_memberSources members inside,
      Option.map_some, sorted.putAll_nil]

theorem itemValues?_itemSources {room : ℕ} : (items : List Json) → ItemsFit room items →
    Source.itemValues? room (itemSources items) = some items
  | [], _ => rfl
  | v :: rest, fits => by
    rw [itemSources, Source.itemValues?, value?_source v fits.1,
      itemValues?_itemSources rest fits.2]

theorem memberValues?_memberSources {room : ℕ} : (members : List (String × Json)) →
    MembersFit room members → Source.memberValues? room (memberSources members) = some members
  | [], _ => rfl
  | (k, v) :: rest, fits => by
    have value := value?_source v fits.1
    have values := memberValues?_memberSources rest fits.2
    simp only [memberSources, Source.memberValues?, value, values]

end

end Json

namespace Source

/-- The reader of tokens is ready for a value. -/
def Awaits (next : Next) : Prop := next = .value ∨ next = .firstItem

variable {next : Next}

theorem step_scalar (awaits : Awaits next) (stack : List Frame) (result : Option Source)
    (v : Source) : Reader.step ⟨stack, next, result⟩ (.scalar v) =
      Reader.complete ⟨stack, .nothing, none⟩ v := by
  rcases awaits with rfl | rfl <;> rfl

theorem step_openArray (awaits : Awaits next) (stack : List Frame) (result : Option Source) :
    Reader.step ⟨stack, next, result⟩ .openArray = some ⟨.array [] :: stack, .firstItem, none⟩ := by
  rcases awaits with rfl | rfl <;> rfl

theorem step_openObject (awaits : Awaits next) (stack : List Frame) (result : Option Source) :
    Reader.step ⟨stack, next, result⟩ .openObject = some ⟨.object [] :: stack, .firstKey, none⟩ := by
  rcases awaits with rfl | rfl <;> rfl

/-- The document after a value that stands in it, inside what is still open. -/
def after (stack : List Frame) (v : Source) (rest : List Char) : Option Reader :=
  (Reader.complete ⟨stack, .nothing, none⟩ v).bind fun r => readChars .between r rest

theorem after_scalar (awaits : Awaits next) (stack : List Frame) (v : Source) (rest : List Char) :
    ((Reader.step ⟨stack, next, none⟩ (.scalar v)).bind fun r => readChars .between r rest) =
      after stack v rest := by
  rw [step_scalar awaits, after]

theorem after_item (back : List Source) (stack : List Frame) (v : Source) (rest : List Char) :
    after (.array back :: stack) v rest =
      readChars .between ⟨.array (v :: back) :: stack, .separator, none⟩ rest := rfl

theorem after_member (back : List (Option String × Source)) (k : Option String)
    (stack : List Frame) (v : Source) (rest : List Char) :
    after (.member back k :: stack) v rest =
      readChars .between ⟨.object ((k, v) :: back) :: stack, .separator, none⟩ rest := rfl

theorem readChars_closeArray (next : Next) (closes : next = .firstItem ∨ next = .separator)
    (back : List Source) (stack : List Frame) (rest : List Char) :
    readChars .between ⟨.array back :: stack, next, none⟩ (']' :: rest) =
      after stack (.array back.reverse) rest := by
  rw [readChars_token .closeArray rfl]
  rcases closes with rfl | rfl <;> rfl

theorem readChars_closeObject (next : Next) (closes : next = .firstKey ∨ next = .separator)
    (back : List (Option String × Source)) (stack : List Frame) (rest : List Char) :
    readChars .between ⟨.object back :: stack, next, none⟩ ('\x7d' :: rest) =
      after stack (.object back.reverse) rest := by
  rw [readChars_token .closeObject rfl]
  rcases closes with rfl | rfl <;> rfl

theorem readChars_key (next : Next) (names : next = .firstKey ∨ next = .key)
    (back : List (Option String × Source)) (stack : List Frame) (k : String) (rest : List Char) :
    readChars .between ⟨.object back :: stack, next, none⟩ (Json.stringChars k ++ ':' :: rest) =
      readChars .between ⟨.member back (some k) :: stack, .value, none⟩ rest := by
  have named : Reader.step ⟨.object back :: stack, next, none⟩ (.scalar (.text (some k))) =
      some ⟨.member back (some k) :: stack, .colon, none⟩ := by
    rcases names with rfl | rfl <;> rfl
  rw [readChars_string, named, Option.bind_some, readChars_token .colon rfl]
  rfl

theorem follows_cons {c : Char} (ends : c = ',' ∨ c = ']' ∨ c = '\x7d') (rest : List Char) :
    Follows (c :: rest) := by
  intro d member
  cases member
  exact ends

open Json (itemChars memberChars itemSources memberSources itemsLegible membersLegible)

mutual

theorem readChars_value : (v : Json) → v.isLegible = true → ∀ (next : Next), Awaits next →
    ∀ (stack : List Frame) (rest : List Char), Follows rest →
      readChars .between ⟨stack, next, none⟩ (v.chars ++ rest) = after stack v.source rest
  | .null, _, _, awaits, stack, rest, follows =>
    (readChars_word ['l', 'l', 'u', 'n'] rfl follows _).trans
      (after_scalar awaits stack _ rest)
  | .bool true, _, _, awaits, stack, rest, follows =>
    (readChars_word ['e', 'u', 'r', 't'] rfl follows _).trans
      (after_scalar awaits stack _ rest)
  | .bool false, _, _, awaits, stack, rest, follows =>
    (readChars_word ['e', 's', 'l', 'a', 'f'] rfl follows _).trans
      (after_scalar awaits stack _ rest)
  | .number _, legible, _, awaits, stack, rest, follows =>
    (readChars_number legible follows _).trans (after_scalar awaits stack _ rest)
  | .text s, _, _, awaits, stack, rest, _ =>
    (readChars_string s _ rest).trans (after_scalar awaits stack _ rest)
  | .array items, legible, next, awaits, stack, rest, _ => by
    have inside := readChars_items items legible .firstItem (.inr rfl) (fun _ => rfl) [] stack rest
    rw [Json.chars, List.cons_append, List.cons_append, List.append_assoc,
      readChars_token .openArray rfl, step_openArray awaits]
    exact inside
  | .object members, legible, next, awaits, stack, rest, _ => by
    have inside := readChars_members members legible .firstKey (.inl rfl) (fun _ => rfl) [] stack
      rest
    rw [Json.chars, List.cons_append, List.cons_append, List.append_assoc,
      readChars_token .openObject rfl, step_openObject awaits]
    exact inside

theorem readChars_items : (items : List Json) → itemsLegible items = true →
    ∀ (next : Next), Awaits next → (items = [] → next = .firstItem) →
    ∀ (back : List Source) (stack : List Frame) (rest : List Char),
      readChars .between ⟨.array back :: stack, next, none⟩ (itemChars items ++ ']' :: rest) =
        after stack (.array (back.reverse ++ itemSources items)) rest
  | [], _, next, _, first, back, stack, rest => by
    rw [itemChars, itemSources, List.append_nil]
    exact readChars_closeArray next (.inl (first rfl)) back stack rest
  | [v], legible, next, awaits, _, back, stack, rest => by
    have first := (Bool.and_eq_true_iff.mp legible).1
    rw [itemChars, readChars_value v first next awaits _ _ (follows_cons (by simp) rest),
      after_item, readChars_closeArray _ (.inr rfl), List.reverse_cons]
    rfl
  | v :: w :: more, legible, next, awaits, _, back, stack, rest => by
    obtain ⟨first, legible⟩ := Bool.and_eq_true_iff.mp legible
    have others := readChars_items (w :: more) legible .value (.inl rfl) (by simp)
      (v.source :: back) stack rest
    rw [itemChars, List.append_assoc, List.cons_append,
      readChars_value v first next awaits _ _ (follows_cons (by simp) _), after_item,
      readChars_token .comma rfl]
    · refine others.trans ?_
      rw [List.reverse_cons, List.append_assoc]
      rfl
    · simp

theorem readChars_members : (members : List (String × Json)) →
    membersLegible members = true → ∀ (next : Next), (next = .firstKey ∨ next = .key) →
    (members = [] → next = .firstKey) →
    ∀ (back : List (Option String × Source)) (stack : List Frame) (rest : List Char),
      readChars .between ⟨.object back :: stack, next, none⟩
          (memberChars members ++ '\x7d' :: rest) =
        after stack (.object (back.reverse ++ memberSources members)) rest
  | [], _, next, _, first, back, stack, rest => by
    rw [memberChars, memberSources, List.append_nil]
    exact readChars_closeObject next (.inl (first rfl)) back stack rest
  | [(k, v)], legible, next, names, _, back, stack, rest => by
    have first := (Bool.and_eq_true_iff.mp legible).1
    rw [memberChars, List.append_assoc, List.cons_append, readChars_key next names,
      readChars_value v first .value (.inl rfl) _ _ (follows_cons (by simp) rest), after_member,
      readChars_closeObject _ (.inr rfl), List.reverse_cons]
    rfl
  | (k, v) :: m :: more, legible, next, names, _, back, stack, rest => by
    obtain ⟨first, legible⟩ := Bool.and_eq_true_iff.mp legible
    have others := readChars_members (m :: more) legible .key (.inr rfl) (by simp)
      ((some k, v.source) :: back) stack rest
    rw [memberChars, List.append_assoc, List.append_assoc, List.cons_append, List.cons_append,
      readChars_key next names,
      readChars_value v first .value (.inl rfl) _ _ (follows_cons (by simp) _), after_member,
      readChars_token .comma rfl]
    · refine others.trans ?_
      rw [List.reverse_cons, List.append_assoc]
      rfl
    · simp

end

end Source

/-- A value that fits is read back from its text if its numbers are. -/
theorem Json.parse?_render {v : Json} (fits : v.Fits Source.maxDepth)
    (legible : v.isLegible = true) : Json.parse? v.render = some v := by
  have read := Source.readChars_value v legible .value (.inl rfl) [] [] Source.follows_nil
  have whole : Source.parse? v.chars = some v.source := by
    rw [List.append_nil] at read
    rw [Source.parse?, Source.Reader.start, read]
    rfl
  rw [Json.parse?, Json.render, String.toList_ofList, whole, Option.bind_some,
    Json.value?_source v fits]

end RemoteSurface
