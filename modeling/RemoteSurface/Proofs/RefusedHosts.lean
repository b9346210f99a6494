import Mathlib.Data.List.Basic
import Mathlib.Data.List.TakeWhile
import RemoteSurface.Proofs.RunTables
import RemoteSurface.Proofs.TextEncoding
import RemoteSurface.Proofs.TextPieces
import RemoteSurface.Url.Parse
/-!
No authority ends in a blank or a control of ASCII. Nothing that is done to a host on the way to its
ASCII form takes such a character off the end: it is no digit of an escape, has no other form, joins
nothing and is no digit of an encoded label. So it is still there when the labels are checked.
-/
namespace RemoteSurface

namespace Percent

theorem value?_of_le {c : Char} (small : c.toNat ≤ 0x20) : value? c = none := by
  rw [value?, if_neg (by omega), if_neg (by omega), if_neg (by omega)]

/-- A character that is in no escape is still the last one when the escapes are read. -/
theorem getLast?_decode {s : List Char} {c : Char} (small : c.toNat ≤ 0x20)
    (last : s.getLast? = some c) : (decode s).getLast? = some (UInt8.ofNat c.toNat) := by
  have byte : String.utf8EncodeChar c = [UInt8.ofNat c.toNat] := by
    rw [Text.Utf8.utf8EncodeChar_eq, if_pos (by omega)]
  fun_induction decode s with
  | case1 => cases last
  | case2 a b rest high low second first ih =>
    cases rest with
    | nil =>
      obtain rfl : b = c := by simpa using last
      rw [value?_of_le small] at second
      cases second
    | cons d rest =>
      rw [List.getLast?_cons_cons, List.getLast?_cons_cons, List.getLast?_cons_cons] at last
      rw [List.getLast?_cons, ih last]
      rfl
  | case3 a b rest plain ih =>
    rw [List.getLast?_cons_cons] at last
    rw [List.getLast?_cons, ih last]
    rfl
  | case4 d rest plain ih =>
    cases rest with
    | nil =>
      obtain rfl : d = c := by simpa using last
      rw [byte, decode, List.append_nil]
      rfl
    | cons e rest =>
      rw [List.getLast?_cons_cons] at last
      rw [List.getLast?_append, ih last]
      rfl

end Percent

namespace Text

theorem getLast?_of_encode {cs : List Char} {c : Char} (small : c.toNat ≤ 0x20)
    (last : (encode cs).getLast? = some (UInt8.ofNat c.toNat)) : cs.getLast? = some c := by
  have value : (UInt8.ofNat c.toNat).toNat = c.toNat := by
    rw [UInt8.toNat_ofNat', Nat.mod_eq_of_lt (by omega)]
  have ascii : UInt8.ofNat c.toNat < 0x80 := by
    rw [UInt8.lt_iff_toNat_lt, value]
    change _ < 0x80
    omega
  obtain rfl | ⟨init, d, rfl⟩ := List.eq_nil_or_concat' cs
  · cases last
  · have bytes : encode (init ++ [d]) = encode init ++ String.utf8EncodeChar d := by
      rw [encode, List.flatMap_append, List.flatMap_singleton, ← encode]
    rw [bytes, List.getLast?_append,
      Option.or_of_isSome (List.getLast?_isSome.mpr (Utf8.utf8EncodeChar_ne_nil d))] at last
    have same := Utf8.eq_of_mem_encoded (List.mem_of_getLast? last) ascii
    rw [value, Char.ofNat_toNat] at same
    rw [List.getLast?_concat, same]

theorem splitAll_of_lt {c : Char} (small : c.toNat < 192) (depth : Nat) : splitAll depth c = [c] := by
  cases depth with
  | zero => rfl
  | succ depth => rw [splitAll, split?_of_lt small]

theorem orderMarks_concat {c : Char} (small : c.toNat < 768) (cs : List Char) :
    ∃ front, orderMarks (cs ++ [c]) = front ++ [c] := by
  have starter (back : List Char) : insertMark c back = c :: back := by
    cases back with
    | nil => rfl
    | cons d back => rw [insertMark, combiningClass_of_lt small, if_neg (by simp)]
  rw [orderMarks, List.foldl_append, List.foldl_cons, List.foldl_nil, starter, List.reverse_cons]
  exact ⟨_, rfl⟩

theorem getLast?_composed {cs : List Char} {c : Char} (small : c.toNat ≤ 0x20)
    (last : cs.getLast? = some c) : (composed cs).getLast? = some c := by
  obtain ⟨init, rfl⟩ := List.getLast?_eq_some_iff.mp last
  obtain ⟨front, ordered⟩ := orderMarks_concat (show c.toNat < 768 by omega) (init.flatMap (splitAll 3))
  have stays (t : Composing) : (t.step c).all = c :: t.all := by
    have alone : (if t.reaches c then t.starter.bind fun s => join? s c else none) = none := by
      cases t.starter <;> simp [join?_of_le _ small]
    rw [Composing.step, alone]
    dsimp only
    rw [if_pos (combiningClass_of_lt (by omega))]
    rfl
  rw [composed, List.flatMap_append, List.flatMap_singleton, splitAll_of_lt (by omega), ordered,
    List.foldl_append, List.foldl_cons, List.foldl_nil, stays, List.reverse_cons, List.getLast?_concat]

end Text

namespace Punycode

theorem value?_of_le {c : Char} (small : c.toNat ≤ 0x20) : value? c = none := by
  rw [value?, if_neg (by omega), if_neg (by omega), if_neg (by omega)]

theorem getLast?_readStep {c : Char} (noDigit : value? c = none) {bias place weight start : Nat}
    {text : List Char} {r : Nat × List Char} (last : text.getLast? = some c)
    (read : readStep bias place weight start text = some r) : r.2.getLast? = some c := by
  induction text generalizing place weight start with
  | nil => cases last
  | cons d text ih =>
    have more : text.getLast? = some c := by
      cases text with
      | nil =>
        obtain rfl : d = c := by simpa using last
        rw [readStep, noDigit] at read
        cases read
      | cons e text => rwa [List.getLast?_cons_cons] at last
    rw [readStep] at read
    split at read
    · cases read
    dsimp only at read
    split at read
    · rw [← Option.some.inj read]
      exact more
    · exact ih more read

/-- Steps are read to the end of the text, so all of it are digits. -/
theorem readCodes_of_getLast? {c : Char} (noDigit : value? c = none) {code position bias : Nat}
    {isFirst : Bool} {cs text : List Char} (last : text.getLast? = some c) :
    readCodes code position bias isFirst cs text = none := by
  fun_induction readCodes code position bias isFirst cs text with
  | case1 => cases last
  | case2 => rfl
  | case3 code position bias isFirst cs d text step rest read count codeThen placeThen fits ih =>
    exact ih (getLast?_readStep noDigit last read)
  | case4 => rfl

theorem decode?_of_getLast? {s : List Char} {c : Char} (small : c.toNat ≤ 0x20)
    (last : s.getLast? = some c) : decode? s = none := by
  obtain ⟨init, rfl⟩ := List.getLast?_eq_some_iff.mp last
  have other : c ≠ '-' := by
    rintro rfl
    revert small
    decide
  have ending : ((((init ++ [c]).reverse.takeWhile (· ≠ '-')).reverse).getLast?) = some c := by
    rw [List.reverse_append, List.reverse_singleton, List.singleton_append,
      List.takeWhile_cons_of_pos (by simpa using other), List.reverse_cons, List.getLast?_concat]
  rw [decode?]
  split
  · refine readCodes_of_getLast? (value?_of_le small) ?_
    split
    · exact last
    · exact ending
  · rfl

end Punycode

namespace Domain

theorem isAllowed_of_le {c : Char} (small : c.toNat ≤ 0x20) : isAllowed c = false := by
  have low : ¬ 0x80 ≤ c.toNat := by omega
  have edge : ¬ 0x20 < c.toNat := by omega
  simp [isAllowed, low, edge]

theorem getLast?_mapped? {cs out : List Char} {c : Char} (small : c.toNat ≤ 0x20)
    (last : cs.getLast? = some c) (mapped : mapped? cs = some out) : out.getLast? = some c := by
  obtain ⟨init, rfl⟩ := List.getLast?_eq_some_iff.mp last
  obtain ⟨parts, read, rfl⟩ := Option.map_eq_some_iff.mp mapped
  have own : (mapping c).chars? c = some [c] := by rw [mapping_of_lt (by omega), Mapped.chars?]
  rw [List.mapM_append, Option.bind_eq_bind, Option.bind_eq_some_iff] at read
  obtain ⟨front, -, read⟩ := read
  simp only [List.mapM_cons, own, List.mapM_nil, Option.pure_def, Option.bind_eq_bind,
    Option.bind_some, Option.some.injEq] at read
  rw [← read, List.flatten_append, List.flatten_singleton, List.getLast?_concat]

theorem getLast?_label? {s label : List Char} {c : Char} (small : c.toNat ≤ 0x20)
    (last : s.getLast? = some c) (read : label? s = some label) : label.getLast? = some c := by
  have stays {front s rest : List Char} (cut : Text.dropFront? front s = some rest) :
      s = front ++ rest := by
    induction front generalizing s with
    | nil => exact Option.some.inj cut
    | cons f front ih =>
      cases s with
      | nil => cases cut
      | cons d s =>
        rw [Text.dropFront?] at cut
        split at cut
        next same => rw [same, ih cut]; rfl
        next => cases cut
  rw [label?] at read
  split at read
  · exact Option.some.inj read ▸ last
  next encoded cut =>
    rw [stays cut] at last
    cases encoded with
    | nil =>
      obtain rfl : '-' = c := by simpa [encodedMark] using last
      exact absurd small (by decide)
    | cons d encoded =>
      rw [List.getLast?_append, Option.or_of_isSome (List.getLast?_isSome.mpr (List.cons_ne_nil d encoded))] at last
      rw [Punycode.decode?_of_getLast? small last] at read
      cases read

/-- No host name ends in a blank or a control of ASCII. -/
theorem toAscii?_of_getLast? {bytes : List UInt8} {c : Char} (small : c.toNat ≤ 0x20)
    (last : bytes.getLast? = some (UInt8.ofNat c.toNat)) : toAscii? bytes = none := by
  rw [toAscii?, Option.bind_eq_none_iff]
  intro cs decoded
  rw [Option.bind_eq_none_iff]
  intro out mapped
  rw [Option.bind_eq_none_iff]
  intro labels read
  have inText : cs.getLast? = some c := by
    rw [← (Text.decode?_eq_some_iff bytes cs).mp decoded] at last
    exact Text.getLast?_of_encode small last
  have inName : (Text.composed out).getLast? = some c :=
    Text.getLast?_composed small (getLast?_mapped? small inText mapped)
  obtain ⟨front, shape⟩ := List.getLast?_eq_some_iff.mp inName
  obtain ⟨init, piece, cut⟩ := (List.eq_nil_or_concat' (Text.pieces '.' front)).resolve_left
    (Text.pieces_ne_nil '.' front)
  have dot : '.' ∉ [c] := by
    intro member
    rw [← List.mem_singleton.mp member] at small
    revert small
    decide
  rw [shape, Text.pieces_append_of_not_mem cut dot, List.mapM_append, Option.bind_eq_bind,
    Option.bind_eq_some_iff] at read
  obtain ⟨before, -, read⟩ := read
  rw [List.mapM_cons, List.mapM_nil, Option.bind_eq_bind, Option.bind_assoc,
    Option.bind_eq_some_iff] at read
  obtain ⟨label, own, whole⟩ := read
  have inLabel : c ∈ label := List.mem_of_getLast? (getLast?_label? small List.getLast?_concat own)
  have refused : isLabel label = false := by
    have none : label.all isAllowed = false :=
      List.all_eq_false.mpr ⟨c, inLabel, by simp [isAllowed_of_le small]⟩
    rw [isLabel, none, Bool.and_false]
  have unfit : labels.all isLabel = false := by
    refine List.all_eq_false.mpr ⟨label, ?_, by simp [refused]⟩
    rw [← Option.some.inj whole]
    exact List.mem_append_right before List.mem_cons_self
  rw [unfit, Bool.false_and]
  rfl

end Domain

namespace Host

theorem ofBrackets_of_getLast? {s : List Char} {c : Char} (small : c.toNat ≤ 0x20)
    (last : s.getLast? = some c) : ofBrackets s = .error .badEight := by
  have other : ¬ some c = some ']' := by
    rintro ⟨⟩
    revert small
    decide
  rw [ofBrackets, Text.dropLast?, last, if_neg other]

theorem ofDomain_of_getLast? {s : List Char} {c : Char} (small : c.toNat ≤ 0x20)
    (last : s.getLast? = some c) : ∃ fault, ofDomain s = .error fault := by
  unfold ofDomain
  split
  next rest =>
    have inside : rest.getLast? = some c := by
      cases rest with
      | nil =>
        obtain rfl : '[' = c := by simpa using last
        exact absurd small (by decide)
      | cons d rest => rwa [List.getLast?_cons_cons] at last
    exact ⟨_, ofBrackets_of_getLast? small inside⟩
  · rw [Domain.toAscii?_of_getLast? small (Percent.getLast?_decode small last)]
    exact ⟨_, rfl⟩

end Host

namespace Url

theorem map_eq_ok_iff {ε α β : Type} {r : Except ε α} {f : α → β} {b : β} :
    r.map f = .ok b ↔ ∃ a, r = .ok a ∧ f a = b := by
  cases r <;> simp [Except.map]

theorem drop_length_takeWhile (keeps : Char → Bool) (s : List Char) :
    s.drop (s.takeWhile keeps).length = s.dropWhile keeps := by
  have whole : s.takeWhile keeps ++ s.dropWhile keeps = s := List.takeWhile_append_dropWhile
  calc s.drop (s.takeWhile keeps).length
      = (s.takeWhile keeps ++ s.dropWhile keeps).drop (s.takeWhile keeps).length := by rw [whole]
    _ = s.dropWhile keeps := List.drop_left

/-- The text of a host and what follows it are the whole; a colon stands between them. -/
theorem cutHost_spec (inBrackets : Bool) (s : List Char) :
    (cutHost inBrackets s).1 ++ (cutHost inBrackets s).2 = s ∧
      ((cutHost inBrackets s).2 = [] ∨ ∃ port, (cutHost inBrackets s).2 = ':' :: port) := by
  induction s generalizing inBrackets with
  | nil => exact ⟨rfl, .inl rfl⟩
  | cons c s ih =>
    rw [cutHost]
    split
    next colon => exact ⟨rfl, .inr ⟨s, by rw [colon.1]⟩⟩
    next =>
      dsimp only
      obtain ⟨whole, after⟩ := ih (if c = '[' then true else if c = ']' then false else inBrackets)
      exact ⟨congrArg (List.cons c) whole, after⟩

/-- What an authority that can be read is made of. -/
theorem of_readAuthority {scheme : String} {s more : List Char} {a : Authority}
    (read : readAuthority scheme s = .ok (a, more)) :
    ∃ front place : List Char, s = front ++ place ∧ (front = [] ∨ front.getLast? = some '@') ∧
      (∃ host, readHost (SchemeKind.of scheme) (cutHost false place).1 = .ok host) ∧
      ((cutHost false place).2 = [] ∧ more = [] ∨
        ∃ port number, (cutHost false place).2 = ':' :: port ∧
          takePort (defaultPort? scheme) port = .ok (number, more)) := by
  unfold readAuthority at read
  split at read
  next account place parts =>
    obtain ⟨front, shape, separated⟩ :
        ∃ front, s = front ++ place ∧ (front = [] ∨ front.getLast? = some '@') := by
      split at parts
      next users =>
        cases parts
        obtain ⟨⟨behind, before⟩, cut, same⟩ := Option.map_eq_some_iff.mp users
        cases same
        have whole := congrArg List.reverse (Text.eq_of_cut? cut)
        rw [List.reverse_reverse, List.reverse_append, List.reverse_cons] at whole
        exact ⟨before.reverse ++ ['@'], whole, .inr List.getLast?_concat⟩
      · cases parts
        exact ⟨[], rfl, .inl rfl⟩
    obtain ⟨-, after⟩ := cutHost_spec false place
    dsimp only at read
    split at read
    · cases read
    next host named =>
      refine ⟨front, place, shape, separated, ⟨host, named⟩, ?_⟩
      split at read
      · cases read
      split at read
      next port begun =>
        obtain ⟨⟨number, rest⟩, taken, same⟩ := map_eq_ok_iff.mp read
        cases same
        exact .inr ⟨port, number, begun, taken⟩
      next unbegun =>
        cases read
        exact .inl ⟨after.resolve_right fun ⟨port, begun⟩ => unbegun port begun, rfl⟩

/-- Nothing stands behind a port but what begins with a slash that leans back. -/
theorem rest_of_takePort {default? number : Option Nat} {s rest : List Char}
    (taken : takePort default? s = .ok (number, rest)) :
    rest = s.dropWhile Char.isDigit ∧ (rest = [] ∨ '\\' ∈ rest) := by
  unfold takePort at taken
  dsimp only at taken
  split at taken
  · cases taken
  split at taken
  next none =>
    cases taken
    exact ⟨drop_length_takeWhile Char.isDigit s, .inl none⟩
  next back behind =>
    cases taken
    rw [drop_length_takeWhile] at *
    exact ⟨rfl, .inr (behind ▸ List.mem_cons_self)⟩
  · cases taken

variable {scheme : String} {s more : List Char} {a : Authority}

/-- An authority that ends where a slash of either lean begins is read to its end. -/
theorem more_eq_nil (plain : '\\' ∉ s) (read : readAuthority scheme s = .ok (a, more)) :
    more = [] := by
  obtain ⟨front, place, rfl, -, -, ⟨-, none⟩ | ⟨port, number, begun, taken⟩⟩ := of_readAuthority read
  · exact none
  · obtain ⟨rest, none | back⟩ := rest_of_takePort taken
    · exact none
    · refine absurd (List.mem_append_right front ?_) plain
      rw [← (cutHost_spec false place).1, begun]
      rw [rest] at back
      exact List.mem_append_right _ (List.mem_cons_of_mem ':' ((List.dropWhile_suffix _).mem back))

/-- No authority ends in a blank or a control of ASCII. -/
theorem readAuthority_of_getLast? (web : SchemeKind.of scheme = .web) (plain : '\\' ∉ s) {c : Char}
    (small : c.toNat ≤ 0x20) (last : s.getLast? = some c) (read : readAuthority scheme s = .ok (a, more)) :
    False := by
  have mark (d : Char) (large : 0x20 < d.toNat) : d ≠ c := by
    rintro rfl
    omega
  have finished := more_eq_nil plain read
  obtain ⟨front, place, rfl, separated, ⟨host, named⟩, rest⟩ := of_readAuthority read
  have filled : place ≠ [] := by
    rintro rfl
    rw [List.append_nil] at last
    obtain rfl | sign := separated
    · cases last
    · exact mark '@' (by decide) (Option.some.inj (sign.symm.trans last))
  rw [List.getLast?_append, Option.or_of_isSome (List.getLast?_isSome.mpr filled)] at last
  have whole := (cutHost_spec false place).1
  obtain ⟨none, -⟩ | ⟨port, number, begun, taken⟩ := rest
  · rw [none, List.append_nil] at whole
    obtain ⟨fault, refused⟩ := Host.ofDomain_of_getLast? small last
    rw [whole, web] at named
    simp [readHost, filled, refused] at named
  · rw [begun] at whole
    obtain ⟨rest, -⟩ := rest_of_takePort taken
    rw [finished] at rest
    have inPort : c ∈ port := by
      rw [← whole, List.getLast?_append, Option.or_of_isSome (by simp)] at last
      exact (List.mem_cons.mp (List.mem_of_getLast? last)).resolve_left fun same =>
        mark ':' (by decide) same.symm
    have digit : c.isDigit = true := List.dropWhile_eq_nil_iff.mp rest.symm c inPort
    have large : '0'.toNat ≤ c.toNat := (Char.isDigit_iff_toNat.mp digit).1
    exact absurd (large.trans small) (by decide)

end Url

end RemoteSurface
