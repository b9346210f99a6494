import Mathlib.Tactic.IntervalCases
import RemoteSurface.Proofs.TextEncoding
import RemoteSurface.Proofs.TextPieces
import RemoteSurface.Url.Form
/-!
A pair that was written into a query. Neither sign of a form is left in an encoded text, so the pair
is cut where it was joined; and a text is decoded to what was encoded, because a plus sign of its own
is escaped before a space is written as one.
-/
namespace RemoteSurface

namespace Percent

theorem value?_digit {n : Nat} (small : n < 16) : value? (digit n) = some n := by
  interval_cases n <;> rfl

theorem decode_cons {c : Char} (other : c ≠ '%') (rest : List Char) :
    decode (c :: rest) = String.utf8EncodeChar c ++ decode rest :=
  decode.eq_3 c rest fun _ _ _ sign _ => other sign

/-- An escaped byte is read back, whatever comes after it. -/
theorem decode_escape (b : UInt8) (rest : List Char) : decode (escape b ++ rest) = b :: decode rest := by
  have bound : b.toNat < 256 := b.toNat_lt
  have whole : UInt8.ofNat (b.toNat / 16 * 16 + b.toNat % 16) = b := by
    rw [Nat.div_add_mod', UInt8.ofNat_toNat]
  rw [escape, List.cons_append, List.cons_append, List.cons_append, List.nil_append, decode,
    value?_digit (by omega), value?_digit (by omega)]
  exact congrArg (· :: decode rest) whole

theorem decode_escapes (bytes : List UInt8) (rest : List Char) :
    decode (bytes.flatMap escape ++ rest) = bytes ++ decode rest := by
  induction bytes with
  | nil => rfl
  | cons b bytes ih =>
    rw [List.flatMap_cons, List.append_assoc, decode_escape, ih]
    rfl

end Percent

namespace Form

theorem isPlain_digit {n : Nat} (small : n < 16) : isPlain (Percent.digit n) = true := by
  interval_cases n <;> decide

theorem mem_escapeChar {c d : Char} (member : d ∈ Percent.escapeChar c) :
    d = '%' ∨ isPlain d = true := by
  obtain ⟨b, -, among⟩ := List.mem_flatMap.mp member
  have bound : b.toNat < 256 := b.toNat_lt
  rw [Percent.escape, List.mem_cons, List.mem_cons, List.mem_singleton] at among
  obtain rfl | rfl | rfl := among
  · exact .inl rfl
  · exact .inr (isPlain_digit (by omega))
  · exact .inr (isPlain_digit (by omega))

/-- What encoded text is made of. -/
theorem mem_encode {cs : List Char} {d : Char} (member : d ∈ encode cs) :
    d = '+' ∨ d = '%' ∨ isPlain d = true := by
  obtain ⟨c, -, among⟩ := List.mem_flatMap.mp member
  split at among
  · exact .inl (List.mem_singleton.mp among)
  split at among
  next plain => exact .inr (.inr (List.mem_singleton.mp among ▸ plain))
  next => exact .inr (mem_escapeChar among)

/-- A plus sign stands for a space. -/
def unplus (c : Char) : Char := if c = '+' then ' ' else c

theorem unplus_of_plain {c : Char} (plain : isPlain c = true) : unplus c = c := by
  have other : ¬ c = '+' := by
    rintro rfl
    revert plain
    decide
  exact if_neg other

theorem map_unplus_escapeChar (c : Char) :
    (Percent.escapeChar c).map unplus = Percent.escapeChar c := by
  have same : ∀ d ∈ Percent.escapeChar c, unplus d = id d := by
    intro d member
    obtain rfl | plain := mem_escapeChar member
    · rfl
    · exact unplus_of_plain plain
  rw [List.map_congr_left same, List.map_id]

theorem decode_map_unplus_encode (cs : List Char) :
    Percent.decode ((encode cs).map unplus) = Text.encode cs := by
  induction cs with
  | nil => rfl
  | cons c cs ih =>
    rw [encode, List.flatMap_cons, ← encode, List.map_append, Text.encode, List.flatMap_cons,
      ← Text.encode, ← ih]
    split
    next space =>
      subst space
      exact Percent.decode_cons (by decide) _
    split
    next plain =>
      have other : c ≠ '%' := by
        rintro rfl
        revert plain
        decide
      rw [List.map_singleton, unplus_of_plain plain]
      exact Percent.decode_cons other _
    · rw [map_unplus_escapeChar]
      exact Percent.decode_escapes _ _

/-- Decoding gives back what was encoded. -/
theorem decode_encode (cs : List Char) : decode (encode cs) = cs := by
  have bytes : decode (encode cs) = Text.decodeLossy (Text.encode cs) :=
    congrArg Text.decodeLossy (decode_map_unplus_encode cs)
  rw [bytes, Text.decodeLossy_encode]

/-- A query of one pair has that pair and no other. -/
theorem pairs_encodePair (name value : List Char) :
    pairs (encodePair name value) = [(name, value)] := by
  have free (cs : List Char) : '&' ∉ encode cs := mt mem_encode (by decide)
  have whole : Text.pieces '&' (encodePair name value) = [encodePair name value] := by
    refine Text.pieces_of_not_mem fun member => ?_
    obtain inName | inRest := List.mem_append.mp member
    · exact free name inName
    obtain sign | inValue := List.mem_cons.mp inRest
    · exact absurd sign (by decide)
    · exact free value inValue
  have filled : (encodePair name value).isEmpty = false := by
    rw [List.isEmpty_eq_false_iff]
    exact List.append_ne_nil_of_right_ne_nil _ (List.cons_ne_nil _ _)
  have cut : Text.cut? '=' (encodePair name value) = some (encode name, encode value) :=
    Text.cut?_append (mt mem_encode (by decide)) (encode value)
  rw [pairs, whole, List.filter_cons_of_pos (by rw [filled]; rfl), List.filter_nil,
    List.map_singleton, cut]
  dsimp only
  rw [decode_encode, decode_encode]

end Form

end RemoteSurface
