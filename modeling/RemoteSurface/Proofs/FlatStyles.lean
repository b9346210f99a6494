import RemoteSurface.Proofs.StyleMerge
/-!
Styles known by their fields. In a style that comes of laying tables of fields over the empty one,
a property is typed or carried but never both, and what is carried under its name cannot be read as
its setting. So the fields that the style writes back tell of each of them which of the two it was,
and laid over the empty style they make the same style again.
-/
namespace RemoteSurface

theorem FontWeight.parse?_name (w : FontWeight) : FontWeight.parse? w.name = some w := by
  cases w <;> rfl

theorem Emphasis.parse?_name (e : Emphasis) : Emphasis.parse? e.name = some e := by
  cases e <;> rfl

namespace Style

/-- Styles are known by their settings and by what they carry under every name. -/
@[ext] theorem ext {s t : Style} (settings : ∀ p, s.setting p = t.setting p)
    (carried : ∀ k, s.extra.find? k = t.extra.find? k) : s = t := by
  obtain ⟨setting, extra⟩ := s
  obtain ⟨other, otherExtra⟩ := t
  have sameSettings : setting = other := funext settings
  have sameExtra : extra = otherExtra := Table.ext_find? carried
  rw [sameSettings, sameExtra]

/-- A setting that was written is read back. -/
theorem Kind.read?_write (k : Kind) (x : k.Setting) : k.read? (k.write x) = some x := by
  cases k with
  | number => rfl
  | weight =>
    simp only [write, read?, Value.asText?, Option.bind_some]
    exact FontWeight.parse?_name x
  | emphasis =>
    simp only [write, read?, Value.asText?, Option.bind_some]
    exact Emphasis.parse?_name x
  | text => rfl

theorem canonical_canonical (k : String) (v : Value) :
    canonical k (canonical k v) = canonical k v := by
  cases known : Property.ofName? k with
  | none => rw [canonical_of_unknown known v, canonical_of_unknown known v]
  | some p =>
    obtain rfl := Property.name_of_ofName? known
    rw [canonical_name p v]
    cases read : p.kind.read? v with
    | none =>
      rw [Option.map_none, Option.getD_none, canonical_name, read]
      rfl
    | some x =>
      rw [Option.map_some, Option.getD_some, canonical_name, Kind.read?_write]
      rfl

theorem canonicalFields_canonicalFields (t : StyleFields) :
    canonicalFields (canonicalFields t) = canonicalFields t := by
  apply Table.ext_find?
  intro k
  rw [find?_canonicalFields, find?_canonicalFields, Option.map_map]
  apply Option.map_congr
  intro v _
  exact canonical_canonical k v

theorem setting_withSetting_self (s : Style) (p : Property) (x : Option p.kind.Setting) :
    (s.withSetting p x).setting p = x := by
  simp [withSetting]

theorem setting_withSetting_of_ne {p q : Property} (different : p ≠ q) (s : Style)
    (x : Option p.kind.Setting) : (s.withSetting p x).setting q = s.setting q := by
  simp [withSetting, different]

/-- A style keeps what is typed and what is carried apart. -/
structure Exclusive (s : Style) : Prop where
  uncarried : ∀ p : Property, s.setting p = Option.none ∨ s.extra.find? p.name = Option.none
  unreadable : ∀ (p : Property) (v : Value), s.extra.find? p.name = some v → p.kind.read? v = Option.none

namespace Exclusive

variable {s t : Style}

theorem none : Exclusive Style.none :=
  ⟨fun _ => Or.inl rfl, fun _ _ carried => nomatch carried⟩

/-- A field of an unknown name is carried beside every property. -/
theorem applyUnknown {k : String} (unknown : Property.ofName? k = Option.none)
    (apart : s.Exclusive) (v : Value) :
    Exclusive { s with extra := s.extra.put k v } := by
  have beside (p : Property) : (s.extra.put k v).find? p.name = s.extra.find? p.name := by
    rw [Table.find?_put, if_neg]
    intro same
    rw [← same, Property.ofName?_name] at unknown
    cases unknown
  constructor
  · intro p
    rw [beside]
    exact apart.uncarried p
  · intro p w carried
    rw [beside] at carried
    exact apart.unreadable p w carried

/-- A property is set, or cleared and carried; the others stay as they are. -/
theorem applyProperty {p : Property} {x : Option p.kind.Setting} {extra : StyleFields}
    (apart : s.Exclusive)
    (beside : ∀ q, p ≠ q → extra.find? q.name = s.extra.find? q.name)
    (uncarried : x = Option.none ∨ extra.find? p.name = Option.none)
    (unreadable : ∀ v, extra.find? p.name = some v → p.kind.read? v = Option.none) :
    Exclusive { s.withSetting p x with extra := extra } := by
  constructor
  · intro q
    by_cases same : p = q
    · subst same
      rw [setting_withSetting_self]
      exact uncarried
    · rw [setting_withSetting_of_ne same, beside q same]
      exact apart.uncarried q
  · intro q v carried
    by_cases same : p = q
    · subst same
      exact unreadable v carried
    · rw [beside q same] at carried
      exact apart.unreadable q v carried

theorem applyField (apart : s.Exclusive) (k : String) (v : Value) :
    (s.applyField k v).Exclusive := by
  cases known : Property.ofName? k with
  | none =>
    rw [applyField_of_unknown known]
    exact applyUnknown known apart v
  | some p =>
    obtain rfl := Property.name_of_ofName? known
    cases read : p.kind.read? v with
    | none =>
      rw [applyField_of_misfit read]
      apply apart.applyProperty
      · intro q different
        rw [Table.find?_put, if_neg (Property.name_ne different.symm)]
      · exact Or.inl rfl
      · intro w carried
        rw [Table.find?_put, if_pos rfl] at carried
        rw [← Option.some.inj carried, read]
    | some x =>
      rw [applyField_of_read read]
      have gone : (s.extra.erase p.name).find? p.name = Option.none := by
        rw [Table.find?_erase, if_pos rfl]
      apply apart.applyProperty
      · intro q different
        rw [Table.find?_erase, if_neg (Property.name_ne different.symm)]
      · exact Or.inr gone
      · intro w carried
        rw [gone] at carried
        cases carried

theorem applyAll (apart : s.Exclusive) (fields : Members Value) :
    (s.applyAll fields).Exclusive := by
  induction fields generalizing s with
  | nil => exact apart
  | cons f rest ih => exact ih (apart.applyField f.1 f.2)

/-- What is read of a style's fields under the name of a property is its setting. -/
theorem setting_eq (apart : s.Exclusive) (p : Property) :
    s.setting p = (s.toFields.find? p.name).bind p.kind.read? := by
  rw [find?_toFields, typed?, Property.ofName?_name, Option.bind_some]
  cases s.setting p with
  | none =>
    cases carried : s.extra.find? p.name with
    | none => rfl
    | some v => exact (apart.unreadable p v carried).symm
  | some x => exact (Kind.read?_write p.kind x).symm

/-- What a style's fields hold under a name is carried, unless it is typed. -/
theorem find?_extra (apart : s.Exclusive) (k : String) :
    s.extra.find? k = if (s.typed? k).isSome then Option.none else s.toFields.find? k := by
  rw [find?_toFields]
  cases told : s.typed? k with
  | none => rfl
  | some v =>
    obtain ⟨p, known, typed⟩ := Option.bind_eq_some_iff.mp told
    obtain rfl := Property.name_of_ofName? known
    rcases apart.uncarried p with untyped | uncarried
    · rw [untyped] at typed
      cases typed
    · exact uncarried

theorem eq_of_toFields_eq (left : s.Exclusive) (right : t.Exclusive)
    (same : s.toFields = t.toFields) : s = t := by
  have settings (p : Property) : s.setting p = t.setting p := by
    rw [left.setting_eq, right.setting_eq, same]
  have typed (k : String) : s.typed? k = t.typed? k := by
    simp only [typed?, settings]
  ext1
  · apply settings
  · rw [left.find?_extra, right.find?_extra, same, typed]

end Exclusive

/-- Laid over the empty style, the fields that a style writes back are written back once more. -/
theorem Shows.toFields_apply_toFields {s : Style} {t : StyleFields} (told : s.Shows t) :
    (Style.none.apply s.toFields).toFields = s.toFields := by
  have again : (Style.none.apply s.toFields).Shows (.ofList s.toFields.members) :=
    Shows.none.applyAll s.toFields.members
  rw [Shows, Table.ofList_members] at again
  rw [again, told, canonicalFields_canonicalFields]

/-- Tables laid over a style that writes one back, and keeps typed and carried apart. -/
theorem applied_tables (tables : List StyleFields) {s : Style} {t : StyleFields} (told : s.Shows t)
    (apart : s.Exclusive) :
    (∃ all, (tables.foldl apply s).Shows all) ∧ (tables.foldl apply s).Exclusive := by
  induction tables generalizing s t with
  | nil => exact ⟨⟨t, told⟩, apart⟩
  | cons fields rest ih =>
    exact ih (told.applyAll fields.members) (apart.applyAll fields.members)

/-- After any tables of fields, no property of a style is both typed and carried, and nothing that
is carried under the name of a property can be read as its setting. So the style is known by the
fields that it writes back: laid over the empty style they make it again, and no other style that
tables of fields can make writes back the same. -/
theorem flat_fields_tell_the_style (tables : List StyleFields) :
    let s := tables.foldl apply Style.none
    (∀ p, s.setting p = Option.none ∨ s.extra.find? p.name = Option.none) ∧
      (∀ (p : Property) (v : Value), s.extra.find? p.name = some v → p.kind.read? v = Option.none) ∧
      Style.none.apply s.toFields = s ∧
      ∀ others : List StyleFields,
        (others.foldl apply Style.none).toFields = s.toFields →
          others.foldl apply Style.none = s := by
  obtain ⟨⟨all, told⟩, apart⟩ := applied_tables tables Shows.none Exclusive.none
  refine ⟨apart.uncarried, apart.unreadable, ?_, ?_⟩
  · have again := Exclusive.none.applyAll (tables.foldl apply Style.none).toFields.members
    exact again.eq_of_toFields_eq apart told.toFields_apply_toFields
  · intro others same
    obtain ⟨-, otherApart⟩ := applied_tables others Shows.none Exclusive.none
    exact otherApart.eq_of_toFields_eq apart same

example :
    (apply Style.none
      (.ofList [("emphasis", .text "loud"), ("fontWeight", .text " Regular ")])).toFields =
      .ofList [("emphasis", .text "loud"), ("fontWeight", .text "normal")] :=
  rfl

end Style

end RemoteSurface
