import RemoteSurface.Surface
import RemoteSurface.Proofs.TableLaws
/-!
Styles as merged tables. A style splits its fields into typed settings and carried fields, but what
it writes back does not show the split: a field laid over a style stands in its fields under its
name, in place of whatever stood there, as it is but for the spelling of weights and emphases. So
the fields of a resolved style are the tables that its entries denote, merged from left to right.
-/
namespace RemoteSurface

namespace Style

namespace Property

theorem ofName?_name (p : Property) : ofName? p.name = some p := by
  cases p <;> decide

theorem name_of_ofName? {k : String} {p : Property} (known : ofName? k = some p) : p.name = k := by
  have found := List.find?_some known
  simpa using found

theorem name_ne {p q : Property} (different : p ≠ q) : p.name ≠ q.name := by
  intro same
  have known := ofName?_name p
  rw [same, ofName?_name] at known
  exact different (Option.some.inj known).symm

theorem mem_all (p : Property) : p ∈ all := by
  cases p <;> decide

theorem all_nodup : all.Nodup := by decide

end Property

theorem find?_writeSetting (s : Style) (t : StyleFields) (p : Property) (k : String) :
    (s.writeSetting t p).find? k =
      if k = p.name then ((s.setting p).map p.kind.write).or (t.find? k) else t.find? k := by
  unfold writeSetting
  cases s.setting p with
  | none => simp
  | some x =>
    rw [Table.find?_put]
    rfl

theorem find?_writeSettings_of_ne (s : Style) {ps : List Property} {k : String}
    (others : ∀ p ∈ ps, k ≠ p.name) (t : StyleFields) :
    (ps.foldl s.writeSetting t).find? k = t.find? k := by
  induction ps generalizing t with
  | nil => rfl
  | cons p rest ih =>
    rw [List.foldl_cons, ih fun q member => others q (List.mem_cons_of_mem p member),
      find?_writeSetting, if_neg (others p List.mem_cons_self)]

theorem find?_writeSettings (s : Style) {ps : List Property} (once : ps.Nodup) {p : Property}
    (member : p ∈ ps) (t : StyleFields) :
    (ps.foldl s.writeSetting t).find? p.name =
      ((s.setting p).map p.kind.write).or (t.find? p.name) := by
  induction ps generalizing t with
  | nil => exact absurd member List.not_mem_nil
  | cons q rest ih =>
    obtain ⟨apart, onceMore⟩ := List.nodup_cons.mp once
    rw [List.foldl_cons]
    by_cases here : p = q
    · subst here
      have others : ∀ q ∈ rest, p.name ≠ q.name := by
        intro q there
        exact Property.name_ne fun same => apart (same ▸ there)
      rw [find?_writeSettings_of_ne s others, find?_writeSetting, if_pos rfl]
    · rw [ih onceMore ((List.mem_cons.mp member).resolve_left here), find?_writeSetting,
        if_neg (Property.name_ne here)]

/-- What a style has typed under a name, as a value. -/
def typed? (s : Style) (k : String) : Option Value :=
  (Property.ofName? k).bind fun p => (s.setting p).map p.kind.write

/-- A setting is written over whatever is carried under its name. -/
theorem find?_toFields (s : Style) (k : String) :
    s.toFields.find? k = (s.typed? k).or (s.extra.find? k) := by
  rw [toFields, typed?]
  cases known : Property.ofName? k with
  | none =>
    apply find?_writeSettings_of_ne
    rintro p - rfl
    rw [Property.ofName?_name] at known
    cases known
  | some p =>
    obtain rfl := Property.name_of_ofName? known
    exact find?_writeSettings s Property.all_nodup p.mem_all s.extra

theorem typed?_withSetting (s : Style) (p : Property) (x : Option p.kind.Setting) (k : String) :
    (s.withSetting p x).typed? k =
      if k = p.name then x.map p.kind.write else s.typed? k := by
  by_cases own : k = p.name
  · subst own
    simp [typed?, Property.ofName?_name, withSetting]
  · rw [if_neg own, typed?, typed?]
    cases known : Property.ofName? k with
    | none => rfl
    | some q =>
      have different : p ≠ q := by
        rintro rfl
        exact own (Property.name_of_ofName? known).symm
      simp [withSetting, different]

/-- A field value in the spelling that it is written back in. Only weights and emphases have one of
their own. -/
def canonical (name : String) (v : Value) : Value :=
  match v with
  | .text s =>
    if name = "fontWeight" then ((FontWeight.parse? s).map fun w => .text w.name).getD v
    else if name = "emphasis" then ((Emphasis.parse? s).map fun e => .text e.name).getD v
    else v
  | _ => v

theorem canonical_of_ne {k : String} (weight : k ≠ "fontWeight") (emphasis : k ≠ "emphasis")
    (v : Value) : canonical k v = v := by
  cases v <;> simp [canonical, weight, emphasis]

/-- To read a value as a setting and write that back is to spell it canonically. -/
theorem canonical_name (p : Property) (v : Value) :
    canonical p.name v = ((p.kind.read? v).map p.kind.write).getD v := by
  cases p with
  | fontWeight =>
    cases v with
    | text s =>
      simp only [Property.name, Property.kind, canonical, Kind.read?, Value.asText?,
        Option.bind_some, if_true]
      rfl
    | _ => rfl
  | emphasis =>
    have other : ¬ "emphasis" = "fontWeight" := by decide
    cases v with
    | text s =>
      simp only [Property.name, Property.kind, canonical, Kind.read?, Value.asText?,
        Option.bind_some, if_neg other, if_true]
      rfl
    | _ => rfl
  | _ =>
    rw [canonical_of_ne (by decide) (by decide)]
    cases v <;> rfl

theorem canonical_of_unknown {k : String} (unknown : Property.ofName? k = Option.none)
    (v : Value) : canonical k v = v := by
  have other (p : Property) : k ≠ p.name := by
    rintro rfl
    rw [Property.ofName?_name] at unknown
    cases unknown
  exact canonical_of_ne (other .fontWeight) (other .emphasis) v

theorem applyField_of_unknown {k : String} (unknown : Property.ofName? k = Option.none) (s : Style)
    (v : Value) : s.applyField k v = { s with extra := s.extra.put k v } := by
  simp only [applyField, unknown]

theorem applyField_of_misfit {p : Property} {v : Value} (misfit : p.kind.read? v = Option.none)
    (s : Style) :
    s.applyField p.name v =
      { s.withSetting p Option.none with extra := s.extra.put p.name v } := by
  simp only [applyField, Property.ofName?_name, misfit]

theorem applyField_of_read {p : Property} {v : Value} {x : p.kind.Setting}
    (read : p.kind.read? v = some x) (s : Style) :
    s.applyField p.name v =
      { s.withSetting p (some x) with extra := s.extra.erase p.name } := by
  simp only [applyField, Property.ofName?_name, read]

theorem find?_toFields_withSetting (s : Style) (p : Property) (x : Option p.kind.Setting)
    (t : StyleFields) (k : String) :
    (toFields { s.withSetting p x with extra := t }).find? k =
      (if k = p.name then x.map p.kind.write else s.typed? k).or (t.find? k) := by
  rw [find?_toFields, ← typed?_withSetting]
  rfl

/-- A field laid over a style takes the place of what the style wrote under its name, whether that
was typed or carried. -/
theorem toFields_applyField (s : Style) (k : String) (v : Value) :
    (s.applyField k v).toFields = s.toFields.put k (canonical k v) := by
  apply Table.ext_find?
  intro j
  rw [Table.find?_put, find?_toFields s]
  cases known : Property.ofName? k with
  | none =>
    rw [canonical_of_unknown known, applyField_of_unknown known, find?_toFields, Table.find?_put]
    by_cases own : j = k
    · subst own
      have untyped : s.typed? j = Option.none := by rw [typed?, known]; rfl
      rw [if_pos rfl, if_pos rfl]
      exact congrArg (·.or (some v)) untyped
    · rw [if_neg own, if_neg own]
      rfl
  | some p =>
    obtain rfl := Property.name_of_ofName? known
    rw [canonical_name]
    -- Settings are written over carried fields, so a value that does not fit has to unset its
    -- property; under every other name both sides are what the style had there.
    cases read : p.kind.read? v with
    | none =>
      rw [applyField_of_misfit read, find?_toFields_withSetting, Table.find?_put]
      split <;> rfl
    | some x =>
      rw [applyField_of_read read, find?_toFields_withSetting, Table.find?_erase]
      split <;> rfl

/-- A table of fields, each in the spelling that it is written back in. -/
def canonicalFields (t : StyleFields) : StyleFields :=
  ⟨t.members.map fun m => (m.1, canonical m.1 m.2), by
    simpa [Members.Sorted, List.pairwise_map] using t.sorted⟩

theorem find?_canonicalFields (t : StyleFields) (k : String) :
    (canonicalFields t).find? k = (t.find? k).map (canonical k) := by
  obtain ⟨ms, sorted⟩ := t
  change Members.find? k (ms.map fun m => (m.1, canonical m.1 m.2)) =
    (Members.find? k ms).map (canonical k)
  clear sorted
  induction ms with
  | nil => rfl
  | cons m rest ih =>
    rw [List.map_cons, Members.find?, Members.find?, ih]
    by_cases own : k = m.1
    · subst own
      rw [if_pos rfl, if_pos rfl, Option.map_some]
    · rw [if_neg own, if_neg own]

theorem canonicalFields_put (t : StyleFields) (k : String) (v : Value) :
    canonicalFields (t.put k v) = (canonicalFields t).put k (canonical k v) := by
  apply Table.ext_find?
  intro j
  rw [find?_canonicalFields, Table.find?_put, Table.find?_put, find?_canonicalFields]
  by_cases own : j = k
  · subst own
    rw [if_pos rfl, if_pos rfl, Option.map_some]
  · rw [if_neg own, if_neg own]

/-- A style writes back a table of fields, in canonical spelling. -/
def Shows (s : Style) (t : StyleFields) : Prop := s.toFields = canonicalFields t

theorem Shows.none : Shows Style.none .empty := rfl

theorem Shows.applyField {s : Style} {t : StyleFields} (told : s.Shows t) (k : String)
    (v : Value) : (s.applyField k v).Shows (t.put k v) := by
  rw [Shows, toFields_applyField, canonicalFields_put, told]

theorem Shows.applyAll {s : Style} {t : StyleFields} (told : s.Shows t)
    (fields : Members Value) : (s.applyAll fields).Shows (t.putAll fields) := by
  induction fields generalizing s t with
  | nil => exact told
  | cons f rest ih => exact ih (told.applyField f.1 f.2)

/-- The table that a name denotes, if the surface has one. -/
def namedTables (styles : Table StyleFields) (name : String) : List (Members Value) :=
  ((styles.find? name).map Table.members).toList

/-- The tables that one style entry denotes. -/
def entryTables (styles : Table StyleFields) : Value → List (Members Value)
  | .text name => namedTables styles name
  | .map members =>
    (match Members.find? refKey members with
      | some (.text name) => namedTables styles name
      | _ => []) ++ [members.filter fun m => m.1 != refKey]
  | _ => []

/-- The tables that a style property denotes. Alone, an entry counts as a list of one. -/
def tables (styles : Table StyleFields) : Option Value → List (Members Value)
  | some (.list entries) => entries.flatMap (entryTables styles)
  | some entry => entryTables styles entry
  | Option.none => []

/-- Tables merged from left to right: of two with one field, the later counts. -/
def merge (ts : List (Members Value)) : StyleFields := ts.foldl Table.putAll .empty

theorem Shows.applyNamed {s : Style} {t : StyleFields} (told : s.Shows t)
    (styles : Table StyleFields) (name : String) :
    (s.applyNamed styles name).Shows ((namedTables styles name).foldl Table.putAll t) := by
  unfold Style.applyNamed namedTables
  cases styles.find? name with
  | none => exact told
  | some fields => exact told.applyAll fields.members

/-- An entry laid over a style merges in the tables that it denotes. -/
theorem Shows.applyEntry {s : Style} {t : StyleFields} (told : s.Shows t)
    (styles : Table StyleFields) (entry : Value) :
    (Style.applyEntry styles s entry).Shows
      ((entryTables styles entry).foldl Table.putAll t) := by
  cases entry with
  | text name => exact told.applyNamed styles name
  | map members =>
    rw [entryTables, List.foldl_append]
    apply Shows.applyAll
    cases Members.find? refKey members with
    | none => exact told
    | some v =>
      cases v with
      | text name => exact told.applyNamed styles name
      | _ => exact told
  | _ => exact told

theorem Shows.applyEntries {s : Style} {t : StyleFields} (told : s.Shows t)
    (styles : Table StyleFields) (entries : List Value) :
    (entries.foldl (Style.applyEntry styles) s).Shows
      ((entries.flatMap (entryTables styles)).foldl Table.putAll t) := by
  induction entries generalizing s t with
  | nil => exact told
  | cons entry rest ih =>
    rw [List.flatMap_cons, List.foldl_append]
    exact ih (told.applyEntry styles entry)

theorem flatMap_entries (styles : Table StyleFields) (c : Component) :
    (entries c).flatMap (entryTables styles) = tables styles (c.prop? "style") := by
  unfold entries
  cases c.prop? "style" with
  | none => rfl
  | some v => cases v <;> simp [tables, entryTables]

theorem find?_merge (ts : List (Members Value)) (k : String) :
    (merge ts).find? k = Members.find? k ts.flatten.reverse := by
  have flat : ∀ t : StyleFields, ts.foldl Table.putAll t = t.putAll ts.flatten := by
    induction ts with
    | nil => exact fun t => rfl
    | cons ms rest ih =>
      intro t
      apply Table.ext
      rw [List.foldl_cons, ih]
      exact List.foldl_append.symm
  rw [merge, flat, Table.find?_putAll, Table.find?_empty, Option.or_none]

/-- The fields of a resolved style are the tables that the style property denotes, merged from left
to right, with the spelling of weights and emphases made canonical. So under each name the last of
all fields counts, whether its value is one of the property's kind or not, and there is nothing
under a name that no table has. -/
theorem resolve_merges_tables (c : Component) (surface : Surface) :
    (resolve c surface).toFields =
        canonicalFields (merge (tables surface.styles (c.prop? "style"))) ∧
      ∀ name,
        (∀ before v after,
          (tables surface.styles (c.prop? "style")).flatten = before ++ (name, v) :: after →
          (∀ m ∈ after, m.1 ≠ name) →
            (resolve c surface).toFields.find? name = some (canonical name v)) ∧
        ((∀ m ∈ (tables surface.styles (c.prop? "style")).flatten, m.1 ≠ name) →
          (resolve c surface).toFields.find? name = Option.none) := by
  have merged : (resolve c surface).toFields =
      canonicalFields (merge (tables surface.styles (c.prop? "style"))) := by
    rw [← flatMap_entries]
    exact Shows.none.applyEntries surface.styles (entries c)
  refine ⟨merged, ?_⟩
  intro name
  rw [merged, find?_canonicalFields, find?_merge]
  constructor
  · intro before v after whole last
    rw [whole, Members.find?_reverse_of_last last, Option.map_some]
  · intro absent
    rw [Members.find?_eq_none_of_forall_ne, Option.map_none]
    intro m member
    exact Ne.symm (absent m (List.mem_reverse.mp member))

example :
    (resolve
      { props := .map [("style", .list
          [.text "title", .map [("fontWeight", .text "heavy"), ("ref", .text "quiet")],
            .map [("fontWeight", .text " Bold ")]])] }
      { id := "form", root := "card",
        styles := .ofList
          [("quiet", .ofList [("color", .text "grey"), ("emphasis", .text "LOW")]),
            ("title", .ofList [("color", .null), ("fontWeight", .text "medium")])] }).toFields =
      .ofList
        [("color", .text "grey"), ("emphasis", .text "low"), ("fontWeight", .text "bold")] :=
  rfl

end Style

end RemoteSurface
