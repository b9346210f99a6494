import RemoteSurface.Proofs.ReadJson
import RemoteSurface.Proofs.RereadRecords
/-!
Records that were read from a value that fits hold finite numbers only, and are written as a value
that fits. Nothing grows on the way: what stands in an array of fields is written one level deep in
an object as it stood in the array, and what was left out and is written at its default has no depth
of its own.
-/
namespace RemoteSurface

theorem JsonNumber.isFinite_toDouble {n : JsonNumber} (fits : n.Fits) : n.toDouble.isFinite := by
  cases n with
  | whole n => exact Double.isFinite_ofInt fits.1 fits.2
  | real x => exact fits

namespace Json

universe u

variable {α : Type u} {room : ℕ} {P : α → Prop}

theorem ofDouble_fits (room : ℕ) (x : Double) : (ofDouble x).Fits room := by
  rw [ofDouble]
  split
  next finite => exact finite
  next => trivial

theorem readDouble_fits {v : Json} (fits : v.Fits room) {x : Double} (read : readDouble v = .ok x) :
    x.isFinite := by
  cases v with
  | number n =>
    cases read
    exact JsonNumber.isFinite_toDouble fits
  | _ => cases read

theorem readOptional_eq_some {read : Json → Reading α} {v : Json} {a : α}
    (found : readOptional read v = .ok (some a)) : read v = .ok a := by
  cases v with
  | null => cases found
  | _ =>
    obtain ⟨b, known, same⟩ := map_eq_ok_iff.mp found
    cases same
    exact known

theorem mapM_read_all {read : Json → Reading α}
    (each : ∀ {v a}, Fits room v → read v = .ok a → P a) {items : List Json}
    (fits : ItemsFit room items) {as : List α} (found : items.mapM read = .ok as) :
    ∀ a ∈ as, P a := by
  induction items generalizing as with
  | nil =>
    cases found
    simp
  | cons v rest ih =>
    rw [List.mapM_cons] at found
    obtain ⟨a, first, found⟩ := bind_eq_ok_iff.mp found
    obtain ⟨others, more, found⟩ := bind_eq_ok_iff.mp found
    cases found
    exact List.forall_mem_cons.mpr ⟨each fits.1 first, ih fits.2 more⟩

theorem readMembers_all {read : Json → Reading α}
    (each : ∀ {v a}, Fits room v → read v = .ok a → P a) {ms : Members Json}
    (fits : MembersFit room ms) {s t : Table α} (before : ∀ m ∈ s.members, P m.2)
    (found : readMembers read ms s = .ok t) : ∀ m ∈ t.members, P m.2 := by
  induction ms generalizing s with
  | nil =>
    cases found
    exact before
  | cons m rest ih =>
    obtain ⟨a, first, found⟩ := bind_eq_ok_iff.mp found
    refine ih fits.2 ?_ found
    intro n member
    rcases Members.mem_put member with here | there
    · rw [here]
      exact each fits.1 first
    · exact before n there

/-- The items of a list are read inside a container that is open. -/
theorem readList_all {read : Json → Reading α}
    (each : ∀ {v a}, Fits (room - 1) v → read v = .ok a → P a) {v : Json} (fits : v.Fits room)
    {as : List α} (found : readList read v = .ok as) : 0 < room ∧ ∀ a ∈ as, P a := by
  cases v with
  | array items => exact ⟨fits.1, mapM_read_all each fits.2 found⟩
  | _ => cases found

theorem readTable_all {read : Json → Reading α}
    (each : ∀ {v a}, Fits (room - 1) v → read v = .ok a → P a) {v : Json} (fits : v.Fits room)
    {t : Table α} (found : readTable read v = .ok t) : 0 < room ∧ ∀ m ∈ t.members, P m.2 := by
  cases v with
  | object ms => exact ⟨fits.1, readMembers_all each fits.2.2 (by simp [Table.empty]) found⟩
  | _ => cases found

theorem array_fits {write : α → Json} {as : List α} (some : 0 < room)
    (each : ∀ a ∈ as, (write a).Fits (room - 1)) : (array (as.map write)).Fits room :=
  ⟨some, itemsFit_iff.mpr (List.forall_mem_map.mpr each)⟩

theorem table_fits {write : α → Json} {t : Table α} (some : 0 < room)
    (each : ∀ m ∈ t.members, (write m.2).Fits (room - 1)) :
    (object (t.members.mapValues write)).Fits room :=
  ⟨some, t.sorted.mapValues write, membersFit_iff.mpr (List.forall_mem_map.mpr each)⟩

/-- What every field keeps, a record that is filled from members keeps. -/
theorem fillMembers_keeps {set : String → Json → α → Reading α}
    (keeps : ∀ {k v a b}, Fits room v → P a → set k v a = .ok b → P b) {ms : Members Json}
    (fits : MembersFit room ms) {a b : α} (before : P a) (filled : fillMembers set ms a = .ok b) :
    P b :=
  fillMembers_preserves keeps (membersFit_iff.mp fits) before filled

theorem fillItems_keeps {set : String → Json → α → Reading α}
    (keeps : ∀ {k v a b}, Fits room v → P a → set k v a = .ok b → P b) {fields : List String}
    {items : List Json} (fits : ItemsFit room items) {a b : α} (before : P a)
    (filled : fillItems set fields items a = .ok b) : P b :=
  fillItems_preserves keeps (itemsFit_iff.mp fits) before filled

theorem forall_caseMember {γ : Type} {k : String} {write : γ → Json} {c : Option γ}
    {Q : Json → Prop} :
    (∀ m ∈ Message.caseMember k write c, Q m.2) ↔ ∀ a, c = some a → Q (write a) := by
  cases c <;> simp [Message.caseMember]

theorem caseMember_keys {γ : Type} (k : String) (write : γ → Json) (c : Option γ) :
    ((Message.caseMember k write c).map Prod.fst).Sublist [k] := by
  cases c <;> simp [Message.caseMember]

/-- A record is read from a container that is open, and keeps what its fields keep. -/
theorem readRecord_keeps {name : String} {fields : List String}
    {set : String → Json → α → Reading α}
    (keeps : ∀ {k v a b}, Fits (room - 1) v → P a → set k v a = .ok b → P b) {start : α}
    (before : P start) {v : Json} (fits : v.Fits room) {a : α}
    (read : readRecord name fields set start v = .ok a) : 0 < room ∧ P a := by
  cases v with
  | object ms => exact ⟨fits.1, fillMembers_keeps keeps fits.2.2 before read⟩
  | array items =>
    obtain ⟨b, filled, same⟩ := bind_eq_ok_iff.mp read
    have kept := fillItems_keeps keeps fits.2 before filled
    split at same
    · cases same
    · cases same
      exact ⟨fits.1, kept⟩
  | _ => cases read

end Json

namespace Value

mutual

theorem ofJson_fits {room : ℕ} : (v : Json) → v.Fits room →
    (ofJson v).IsFinite ∧ (ofJson v).toJson.Fits room
  | .null, _ => ⟨trivial, trivial⟩
  | .bool _, _ => ⟨trivial, trivial⟩
  | .number _, fits => ⟨JsonNumber.isFinite_toDouble fits, Json.ofDouble_fits room _⟩
  | .text _, _ => ⟨trivial, trivial⟩
  | .array items, fits => by
    obtain ⟨finite, inside⟩ := ofItems_fit items fits.2
    exact ⟨finite, fits.1, inside⟩
  | .object members, fits => by
    obtain ⟨some, sorted, fits⟩ := fits
    obtain ⟨finite, inside⟩ := ofMembers_fit members fits
    refine ⟨finite, some, ?_, inside⟩
    rw [toMembers_eq_mapValues, ofMembers_eq_mapValues]
    exact (sorted.mapValues ofJson).mapValues toJson

theorem ofItems_fit {room : ℕ} : (items : List Json) → Json.ItemsFit room items →
    ItemsFinite (ofItems items) ∧ Json.ItemsFit room (toItems (ofItems items))
  | [], _ => ⟨trivial, trivial⟩
  | v :: rest, fits => by
    obtain ⟨finite, first⟩ := ofJson_fits v fits.1
    obtain ⟨others, inside⟩ := ofItems_fit rest fits.2
    exact ⟨⟨finite, others⟩, first, inside⟩

theorem ofMembers_fit {room : ℕ} : (members : List (String × Json)) →
    Json.MembersFit room members →
    MembersFinite (ofMembers members) ∧ Json.MembersFit room (toMembers (ofMembers members))
  | [], _ => ⟨trivial, trivial⟩
  | (_, v) :: rest, fits => by
    obtain ⟨finite, first⟩ := ofJson_fits v fits.1
    obtain ⟨others, inside⟩ := ofMembers_fit rest fits.2
    exact ⟨⟨finite, others⟩, first, inside⟩

end

theorem read_fits {room : ℕ} {v : Json} {a : Value} (fits : v.Fits room)
    (found : read v = .ok a) : a.IsFinite ∧ a.toJson.Fits room := by
  cases found
  exact ofJson_fits v fits

end Value

theorem DataModel.read_fits {room : ℕ} {v : Json} {m : DataModel} (fits : v.Fits room)
    (found : DataModel.read v = .ok m) : m.IsFinite ∧ m.toJson.Fits room := by
  obtain ⟨some, inside⟩ := Json.readTable_all Value.read_fits fits found
  refine ⟨Value.membersFinite_iff.mpr fun o member => (inside o member).1, ?_⟩
  rw [DataModel.toJson, Value.toMembers_eq_mapValues]
  exact Json.table_fits some fun o member => (inside o member).2

theorem DataModel.read_object (ms : Members Json) :
    DataModel.read (.object ms) = .ok (Table.ofList (Value.ofMembers ms)) := by
  have stored : ∀ t : DataModel,
      Json.readMembers Value.read ms t = .ok (t.putAll (Value.ofMembers ms)) := by
    induction ms with
    | nil => exact fun _ => rfl
    | cons m rest ih => exact fun t => ih (t.put m.1 (Value.ofJson m.2))
  exact stored Table.empty

namespace Children

theorem texts_fit {room : ℕ} (ids : List String) : Json.ItemsFit room (ids.map .text) :=
  Json.itemsFit_iff.mpr (List.forall_mem_map.mpr fun _ _ => trivial)

theorem read_fits {room : ℕ} {v : Json} {c : Children} (fits : v.Fits room)
    (found : read v = .ok c) : c.toJson.Fits room := by
  unfold read at found
  split at found
  next w =>
    obtain ⟨some, -, inside, -⟩ := fits
    obtain ⟨ids, texts, rfl⟩ := Json.map_eq_ok_iff.mp found
    cases w with
    | array items =>
      exact ⟨some, List.pairwise_singleton _ _, ⟨inside.1, texts_fit ids⟩, trivial⟩
    | _ => cases texts
  next w =>
    obtain ⟨some, -, inside, -⟩ := fits
    cases w with
    | object ms =>
      obtain ⟨t, -, rfl⟩ := Json.map_eq_ok_iff.mp found
      refine ⟨some, List.pairwise_singleton _ _, ⟨inside.1, ?_, trivial, trivial, trivial⟩, trivial⟩
      exact Members.sorted_of_keys
        (by decide : ["componentId", "dataBinding"].Pairwise (· < ·)) (.refl _)
    | _ => cases found
  all_goals cases found

end Children

namespace Component

/-- What stands in the fields of a component fits. -/
structure FieldsFit (room : ℕ) (c : Component) : Prop where
  finite : c.IsFinite
  props : c.props.toJson.Fits room
  children : ∀ s, c.children = some s → s.toJson.Fits room

theorem setField_fits {room : ℕ} {k : String} {v : Json} {c d : Component} (fits : v.Fits room)
    (inside : c.FieldsFit room) (set : setField k v c = .ok d) : d.FieldsFit room := by
  obtain ⟨⟨propsFinite, weight⟩, props, children⟩ := inside
  unfold setField at set
  split at set
  · obtain ⟨s, -, rfl⟩ := Json.map_eq_ok_iff.mp set
    exact ⟨⟨propsFinite, weight⟩, props, children⟩
  · obtain ⟨s, -, rfl⟩ := Json.map_eq_ok_iff.mp set
    exact ⟨⟨propsFinite, weight⟩, props, children⟩
  · cases set
    obtain ⟨finite, kept⟩ := Value.ofJson_fits v fits
    exact ⟨⟨finite, weight⟩, kept, children⟩
  · obtain ⟨o, found, rfl⟩ := Json.map_eq_ok_iff.mp set
    refine ⟨⟨propsFinite, fun x known => ?_⟩, props, children⟩
    subst known
    exact Json.readDouble_fits fits (Json.readOptional_eq_some found)
  · obtain ⟨o, found, rfl⟩ := Json.map_eq_ok_iff.mp set
    refine ⟨⟨propsFinite, weight⟩, props, fun s known => ?_⟩
    subst known
    exact Children.read_fits fits (Json.readOptional_eq_some found)
  · cases set
    exact ⟨⟨propsFinite, weight⟩, props, children⟩

theorem read_fits {room : ℕ} {v : Json} {c : Component} (fits : v.Fits room)
    (found : read v = .ok c) : c.IsFinite ∧ c.toJson.Fits room := by
  have start : FieldsFit (room - 1) {} := ⟨⟨trivial, by simp⟩, trivial, by simp⟩
  obtain ⟨some, finite, props, children⟩ := Json.readRecord_keeps setField_fits start fits found
  rw [toJson_eq]
  refine ⟨finite, some, ?_, ?_⟩
  · apply Members.sorted_of_keys
      (by decide : ["children", "id", "props", "type", "weight"].Pairwise (· < ·))
    rw [List.map_append, List.map_append]
    exact (Json.caseMember_keys _ _ _).append ((List.Sublist.refl _).append
      (Json.caseMember_keys _ _ _))
  · simp only [Json.membersFit_iff, List.forall_mem_append, Json.forall_caseMember,
      List.forall_mem_cons]
    exact ⟨children, ⟨trivial, props, trivial, by simp⟩, fun x _ => Json.ofDouble_fits _ x⟩

end Component

namespace Entry

/-- What an entry sets fits. -/
def FieldsFit (room : ℕ) : Entry → Prop
  | .mk key t n b m l =>
    IsFinite (.mk key t n b m l) ∧ Json.MembersFit room (mapToMember m) ∧
      ∀ xs, l = some xs → (Json.array (Value.toItems xs)).Fits room

theorem blank_fits (room : ℕ) : blank.FieldsFit room := by
  simp [blank, FieldsFit, IsFinite, MapFinite, mapToMember, Json.MembersFit]

theorem setPlain_fits {room : ℕ} {k : String} {v : Json} {e d : Entry} (fits : v.Fits room)
    (inside : e.FieldsFit room) (set : setPlain k v e = .ok d) : d.FieldsFit room := by
  obtain ⟨key, t, n, b, m, l⟩ := e
  rw [FieldsFit, IsFinite] at inside
  obtain ⟨⟨number, mapFinite, items⟩, map, list⟩ := inside
  simp only [setPlain] at set
  split at set
  · obtain ⟨s, -, rfl⟩ := Json.map_eq_ok_iff.mp set
    rw [FieldsFit, IsFinite]
    exact ⟨⟨number, mapFinite, items⟩, map, list⟩
  · obtain ⟨o, -, rfl⟩ := Json.map_eq_ok_iff.mp set
    rw [FieldsFit, IsFinite]
    exact ⟨⟨number, mapFinite, items⟩, map, list⟩
  · obtain ⟨o, found, rfl⟩ := Json.map_eq_ok_iff.mp set
    rw [FieldsFit, IsFinite]
    refine ⟨⟨fun x known => ?_, mapFinite, items⟩, map, list⟩
    subst known
    exact Json.readDouble_fits fits (Json.readOptional_eq_some found)
  · obtain ⟨o, -, rfl⟩ := Json.map_eq_ok_iff.mp set
    rw [FieldsFit, IsFinite]
    exact ⟨⟨number, mapFinite, items⟩, map, list⟩
  · obtain ⟨o, found, rfl⟩ := Json.map_eq_ok_iff.mp set
    have each : ∀ xs, o = some xs → 0 < room ∧
        ∀ a ∈ xs, a.IsFinite ∧ a.toJson.Fits (room - 1) := by
      rintro xs rfl
      exact Json.readList_all Value.read_fits fits (Json.readOptional_eq_some found)
    rw [FieldsFit, IsFinite]
    refine ⟨⟨number, mapFinite, fun xs known => ?_⟩, map, fun xs known => ?_⟩
    · exact Value.itemsFinite_iff.mpr fun a member => ((each xs known).2 a member).1
    · rw [Value.toItems_eq_map]
      exact Json.array_fits (each xs known).1 fun a member => ((each xs known).2 a member).2
  · cases set
    rw [FieldsFit, IsFinite]
    exact ⟨⟨number, mapFinite, items⟩, map, list⟩

theorem setField_fits {room : ℕ} {k : String} {v : Json} {e d : Entry} (fits : v.Fits room)
    (map : ∀ m, readMap v = .ok m → MapFinite m ∧ Json.MembersFit room (mapToMember m))
    (inside : e.FieldsFit room) (set : setField k v e = .ok d) : d.FieldsFit room := by
  unfold setField at set
  split at set
  · obtain ⟨m, found, rfl⟩ := Json.map_eq_ok_iff.mp set
    obtain ⟨key, t, n, b, m', l⟩ := e
    obtain ⟨finite, kept⟩ := map m found
    rw [FieldsFit, IsFinite] at inside
    rw [setMap, FieldsFit, IsFinite]
    exact ⟨⟨inside.1.1, finite, inside.1.2.2⟩, kept, inside.2.2⟩
  · exact setPlain_fits fits inside set

theorem mapToMember_keys (m : EntryMap) : ((mapToMember m).map Prod.fst).Sublist ["valueMap"] := by
  cases m <;> simp [mapToMember]

theorem toJson_fits {room : ℕ} (some : 0 < room) {e : Entry} (inside : e.FieldsFit (room - 1)) :
    e.IsFinite ∧ (toJson e).Fits room := by
  obtain ⟨key, t, n, b, m, l⟩ := e
  obtain ⟨finite, map, list⟩ := inside
  rw [toJson_eq]
  refine ⟨finite, some, ?_, ?_⟩
  · apply Members.sorted_of_keys (by decide : ["key", "valueArray", "valueBoolean", "valueMap",
      "valueNumber", "valueString"].Pairwise (· < ·))
    simp only [List.map_cons, List.map_append]
    exact .cons_cons _ ((Json.caseMember_keys _ _ _).append ((Json.caseMember_keys _ _ _).append
      ((mapToMember_keys m).append ((Json.caseMember_keys _ _ _).append
        (Json.caseMember_keys _ _ _)))))
  · simp only [Json.membersFit_iff, List.forall_mem_append, Json.forall_caseMember,
      List.forall_mem_cons]
    exact ⟨trivial, list, fun _ _ => trivial, Json.membersFit_iff.mp map,
      fun x _ => Json.ofDouble_fits _ x, fun _ _ => trivial⟩

theorem readItems_eq_fillItems (items : List Json) (ks : List String) (e : Entry) :
    readItems items ks e = Json.fillItems setField ks items e := by
  induction items generalizing ks e with
  | nil => cases ks <;> rw [readItems, Json.fillItems] <;> simp
  | cons v vs ih =>
    cases ks with
    | nil => rw [readItems, Json.fillItems]; simp
    | cons k ks =>
      by_cases nests : k = "valueMap"
      · subst nests
        rw [readItems, Json.fillItems, setField, if_pos rfl]
        cases readMap v with
        | error failure => rfl
        | ok m => exact ih ks (setMap m e)
      · rw [Json.fillItems, setField, if_neg nests, readItems]
        · exact congrArg _ (funext (ih ks))
        · exact nests

mutual

theorem read_fits {room : ℕ} : (v : Json) → v.Fits room → ∀ e, read v = .ok e →
    e.IsFinite ∧ (toJson e).Fits room
  | .object members, fits, e, found => by
    rw [read, readMembers_eq_fillMembers] at found
    exact toJson_fits fits.1 (fillMembers_fit members fits.2.2 blank e (blank_fits _) found)
  | .array items, fits, e, found => by
    rw [read, readItems_eq_fillItems] at found
    obtain ⟨d, filled, same⟩ := Json.bind_eq_ok_iff.mp found
    have inside := fillItems_fit items fits.2 fieldNames blank d (blank_fits _) filled
    split at same
    · cases same
    · cases same
      exact toJson_fits fits.1 inside
  | .null, _, e, found => by simp [read, Json.misfit] at found
  | .bool _, _, e, found => by simp [read, Json.misfit] at found
  | .number _, _, e, found => by simp [read, Json.misfit] at found
  | .text _, _, e, found => by simp [read, Json.misfit] at found

theorem fillMembers_fit {room : ℕ} : (members : List (String × Json)) →
    Json.MembersFit room members → ∀ a e, a.FieldsFit room →
      Json.fillMembers setField members a = .ok e → e.FieldsFit room
  | [], _, a, e, before, filled => by
    cases filled
    exact before
  | (k, v) :: rest, fits, a, e, before, filled => by
    obtain ⟨c, first, others⟩ := Json.bind_eq_ok_iff.mp filled
    have inside := setField_fits fits.1 (readMap_fits v fits.1) before first
    exact fillMembers_fit rest fits.2 c e inside others

theorem fillItems_fit {room : ℕ} : (items : List Json) → Json.ItemsFit room items →
    ∀ ks a e, a.FieldsFit room → Json.fillItems setField ks items a = .ok e → e.FieldsFit room
  | [], _, ks, a, e, before, filled => by
    cases ks <;> cases filled <;> exact before
  | v :: rest, fits, [], a, e, before, filled => by
    cases filled
    exact before
  | v :: rest, fits, k :: ks, a, e, before, filled => by
    obtain ⟨c, first, others⟩ := Json.bind_eq_ok_iff.mp filled
    have inside := setField_fits fits.1 (readMap_fits v fits.1) before first
    exact fillItems_fit rest fits.2 ks c e inside others

theorem readMap_fits {room : ℕ} : (v : Json) → v.Fits room → ∀ m, readMap v = .ok m →
    MapFinite m ∧ Json.MembersFit room (mapToMember m)
  | .null, _, m, found => by
    simp only [readMap, Except.ok.injEq] at found
    subst found
    simp [MapFinite, mapToMember, Json.MembersFit]
  | .array items, fits, m, found => by
    rw [readMap] at found
    split at found
    next es entries =>
      cases found
      obtain ⟨finite, inside⟩ := readList_fits items fits.2 es entries
      simp only [MapFinite, mapToMember, Json.MembersFit]
      exact ⟨finite, ⟨fits.1, inside⟩, trivial⟩
    next => cases found
  | .object members, fits, m, found => by
    -- An object is kept as a data model, as if it had been read as one.
    simp only [readMap, Except.ok.injEq] at found
    subst found
    obtain ⟨finite, inside⟩ := DataModel.read_fits fits (DataModel.read_object members)
    simp only [MapFinite, mapToMember, Json.MembersFit]
    exact ⟨finite, inside, trivial⟩
  | .bool _, _, m, found => by simp [readMap] at found
  | .number _, _, m, found => by simp [readMap] at found
  | .text _, _, m, found => by simp [readMap] at found

theorem readList_fits {room : ℕ} : (items : List Json) → Json.ItemsFit room items →
    ∀ es, readList items = .ok es → ListFinite es ∧ Json.ItemsFit room (listToJson es)
  | [], _, es, found => by
    simp only [readList, Except.ok.injEq] at found
    subst found
    simp [ListFinite, listToJson, Json.ItemsFit]
  | v :: rest, fits, es, found => by
    rw [readList] at found
    obtain ⟨e, first, found⟩ := Json.bind_eq_ok_iff.mp found
    obtain ⟨others, more, rfl⟩ := Json.map_eq_ok_iff.mp found
    obtain ⟨finite, inside⟩ := read_fits v fits.1 e first
    obtain ⟨othersFinite, beside⟩ := readList_fits rest fits.2 others more
    simp only [ListFinite, listToJson, Json.ItemsFit]
    exact ⟨⟨finite, othersFinite⟩, inside, beside⟩

end

end Entry

namespace BeginRendering

/-- The style tables fit. -/
def StylesFit (room : ℕ) (b : BeginRendering) : Prop :=
  ∀ t, b.styles = some t →
    0 < room ∧ ∀ m ∈ t.members, DataModel.IsFinite m.2 ∧ (DataModel.toJson m.2).Fits (room - 1)

theorem setField_fits {room : ℕ} {k : String} {v : Json} {b c : BeginRendering}
    (fits : v.Fits room) (inside : b.StylesFit room) (set : setField k v b = .ok c) :
    c.StylesFit room := by
  unfold setField at set
  split at set
  · obtain ⟨s, -, rfl⟩ := Json.map_eq_ok_iff.mp set
    exact inside
  · obtain ⟨s, -, rfl⟩ := Json.map_eq_ok_iff.mp set
    exact inside
  · obtain ⟨o, found, rfl⟩ := Json.map_eq_ok_iff.mp set
    intro t known
    subst known
    exact Json.readTable_all DataModel.read_fits fits (Json.readOptional_eq_some found)
  · cases set
    exact inside

theorem read_fits {room : ℕ} {v : Json} {b : BeginRendering} (fits : v.Fits room)
    (found : read v = .ok b) : b.IsFinite ∧ b.toJson.Fits room := by
  have start : StylesFit (room - 1) {} := by simp [StylesFit]
  obtain ⟨some, styles⟩ := Json.readRecord_keeps setField_fits start fits found
  refine ⟨fun t known m member => ((styles t known).2 m member).1, ?_⟩
  obtain ⟨surfaceId, root, styles'⟩ := b
  cases styles' with
  | none =>
    refine ⟨some, ?_, trivial, trivial, trivial⟩
    exact Members.sorted_of_keys
      (by decide : ["root", "surfaceId"].Pairwise (· < ·)) (.refl _)
  | some t =>
    obtain ⟨wide, inside⟩ := styles t rfl
    have tables := Json.table_fits wide fun m member => (inside m member).2
    refine ⟨some, ?_, trivial, tables, trivial, trivial⟩
    exact Members.sorted_of_keys
      (by decide : ["root", "styles", "surfaceId"].Pairwise (· < ·)) (.refl _)

end BeginRendering

namespace SurfaceUpdate

/-- The components fit in a list. -/
def ComponentsFit (room : ℕ) (u : SurfaceUpdate) : Prop :=
  0 < room ∧ ∀ c ∈ u.components, c.IsFinite ∧ c.toJson.Fits (room - 1)

theorem setField_fits {room : ℕ} {k : String} {v : Json} {u w : SurfaceUpdate}
    (fits : v.Fits room) (inside : u.ComponentsFit room) (set : setField k v u = .ok w) :
    w.ComponentsFit room := by
  unfold setField at set
  split at set
  · obtain ⟨s, -, rfl⟩ := Json.map_eq_ok_iff.mp set
    exact inside
  · obtain ⟨cs, found, rfl⟩ := Json.map_eq_ok_iff.mp set
    exact Json.readList_all Component.read_fits fits found
  · cases set
    exact inside

/-- The components are written even if none were read, so the record needs room for a list. -/
theorem read_fits {room : ℕ} (enough : 1 < room) {v : Json} {u : SurfaceUpdate}
    (fits : v.Fits room) (found : read v = .ok u) : u.IsFinite ∧ u.toJson.Fits room := by
  have start : ComponentsFit (room - 1) {} := ⟨Nat.sub_pos_of_lt enough, by simp⟩
  obtain ⟨some, wide, inside⟩ := Json.readRecord_keeps setField_fits start fits found
  have components := Json.array_fits wide fun c member => (inside c member).2
  refine ⟨fun c member => (inside c member).1, some, ?_, components, trivial, trivial⟩
  exact Members.sorted_of_keys
    (by decide : ["components", "surfaceId"].Pairwise (· < ·)) (.refl _)

end SurfaceUpdate

namespace DataModelUpdate

/-- The entries fit in a list. -/
def ContentsFit (room : ℕ) (u : DataModelUpdate) : Prop :=
  u.IsFinite ∧ (Json.array (Entry.listToJson u.contents)).Fits room

theorem setField_fits {room : ℕ} {k : String} {v : Json} {u w : DataModelUpdate}
    (fits : v.Fits room) (inside : u.ContentsFit room) (set : setField k v u = .ok w) :
    w.ContentsFit room := by
  unfold setField at set
  split at set
  · obtain ⟨s, -, rfl⟩ := Json.map_eq_ok_iff.mp set
    exact inside
  · obtain ⟨p, -, rfl⟩ := Json.map_eq_ok_iff.mp set
    exact inside
  · obtain ⟨es, found, rfl⟩ := Json.map_eq_ok_iff.mp set
    cases v with
    | array items =>
      obtain ⟨finite, kept⟩ := Entry.readList_fits items fits.2 es found
      exact ⟨finite, fits.1, kept⟩
    | _ => cases found
  · cases set
    exact inside

theorem read_fits {room : ℕ} (enough : 1 < room) {v : Json} {u : DataModelUpdate}
    (fits : v.Fits room) (found : read v = .ok u) : u.IsFinite ∧ u.toJson.Fits room := by
  have start : ContentsFit (room - 1) {} := by
    simp [ContentsFit, IsFinite, Entry.ListFinite, Entry.listToJson, Json.Fits, Json.ItemsFit, enough]
  obtain ⟨some, finite, contents⟩ := Json.readRecord_keeps setField_fits start fits found
  refine ⟨finite, ?_⟩
  obtain ⟨surfaceId, path, contents'⟩ := u
  cases path with
  | none =>
    refine ⟨some, ?_, contents, trivial, trivial⟩
    exact Members.sorted_of_keys
      (by decide : ["contents", "surfaceId"].Pairwise (· < ·)) (.refl _)
  | some p =>
    refine ⟨some, ?_, contents, trivial, trivial, trivial⟩
    exact Members.sorted_of_keys
      (by decide : ["contents", "path", "surfaceId"].Pairwise (· < ·)) (.refl _)

end DataModelUpdate

theorem DeleteSurface.toJson_fits {room : ℕ} (some : 0 < room) (d : DeleteSurface) :
    d.toJson.Fits room :=
  ⟨some, List.pairwise_singleton _ _, trivial, trivial⟩

namespace Message

/-- The cases of a message and its other members fit. -/
structure CasesFit (room : ℕ) (m : Message) : Prop where
  begins : ∀ b, m.beginRendering = some b → b.IsFinite ∧ b.toJson.Fits room
  updates : ∀ u, m.surfaceUpdate = some u → u.IsFinite ∧ u.toJson.Fits room
  models : ∀ u, m.dataModelUpdate = some u → u.IsFinite ∧ u.toJson.Fits room
  other : ∀ o ∈ m.other.members, o.2.Fits room

theorem setCase_fits {room : ℕ} (enough : 1 < room) {k : String} {v : Json} {m n : Message}
    (fits : v.Fits room) (inside : m.CasesFit room) (set : setCase k v m = .ok n) :
    n.CasesFit room := by
  unfold setCase at set
  split at set
  · obtain ⟨o, found, rfl⟩ := Json.map_eq_ok_iff.mp set
    refine { inside with begins := fun b known => ?_ }
    subst known
    exact BeginRendering.read_fits fits (Json.readOptional_eq_some found)
  · obtain ⟨o, found, rfl⟩ := Json.map_eq_ok_iff.mp set
    refine { inside with updates := fun u known => ?_ }
    subst known
    exact SurfaceUpdate.read_fits enough fits (Json.readOptional_eq_some found)
  · obtain ⟨o, found, rfl⟩ := Json.map_eq_ok_iff.mp set
    refine { inside with models := fun u known => ?_ }
    subst known
    exact DataModelUpdate.read_fits enough fits (Json.readOptional_eq_some found)
  · obtain ⟨o, -, rfl⟩ := Json.map_eq_ok_iff.mp set
    exact { inside with }
  · cases set
    refine { inside with other := fun o member => ?_ }
    rcases Members.mem_put member with here | there
    · rw [here]
      exact fits
    · exact inside.other o there

theorem caseMembers_fit {room : ℕ} (some : 0 < room) {m : Message} (inside : m.CasesFit room) :
    ∀ o ∈ m.caseMembers, o.2.Fits room := by
  simp only [caseMembers, List.forall_mem_append, Json.forall_caseMember]
  exact ⟨⟨⟨fun b known => (inside.begins b known).2, fun u known => (inside.updates u known).2⟩,
    fun u known => (inside.models u known).2⟩, fun d _ => DeleteSurface.toJson_fits some d⟩

/-- A message that was read from a value that fits, with room for its own lists, holds finite numbers
only and is written as a value that fits. -/
theorem ofJson_fits {room : ℕ} (enough : 2 < room) {v : Json} {m : Message} (fits : v.Fits room)
    (read : ofJson v = .ok m) : m.IsFinite ∧ m.toJson.Fits room := by
  cases v with
  | object ms =>
    have start : CasesFit (room - 1) {} := ⟨by simp, by simp, by simp, by simp [Table.empty]⟩
    have inside := Json.fillMembers_keeps (setCase_fits (by omega)) fits.2.2 start
      (fillMembers_of_ofJson read)
    refine ⟨⟨fun b known => (inside.begins b known).1, fun u known => (inside.updates u known).1,
      fun u known => (inside.models u known).1⟩, fits.1, Table.sorted _,
      Json.membersFit_iff.mpr fun o member => ?_⟩
    rcases Members.mem_putAll member with other | case
    · exact inside.other o other
    · exact caseMembers_fit (by omega) inside o case
  | _ => simp [ofJson] at read

end Message

end RemoteSurface
