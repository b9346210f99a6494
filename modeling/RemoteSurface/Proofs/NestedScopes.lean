import RemoteSurface.Children
import RemoteSurface.Proofs.DataReads
/-!
Nested scopes. On the way down from the data of a surface, listed children see what is around them,
and a repeated component puts its item in. However far down the way leads, what is seen at its end
is the data at its start with the item of the last repeated component: items further out are gone,
and paths that do not begin at the item find what they find at the start.
-/
namespace RemoteSurface

namespace Value

theorem reach?_eq_some {v found : Value} {segments : List String}
    (reached : v.walk? segments = some found) (solid : found.isNull = false) :
    v.reach? segments = some found := by
  rw [reach?, reached]
  simp [Option.filter, solid]

theorem reach?_eq_none {v : Value} {segments : List String}
    (nothing : ∀ found, v.walk? segments = some found → found.isNull = true) :
    v.reach? segments = none := by
  rw [reach?]
  cases reached : v.walk? segments with
  | none => rfl
  | some found => simp [Option.filter, nothing found reached]

end Value

namespace DataModel

theorem find?_withItem (m : DataModel) (item : Value) (k : String) :
    (m.withItem item).find? k = if k = itemKey then some item else m.find? k :=
  Table.find?_put m itemKey k item

theorem withItem_withItem (m : DataModel) (outer inner : Value) :
    (m.withItem outer).withItem inner = m.withItem inner :=
  Table.put_put m itemKey inner outer

theorem fromRoot?_withItem {segments : List String} (beside : segments.head? ≠ some itemKey)
    (m : DataModel) (item : Value) :
    (m.withItem item).fromRoot? segments = m.fromRoot? segments := by
  cases segments with
  | nil => rfl
  | cons s rest =>
    have other : s ≠ itemKey := by
      rintro rfl
      exact beside rfl
    rw [fromRoot?, fromRoot?, find?_withItem, if_neg other]

/-- A relative path is looked for in the item, and where that has nothing, from the root. -/
theorem resolve?_withItem {path : String} (relative : (DataPath.parse path).absolute = false)
    (beside : (DataPath.parse path).segments.head? ≠ some itemKey) (m : DataModel) (item : Value) :
    (m.withItem item).resolve? path =
      (item.reach? (DataPath.parse path).segments).or
        (m.fromRoot? (DataPath.parse path).segments) := by
  simp only [resolve?, lookup?, relative, Bool.false_eq_true, if_false]
  rw [find?_withItem, if_pos rfl, Option.bind_some, fromRoot?_withItem beside]

/-- Whether two data models differ in their items at most. -/
def SameBeside (m n : DataModel) : Prop := ∀ item, m.withItem item = n.withItem item

end DataModel

namespace Children

/-- One step down: the children at hand, and which of those that they expand to is chosen. -/
structure Choice where
  spec : Children
  index : Nat

def Choice.child? (c : Choice) (m : DataModel) : Option Child := (c.spec.expand m)[c.index]?

/-- What is seen at the end of a way down. Every choice is made in what its forerunner sees. -/
def scope? (m : DataModel) : List Choice → Option DataModel
  | [] => some m
  | c :: rest => (c.child? m).bind fun child => scope? child.model rest

theorem expand_repeated {m : DataModel} {binding : String} {items : List Value}
    (bound : m.resolve? binding = some (.list items)) (id : String) :
    (repeated binding id).expand m = items.map fun item => ⟨id, m.withItem item⟩ := by
  rw [expand, bound]
  rfl

theorem expand_repeated_unbound {m : DataModel} {binding : String}
    (unbound : ∀ items, m.resolve? binding ≠ some (.list items)) (id : String) :
    (repeated binding id).expand m = [] := by
  cases found : m.resolve? binding with
  | none =>
    rw [expand, found]
    rfl
  | some v =>
    cases v with
    | list items => exact absurd found (unbound items)
    | _ =>
      rw [expand, found]
      rfl

theorem model_of_listed {ids : List String} {m : DataModel} {child : Child}
    (member : child ∈ (listed ids).expand m) : child.model = m := by
  obtain ⟨id, -, rfl⟩ := List.mem_map.mp member
  rfl

theorem child?_listed {ids : List String} {i : Nat} {m : DataModel} {child : Child}
    (chosen : (Choice.mk (listed ids) i).child? m = some child) : child.model = m :=
  model_of_listed (List.mem_of_getElem? chosen)

theorem child?_repeated {binding id : String} {i : Nat} {m : DataModel} {child : Child}
    (chosen : (Choice.mk (repeated binding id) i).child? m = some child) :
    ∃ items item, m.resolve? binding = some (.list items) ∧ items[i]? = some item ∧
      child.model = m.withItem item := by
  have expanded : ((repeated binding id).expand m)[i]? = some child := chosen
  by_cases unbound : ∀ items, m.resolve? binding ≠ some (.list items)
  · rw [expand_repeated_unbound unbound] at expanded
    cases expanded
  · obtain ⟨items, known⟩ := not_forall.mp unbound
    have bound := not_not.mp known
    rw [expand_repeated bound, List.getElem?_map] at expanded
    obtain ⟨item, held, rfl⟩ := Option.map_eq_some_iff.mp expanded
    exact ⟨items, item, bound, held, rfl⟩

/-- A step down touches nothing but the item. -/
theorem child?_sameBeside {c : Choice} {m : DataModel} {child : Child}
    (chosen : c.child? m = some child) : child.model.SameBeside m := by
  obtain ⟨spec, i⟩ := c
  intro item
  cases spec with
  | listed ids => rw [child?_listed chosen]
  | repeated binding id =>
    obtain ⟨items, own, -, -, model⟩ := child?_repeated chosen
    rw [model, DataModel.withItem_withItem]

theorem scope?_cons {c : Choice} {m final : DataModel} {rest : List Choice}
    (reached : scope? m (c :: rest) = some final) :
    ∃ child, c.child? m = some child ∧ scope? child.model rest = some final :=
  Option.bind_eq_some_iff.mp reached

theorem scope?_sameBeside {m final : DataModel} {steps : List Choice}
    (reached : scope? m steps = some final) : final.SameBeside m := by
  induction steps generalizing m with
  | nil =>
    cases reached
    exact fun item => rfl
  | cons c rest ih =>
    obtain ⟨child, chosen, below⟩ := scope?_cons reached
    intro item
    rw [ih below item, child?_sameBeside chosen item]

theorem scope?_listed {m final : DataModel} {steps : List Choice}
    (listedOnly : ∀ c ∈ steps, c.spec.isRepeated = false)
    (reached : scope? m steps = some final) : final = m := by
  induction steps generalizing m with
  | nil =>
    cases reached
    rfl
  | cons c rest ih =>
    obtain ⟨child, chosen, below⟩ := scope?_cons reached
    rw [ih (fun d member => listedOnly d (List.mem_cons_of_mem c member)) below]
    obtain ⟨spec, i⟩ := c
    cases spec with
    | listed ids => exact child?_listed chosen
    | repeated binding id => cases listedOnly ⟨repeated binding id, i⟩ List.mem_cons_self

theorem scope?_append (m : DataModel) (steps more : List Choice) :
    scope? m (steps ++ more) = (scope? m steps).bind fun reached => scope? reached more := by
  induction steps generalizing m with
  | nil => rfl
  | cons c rest ih =>
    rw [List.cons_append, scope?, scope?]
    cases c.child? m with
    | none => rfl
    | some child => exact ih child.model

/-- The item chosen at the last repeated component on a way down: behind it there are listed
children only, and its binding is resolved in what is seen in front of it. -/
def LastItem (root : DataModel) (steps : List Choice) (item : Value) : Prop :=
  ∃ front binding id i back outer items,
    steps = front ++ ⟨repeated binding id, i⟩ :: back ∧
    (∀ c ∈ back, c.spec.isRepeated = false) ∧
    scope? root front = some outer ∧
    outer.resolve? binding = some (.list items) ∧
    items[i]? = some item

theorem exists_last_repeated {steps : List Choice}
    (present : ∃ c ∈ steps, c.spec.isRepeated = true) :
    ∃ front binding id i back, steps = front ++ ⟨repeated binding id, i⟩ :: back ∧
      ∀ c ∈ back, c.spec.isRepeated = false := by
  obtain ⟨front, ⟨spec, i⟩, back, whole, isRepeated, last⟩ := exists_last present
  have listedOnly : ∀ c ∈ back, c.spec.isRepeated = false := by
    intro c member
    exact Bool.eq_false_iff.mpr (last c member)
  cases spec with
  | listed ids => cases isRepeated
  | repeated binding id => exact ⟨front, binding, id, i, back, whole, listedOnly⟩

theorem exists_lastItem {root final : DataModel} {steps : List Choice}
    (reached : scope? root steps = some final)
    (present : ∃ c ∈ steps, c.spec.isRepeated = true) : ∃ item, LastItem root steps item := by
  obtain ⟨front, binding, id, i, back, rfl, listedOnly⟩ := exists_last_repeated present
  rw [scope?_append] at reached
  obtain ⟨outer, inFront, onward⟩ := Option.bind_eq_some_iff.mp reached
  obtain ⟨child, chosen, -⟩ := scope?_cons onward
  obtain ⟨items, item, bound, held, -⟩ := child?_repeated chosen
  exact ⟨item, front, binding, id, i, back, outer, items, rfl, listedOnly, inFront, bound, held⟩

/-- What is seen at the end of a way down is the data at its start, with the last item. -/
theorem LastItem.scope_eq {root final : DataModel} {steps : List Choice} {item : Value}
    (last : LastItem root steps item) (reached : scope? root steps = some final) :
    final = root.withItem item := by
  obtain ⟨front, binding, id, i, back, outer, items, rfl, listedOnly, inFront, bound, held⟩ := last
  rw [scope?_append, inFront, Option.bind_some] at reached
  obtain ⟨child, chosen, below⟩ := scope?_cons reached
  obtain ⟨items', item', bound', held', model⟩ := child?_repeated chosen
  have lists : items = items' := Value.list.inj (Option.some.inj (bound.symm.trans bound'))
  subst lists
  have same : item = item' := Option.some.inj (held.symm.trans held')
  -- Behind the item nothing changes, and the item covers whatever there was in its place.
  calc
    final = child.model := scope?_listed listedOnly below
    _ = outer.withItem item := by rw [model, same]
    _ = root.withItem item := scope?_sameBeside inFront item

/-- Listed children see what is around them, each under its id. A repeated component stands once
for every item of the list that its binding leads to, null or not, in the order of the list, and
nowhere if there is no such list. What is seen at the end of a way down with a repeated component on
it is the data at its start with the item chosen at the last of them, and no item further out
counts: absolute paths find what they find at the start, and relative ones what their keys lead to
in that item, unless that is missing or null; then they find what the keys lead to from the root at
the start. Only paths that begin with the key of the item are left out. -/
theorem innermost_item_is_in_scope :
    (∀ (m : DataModel) ids, ((listed ids).expand m).map Child.componentId = ids ∧
      ∀ child ∈ (listed ids).expand m, child.model = m) ∧
    (∀ (m : DataModel) binding id items, m.resolve? binding = some (.list items) →
      ((repeated binding id).expand m).length = items.length ∧
      ∀ (i : Nat) (item : Value), items[i]? = some item →
        ((repeated binding id).expand m)[i]? = some ⟨id, m.withItem item⟩) ∧
    (∀ (m : DataModel) binding id, (∀ items, m.resolve? binding ≠ some (.list items)) →
      (repeated binding id).expand m = []) ∧
    ∀ (root : DataModel) steps final, scope? root steps = some final →
      (∃ c ∈ steps, c.spec.isRepeated = true) →
      (∃ item, LastItem root steps item) ∧
      ∀ item, LastItem root steps item → final = root.withItem item ∧ ∀ path,
        (DataPath.parse path).segments.head? ≠ some DataModel.itemKey →
        ((DataPath.parse path).absolute = true → final.resolve? path = root.resolve? path) ∧
        ((DataPath.parse path).absolute = false →
          (∀ v, item.walk? (DataPath.parse path).segments = some v → v.isNull = false →
            final.resolve? path = some v) ∧
          ((∀ v, item.walk? (DataPath.parse path).segments = some v → v.isNull = true) →
            final.resolve? path = root.fromRoot? (DataPath.parse path).segments)) := by
  refine ⟨?_, ?_, ?_, ?_⟩
  · intro m ids
    refine ⟨?_, fun child => model_of_listed⟩
    rw [expand, List.map_map]
    exact List.map_id ids
  · intro m binding id items bound
    rw [expand_repeated bound]
    refine ⟨List.length_map _, ?_⟩
    intro i item held
    rw [List.getElem?_map, held]
    rfl
  · intro m binding id unbound
    exact expand_repeated_unbound unbound id
  · intro root steps final reached present
    refine ⟨exists_lastItem reached present, ?_⟩
    intro item last
    obtain rfl := last.scope_eq reached
    refine ⟨rfl, ?_⟩
    intro path beside
    refine ⟨?_, ?_⟩
    · intro absolute
      rw [DataModel.resolve?_of_absolute absolute, DataModel.resolve?_of_absolute absolute,
        DataModel.fromRoot?_withItem beside]
    · intro relative
      rw [DataModel.resolve?_withItem relative beside]
      refine ⟨?_, ?_⟩
      · intro v found solid
        rw [Value.reach?_eq_some found solid, Option.some_or]
      · intro nothing
        rw [Value.reach?_eq_none nothing, Option.none_or]

/-- Two groups of rows. A group has a name, and so has the data around it; a row has no name. -/
def groupedRows : DataModel :=
  .ofList
    [("groups", .list [.null, .map
        [("name", .text "group"), ("rows", .list [.null, .map [("label", .text "second")]])]]),
      ("name", .text "all")]

def rowDescent : List Choice :=
  [⟨.listed ["header", "body"], 1⟩, ⟨.repeated "/groups" "group", 1⟩, ⟨.listed ["list"], 0⟩,
    ⟨.repeated "rows" "row", 1⟩, ⟨.listed ["cell"], 0⟩]

def secondRow : Value := .map [("label", .text "second")]

theorem row_shadows_its_group :
    scope? groupedRows rowDescent = some (groupedRows.withItem secondRow) ∧
      (∃ c ∈ rowDescent, c.spec.isRepeated = true) ∧
      LastItem groupedRows rowDescent secondRow ∧
      (groupedRows.withItem secondRow).resolve? "label" = some (.text "second") ∧
      (groupedRows.withItem secondRow).resolve? "name" = some (.text "all") := by
  have reached : scope? groupedRows rowDescent = some (groupedRows.withItem secondRow) := rfl
  have present : ∃ c ∈ rowDescent, c.spec.isRepeated = true :=
    ⟨⟨.repeated "rows" "row", 1⟩, by simp [rowDescent], rfl⟩
  have last : LastItem groupedRows rowDescent secondRow :=
    ⟨rowDescent.take 3, "rows", "row", 1, [⟨.listed ["cell"], 0⟩], _, _, rfl, by decide, rfl, rfl,
      rfl⟩
  obtain ⟨-, seen⟩ :=
    innermost_item_is_in_scope.2.2.2 groupedRows rowDescent _ reached present
  have label := (((seen secondRow last).2 "label" (by decide)).2 (by decide)).1
  have name := (((seen secondRow last).2 "name" (by decide)).2 (by decide)).2
  refine ⟨reached, present, last, label (.text "second") rfl rfl, ?_⟩
  rw [name]
  · rfl
  · intro v found
    cases found

end Children

end RemoteSurface
