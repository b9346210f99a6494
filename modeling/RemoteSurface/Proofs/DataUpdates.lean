import RemoteSurface.Proofs.ReplayConvergence
/-!
Data updates of one surface. Updates whose paths part from one another go in either order, and an
update at the path of an earlier one or above it leaves nothing of that, whatever came between.
Neither depends on what the updates meet: a text, a list or a null in the way of one is gone after
both, in whichever order they come.
-/
namespace RemoteSurface

namespace Surface

theorem withData_comm {u v : DataModelUpdate}
    (uv : ¬ (updatePath u).segments <+: (updatePath v).segments)
    (vu : ¬ (updatePath v).segments <+: (updatePath u).segments) (s : Surface) :
    (s.withData u).withData v = (s.withData v).withData u := by
  simp only [withData, DataModel.replaceAt_comm uv vu]

theorem withData_covered {u v : DataModelUpdate}
    (below : (updatePath v).segments <+: (updatePath u).segments) (s : Surface) :
    (s.withData u).withData v = s.withData v := by
  simp only [withData, DataModel.replaceAt_swallows below]

end Surface

namespace ValidMessage

theorem actOn_covered {u v : DataModelUpdate}
    (below : (Surface.updatePath v).segments <+: (Surface.updatePath u).segments)
    (slot : Option Surface) :
    (dataModelUpdate v).actOn ((dataModelUpdate u).actOn slot) = (dataModelUpdate v).actOn slot := by
  cases slot with
  | none => rfl
  | some s => exact congrArg some (Surface.withData_covered below s)

end ValidMessage

namespace Snapshot

theorem update_update (s : Snapshot) (i k : Nat) (id : String) (first second : Surface → Surface) :
    (s.update i id first).update k id second =
      s.update k id fun surface => second (first surface) := by
  cases found : s.surfaces.find? id with
  | none => simp only [update, found]
  | some held =>
    have again : (s.surfaces.put id ⟨i, first held.surface⟩).find? id =
        some ⟨i, first held.surface⟩ := by
      rw [Table.find?_put, if_pos rfl]
    simp only [update, found, again, Table.put_put]

/-- Two data updates of one surface change it once, under the stamp of the later. -/
theorem reduce_data_data {u v : DataModelUpdate} (together : u.surfaceId = v.surfaceId)
    (s : Snapshot) (i k : Nat) :
    (s.reduce i (.dataModelUpdate u)).reduce k (.dataModelUpdate v) =
      s.update k v.surfaceId fun surface => (surface.withData u).withData v := by
  rw [reduce, reduce, together]
  exact s.update_update i k v.surfaceId (·.withData u) (·.withData v)

theorem contents_update (s : Snapshot) (i k : Nat) (id : String) (change : Surface → Surface) :
    (s.update i id change).contents = (s.update k id change).contents := by
  apply contents_ext
  intro other
  rw [surface?_update, surface?_update]

/-- Whatever messages come between, an update leaves nothing of one that it covers. -/
theorem contents_reduce_covered {u v : DataModelUpdate} (together : u.surfaceId = v.surfaceId)
    (below : (Surface.updatePath v).segments <+: (Surface.updatePath u).segments)
    (s : Snapshot) (i k : Nat) (between : List Stamped) :
    (((s.reduce i (.dataModelUpdate u)).replay between).reduce k (.dataModelUpdate v)).contents =
      ((s.replay between).reduce k (.dataModelUpdate v)).contents := by
  apply contents_ext
  intro id
  rw [surface?_reduce, surface?_reduce, surface?_replay, surface?_replay, surface?_reduce]
  have target : (ValidMessage.dataModelUpdate u).addresses id =
      (ValidMessage.dataModelUpdate v).addresses id := by
    simp only [ValidMessage.addresses, ValidMessage.target?, together]
  rw [target]
  split
  · exact ValidMessage.actAll_forgives (ValidMessage.actOn_covered below _) _
  · rfl

/-- Two data updates of one surface. If neither path starts the other, they lead to the same
snapshot in either order, down to its stamps if the later of them bears the same. If the path of the
second starts that of the first or is the same, the first is lost: the second leads where it would
have led without it, and so it does with any messages between the two. -/
theorem updates_commute_or_cover {u v : DataModelUpdate} (together : u.surfaceId = v.surfaceId) :
    (¬ (Surface.updatePath u).segments <+: (Surface.updatePath v).segments →
      ¬ (Surface.updatePath v).segments <+: (Surface.updatePath u).segments →
      ∀ (s : Snapshot) (i j k l : Nat),
        (s.reduce i (.dataModelUpdate u)).reduce k (.dataModelUpdate v) =
          (s.reduce j (.dataModelUpdate v)).reduce k (.dataModelUpdate u) ∧
        ((s.reduce i (.dataModelUpdate u)).reduce k (.dataModelUpdate v)).contents =
          ((s.reduce j (.dataModelUpdate v)).reduce l (.dataModelUpdate u)).contents) ∧
    ((Surface.updatePath v).segments <+: (Surface.updatePath u).segments →
      ∀ (s : Snapshot) (i k : Nat),
        (s.reduce i (.dataModelUpdate u)).reduce k (.dataModelUpdate v) =
          s.reduce k (.dataModelUpdate v) ∧
        ∀ between : List Stamped,
          (((s.reduce i (.dataModelUpdate u)).replay between).reduce k
              (.dataModelUpdate v)).contents =
            ((s.replay between).reduce k (.dataModelUpdate v)).contents) := by
  constructor
  · intro uv vu s i j k l
    have swapped : (fun surface : Surface => (surface.withData u).withData v) =
        fun surface => (surface.withData v).withData u := by
      funext surface
      exact Surface.withData_comm uv vu surface
    rw [reduce_data_data together, reduce_data_data together.symm, reduce_data_data together.symm,
      swapped, together]
    exact ⟨rfl, contents_update s k l _ _⟩
  · intro below s i k
    have covered : (fun surface : Surface => (surface.withData u).withData v) =
        fun surface => surface.withData v := by
      funext surface
      exact Surface.withData_covered below surface
    refine ⟨?_, contents_reduce_covered together below s i k⟩
    rw [reduce_data_data together, covered]
    rfl

/-- Updates on paths that a text and a list stand in the way of, and one above both. -/
def nameUpdate : DataModelUpdate :=
  { surfaceId := "form", path := some "/user/name/first", contents := [textEntry "latin" "Ada"] }

def tagUpdate : DataModelUpdate :=
  { surfaceId := "form", path := some "/user/tags/0", contents := [textEntry "label" "new"] }

def userUpdate : DataModelUpdate :=
  { surfaceId := "form", path := some "/user", contents := [textEntry "id" "7"] }

def withTextAndList : Snapshot :=
  empty.withSurface 0
    { id := "form", root := "card",
      dataModel := .ofList
        [("user", .map [("name", .text "nobody"), ("tags", .list [.text "old", .null])])] }

theorem updates_through_text_and_list :
    nameUpdate.surfaceId = tagUpdate.surfaceId ∧ nameUpdate.surfaceId = userUpdate.surfaceId ∧
      (withTextAndList.reduce 1 (.dataModelUpdate nameUpdate)).reduce 2
          (.dataModelUpdate tagUpdate) =
        (withTextAndList.reduce 1 (.dataModelUpdate tagUpdate)).reduce 2
          (.dataModelUpdate nameUpdate) ∧
      (((withTextAndList.reduce 1 (.dataModelUpdate nameUpdate)).replay
          [(2, .dataModelUpdate tagUpdate)]).reduce 3 (.dataModelUpdate userUpdate)).contents =
        ((withTextAndList.replay [(2, .dataModelUpdate tagUpdate)]).reduce 3
          (.dataModelUpdate userUpdate)).contents := by
  have commuting : nameUpdate.surfaceId = tagUpdate.surfaceId := rfl
  have covering : nameUpdate.surfaceId = userUpdate.surfaceId := rfl
  have swapped := (updates_commute_or_cover commuting).1 (by decide) (by decide) withTextAndList
    1 1 2 2
  have covered := (updates_commute_or_cover covering).2 (by decide) withTextAndList 1 3
  exact ⟨commuting, covering, swapped.1, covered.2 _⟩

end Snapshot

end RemoteSurface
