import Mathlib.Data.List.Infix
import RemoteSurface.Proofs.DataNodes
/-!
Reads after writes. What an update has written is found below its path whatever stood on the way,
and where nothing but maps stood on the way, every path beside it finds what it found before.
-/
namespace RemoteSurface

namespace DataModel

theorem resolve?_of_absolute {path : String} (absolute : (DataPath.parse path).absolute = true)
    (m : DataModel) : m.resolve? path = m.fromRoot? (DataPath.parse path).segments := by
  simp only [resolve?, lookup?, absolute, if_true, Option.none_or]

end DataModel

namespace Snapshot

open DataPath

/-- An update of a live surface writes its contents. At the root they become the data of the
surface; at any other path, absolute paths that continue it find in them what follows, and the path
itself finds them as a map. If nothing but maps stood on the way, absolute paths beside it find what
they found before. -/
theorem reads_see_writes (s : Snapshot) (stamp : Nat) (u : DataModelUpdate) {surface : Surface}
    (live : s.surface? u.surfaceId = some surface) :
    ∃ after, (s.reduce stamp (.dataModelUpdate u)).surface? u.surfaceId =
        some { surface with dataModel := after } ∧
      ((Surface.updatePath u).segments = [] → after = Entry.toModel u.contents) ∧
      ((Surface.updatePath u).segments ≠ [] →
        (∀ path below, (parse path).absolute = true →
          (parse path).segments = (Surface.updatePath u).segments ++ below →
          after.resolve? path = (Value.map (Entry.toModel u.contents).members).reach? below) ∧
        ∀ path, (parse path).absolute = true →
          (parse path).segments = (Surface.updatePath u).segments →
          after.resolve? path = some (.map (Entry.toModel u.contents).members)) ∧
      ((∀ front, front <+: (Surface.updatePath u).segments →
          front ≠ (Surface.updatePath u).segments →
          ∀ node, surface.dataModel.node? front = some node → ∃ ms, node = .map ms) →
        ∀ path, (parse path).absolute = true →
          ¬ (Surface.updatePath u).segments <+: (parse path).segments →
          ¬ (parse path).segments <+: (Surface.updatePath u).segments →
          after.resolve? path = surface.dataModel.resolve? path) := by
  generalize written : (Surface.updatePath u).segments = segments
  have below : segments ≠ [] → ∀ path below, (parse path).absolute = true →
      (parse path).segments = segments ++ below →
      (surface.dataModel.replaceAt segments (Entry.toModel u.contents)).resolve? path =
        (Value.map (Entry.toModel u.contents).members).reach? below := by
    intro nonempty path below absolute continues
    rw [DataModel.resolve?_of_absolute absolute, continues]
    exact DataModel.fromRoot?_replaceAt_append nonempty _ _ below
  refine ⟨surface.dataModel.replaceAt segments (Entry.toModel u.contents), ?_, ?_, ?_, ?_⟩
  · rw [surface?_reduce_data stamp live, Surface.withData, written]
  · rintro rfl
    exact DataModel.replaceAt_nil _ _
  · intro nonempty
    refine ⟨below nonempty, ?_⟩
    intro path absolute same
    rw [← List.append_nil segments] at same
    exact below nonempty path [] absolute same
  · intro clear path absolute pq qp
    rw [DataModel.resolve?_of_absolute absolute, DataModel.resolve?_of_absolute absolute]
    exact DataModel.fromRoot?_replaceAt_of_clear pq qp _ clear

/-- A surface with a list beside the path of an update, and nothing at its end. -/
def withListBeside : Surface :=
  { id := "form", root := "card",
    dataModel := .ofList
      [("user", .map [("tags", .list [.text "first", .text "second"])]), ("title", .text "Hello")] }

/-- An update of the user's address. -/
def addressUpdate : DataModelUpdate :=
  { surfaceId := "form", path := some "/user/address",
    contents := [.mk "city" (some "Turin") none none .absent none] }

theorem address_is_read_and_tags_stay :
    (empty.withSurface 0 withListBeside).surface? addressUpdate.surfaceId = some withListBeside ∧
      ∃ after, ((empty.withSurface 0 withListBeside).reduce 1
          (.dataModelUpdate addressUpdate)).surface? addressUpdate.surfaceId =
            some { withListBeside with dataModel := after } ∧
        after.resolve? "/user/address/city" = some (.text "Turin") ∧
        after.resolve? "/user/tags/1" = some (.text "second") := by
  have live : (empty.withSurface 0 withListBeside).surface? addressUpdate.surfaceId =
      some withListBeside := rfl
  obtain ⟨after, there, -, below, beside⟩ :=
    reads_see_writes (empty.withSurface 0 withListBeside) 1 addressUpdate live
  have city := (below (by decide)).1 "/user/address/city" ["city"] (by decide) (by decide)
  have clear : withListBeside.dataModel.Clear (Surface.updatePath addressUpdate).segments := by
    intro front shorter different node found
    have listed : front ∈ [[], ["user"], ["user", "address"]] := (List.mem_inits _ _).mpr shorter
    simp only [List.mem_cons, List.not_mem_nil, or_false] at listed
    rcases listed with rfl | rfl | rfl
    · exact ⟨_, (Option.some.inj found).symm⟩
    · exact ⟨_, (Option.some.inj found).symm⟩
    · exact absurd rfl different
  have tags := beside clear "/user/tags/1" (by decide) (by decide) (by decide)
  exact ⟨live, after, there, city.trans rfl, tags.trans rfl⟩

end Snapshot

end RemoteSurface
