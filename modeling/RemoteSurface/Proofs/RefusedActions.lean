import Mathlib.Data.List.Nodup
import RemoteSurface.Action.Dispatch
import RemoteSurface.Proofs.TextEncoding
/-!
Refused actions. A body that says that an action is not accepted turns it down as long as the body
can be read as a verdict. Where it cannot, because a field stands twice or the reason is no text,
the status alone decides, and a successful one passes for an acceptance.
-/
namespace RemoteSurface

namespace Source

/-- The members under known keys, in the order written. -/
def knownOf (fields : List String) (members : List (Option String × Source)) :
    List (String × Source) :=
  members.filterMap fun m => m.1.bind fun k => if fields.contains k then some (k, m.2) else none

theorem mem_knownOf {fields : List String} {members : List (Option String × Source)} {k : String}
    {v : Source} : (k, v) ∈ knownOf fields members ↔ k ∈ fields ∧ (some k, v) ∈ members := by
  rw [knownOf, List.mem_filterMap]
  constructor
  · rintro ⟨⟨key, w⟩, among, found⟩
    obtain ⟨j, rfl, kept⟩ := Option.bind_eq_some_iff.mp found
    split at kept
    next known =>
      obtain ⟨rfl, rfl⟩ := Prod.mk.inj (Option.some.inj kept)
      exact ⟨List.contains_iff_mem.mp known, among⟩
    next => cases kept
  · rintro ⟨known, among⟩
    exact ⟨(some k, v), among, by simp [known]⟩

theorem knownOf_cons (fields : List String) (k : String) (v : Source)
    (members : List (Option String × Source)) :
    knownOf fields ((some k, v) :: members) =
      if fields.contains k then (k, v) :: knownOf fields members else knownOf fields members := by
  rw [knownOf, List.filterMap_cons, Option.bind_some]
  cases fields.contains k <;> rfl

/-- The members under known keys are read exactly if every key has a value and no known key stands
twice. -/
theorem knownMembers?_eq_some_iff {fields seen : List String}
    {members : List (Option String × Source)} {ms : List (String × Source)} :
    knownMembers? fields seen members = some ms ↔
      (∀ m ∈ members, m.1.isSome = true) ∧ ((knownOf fields members).map Prod.fst).Nodup ∧
        (∀ m ∈ knownOf fields members, m.1 ∉ seen) ∧ ms = knownOf fields members := by
  induction members generalizing seen ms with
  | nil =>
    have nothing : knownOf fields [] = [] := rfl
    rw [knownMembers?, nothing, Option.some.injEq, eq_comm]
    simp
  | cons m rest ih =>
    obtain ⟨key, v⟩ := m
    cases key with
    | none => simp [knownMembers?]
    | some k =>
      rw [knownMembers?, knownOf_cons]
      cases known : fields.contains k with
      | false => simp [ih]
      | true =>
        cases repeated : seen.contains k with
        | true =>
          have member : k ∈ seen := List.contains_iff_mem.mp repeated
          simp [member]
        | false =>
          have fresh : k ∉ seen := fun member =>
            Bool.false_ne_true (repeated.symm.trans (List.contains_iff_mem.mpr member))
          simp only [Bool.not_true, Bool.false_eq_true, if_false, if_true,
            Option.map_eq_some_iff, ih, List.map_cons, List.nodup_cons, List.mem_cons,
            forall_eq_or_imp, Option.isSome_some, true_and, List.mem_map, not_or, fresh,
            not_false_eq_true]
          constructor
          · rintro ⟨ms', ⟨keyed, once, apart, rfl⟩, rfl⟩
            refine ⟨keyed, ⟨?_, once⟩, fun m among => (apart m among).2, rfl⟩
            rintro ⟨m, among, same⟩
            exact (apart m among).1 same
          · rintro ⟨keyed, ⟨alone, once⟩, apart, rfl⟩
            refine ⟨_, ⟨keyed, once, ?_, rfl⟩, rfl⟩
            intro m among
            exact ⟨fun same => alone ⟨m, among, same⟩, apart m among⟩

end Source

namespace ActionResult

open Source

/-- What the bytes of a body write, if they are a JSON text. -/
def written? (bytes : List UInt8) : Option Source := (Text.decode? bytes).bind Source.parse?

/-- Whether a reader of verdicts can read the fields of an object: every key has a value, neither
field stands twice, and a reason is null or a text that has a value. -/
structure Legible (members : List (Option String × Source)) : Prop where
  keyed : ∀ m ∈ members, m.1.isSome = true
  once : ((knownOf verdictNames members).map Prod.fst).Nodup
  reasoned : ∀ v, (some "reason", v) ∈ members → v = .null ∨ ∃ s, v = .text (some s)

/-- Fields of a verdict, none of them twice, of which one says whether the action is accepted: there
is room for a reason before it or after it, and for nothing else. -/
theorem eq_of_accepted_mem {ms : List (String × Source)} (names : ∀ m ∈ ms, m.1 ∈ verdictNames)
    (once : (ms.map Prod.fst).Nodup) {v : Source} (accepted : ("accepted", v) ∈ ms) :
    ms = [("accepted", v)] ∨
      ∃ w, ms = [("accepted", v), ("reason", w)] ∨ ms = [("reason", w), ("accepted", v)] := by
  obtain ⟨before, after, rfl⟩ := List.append_of_mem accepted
  have apart : ("accepted" :: (before ++ after).map Prod.fst).Nodup := by
    rw [List.map_append, List.map_cons, List.nodup_middle, ← List.map_append] at once
    exact once
  have others : ∀ m ∈ before ++ after, m.1 = "reason" := by
    intro m among
    have different : m.1 ≠ "accepted" := by
      intro same
      exact (List.nodup_cons.mp apart).1 (List.mem_map.mpr ⟨m, among, same⟩)
    have named : m.1 ∈ verdictNames := by
      apply names
      simp only [List.mem_append, List.mem_cons] at among ⊢
      exact among.imp id Or.inr
    simpa [verdictNames, different] using named
  have few : (before ++ after).length ≤ 1 := by
    have keys : (before ++ after).map Prod.fst = List.replicate (before ++ after).length "reason" := by
      apply List.eq_replicate_iff.mpr
      refine ⟨List.length_map _, ?_⟩
      intro key listed
      obtain ⟨m, among, rfl⟩ := List.mem_map.mp listed
      exact others m among
    have distinct := (List.nodup_cons.mp apart).2
    rwa [keys, List.nodup_replicate] at distinct
  cases before with
  | nil =>
    cases after with
    | nil => exact Or.inl rfl
    | cons m rest =>
      obtain rfl : rest = [] := List.eq_nil_of_length_eq_zero (Nat.le_zero.mp (Nat.le_of_succ_le_succ few))
      obtain ⟨key, w⟩ := m
      obtain rfl : key = "reason" := others (key, w) List.mem_cons_self
      exact Or.inr ⟨w, Or.inl rfl⟩
  | cons m rest =>
    rw [List.cons_append, List.length_cons] at few
    obtain ⟨rfl, rfl⟩ : rest = [] ∧ after = [] := List.append_eq_nil_iff.mp
      (List.eq_nil_of_length_eq_zero (Nat.le_zero.mp (Nat.le_of_succ_le_succ few)))
    obtain ⟨key, w⟩ := m
    obtain rfl : key = "reason" := others (key, w) List.mem_cons_self
    exact Or.inr ⟨w, Or.inr rfl⟩

/-- What stands under the reason decides whether a refusal can be read. -/
def reasonIn? : Source → Option (Option String)
  | .null => some none
  | .text (some s) => some (some s)
  | _ => none

theorem foldlM_setVerdict_refused (w : Source) :
    [("accepted", Source.bool false), ("reason", w)].foldlM setVerdict {} =
        (reasonIn? w).map (fun reason => ⟨some false, reason⟩) ∧
      [("reason", w), ("accepted", Source.bool false)].foldlM setVerdict {} =
        (reasonIn? w).map (fun reason => ⟨some false, reason⟩) := by
  cases w with
  | text value => cases value <;> exact ⟨rfl, rfl⟩
  | _ => exact ⟨rfl, rfl⟩

/-- A refusal with a reason that can be read is a verdict; with any other reason it is none. -/
theorem ofSource?_of_known {members : List (Option String × Source)} {ms : List (String × Source)}
    (read : knownMembers? verdictNames [] members = some ms) {w : Source}
    (shape : ms = [("accepted", .bool false), ("reason", w)] ∨
      ms = [("reason", w), ("accepted", .bool false)]) :
    ofSource? (.object members) = (reasonIn? w).map fun reason => ⟨false, reason⟩ := by
  obtain ⟨before, after⟩ := foldlM_setVerdict_refused w
  rw [ofSource?, fields?, read, Option.bind_some]
  rcases shape with rfl | rfl
  · rw [before]
    cases reasonIn? w <;> rfl
  · rw [after]
    cases reasonIn? w <;> rfl

/-- A refusal that can be read is a verdict with the reason it gives, and no other is one. -/
theorem ofSource?_refused {members : List (Option String × Source)}
    (refused : (some "accepted", .bool false) ∈ members) :
    (Legible members ∧ ∃ reason, ofSource? (.object members) = some ⟨false, reason⟩ ∧
        ∀ s, reason = some s ↔ (some "reason", .text (some s)) ∈ members) ∨
      ¬ Legible members ∧ ofSource? (.object members) = none := by
  cases read : knownMembers? verdictNames [] members with
  | none =>
    refine Or.inr ⟨?_, by rw [ofSource?, fields?, read]; rfl⟩
    intro legible
    have found := knownMembers?_eq_some_iff.mpr
      ⟨legible.keyed, legible.once, fun m _ => List.not_mem_nil, rfl⟩
    rw [read] at found
    cases found
  | some ms =>
    obtain ⟨keyed, once, -, known⟩ := knownMembers?_eq_some_iff.mp read
    have accepted : ("accepted", Source.bool false) ∈ ms := by
      rw [known, mem_knownOf]
      exact ⟨by decide, refused⟩
    have names : ∀ m ∈ ms, m.1 ∈ verdictNames := by
      rintro ⟨k, v⟩ among
      rw [known, mem_knownOf] at among
      exact among.1
    have reasons : ∀ v, (some "reason", v) ∈ members ↔ ("reason", v) ∈ ms := by
      intro v
      rw [known, mem_knownOf]
      exact (and_iff_right (by decide)).symm
    rcases eq_of_accepted_mem names (known ▸ once) accepted with alone | ⟨w, shape⟩
    · refine Or.inl ⟨⟨keyed, once, ?_⟩, none, ?_, ?_⟩
      · intro v stands
        rw [reasons, alone] at stands
        simp at stands
      · rw [ofSource?, fields?, read, alone]
        rfl
      · intro s
        rw [reasons, alone]
        simp
    · have only : ∀ v, (some "reason", v) ∈ members ↔ v = w := by
        intro v
        rw [reasons]
        rcases shape with rfl | rfl <;> simp
      have verdict := ofSource?_of_known read shape
      cases w with
      | null =>
        refine Or.inl ⟨⟨keyed, once, fun v stands => Or.inl ((only v).mp stands)⟩, none, verdict, ?_⟩
        intro s
        simp [only]
      | text value =>
        cases value with
        | some reason =>
          refine Or.inl ⟨⟨keyed, once, fun v stands => Or.inr ⟨reason, (only v).mp stands⟩⟩,
            some reason, verdict, ?_⟩
          intro s
          simp [only, eq_comm]
        | none =>
          refine Or.inr ⟨fun legible => ?_, verdict⟩
          simpa using legible.reasoned _ ((only _).mpr rfl)
      | _ =>
        refine Or.inr ⟨fun legible => ?_, verdict⟩
        simpa using legible.reasoned _ ((only _).mpr rfl)

theorem ofBytes?_of_written {bytes : List UInt8} {source : Source}
    (body : written? bytes = some source) : ofBytes? bytes = ofSource? source := by
  obtain ⟨cs, decoded, parsed⟩ := Option.bind_eq_some_iff.mp body
  obtain rfl := (Text.decode?_eq_some_iff bytes cs).mp decoded
  have read : parseUnits? (Text.units (Text.encode cs)) = some source := by
    rw [Text.units_encode]
    exact parsed
  rw [ofBytes?, read]
  rfl

/-- A byte that belongs to no character is not in the way of a refusal, unless it stands in it. -/
example : ofBytes? (Text.encode "\x7b\"note\":\"".toList ++ 0xFF ::
    Text.encode "\",\"accepted\":false\x7d".toList) = some ⟨false, none⟩ := by decide

end ActionResult

namespace Action

open ActionResult

theorem dispatch_of_valid {a : Action} (valid : a.isValid = true) (reply : Reply) :
    a.dispatch reply = .ofReply reply := by
  rw [dispatch, if_pos valid]

/-- An action that is sent and refused by an object in the body counts as accepted exactly if the
body comes whole, the status is a success, and the object cannot be read as a verdict. A refusal
that comes whole and can be read is passed on with its reason. -/
theorem refusals_are_passed_on_iff_legible {a : Action} (valid : a.isValid = true) (status : Nat)
    (contentType : Option (List UInt8)) {chunks : List (List UInt8)} (ending : Ending)
    {members : List (Option String × Source)}
    (body : written? chunks.flatten = some (.object members))
    (refused : (some "accepted", .bool false) ∈ members) :
    ((a.dispatch (.answered status contentType ⟨chunks, ending⟩)).accepted = true ↔
        ending = .finished ∧ Reply.isSuccess status = true ∧ ¬ Legible members) ∧
      (ending = .finished → Legible members →
        ∃ reason, a.dispatch (.answered status contentType ⟨chunks, ending⟩) = ⟨false, reason⟩ ∧
          ∀ s, reason = some s ↔ (some "reason", .text (some s)) ∈ members) := by
  rw [dispatch_of_valid valid]
  cases ending with
  | broken => simp [ofReply, rejected]
  | silent => simp [ofReply, rejected]
  | finished =>
    have read := ofBytes?_of_written body
    rcases ofSource?_refused refused with ⟨legible, reason, verdict, given⟩ | ⟨illegible, nothing⟩
    · rw [verdict] at read
      simp only [ofReply, read]
      exact ⟨by simp [legible], fun _ _ => ⟨reason, rfl, given⟩⟩
    · rw [nothing] at read
      simp only [ofReply, read]
      refine ⟨?_, fun _ legible => absurd legible illegible⟩
      cases Reply.isSuccess status <;> simp [illegible, rejected]

def submit : Action := { name := "submit", surfaceId := some "form" }

/-- A refusal with a text as its reason, in two chunks. -/
def busyChunks : List (List UInt8) :=
  [Text.encode "\x7b\"reason\":\"bu".toList, Text.encode "sy\",\"accepted\":false\x7d".toList]

def busyMembers : List (Option String × Source) :=
  [(some "reason", .text (some "busy")), (some "accepted", .bool false)]

theorem refusal_with_text_is_passed_on :
    submit.isValid = true ∧ written? busyChunks.flatten = some (.object busyMembers) ∧
      submit.dispatch (.answered 200 none ⟨busyChunks, .finished⟩) = ⟨false, some "busy"⟩ := by
  have valid : submit.isValid = true := by decide
  have body : written? busyChunks.flatten = some (.object busyMembers) := rfl
  have refused : (some "accepted", Source.bool false) ∈ busyMembers := by simp [busyMembers]
  have legible : Legible busyMembers := by
    refine ⟨by simp [busyMembers], by decide, ?_⟩
    intro v stands
    have text : v = .text (some "busy") := by simpa [busyMembers] using stands
    exact Or.inr ⟨"busy", text⟩
  obtain ⟨reason, verdict, given⟩ :=
    (refusals_are_passed_on_iff_legible valid 200 none .finished body refused).2 rfl legible
  obtain rfl := (given "busy").mpr List.mem_cons_self
  exact ⟨valid, body, verdict⟩

/-- A refusal with a number as its reason. -/
def numberedChunks : List (List UInt8) :=
  [Text.encode "\x7b\"accepted\":false,\"reason\":7\x7d".toList]

theorem refusal_with_number_is_taken_for_acceptance :
    submit.isValid = true ∧
      written? numberedChunks.flatten = some (.object
        [(some "accepted", .bool false), (some "reason", .number (some (.whole 7)))]) ∧
      submit.dispatch (.answered 200 none ⟨numberedChunks, .finished⟩) = ⟨true, none⟩ :=
  ⟨by decide, rfl, by decide⟩

end Action

end RemoteSurface
