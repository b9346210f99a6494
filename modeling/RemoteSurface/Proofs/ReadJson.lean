import RemoteSurface.Proofs.WrittenJson
/-!
What a text can hold. Whatever text is read, the value that comes of it fits: its containers nest
no deeper than a reader allows, its keys ascend, its integers have sixty-four bits and its doubles
are finite. The reader of characters makes sure of the numbers and the reader of values of the
rest.
-/
namespace RemoteSurface

namespace Source

/-- A text as written whose numbers fit, where they have a value. -/
inductive Sound : Source → Prop where
  | null : Sound .null
  | bool (b : Bool) : Sound (.bool b)
  | text (value : Option String) : Sound (.text value)
  | number {value : Option JsonNumber} (fits : ∀ n, value = some n → n.Fits) :
    Sound (.number value)
  | array {items : List Source} (each : ∀ v ∈ items, Sound v) : Sound (.array items)
  | object {members : List (Option String × Source)} (each : ∀ m ∈ members, Sound m.2) :
    Sound (.object members)

def Token.Sound : Token → Prop
  | .scalar v => v.Sound
  | _ => True

def Frame.Sound : Frame → Prop
  | .array back => ∀ v ∈ back, v.Sound
  | .object back => ∀ m ∈ back, m.2.Sound
  | .member back _ => ∀ m ∈ back, m.2.Sound

structure Reader.Sound (r : Reader) : Prop where
  stack : ∀ f ∈ r.stack, f.Sound
  result : ∀ v, r.result = some v → v.Sound

theorem numberValue_fits {negative integral : Bool} {numeral : Double.Numeral} {n : JsonNumber}
    (value : numberValue negative numeral integral = some n) : n.Fits := by
  unfold numberValue at value
  simp only [Nat.pow_eq] at value
  split at value
  next small =>
    cases value
    simp only [Bool.and_eq_true, decide_eq_true_eq] at small
    simp only [JsonNumber.Fits]
    omega
  next =>
    split at value
    next small =>
      cases value
      simp only [Bool.and_eq_true, decide_eq_true_eq] at small
      simp only [JsonNumber.Fits]
      omega
    next =>
      split at value
      next finite =>
        cases value
        exact finite
      next => cases value

theorem numberScalar?_sound {cs : List Char} {v : Source} (scalar : numberScalar? cs = some v) :
    v.Sound := by
  obtain ⟨parts, -, rfl⟩ := Option.map_eq_some_iff.mp scalar
  exact .number fun n value => numberValue_fits value

theorem wordScalar?_sound {cs : List Char} {v : Source} (scalar : wordScalar? cs = some v) :
    v.Sound := by
  unfold wordScalar? at scalar
  split at scalar
  · cases scalar
    exact .null
  · split at scalar
    · cases scalar
      exact .bool true
    · split at scalar
      · cases scalar
        exact .bool false
      · cases scalar

theorem scanBetween_sound {s : Scan} {c : Char} {ts : List Token}
    (scanned : scanBetween c = some (s, ts)) : ∀ t ∈ ts, t.Sound := by
  unfold scanBetween at scanned
  repeat' split at scanned
  all_goals cases scanned
  all_goals simp [Token.Sound]

theorem scanString_sound {s : Scan} {back : List Char} {valued : Bool} {escape : Escape}
    {half : Option ℕ} {c : Char} {ts : List Token}
    (scanned : scanString back valued escape half c = some (s, ts)) : ∀ t ∈ ts, t.Sound := by
  cases escape with
  | none =>
    simp only [scanString] at scanned
    split at scanned
    next closed =>
      cases scanned
      exact List.forall_mem_singleton.mpr (Sound.text _)
    next =>
      repeat' split at scanned
      all_goals cases scanned
      all_goals simp
  | backslash =>
    simp only [scanString] at scanned
    split at scanned
    · cases scanned
      simp
    · obtain ⟨e, -, same⟩ := Option.map_eq_some_iff.mp scanned
      cases same
      simp
  | hex left value =>
    simp only [scanString] at scanned
    obtain ⟨d, -, same⟩ := Option.map_eq_some_iff.mp scanned
    split at same
    all_goals
      cases same
      simp

theorem scanAfter_sound {s : Scan} {finished : Option Source} {c : Char} {ts : List Token}
    (sound : ∀ v, finished = some v → v.Sound) (scanned : scanAfter finished c = some (s, ts)) :
    ∀ t ∈ ts, t.Sound := by
  obtain ⟨v, known, next⟩ := Option.bind_eq_some_iff.mp scanned
  obtain ⟨⟨s', ts'⟩, between, same⟩ := Option.map_eq_some_iff.mp next
  cases same
  exact List.forall_mem_cons.mpr ⟨sound v known, scanBetween_sound between⟩

theorem scanChar_sound {s t : Scan} {c : Char} {ts : List Token}
    (scanned : scanChar s c = some (t, ts)) : ∀ token ∈ ts, token.Sound := by
  cases s with
  | between => exact scanBetween_sound scanned
  | word back =>
    simp only [scanChar] at scanned
    split at scanned
    · cases scanned
      simp
    · exact scanAfter_sound (fun v => wordScalar?_sound) scanned
  | number back =>
    simp only [scanChar] at scanned
    split at scanned
    · cases scanned
      simp
    · exact scanAfter_sound (fun v => numberScalar?_sound) scanned
  | inString back valued escape half => exact scanString_sound scanned

theorem scanEnd_sound {s : Scan} {ts : List Token} (scanned : scanEnd s = some ts) :
    ∀ t ∈ ts, t.Sound := by
  cases s with
  | between =>
    cases scanned
    simp
  | word back =>
    obtain ⟨v, scalar, same⟩ := Option.map_eq_some_iff.mp scanned
    cases same
    simpa [Token.Sound] using wordScalar?_sound scalar
  | number back =>
    obtain ⟨v, scalar, same⟩ := Option.map_eq_some_iff.mp scanned
    cases same
    simpa [Token.Sound] using numberScalar?_sound scalar
  | inString back valued escape half => cases scanned

theorem complete_sound {r r' : Reader} {v : Source} (stack : ∀ f ∈ r.stack, f.Sound)
    (sound : v.Sound) (completed : r.complete v = some r') : r'.Sound := by
  obtain ⟨frames, next, result⟩ := r
  cases frames with
  | nil =>
    cases completed
    exact ⟨by simp, fun w same => Option.some.inj same ▸ sound⟩
  | cons f outer =>
    obtain ⟨inner, others⟩ := List.forall_mem_cons.mp stack
    cases f with
    | array back =>
      cases completed
      exact ⟨List.forall_mem_cons.mpr ⟨List.forall_mem_cons.mpr ⟨sound, inner⟩, others⟩, by simp⟩
    | object back => cases completed
    | member back key =>
      cases completed
      exact ⟨List.forall_mem_cons.mpr ⟨List.forall_mem_cons.mpr ⟨sound, inner⟩, others⟩, by simp⟩

theorem close_sound {r r' : Reader} {t : Token} (sound : r.Sound) (closed : r.close t = some r') :
    r'.Sound := by
  unfold Reader.close at closed
  split at closed
  next back outer known =>
    have stack := sound.stack
    rw [known] at stack
    obtain ⟨inner, others⟩ := List.forall_mem_cons.mp stack
    exact complete_sound others (.array (by simpa [Frame.Sound] using inner)) closed
  next back outer known =>
    have stack := sound.stack
    rw [known] at stack
    obtain ⟨inner, others⟩ := List.forall_mem_cons.mp stack
    exact complete_sound others (.object (by simpa [Frame.Sound] using inner)) closed
  next => cases closed

theorem begin_sound {r r' : Reader} {t : Token} (sound : r.Sound) (token : t.Sound)
    (begun : r.begin t = some r') : r'.Sound := by
  cases t with
  | openArray =>
    cases begun
    exact ⟨List.forall_mem_cons.mpr ⟨by simp [Frame.Sound], sound.stack⟩, by simp⟩
  | openObject =>
    cases begun
    exact ⟨List.forall_mem_cons.mpr ⟨by simp [Frame.Sound], sound.stack⟩, by simp⟩
  | scalar v => exact complete_sound sound.stack token begun
  | _ => cases begun

theorem nameMember_sound {r r' : Reader} {t : Token} (sound : r.Sound)
    (named : r.nameMember t = some r') : r'.Sound := by
  unfold Reader.nameMember at named
  split at named
  next k back outer known =>
    have stack := sound.stack
    rw [known] at stack
    obtain ⟨inner, others⟩ := List.forall_mem_cons.mp stack
    cases named
    exact ⟨List.forall_mem_cons.mpr ⟨inner, others⟩, by simp⟩
  next => cases named

theorem another_sound {r r' : Reader} (sound : r.Sound) (more : r.another = some r') :
    r'.Sound := by
  unfold Reader.another at more
  split at more
  · cases more
    exact ⟨sound.stack, by simp⟩
  · cases more
    exact ⟨sound.stack, by simp⟩
  · cases more

theorem step_sound {r r' : Reader} {t : Token} (sound : r.Sound) (token : t.Sound)
    (stepped : r.step t = some r') : r'.Sound := by
  unfold Reader.step at stepped
  split at stepped
  · exact begin_sound sound token stepped
  · split at stepped
    · exact close_sound sound stepped
    · exact begin_sound sound token stepped
  · split at stepped
    · exact close_sound sound stepped
    · exact nameMember_sound sound stepped
  · exact nameMember_sound sound stepped
  · split at stepped
    · cases stepped
      exact ⟨sound.stack, by simp⟩
    · cases stepped
  · split at stepped
    · exact another_sound sound stepped
    · exact close_sound sound stepped
  · cases stepped

theorem steps_sound {ts : List Token} {r r' : Reader} (sound : r.Sound) (tokens : ∀ t ∈ ts, t.Sound)
    (stepped : ts.foldlM Reader.step r = some r') : r'.Sound := by
  induction ts generalizing r with
  | nil =>
    cases stepped
    exact sound
  | cons t ts ih =>
    rw [List.foldlM_cons] at stepped
    obtain ⟨r₁, first, others⟩ := Option.bind_eq_some_iff.mp stepped
    obtain ⟨here, there⟩ := List.forall_mem_cons.mp tokens
    exact ih (step_sound sound here first) there others

theorem scanUnit_sound {s s' : Scan} {u : Option Char} {ts : List Token}
    (scanned : scanUnit s u = some (s', ts)) : ∀ t ∈ ts, t.Sound := by
  cases u with
  | some c => exact scanChar_sound scanned
  | none =>
    unfold scanUnit at scanned
    simp only at scanned
    split at scanned
    next =>
      cases scanned
      simp
    next => cases scanned

theorem readUnits_sound {s : Scan} {r r' : Reader} {us : List (Option Char)} (sound : r.Sound)
    (read : readUnits s r us = some r') : r'.Sound := by
  induction us generalizing s r with
  | nil =>
    obtain ⟨ts, scanned, stepped⟩ := Option.bind_eq_some_iff.mp read
    exact steps_sound sound (scanEnd_sound scanned) stepped
  | cons u us ih =>
    rw [readUnits] at read
    split at read
    next => cases read
    next t ts scanned =>
      split at read
      next => cases read
      next r₁ stepped => exact ih (steps_sound sound (scanUnit_sound scanned) stepped) read

theorem parse?_sound {cs : List Char} {s : Source} (parsed : parse? cs = some s) : s.Sound := by
  obtain ⟨r, read, result⟩ := Option.bind_eq_some_iff.mp parsed
  have start : Reader.start.Sound := ⟨by simp [Reader.start], by simp [Reader.start]⟩
  exact (readUnits_sound start read).result s result

end Source

namespace Json

theorem membersFit_iff {room : ℕ} {ms : Members Json} :
    MembersFit room ms ↔ ∀ m ∈ ms, m.2.Fits room := by
  induction ms with
  | nil => simp [MembersFit]
  | cons m rest ih => rw [MembersFit, ih, List.forall_mem_cons]

theorem itemsFit_iff {room : ℕ} {items : List Json} :
    ItemsFit room items ↔ ∀ v ∈ items, v.Fits room := by
  induction items with
  | nil => simp [ItemsFit]
  | cons v rest ih => rw [ItemsFit, ih, List.forall_mem_cons]

end Json

namespace Source

mutual

theorem value?_fits {room : ℕ} : (s : Source) → s.Sound → ∀ v, s.value? room = some v → v.Fits room
  | .null, _, v, value => by
    cases value
    trivial
  | .bool b, _, v, value => by
    cases value
    trivial
  | .number n, sound, v, value => by
    obtain ⟨m, known, rfl⟩ := Option.map_eq_some_iff.mp value
    cases sound with
    | number fits => exact fits m known
  | .text t, _, v, value => by
    obtain ⟨m, known, rfl⟩ := Option.map_eq_some_iff.mp value
    trivial
  | .array items, sound, v, value => by
    rw [value?] at value
    split at value
    · cases value
    next some =>
      obtain ⟨vs, values, rfl⟩ := Option.map_eq_some_iff.mp value
      cases sound with
      | array each => exact ⟨Nat.pos_of_ne_zero some, itemValues?_fits items each vs values⟩
  | .object members, sound, v, value => by
    rw [value?] at value
    split at value
    · cases value
    next some =>
      obtain ⟨ms, values, rfl⟩ := Option.map_eq_some_iff.mp value
      cases sound with
      | object each =>
        have inside := Json.membersFit_iff.mp (memberValues?_fits members each ms values)
        refine ⟨Nat.pos_of_ne_zero some, Members.sorted_nil.putAll ms, Json.membersFit_iff.mpr ?_⟩
        intro m member
        exact inside m (Members.mem_putAll_nil member)

theorem itemValues?_fits {room : ℕ} : (items : List Source) → (∀ v ∈ items, v.Sound) →
    ∀ vs, itemValues? room items = some vs → Json.ItemsFit room vs
  | [], _, vs, values => by
    cases values
    trivial
  | v :: rest, each, vs, values => by
    rw [itemValues?] at values
    split at values
    next w ws first others =>
      cases values
      obtain ⟨here, there⟩ := List.forall_mem_cons.mp each
      exact ⟨value?_fits v here w first, itemValues?_fits rest there ws others⟩
    next => cases values

theorem memberValues?_fits {room : ℕ} : (members : List (Option String × Source)) →
    (∀ m ∈ members, m.2.Sound) → ∀ ms, memberValues? room members = some ms →
      Json.MembersFit room ms
  | [], _, ms, values => by
    cases values
    trivial
  | (none, v) :: rest, _, ms, values => by
    simp [memberValues?] at values
  | (some k, v) :: rest, each, ms, values => by
    simp only [memberValues?] at values
    split at values
    next key w ws _ first others =>
      cases values
      obtain ⟨here, there⟩ := List.forall_mem_cons.mp each
      exact ⟨value?_fits v here w first, memberValues?_fits rest there ws others⟩
    next => cases values

end

end Source

/-- Whatever value is read from a text fits in one. -/
theorem Json.fits_of_parse? {text : String} {v : Json} (parsed : Json.parse? text = some v) :
    v.Fits Source.maxDepth := by
  obtain ⟨s, written, value⟩ := Option.bind_eq_some_iff.mp parsed
  exact Source.value?_fits s (Source.parse?_sound written) v value

end RemoteSurface
