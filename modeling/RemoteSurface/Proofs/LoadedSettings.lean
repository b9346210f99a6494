import RemoteSurface.Proofs.RereadRecords
import RemoteSurface.Settings.Load
/-!
What loaded settings are known to be. Wherever they come from, a file, the defaults, or a file with
another base URL in the place of its own, they are without fault, and each of their numbers fits the
word that it is read as.
-/
namespace RemoteSurface

open Json (map_eq_ok_iff bind_eq_ok_iff)

theorem Json.readBelow_lt {bound : Nat} {type : String} {v : Json} {n : Nat}
    (read : readBelow bound type v = .ok n) : n < bound := by
  unfold readBelow at read
  split at read
  next m =>
    split at read
    next within =>
      cases read
      omega
    next => cases read
  next => cases read

namespace StreamSettings

/-- The numbers fit the words that they are read as. -/
structure InWords (s : StreamSettings) : Prop where
  connectTimeout : s.connectTimeoutSeconds < Nat.pow 2 32
  requestTimeout : s.requestTimeoutSeconds < Nat.pow 2 32
  idleTimeout : s.idleTimeoutSeconds < Nat.pow 2 32
  base : s.retryBackoffBaseMs < Nat.pow 2 64
  cap : s.retryBackoffMaxMs < Nat.pow 2 64
  attempts : s.maxReconnectAttempts < Nat.pow 2 32
  reportTimeout : s.reportTimeoutSeconds < Nat.pow 2 32

theorem default_inWords : InWords {} := by
  constructor <;> decide

theorem setField_inWords {k : String} {v : Json} {s t : StreamSettings} (words : s.InWords)
    (set : setField k v s = .ok t) : t.InWords := by
  unfold setField at set
  split at set
  next =>
    obtain ⟨n, read, rfl⟩ := map_eq_ok_iff.mp set
    exact { words with connectTimeout := Json.readBelow_lt read }
  next =>
    obtain ⟨n, read, rfl⟩ := map_eq_ok_iff.mp set
    exact { words with requestTimeout := Json.readBelow_lt read }
  next =>
    obtain ⟨n, read, rfl⟩ := map_eq_ok_iff.mp set
    exact { words with idleTimeout := Json.readBelow_lt read }
  next =>
    obtain ⟨n, read, rfl⟩ := map_eq_ok_iff.mp set
    exact { words with base := Json.readBelow_lt read }
  next =>
    obtain ⟨n, read, rfl⟩ := map_eq_ok_iff.mp set
    exact { words with cap := Json.readBelow_lt read }
  next =>
    obtain ⟨n, read, rfl⟩ := map_eq_ok_iff.mp set
    exact { words with attempts := Json.readBelow_lt read }
  next =>
    obtain ⟨n, read, rfl⟩ := map_eq_ok_iff.mp set
    exact { words with reportTimeout := Json.readBelow_lt read }
  next =>
    cases set
    exact words

theorem read_inWords {v : Json} {s : StreamSettings} (read : StreamSettings.read v = .ok s) :
    s.InWords :=
  Json.readRecord_preserves setField_inWords default_inWords read

end StreamSettings

namespace Settings

theorem setField_inWords {k : String} {v : Json} {s t : Settings} (words : s.stream.InWords)
    (set : setField k v s = .ok t) : t.stream.InWords := by
  unfold setField at set
  split at set
  next =>
    obtain ⟨o, -, rfl⟩ := map_eq_ok_iff.mp set
    exact words
  next =>
    obtain ⟨t, read, rfl⟩ := map_eq_ok_iff.mp set
    exact StreamSettings.read_inWords read
  next =>
    cases set
    exact words

theorem read_inWords {v : Json} {s : Settings} (read : Settings.read v = .ok s) :
    s.stream.InWords :=
  Json.readRecord_preserves (P := fun s : Settings => s.stream.InWords) setField_inWords
    StreamSettings.default_inWords read

theorem checked_eq_ok_iff {s t : Settings} : s.checked = .ok t ↔ s.isValid = true ∧ s = t := by
  unfold checked isValid
  cases s.fault? <;> simp

/-- Settings are without fault where the base URL is one of the web, no waiting time is zero, and
the first delay is neither zero nor beyond the cap. -/
theorem isValid_iff (s : Settings) :
    s.isValid = true ↔
      OriginSettings.isWeb s.origin.baseUrl = true ∧ (∀ t ∈ s.stream.timeouts, t.2 ≠ 0) ∧
        0 < s.stream.retryBackoffBaseMs ∧
        s.stream.retryBackoffBaseMs ≤ s.stream.retryBackoffMaxMs := by
  unfold isValid fault?
  cases web : OriginSettings.isWeb s.origin.baseUrl with
  | false => simp
  | true =>
    cases zero : s.stream.timeouts.find? fun t => t.2 == 0 with
    | some t =>
      have found := List.find?_some zero
      have member := List.mem_of_find?_eq_some zero
      simp only [Bool.not_true, Bool.false_eq_true, if_false, Option.isNone_some, false_iff]
      rintro ⟨-, nonzero, -⟩
      exact nonzero t member (by simpa using found)
    | none =>
      have nonzero : ∀ t ∈ s.stream.timeouts, t.2 ≠ 0 := by
        intro t member
        simpa using List.find?_eq_none.mp zero t member
      simp only [Bool.not_true, Bool.false_eq_true, if_false, true_and]
      rw [and_iff_right nonzero]
      split
      next never => simp [never]
      next some =>
        split
        next beyond => simp; omega
        next within => simp; omega

theorem default_isValid : ({} : Settings).isValid = true := by
  decide

theorem ofContent_eq_ok {content : List UInt8} {s : Settings} (read : ofContent content = .ok s) :
    s.isValid = true ∧ s.stream.InWords := by
  unfold ofContent at read
  split at read
  next => cases read
  next text decoded =>
    split at read
    next t parsed =>
      obtain ⟨valid, rfl⟩ := checked_eq_ok_iff.mp read
      obtain ⟨members, -, filled⟩ := Option.map_eq_some_iff.mp parsed
      exact ⟨valid, read_inWords filled⟩
    next => cases read

theorem ofFile_eq_ok {file : SettingsFile} {s : Settings} (read : ofFile file = .ok s) :
    s.isValid = true ∧ s.stream.InWords := by
  cases file with
  | missing =>
    cases read
    exact ⟨default_isValid, StreamSettings.default_inWords⟩
  | unreadable => cases read
  | bytes content => exact ofContent_eq_ok read

/-- Loading gives settings that are without fault and fit their words, or none. -/
theorem load_eq_ok {file : SettingsFile} {baseUrl : Option String} {s : Settings}
    (loaded : load file baseUrl = .ok s) : s.isValid = true ∧ s.stream.InWords := by
  obtain ⟨t, read, rest⟩ : ∃ t, ofFile file = .ok t ∧ _ = Except.ok s := by
    unfold load at loaded
    cases read : ofFile file with
    | error failure =>
      rw [read] at loaded
      cases loaded
    | ok t =>
      rw [read] at loaded
      exact ⟨t, rfl, loaded⟩
  obtain ⟨valid, words⟩ := ofFile_eq_ok read
  cases baseUrl with
  | none =>
    cases rest
    exact ⟨valid, words⟩
  | some url =>
    obtain ⟨validToo, rfl⟩ := checked_eq_ok_iff.mp rest
    exact ⟨validToo, words⟩

end Settings

end RemoteSurface
