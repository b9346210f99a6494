import Mathlib.Data.List.DropRight
import Mathlib.Data.List.TakeWhile
import RemoteSurface.Proofs.RefusedHosts
/-!
How the text of a web URL is taken apart. Blanks and controls count for nothing at its ends and in
front of more text they stay, but for tabs and line ends, which count nowhere. The first number sign
and the first question mark behind it end the place; slashes in front of the host count for nothing;
and whatever stands behind the first slash after the host belongs to the path alone.
-/
namespace RemoteSurface

namespace Url

/-- A blank or a control of ASCII. -/
def isEdge (c : Char) : Bool := c.toNat ≤ 0x20

/-- A tab or a part of a line end. -/
def isBreak (c : Char) : Bool := ['\t', '\n', '\r'].contains c

/-- What is left of a text that more text follows. -/
def front (s : List Char) : List Char := (s.dropWhile isEdge).filter fun c => !isBreak c

/-- The blanks and controls at the end of a text. -/
def trailing (s : List Char) : List Char := (s.dropWhile isEdge).rtakeWhile isEdge

theorem isEdge_of_isBreak {c : Char} (breaks : isBreak c = true) : isEdge c = true := by
  simp only [isBreak, List.contains_iff_mem, List.mem_cons, List.not_mem_nil, or_false] at breaks
  obtain rfl | rfl | rfl := breaks <;> rfl

theorem isBreak_of_not_isEdge {c : Char} (plain : isEdge c = false) : isBreak c = false := by
  cases breaks : isBreak c with
  | false => rfl
  | true => exact (isEdge_of_isBreak breaks).symm.trans plain

theorem clean_eq (s : List Char) :
    clean s = ((s.dropWhile isEdge).rdropWhile isEdge).filter fun c => !isBreak c := rfl

theorem front_eq (s : List Char) :
    front s = clean s ++ (trailing s).filter fun c => !isBreak c := by
  rw [clean_eq, trailing, front, ← List.filter_append, List.rdropWhile_append_rtakeWhile]

theorem filter_plain {s : List Char} (plain : ∀ c ∈ s, isEdge c = false) :
    (s.filter fun c => !isBreak c) = s :=
  List.filter_eq_self.mpr fun c member => by rw [isBreak_of_not_isEdge (plain c member)]; rfl

section more

variable (s : List Char) {more : List Char} (filled : more ≠ []) (plain : ∀ c ∈ more, isEdge c = false)
include filled plain

theorem dropWhile_append_plain : (s ++ more).dropWhile isEdge = s.dropWhile isEdge ++ more := by
  obtain ⟨c, others, rfl⟩ := List.exists_cons_of_ne_nil filled
  rw [List.dropWhile_append]
  split
  next none =>
    rw [List.isEmpty_iff.mp none, List.dropWhile_cons_of_neg (by simp [plain c List.mem_cons_self])]
    rfl
  · rfl

theorem trailing_append : trailing (s ++ more) = [] := by
  rw [trailing, dropWhile_append_plain s filled plain, List.rtakeWhile_eq_nil_iff]
  intro some
  rw [List.getLast_append_of_ne_nil _ filled, plain _ (List.getLast_mem filled)]
  exact Bool.false_ne_true

/-- In front of text without blanks and controls only those in front are trimmed. -/
theorem clean_append : clean (s ++ more) = front s ++ more := by
  have whole := front_eq (s ++ more)
  rw [trailing_append s filled plain, List.filter_nil, List.append_nil] at whole
  rw [← whole, front, dropWhile_append_plain s filled plain, List.filter_append, filter_plain plain, front]

end more

theorem mem_front {c : Char} (plain : isEdge c = false) {s : List Char} : c ∈ front s ↔ c ∈ s := by
  have kept : c ∈ s.dropWhile isEdge ↔ c ∈ s := by
    constructor
    · exact (List.dropWhile_suffix _).mem
    · intro member
      rw [← List.takeWhile_append_dropWhile (p := isEdge) (l := s)] at member
      refine (List.mem_append.mp member).resolve_left fun early => ?_
      rw [List.mem_takeWhile_imp early] at plain
      cases plain
  rw [front, List.mem_filter, kept, isBreak_of_not_isEdge plain]
  simp

theorem mem_of_mem_clean {c : Char} {s : List Char} (member : c ∈ clean s) : c ∈ s :=
  (List.dropWhile_suffix _).mem ((List.rdropWhile_prefix isEdge _).mem (List.mem_filter.mp member).1)

theorem cutOff_of_not_mem {sign : Char} {s : List Char} (absent : sign ∉ s) :
    cutOff sign s = (s, none) := by
  rw [cutOff, Text.cut?_eq, if_neg absent]

theorem cutOff_spec (sign : Char) (s : List Char) :
    (cutOff sign s).1 <+: s ∧ ((cutOff sign s).2 = none ↔ sign ∉ s) := by
  rw [cutOff, Text.cut?_eq]
  by_cases member : sign ∈ s
  · rw [if_pos member]
    simp [member, List.takeWhile_prefix]
  · rw [if_neg member]
    simp [member]

/-- A text with a scheme begins with a letter. -/
theorem head_of_cutScheme? {s rest : List Char} {scheme : String}
    (cut : cutScheme? s = some (scheme, rest)) :
    ∃ letter others, s = letter :: others ∧ letter.isAlpha = true := by
  unfold cutScheme? at cut
  split at cut
  next letter more behind found =>
    split at cut
    next fits => exact ⟨letter, _, Text.eq_of_cut? found, (Bool.and_eq_true_iff.mp fits).1⟩
    next => cases cut
  · cases cut

/-- What the text of a URL says of its parts. -/
theorem of_parse {s : String} {u : Url} (parsed : parse s = .ok u) :
    (u.fragment = none ↔ '#' ∉ clean s.toList) ∧
      (u.fragment = none → (u.query = none ↔ '?' ∉ clean s.toList)) ∧
      ∃ letter others, clean s.toList = letter :: others ∧ letter.isAlpha = true := by
  have hash := cutOff_spec '#' (clean s.toList)
  have unhashed : '#' ∉ clean s.toList → cutOff '#' (clean s.toList) = (clean s.toList, none) :=
    cutOff_of_not_mem
  unfold parse at parsed
  generalize cutOff '#' (clean s.toList) = parts at parsed hash unhashed
  obtain ⟨before, fragment⟩ := parts
  have question := cutOff_spec '?' before
  dsimp only at parsed
  generalize cutOff '?' before = parts at parsed question
  obtain ⟨text, query⟩ := parts
  dsimp only at parsed hash question
  split at parsed
  · cases parsed
  next scheme rest cut =>
    obtain ⟨⟨authority, path⟩, -, rfl⟩ := map_eq_ok_iff.mp parsed
    dsimp only
    rw [Option.map_eq_none_iff, Option.map_eq_none_iff]
    refine ⟨hash.2, fun none => ?_, ?_⟩
    · have same := unhashed (hash.2.mp none)
      cases same
      exact question.2
    · obtain ⟨letter, others, rfl, alpha⟩ := head_of_cutScheme? cut
      obtain ⟨behind, shape⟩ := question.1.trans hash.1
      exact ⟨letter, others ++ behind, shape.symm, alpha⟩

/-- The schemes that a base URL may have. -/
def IsWebScheme (scheme : String) : Prop := scheme = "http" ∨ scheme = "https"

theorem IsWebScheme.kind {scheme : String} (web : IsWebScheme scheme) :
    SchemeKind.of scheme = .web := by
  obtain rfl | rfl := web <;> rfl

theorem IsWebScheme.cutScheme? {scheme : String} (web : IsWebScheme scheme) (rest : List Char) :
    cutScheme? (scheme.toList ++ ':' :: rest) = some (scheme, rest) := by
  have absent : ':' ∉ scheme.toList := by
    obtain rfl | rfl := web <;> decide
  rw [Url.cutScheme?, Text.cut?_append absent rest]
  obtain rfl | rfl := web <;> rfl

/-- The text of the host of a web URL, with a user and a port: between the slashes in front of it and the
next slash. -/
def hostText (rest : List Char) : List Char :=
  (rest.dropWhile (isSlash true)).takeWhile fun c => !isSlash true c

/-- The text of the path of a web URL, with the slash in front of it. -/
def pathText (rest : List Char) : List Char :=
  (rest.dropWhile (isSlash true)).dropWhile fun c => !isSlash true c

theorem plain_hostText (rest : List Char) : '\\' ∉ hostText rest := fun member =>
  absurd (List.mem_takeWhile_imp member) (by decide)

theorem head_pathText (rest : List Char) : ∀ c ∈ (pathText rest).head?, isSlash true c = true := by
  intro c first
  have stops := List.head?_dropWhile_not (fun c => !isSlash true c) (rest.dropWhile (isSlash true))
  rw [show List.dropWhile _ _ = pathText rest from rfl, Option.mem_def.mp first] at stops
  simpa using stops

variable {scheme : String} {rest more : List Char} (web : IsWebScheme scheme)
include web

theorem readPlace_eq_ok_iff {s : List Char} {r : Authority × UrlPath} :
    readPlace scheme s = .ok r ↔
      ∃ a, readAuthority scheme (s.takeWhile fun c => !isSlash true c) = .ok (a, []) ∧
        r = (a, readPath .web (s.dropWhile fun c => !isSlash true c)) := by
  have plain : '\\' ∉ s.takeWhile fun c => !isSlash true c := fun member =>
    absurd (List.mem_takeWhile_imp member) (by decide)
  have bothWays : (SchemeKind.web == SchemeKind.web) = true := rfl
  rw [readPlace, web.kind, bothWays, drop_length_takeWhile, map_eq_ok_iff]
  constructor
  · rintro ⟨⟨a, more⟩, read, rfl⟩
    obtain rfl := more_eq_nil plain read
    exact ⟨a, read, rfl⟩
  · rintro ⟨a, read, rfl⟩
    exact ⟨(a, []), read, rfl⟩

/-- A web URL without a query and a fragment is read from the text of its host and the text of its path. -/
theorem parse_eq_ok_iff {s : String} {u : Url} (text : clean s.toList = scheme.toList ++ ':' :: rest)
    (plain : '#' ∉ clean s.toList ∧ '?' ∉ clean s.toList) :
    parse s = .ok u ↔
      ∃ a, readAuthority scheme (hostText rest) = .ok (a, []) ∧
        u = { scheme := scheme, authority := some a, path := readPath .web (pathText rest) } := by
  have place : parse s = (readHierarchy scheme rest).map fun r =>
      { scheme := scheme, authority := r.1, path := r.2 } := by
    rw [parse, cutOff_of_not_mem plain.1]
    dsimp only
    rw [cutOff_of_not_mem plain.2]
    dsimp only
    rw [text, web.cutScheme? rest]
    rfl
  rw [place, readHierarchy, web.kind, map_eq_ok_iff]
  constructor
  · rintro ⟨r, read, rfl⟩
    obtain ⟨found, placed, rfl⟩ := map_eq_ok_iff.mp read
    obtain ⟨a, named, rfl⟩ := (readPlace_eq_ok_iff web).mp placed
    exact ⟨a, named, rfl⟩
  · rintro ⟨a, read, rfl⟩
    refine ⟨(some a, _), map_eq_ok_iff.mpr ⟨(a, _), (readPlace_eq_ok_iff web).mpr ⟨a, read, rfl⟩, rfl⟩, rfl⟩

/-- A web URL has a host. -/
theorem readAuthority_nil {r : Authority × List Char} : readAuthority scheme [] ≠ .ok r := by
  intro read
  obtain ⟨front, place, whole, -, ⟨host, named⟩, -⟩ := of_readAuthority read
  rw [(List.nil_eq_append_iff.mp whole).2, web.kind] at named
  cases named

omit web

theorem hostText_append_pathText (rest : List Char) :
    hostText rest ++ pathText rest = rest.dropWhile (isSlash true) :=
  List.takeWhile_append_dropWhile

theorem hostText_eq_nil_iff : hostText rest = [] ↔ ∀ c ∈ rest, isSlash true c = true := by
  rw [hostText, ← List.dropWhile_eq_nil_iff]
  constructor
  · intro none
    have stops := List.head?_dropWhile_not (isSlash true) rest
    cases place : rest.dropWhile (isSlash true) with
    | nil => rfl
    | cons c place =>
      rw [place] at none stops
      have plain : isSlash true c = false := stops
      rw [List.takeWhile_cons_of_pos (by rw [plain]; rfl)] at none
      cases none
  · intro none
    rw [none]
    rfl

/-- Slashes alone are no host. -/
theorem host_of_readAuthority (web : IsWebScheme scheme) {r : Authority × List Char}
    (slashes : ∀ c ∈ more, isSlash true c = true)
    (read : readAuthority scheme (hostText (rest ++ more)) = .ok r) : hostText rest ≠ [] := by
  intro none
  have all : hostText (rest ++ more) = [] := hostText_eq_nil_iff.mpr
    (List.forall_mem_append.mpr ⟨hostText_eq_nil_iff.mp none, slashes⟩)
  exact readAuthority_nil web (all ▸ read)

/-- Whatever stands behind a path belongs to the path. -/
theorem texts_append_of_path (path : pathText rest ≠ []) (more : List Char) :
    hostText (rest ++ more) = hostText rest ∧ pathText (rest ++ more) = pathText rest ++ more := by
  have place : (rest ++ more).dropWhile (isSlash true) = rest.dropWhile (isSlash true) ++ more := by
    rw [List.dropWhile_append, if_neg]
    rw [← hostText_append_pathText]
    simp [path]
  have stops : ¬ ((rest.dropWhile (isSlash true)).takeWhile fun c => !isSlash true c).length =
      (rest.dropWhile (isSlash true)).length := by
    intro same
    change (hostText rest).length = _ at same
    rw [← hostText_append_pathText, List.length_append] at same
    exact path (List.length_eq_zero_iff.mp (Nat.left_eq_add.mp same))
  have remains : ¬ ((rest.dropWhile (isSlash true)).dropWhile fun c => !isSlash true c).isEmpty = true :=
    mt List.isEmpty_iff.mp path
  constructor
  · rw [hostText, place, List.takeWhile_append, if_neg stops, hostText]
  · rw [pathText, place, List.dropWhile_append, if_neg remains, pathText]

/-- What stands behind a host belongs to the host up to the next slash. -/
theorem texts_append_of_host (path : pathText rest = []) (host : hostText rest ≠ []) (more : List Char) :
    hostText (rest ++ more) = hostText rest ++ more.takeWhile (fun c => !isSlash true c) ∧
      pathText (rest ++ more) = more.dropWhile fun c => !isSlash true c := by
  have whole := hostText_append_pathText rest
  rw [path, List.append_nil] at whole
  have place : (rest ++ more).dropWhile (isSlash true) = hostText rest ++ more := by
    rw [List.dropWhile_append, if_neg (by simp [← whole, host]), whole]
  have plain : ∀ c ∈ hostText rest, (!isSlash true c) = true := fun c => List.mem_takeWhile_imp
  constructor
  · rw [hostText, place, List.takeWhile_append_of_pos plain]
  · rw [pathText, place, List.dropWhile_append_of_pos plain]

/-- What begins with a slash behind a host belongs to the path. -/
theorem texts_append (host : hostText rest ≠ []) (begins : ∀ c ∈ more.head?, isSlash true c = true) :
    hostText (rest ++ more) = hostText rest ∧ pathText (rest ++ more) = pathText rest ++ more := by
  by_cases path : pathText rest = []
  · obtain ⟨hosts, paths⟩ := texts_append_of_host path host more
    cases more with
    | nil => simp
    | cons c more => simp [hosts, paths, path, begins c rfl]
  · exact texts_append_of_path path more

end Url

end RemoteSurface
