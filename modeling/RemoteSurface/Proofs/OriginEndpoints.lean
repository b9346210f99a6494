import RemoteSurface.Origin
import RemoteSurface.Proofs.FolderPaths
import RemoteSurface.Proofs.FormPairs
import RemoteSurface.Proofs.LoadedSettings
import RemoteSurface.Proofs.WebUrls
import RemoteSurface.Proofs.WrittenPaths
/-!
The endpoints of an origin. A base URL is checked without the blanks at its ends, pasted in front of a
path without the slashes at its end, and only then read. So the endpoints lie under the base, as they
are documented to, unless something at the end of the base is more than slashes: a query or a fragment,
which swallows the path; blanks and controls, which are kept in front of it; or an empty folder.
-/
namespace RemoteSurface

open Url (isEdge isBreak front trailing hostText pathText IsWebScheme)

/-- A URL on the scheme, the host and the port of a base, at a path behind the path of the base. -/
structure Url.IsUnder (u base : Url) (path : String) : Prop where
  scheme : u.scheme = base.scheme
  host : u.authority.map Authority.host = base.authority.map Authority.host
  port : u.authority.map Authority.port = base.authority.map Authority.port
  path : u.path.render = base.path.render.rdropWhile (· == '/') ++ '/' :: path.toList
  fragment : u.fragment = none

namespace Origin

/-- Whether the endpoints of an origin are the documented ones of a base URL. -/
def IsDocumented (o : Origin) (baseUrl : String) : Prop :=
  ∃ base, Url.parse baseUrl = .ok base ∧
    o.eventUrl.IsUnder base "a2ui/event" ∧ o.eventUrl.query = none ∧
    ∀ sessionId : String, (o.streamUrl sessionId).IsUnder base "a2ui/stream" ∧
      (o.streamUrl sessionId).query.map Form.pairs = some [("sessionId".toList, sessionId.toList)]

/-- A base URL that paths can be pasted behind. It has no query and no fragment, nothing at its end is
trimmed without a path and kept in front of one, and the folder that it names, with a slash behind it,
does not end in two. -/
structure TakesPaths (baseUrl : String) : Prop where
  unsigned : '#' ∉ baseUrl.toList ∧ '?' ∉ baseUrl.toList
  ending : ∀ c ∈ trailing baseUrl.toList, isBreak c = true
  folder : ∃ u, endpoint baseUrl "" = .ok u ∧ ¬ ['/', '/'] <:+ u.path.render

/-- A path that is pasted behind a base URL and read as it is. -/
structure IsPasted (path : String) : Prop where
  solid : path.toList.any isEdge = false
  unsigned : '#' ∉ path.toList ∧ '?' ∉ path.toList
  plain : Url.IsPlainPath path.toList

theorem nothing_isPasted : IsPasted "" := ⟨by decide, by decide, by decide, by decide⟩

theorem event_isPasted : IsPasted "a2ui/event" := ⟨by decide, by decide, by decide, by decide⟩

theorem stream_isPasted : IsPasted "a2ui/stream" := ⟨by decide, by decide, by decide, by decide⟩

variable {baseUrl path scheme : String} {rest kept : List Char} {slashes : Nat} {u : Url}

theorem endpoint_eq_ok_iff : endpoint baseUrl path = .ok u ↔
    Url.parse (String.ofList (trimBase baseUrl.toList) ++ "/" ++ path) = .ok u := by
  rw [endpoint]
  cases Url.parse (String.ofList (trimBase baseUrl.toList) ++ "/" ++ path) <;> simp

theorem clean_pasted (pasted : IsPasted path) :
    Url.clean (String.ofList (trimBase baseUrl.toList) ++ "/" ++ path).toList =
      front (trimBase baseUrl.toList) ++ '/' :: path.toList := by
  have text : (String.ofList (trimBase baseUrl.toList) ++ "/" ++ path).toList =
      trimBase baseUrl.toList ++ '/' :: path.toList := by
    simp [String.toList_append]
  rw [text, Url.clean_append _ (List.cons_ne_nil '/' _)]
  have solid := List.any_eq_false.mp pasted.solid
  exact List.forall_mem_cons.mpr ⟨rfl, fun c member => Bool.eq_false_iff.mpr (solid c member)⟩

theorem trimBase_append_slashes (s : List Char) : ∃ n, trimBase s ++ List.replicate n '/' = s := by
  have whole : trimBase s ++ s.rtakeWhile (· == '/') = s := List.rdropWhile_append_rtakeWhile
  have slash : ∀ c ∈ s.rtakeWhile (· == '/'), c = '/' := by
    intro c member
    have same : (c == '/') = true := List.mem_rtakeWhile_imp (p := fun c => c == '/') member
    exact beq_iff_eq.mp same
  rw [List.eq_replicate_of_mem slash] at whole
  exact ⟨_, whole⟩

/-- The text of a base and the text in front of a path differ in their ends only: one has slashes, or
the other has blanks and controls. -/
theorem exists_ends (s : List Char) : ∃ (text kept : List Char) (slashes : Nat),
    front (trimBase s) = text ++ kept ∧ Url.clean s = text ++ List.replicate slashes '/' ∧
      (∀ c ∈ kept, c.toNat ≤ 0x20) ∧ (kept = [] ↔ ∀ c ∈ trailing s, isBreak c = true) ∧
      (kept = [] ∨ slashes = 0) := by
  obtain ⟨n, whole⟩ := trimBase_append_slashes s
  cases n with
  | zero =>
    rw [List.replicate_zero, List.append_nil] at whole
    refine ⟨Url.clean s, (trailing s).filter fun c => !isBreak c, 0, ?_, ?_, ?_, ?_, .inr rfl⟩
    · rw [whole, Url.front_eq]
    · rw [List.replicate_zero, List.append_nil]
    · intro c member
      have small : isEdge c = true := List.mem_rtakeWhile_imp (List.mem_filter.mp member).1
      exact of_decide_eq_true small
    · simp [List.filter_eq_nil_iff]
  | succ n =>
    have filled : List.replicate (n + 1) '/' ≠ [] := List.cons_ne_nil _ _
    have solid : ∀ c ∈ List.replicate (n + 1) '/', isEdge c = false := by
      intro c member
      rw [List.eq_of_mem_replicate member]
      rfl
    refine ⟨front (trimBase s), [], n + 1, ?_, ?_, ?_, ?_, .inl rfl⟩
    · rw [List.append_nil]
    · rw [← Url.clean_append _ filled solid, whole]
    · exact fun c none => absurd none List.not_mem_nil
    · rw [← whole, Url.trailing_append _ filled solid]
      simp

/-- No blank is a letter. -/
theorem isAlpha_of_isBlankChar {c : Char} (blank : Text.isBlankChar c = true) : c.isAlpha = false := by
  rw [Bool.eq_false_iff]
  intro alpha
  have ranges : (decide (65 ≤ c.val ∧ c.val ≤ 90) ||
      decide (97 ≤ c.val) && decide (c.val ≤ 122)) = true := alpha
  simp only [Bool.or_eq_true, Bool.and_eq_true, decide_eq_true_eq, UInt32.le_iff_toNat_le] at ranges
  simp only [Text.isBlankChar, Char.toNat, Bool.or_eq_true, Bool.and_eq_true, decide_eq_true_eq,
    beq_iff_eq] at blank
  have bounds : 65 ≤ c.val.toNat ∧ c.val.toNat ≤ 90 ∨ 97 ≤ c.val.toNat ∧ c.val.toNat ≤ 122 := ranges
  omega

theorem exists_scheme (web : OriginSettings.isWeb baseUrl = true) :
    ∃ scheme blanks rest, IsWebScheme scheme ∧ (∀ c ∈ blanks, Text.isBlankChar c = true) ∧
      baseUrl.toList = blanks ++ scheme.toList ++ ':' :: rest := by
  have split := List.takeWhile_append_dropWhile (p := Text.isBlankChar) (l := baseUrl.toList)
  have blanks : ∀ c ∈ baseUrl.toList.takeWhile Text.isBlankChar, Text.isBlankChar c = true :=
    fun c => List.mem_takeWhile_imp
  have begins (scheme : String) (prefixed : (scheme.toList ++ [':', '/', '/']).isPrefixOf
      (Text.trimChars baseUrl.toList) = true) :
      ∃ rest, baseUrl.toList.dropWhile Text.isBlankChar = scheme.toList ++ ':' :: rest := by
    obtain ⟨rest, shape⟩ := (List.isPrefixOf_iff_prefix.mp prefixed).trans
      (List.rdropWhile_prefix Text.isBlankChar (baseUrl.toList.dropWhile Text.isBlankChar))
    exact ⟨'/' :: '/' :: rest, by rw [← shape]; simp⟩
  obtain plain | secure := Bool.or_eq_true_iff.mp web
  · obtain ⟨rest, shape⟩ := begins "http" plain
    exact ⟨"http", _, rest, .inl rfl, blanks, by rw [List.append_assoc, ← shape, split]⟩
  · obtain ⟨rest, shape⟩ := begins "https" secure
    exact ⟨"https", _, rest, .inr rfl, blanks, by rw [List.append_assoc, ← shape, split]⟩

/-- A base of the web that paths are pasted behind begins with its scheme. -/
theorem front_trimBase (web : OriginSettings.isWeb baseUrl = true) (pasted : IsPasted path)
    (built : endpoint baseUrl path = .ok u) :
    ∃ scheme rest, IsWebScheme scheme ∧
      front (trimBase baseUrl.toList) = scheme.toList ++ ':' :: rest := by
  obtain ⟨scheme, blanks, rest, known, blank, shape⟩ := exists_scheme web
  have trimmed : trimBase baseUrl.toList =
      blanks ++ ((scheme.toList ++ [':']) ++ rest.rdropWhile (· == '/')) := by
    rw [shape, List.append_assoc scheme.toList, ← List.append_assoc]
    exact Text.rdropWhile_append_cons (by decide) (blanks ++ scheme.toList) rest
  have solid : ∀ c ∈ scheme.toList ++ [':'], isEdge c = false := by
    have none : (scheme.toList ++ [':']).any isEdge = false := by obtain rfl | rfl := known <;> decide
    exact fun c member => Bool.eq_false_iff.mpr (List.any_eq_false.mp none c member)
  obtain ⟨-, -, letter, others, head, alpha⟩ := Url.of_parse (endpoint_eq_ok_iff.mp built)
  rw [clean_pasted pasted, trimmed, front, List.dropWhile_append] at head
  have gone : blanks.dropWhile isEdge = [] := by
    by_contra some
    obtain ⟨d, more, left⟩ := List.exists_cons_of_ne_nil some
    have stays := List.head?_dropWhile_not isEdge blanks
    rw [left] at stays head
    have unbroken : isBreak d = false := Url.isBreak_of_not_isEdge stays
    rw [List.isEmpty_cons, if_neg Bool.false_ne_true, List.cons_append, List.filter_cons, unbroken] at head
    have same : d = letter := (List.cons.inj head).1
    have early : d ∈ blanks := (List.dropWhile_suffix isEdge).mem (left ▸ List.mem_cons_self)
    rw [← same, isAlpha_of_isBlankChar (blank d early)] at alpha
    cases alpha
  have kept : ((scheme.toList ++ [':']) ++ rest.rdropWhile (· == '/')).dropWhile isEdge =
      (scheme.toList ++ [':']) ++ rest.rdropWhile (· == '/') := by
    obtain rfl | rfl := known <;> rfl
  refine ⟨scheme, (rest.rdropWhile (· == '/')).filter fun c => !isBreak c, known, ?_⟩
  rw [trimmed, front, List.dropWhile_append, gone, List.isEmpty_nil, if_pos rfl, kept,
    List.filter_append, Url.filter_plain solid, List.append_assoc]
  rfl

/-- How a base URL is read: its own text, and the text that paths are pasted behind. -/
structure Parts (baseUrl scheme : String) (rest kept : List Char) (slashes : Nat) : Prop where
  web : IsWebScheme scheme
  own : Url.clean baseUrl.toList = scheme.toList ++ ':' :: (rest ++ List.replicate slashes '/')
  pasted : front (trimBase baseUrl.toList) = scheme.toList ++ ':' :: (rest ++ kept)
  small : ∀ c ∈ kept, c.toNat ≤ 0x20
  ending : kept = [] ↔ ∀ c ∈ trailing baseUrl.toList, isBreak c = true
  apart : kept = [] ∨ slashes = 0

theorem exists_parts (web : OriginSettings.isWeb baseUrl = true) (pasted : IsPasted path)
    (built : endpoint baseUrl path = .ok u) :
    ∃ scheme rest kept slashes, Parts baseUrl scheme rest kept slashes := by
  obtain ⟨scheme, behind, known, begun⟩ := front_trimBase web pasted built
  obtain ⟨text, kept, slashes, whole, own, small, ending, apart⟩ := exists_ends baseUrl.toList
  have colon : ':' ∉ kept := fun member => absurd (small ':' member) (by decide)
  obtain ⟨more, -, same⟩ | ⟨more, shape, same⟩ := List.append_eq_append_iff.mp (whole.symm.trans begun)
  · exact absurd (same ▸ List.mem_append_right more List.mem_cons_self) colon
  · cases more with
    | nil =>
      rw [List.nil_append] at same
      exact absurd (same ▸ List.mem_cons_self) colon
    | cons c rest =>
      obtain ⟨rfl, rfl⟩ := List.cons.inj same
      refine ⟨scheme, rest, kept, slashes, known, ?_, begun, small, ending, apart⟩
      rw [own, shape, List.append_assoc]
      rfl

theorem mem_clean_pasted (pasted : IsPasted path) {sign : Char} (absent : sign ∉ path.toList)
    (solid : isEdge sign = false) (other : sign ≠ '/') :
    sign ∈ Url.clean (String.ofList (trimBase baseUrl.toList) ++ "/" ++ path).toList ↔
      sign ∈ baseUrl.toList := by
  obtain ⟨n, whole⟩ := trimBase_append_slashes baseUrl.toList
  have kept : sign ∈ trimBase baseUrl.toList ↔ sign ∈ baseUrl.toList := by
    conv_rhs => rw [← whole]
    rw [List.mem_append, or_iff_left fun slash => other (List.eq_of_mem_replicate slash)]
  rw [clean_pasted pasted, List.mem_append, Url.mem_front solid, kept]
  exact or_iff_left fun behind => (List.mem_cons.mp behind).elim other absent

namespace Parts

variable (parts : Parts baseUrl scheme rest kept slashes)
  (unsigned : '#' ∉ baseUrl.toList ∧ '?' ∉ baseUrl.toList)
include parts unsigned

theorem parse_eq_ok_iff : Url.parse baseUrl = .ok u ↔
    ∃ a, Url.readAuthority scheme (hostText (rest ++ List.replicate slashes '/')) = .ok (a, []) ∧
      u = { scheme := scheme, authority := some a,
            path := Url.readPath .web (pathText (rest ++ List.replicate slashes '/')) } :=
  Url.parse_eq_ok_iff parts.web parts.own
    ⟨mt Url.mem_of_mem_clean unsigned.1, mt Url.mem_of_mem_clean unsigned.2⟩

theorem endpoint_eq_ok_iff (pasted : IsPasted path) : endpoint baseUrl path = .ok u ↔
    ∃ a, Url.readAuthority scheme (hostText (rest ++ (kept ++ '/' :: path.toList))) = .ok (a, []) ∧
      u = { scheme := scheme, authority := some a,
            path := Url.readPath .web (pathText (rest ++ (kept ++ '/' :: path.toList))) } := by
  rw [Origin.endpoint_eq_ok_iff]
  refine Url.parse_eq_ok_iff parts.web ?_ ⟨?_, ?_⟩
  · rw [clean_pasted pasted, parts.pasted, List.append_assoc, List.cons_append, List.append_assoc]
  · rw [mem_clean_pasted pasted pasted.unsigned.1 rfl (by decide)]
    exact unsigned.1
  · rw [mem_clean_pasted pasted pasted.unsigned.2 rfl (by decide)]
    exact unsigned.2

/-- A base with a host of its own keeps no blanks and controls, if what is pasted behind it can be read and
stands where the path of the base says. -/
theorem kept_eq_nil (pasted : IsPasted path) {base : Url} (own : Url.parse baseUrl = .ok base)
    (built : endpoint baseUrl path = .ok u) (under : u.IsUnder base path) : kept = [] := by
  by_contra some
  have none : slashes = 0 := parts.apart.resolve_left some
  obtain ⟨c, last⟩ := Option.isSome_iff_exists.mp (List.getLast?_isSome.mpr some)
  obtain ⟨a, named, rfl⟩ := (parts.parse_eq_ok_iff unsigned).mp own
  obtain ⟨b, read, rfl⟩ := (parts.endpoint_eq_ok_iff unsigned pasted).mp built
  have host : hostText rest ≠ [] := Url.host_of_readAuthority parts.web
    (fun c slash => List.eq_of_mem_replicate slash ▸ rfl) named
  by_cases bare : pathText rest = []
  -- without a path in the base the host of the endpoint would end in what is kept
  · have plain : ∀ c ∈ kept, (!Url.isSlash true c) = true := by
      intro c member
      have small := parts.small c member
      have apart (d : Char) (large : 0x20 < d.toNat) : c ≠ d := by
        rintro rfl
        omega
      simp [Url.isSlash, apart '/' (by decide), apart '\\' (by decide)]
    have hosts := (Url.texts_append_of_host bare host (kept ++ '/' :: path.toList)).1
    rw [List.takeWhile_append_of_pos plain, List.takeWhile_cons_of_neg (by decide),
      List.append_nil] at hosts
    refine Url.readAuthority_of_getLast? parts.web.kind (Url.plain_hostText _)
      (parts.small c (List.mem_of_getLast? last)) ?_ read
    rw [hosts, List.getLast?_append, last]
    rfl
  -- with one the folder of the endpoint is named longer than anything in the base
  · obtain ⟨-, paths⟩ := Url.texts_append_of_path bare (kept ++ '/' :: path.toList)
    have begins : ∀ c ∈ (pathText rest ++ kept).head?, Url.isSlash true c = true := by
      rw [List.head?_append_of_ne_nil _ bare]
      exact Url.head_pathText rest
    have longer := Url.length_render_readPath_lt (Url.head_pathText rest) bare some parts.small
    have same := under.path
    rw [paths, ← List.append_assoc, Url.render_readPath_append_cons begins pasted.plain, none,
      List.replicate_zero, List.append_nil] at same
    rw [List.append_cancel_right same] at longer
    exact Nat.not_lt.mpr (List.rdropWhile_prefix _ _).length_le longer

end Parts

/-- The path of the folder that is named behind the host of a base. -/
def folderPath (rest : List Char) : List Char :=
  (UrlPath.rooted (Url.folder (pathText rest)).reverse).render

namespace Parts

variable (parts : Parts baseUrl scheme rest [] slashes)
  (unsigned : '#' ∉ baseUrl.toList ∧ '?' ∉ baseUrl.toList) (host : hostText rest ≠ [])
include parts unsigned host

theorem reads_own : Url.parse baseUrl = .ok u ↔
    ∃ a, Url.readAuthority scheme (hostText rest) = .ok (a, []) ∧
      u = { scheme := scheme, authority := some a,
            path := Url.readPath .web (pathText rest ++ List.replicate slashes '/') } := by
  have begins : ∀ c ∈ (List.replicate slashes '/').head?, Url.isSlash true c = true :=
    fun c first => List.eq_of_mem_replicate (List.mem_of_mem_head? first) ▸ rfl
  obtain ⟨hosts, paths⟩ := Url.texts_append host begins
  rw [parts.parse_eq_ok_iff unsigned, hosts, paths]

theorem reads_endpoint (pasted : IsPasted path) : endpoint baseUrl path = .ok u ↔
    ∃ a, Url.readAuthority scheme (hostText rest) = .ok (a, []) ∧
      u = { scheme := scheme, authority := some a,
            path := Url.readPath .web (pathText rest ++ '/' :: path.toList) } := by
  have begins : ∀ c ∈ ('/' :: path.toList).head?, Url.isSlash true c = true :=
    fun c first => Option.some.inj first ▸ rfl
  obtain ⟨hosts, paths⟩ := Url.texts_append host begins
  rw [parts.endpoint_eq_ok_iff unsigned pasted, List.nil_append, hosts, paths]

/-- Endpoints are on the base, and under its path if no slash ends the folder that it names. -/
theorem isUnder_iff (pasted : IsPasted path) {base : Url} (own : Url.parse baseUrl = .ok base)
    (built : endpoint baseUrl path = .ok u) :
    u.query = none ∧ (u.IsUnder base path ↔ (folderPath rest).rdropWhile (· == '/') = folderPath rest) := by
  obtain ⟨a, named, rfl⟩ := (parts.reads_own unsigned host).mp own
  obtain ⟨b, read, rfl⟩ := (parts.reads_endpoint unsigned host pasted).mp built
  obtain rfl : a = b := by
    rw [named] at read
    exact (Prod.mk.inj (Except.ok.inj read)).1
  have begins := Url.head_pathText rest
  obtain ⟨n, ends⟩ := Url.render_readPath_slashes begins slashes
  have trimmed : (Url.readPath .web (pathText rest ++ List.replicate slashes '/')).render.rdropWhile (· == '/') =
      (folderPath rest).rdropWhile (· == '/') := by
    rw [ends]
    exact Text.rdropWhile_append_of_pos (fun c slash => by rw [List.eq_of_mem_replicate slash]; rfl) _
  have placed := Url.render_readPath_append_cons begins pasted.plain
  refine ⟨rfl, fun under => ?_, fun same => ⟨rfl, rfl, rfl, ?_, rfl⟩⟩
  · have path := under.path
    rw [placed, trimmed] at path
    exact (List.append_cancel_right path).symm
  · dsimp only
    rw [placed, trimmed, same]
    rfl

/-- A folder ends in a slash where a path without a name behind it ends in two. -/
theorem trimmed_folder_iff (opened : endpoint baseUrl "" = .ok u) :
    (folderPath rest).rdropWhile (· == '/') = folderPath rest ↔ ¬ ['/', '/'] <:+ u.path.render := by
  obtain ⟨a, -, rfl⟩ := (parts.reads_endpoint unsigned host nothing_isPasted).mp opened
  have placed : (Url.readPath .web (pathText rest ++ '/' :: "".toList)).render = folderPath rest ++ ['/'] :=
    Url.render_readPath_append_cons (Url.head_pathText rest) nothing_isPasted.plain
  dsimp only
  rw [placed, Text.rdropWhile_eq_self_iff_getLast?]
  obtain none | ⟨init, c, shape⟩ := List.eq_nil_or_concat' (folderPath rest)
  · rw [none]
    decide
  · have last : ['/', '/'] <:+ init ++ [c] ++ ['/'] ↔ '/' = c := by
      rw [← List.reverse_prefix]
      simp [List.cons_prefix_cons]
    rw [shape, last, List.getLast?_concat, Option.any_some, beq_eq_false_iff_ne, ne_comm]

end Parts

theorem of_ofSettings {s : Settings} {o : Origin} (built : ofSettings s = .ok o) :
    endpoint s.origin.baseUrl "a2ui/stream" = .ok o.streamEndpoint ∧
      endpoint s.origin.baseUrl "a2ui/event" = .ok o.eventUrl := by
  rw [ofSettings] at built
  generalize endpoint s.origin.baseUrl "a2ui/stream" = stream at built
  generalize endpoint s.origin.baseUrl "a2ui/event" = event at built
  cases stream with
  | error fault => cases built
  | ok url =>
    obtain ⟨event, rfl, rfl⟩ := Url.map_eq_ok_iff.mp built
    exact ⟨rfl, rfl⟩

/-- A session is streamed from the endpoint, with one pair for a query. -/
theorem streamUrl_of_query {o : Origin} (none : o.streamEndpoint.query = none) (sessionId : String) :
    o.streamUrl sessionId = { o.streamEndpoint with
      query := some (Form.encodePair "sessionId".toList sessionId.toList) } := by
  rw [streamUrl, Url.withPair, none]
  rfl

/-- A session is streamed from a URL that differs from the endpoint in its query. -/
theorem isUnder_streamUrl_iff {o : Origin} {base : Url} (none : o.streamEndpoint.query = none)
    (sessionId : String) :
    (o.streamUrl sessionId).IsUnder base path ↔ o.streamEndpoint.IsUnder base path := by
  rw [streamUrl_of_query none]
  exact ⟨fun ⟨scheme, host, port, path, fragment⟩ => ⟨scheme, host, port, path, fragment⟩,
    fun ⟨scheme, host, port, path, fragment⟩ => ⟨scheme, host, port, path, fragment⟩⟩

/-- The endpoints that an origin is built with are the documented ones of its base URL if and only if
paths can be pasted behind that URL. -/
theorem endpoints_are_documented_iff {s : Settings} {o : Origin} (valid : s.isValid = true)
    (built : ofSettings s = .ok o) :
    o.IsDocumented s.origin.baseUrl ↔ TakesPaths s.origin.baseUrl := by
  obtain ⟨streams, events⟩ := of_ofSettings built
  obtain ⟨web, -⟩ := s.isValid_iff.mp valid
  obtain ⟨scheme, rest, kept, slashes, parts⟩ := exists_parts web event_isPasted events
  constructor
  · rintro ⟨base, own, under, query, -⟩
    obtain ⟨fragment, question, -⟩ := Url.of_parse (endpoint_eq_ok_iff.mp events)
    have unsigned : '#' ∉ s.origin.baseUrl.toList ∧ '?' ∉ s.origin.baseUrl.toList := by
      constructor
      · rw [← mem_clean_pasted event_isPasted event_isPasted.unsigned.1 rfl (by decide)]
        exact fragment.mp under.fragment
      · rw [← mem_clean_pasted event_isPasted event_isPasted.unsigned.2 rfl (by decide)]
        exact (question under.fragment).mp query
    obtain rfl := parts.kept_eq_nil unsigned event_isPasted own events under
    obtain ⟨a, named, rfl⟩ := (parts.parse_eq_ok_iff unsigned).mp own
    have host : hostText rest ≠ [] := Url.host_of_readAuthority parts.web
      (fun c slash => List.eq_of_mem_replicate slash ▸ rfl) named
    obtain ⟨b, read, -⟩ := (parts.reads_endpoint unsigned host event_isPasted).mp events
    have opened := (parts.reads_endpoint unsigned host nothing_isPasted).mpr ⟨b, read, rfl⟩
    have trimmed := ((parts.isUnder_iff unsigned host event_isPasted own events).2).mp under
    exact ⟨unsigned, parts.ending.mp rfl, _, opened,
      (parts.trimmed_folder_iff unsigned host opened).mp trimmed⟩
  · rintro ⟨unsigned, ending, opened, folder, named⟩
    obtain rfl := parts.ending.mpr ending
    obtain ⟨a, read, rfl⟩ := (parts.endpoint_eq_ok_iff unsigned nothing_isPasted).mp folder
    have host : hostText rest ≠ [] := Url.host_of_readAuthority parts.web
      (fun c slash => List.mem_singleton.mp slash ▸ rfl) read
    have trimmed := (parts.trimmed_folder_iff unsigned host folder).mpr named
    obtain ⟨b, read, -⟩ := (parts.reads_endpoint unsigned host event_isPasted).mp events
    have own := (parts.reads_own unsigned host).mpr ⟨b, read, rfl⟩
    obtain ⟨plain, event⟩ := parts.isUnder_iff unsigned host event_isPasted own events
    obtain ⟨empty, stream⟩ := parts.isUnder_iff unsigned host stream_isPasted own streams
    refine ⟨_, own, event.mpr trimmed, plain, fun sessionId => ⟨?_, ?_⟩⟩
    · exact (isUnder_streamUrl_iff empty sessionId).mpr (stream.mpr trimmed)
    · rw [streamUrl_of_query empty, Option.map_some, Form.pairs_encodePair]

/-- Settings for an origin at a base URL, and defaults for the rest. -/
def settingsAt (baseUrl : String) : Settings := { origin := { baseUrl := baseUrl } }

/-- A URL on the host that answers for itself, at the port 9000. -/
def loopback (segments : List String) : Url :=
  { scheme := "http", authority := some { host := .eight [0, 0, 0, 0, 0, 0, 0, 1], port := some 9000 },
    path := .rooted (segments.map String.toList) }

theorem folder_has_documented_endpoints :
    (settingsAt "http://[::1]:9000/api/").isValid = true ∧
      ∃ o, ofSettings (settingsAt "http://[::1]:9000/api/") = .ok o ∧
        o.eventUrl.render = "http://[::1]:9000/api/a2ui/event" ∧
        o.IsDocumented "http://[::1]:9000/api/" := by
  have valid : (settingsAt "http://[::1]:9000/api/").isValid = true := by decide +kernel
  have built : ofSettings (settingsAt "http://[::1]:9000/api/") =
      .ok ⟨loopback ["api", "a2ui", "stream"], loopback ["api", "a2ui", "event"], 30⟩ := rfl
  have ending : (trailing "http://[::1]:9000/api/".toList).all isBreak = true := rfl
  have takes : TakesPaths "http://[::1]:9000/api/" :=
    ⟨by decide, List.all_eq_true.mp ending, loopback ["api", ""], rfl, by decide⟩
  exact ⟨valid, _, built, by decide +kernel, (endpoints_are_documented_iff valid built).mpr takes⟩

/-- A blank at the end of a base URL, which is trimmed to check it, names a folder of its own. -/
theorem blank_behind_base_names_a_folder :
    (settingsAt "http://[::1]:9000/ ").isValid = true ∧
      ∃ o, ofSettings (settingsAt "http://[::1]:9000/ ") = .ok o ∧
        o.eventUrl.render = "http://[::1]:9000/%20/a2ui/event" ∧
        ¬ o.IsDocumented "http://[::1]:9000/ " := by
  have valid : (settingsAt "http://[::1]:9000/ ").isValid = true := by decide +kernel
  have built : ofSettings (settingsAt "http://[::1]:9000/ ") =
      .ok ⟨loopback ["%20", "a2ui", "stream"], loopback ["%20", "a2ui", "event"], 30⟩ := rfl
  refine ⟨valid, _, built, by decide +kernel, ?_⟩
  rintro ⟨base, own, under, -⟩
  have read : Url.parse "http://[::1]:9000/ " = .ok (loopback [""]) := rfl
  obtain rfl : loopback [""] = base := Except.ok.inj (read.symm.trans own)
  have elsewhere : (loopback ["%20", "a2ui", "event"]).path.render ≠
      (loopback [""]).path.render.rdropWhile (· == '/') ++ '/' :: "a2ui/event".toList := by decide
  exact elsewhere under.path

end Origin

end RemoteSurface
