import Mathlib.Data.List.Basic
import RemoteSurface.Proofs.TextEncoding
import RemoteSurface.Proofs.TextPieces
import RemoteSurface.Url.Parse
/-!
Paths under a folder. Every segment but the last of a path is walked through as a folder, and the last
one is either named or, if it is a dot or two, walked through as well. So what is appended to a path
behind a slash stands behind the folder that the path leads to, whatever the path itself names.
-/
namespace RemoteSurface

namespace Percent

theorem encode_ne_nil (set : Char → Bool) {cs : List Char} (filled : cs ≠ []) : encode set cs ≠ [] := by
  obtain ⟨c, cs, rfl⟩ := List.exists_cons_of_ne_nil filled
  obtain ⟨b, bytes, shape⟩ := List.exists_cons_of_ne_nil (Text.Utf8.utf8EncodeChar_ne_nil c)
  refine List.append_ne_nil_of_left_ne_nil ?_ _
  dsimp only
  split
  · rw [escapeChar, shape]
    exact List.cons_ne_nil _ _
  · exact List.cons_ne_nil c []

end Percent

namespace UrlPath

theorem render_append (front back : List (List Char)) :
    (rooted (front ++ back)).render = (rooted front).render ++ (rooted back).render :=
  List.flatMap_append

theorem render_singleton (s : List Char) : (rooted [s]).render = '/' :: s := List.flatMap_singleton _ _

theorem render_pieces (s : List Char) : (rooted (Text.pieces '/' s)).render = '/' :: s := by
  obtain ⟨init, last, shape⟩ :=
    (List.eq_nil_or_concat' (Text.pieces '/' s)).resolve_left (Text.pieces_ne_nil '/' s)
  have joined := Text.cons_joinWith_concat '/' init last
  rw [← shape, Text.joinWith_pieces] at joined
  rw [joined, shape, render_append, render_singleton]
  rfl

end UrlPath

namespace Segments

/-- The place after one more folder. -/
def enter (back : List (List Char)) (s : List Char) : List (List Char) :=
  if isDoubleDot s then up back
  else if isDot s then back
  else Percent.encode Percent.inPath s :: back

/-- Whether a segment is written as it is. -/
def isPlain (s : List Char) : Bool :=
  !isDoubleDot s && !isDot s && Percent.encode Percent.inPath s == s

theorem enter_plain {s : List Char} (plain : isPlain s = true) (back : List (List Char)) :
    enter back s = s :: back := by
  simp only [isPlain, Bool.and_eq_true, Bool.not_eq_true', beq_iff_eq] at plain
  simp [enter, plain]

theorem resolve_cons_of_ne_nil (back : List (List Char)) (s : List Char) {rest : List (List Char)}
    (more : rest ≠ []) : resolve back (s :: rest) = resolve (enter back s) rest := by
  rw [resolve, enter]
  · split
    · rfl
    split
    · rfl
    · rfl
  · exact more

theorem resolve_append (back folders : List (List Char)) {rest : List (List Char)}
    (more : rest ≠ []) : resolve back (folders ++ rest) = resolve (folders.foldl enter back) rest := by
  induction folders generalizing back with
  | nil => rfl
  | cons s folders ih =>
    rw [List.cons_append, resolve_cons_of_ne_nil back s (List.append_ne_nil_of_right_ne_nil _ more), ih]
    rfl

/-- The last segment is entered; if it is a dot or two, nothing is named in the place it leads to. -/
theorem resolve_singleton (back : List (List Char)) (s : List Char) :
    resolve back [s] =
      (enter back s).reverse ++ if isDoubleDot s || isDot s then [[]] else [] := by
  rw [resolve, enter]
  cases isDoubleDot s <;> cases isDot s <;> simp

theorem resolve_plain (back : List (List Char)) {segments : List (List Char)} (nonempty : segments ≠ [])
    (plain : ∀ s ∈ segments, isPlain s = true) :
    resolve back segments = back.reverse ++ segments := by
  induction segments generalizing back with
  | nil => exact absurd rfl nonempty
  | cons s segments ih =>
    have own := plain s List.mem_cons_self
    cases segments with
    | nil =>
      have named : (isDoubleDot s || isDot s) = false := by
        simp only [isPlain, Bool.and_eq_true, Bool.not_eq_true'] at own
        rw [own.1.1, own.1.2]
        rfl
      rw [resolve_singleton, enter_plain own, named, List.reverse_cons]
      simp
    | cons t segments =>
      rw [resolve_cons_of_ne_nil back s (List.cons_ne_nil t segments), enter_plain own,
        ih _ (List.cons_ne_nil t segments) fun u member => plain u (List.mem_cons_of_mem s member),
        List.reverse_cons, List.append_assoc]
      rfl

theorem length_render_up_le (back : List (List Char)) :
    (UrlPath.rooted (up back).reverse).render.length ≤ (UrlPath.rooted back.reverse).render.length := by
  cases back with
  | nil => exact Nat.le_refl _
  | cons last back =>
    rw [up]
    split
    · exact Nat.le_refl _
    · rw [List.reverse_cons, UrlPath.render_append, List.length_append]
      exact Nat.le_add_right _ _

theorem lt_of_getLast?_dots {s : List Char} (dot : s ∈ dots) {c : Char} (last : s.getLast? = some c) :
    0x20 < c.toNat := by
  simp only [dots, List.mem_cons, List.not_mem_nil, or_false] at dot
  obtain rfl | rfl | rfl := dot <;> cases last <;> decide

theorem not_dots_of_getLast? {s : List Char} {c : Char} (small : c.toNat ≤ 0x20)
    (last : s.getLast? = some c) : isDoubleDot s = false ∧ isDot s = false := by
  constructor
  · rw [Bool.eq_false_iff]
    intro named
    obtain ⟨a, -, named⟩ := List.any_eq_true.mp named
    obtain ⟨b, among, same⟩ := List.any_eq_true.mp named
    have filled : b ≠ [] := by
      rintro rfl
      exact absurd among (by decide)
    rw [beq_iff_eq.mp same, List.getLast?_append, Option.or_of_isSome (List.getLast?_isSome.mpr filled)]
      at last
    exact absurd small (Nat.not_le.mpr (lt_of_getLast?_dots among last))
  · rw [Bool.eq_false_iff]
    intro named
    exact absurd small (Nat.not_le.mpr (lt_of_getLast?_dots (List.contains_iff_mem.mp named) last))

/-- Blanks and controls behind the last segment are named after it, so the folder has more to its name
than the segment had. -/
theorem length_resolve_lt (back : List (List Char)) (s : List Char) {kept : List Char}
    (filled : kept ≠ []) (small : ∀ c ∈ kept, c.toNat ≤ 0x20) :
    (UrlPath.rooted (resolve back [s])).render.length <
      (UrlPath.rooted (enter back (s ++ kept)).reverse).render.length := by
  obtain ⟨c, last⟩ := Option.isSome_iff_exists.mp (List.getLast?_isSome.mpr filled)
  obtain ⟨notTwo, notOne⟩ := not_dots_of_getLast? (s := s ++ kept) (small c (List.mem_of_getLast? last))
    (by rw [List.getLast?_append, last]; rfl)
  have longer : 0 < (Percent.encode Percent.inPath kept).length :=
    List.length_pos_iff.mpr (Percent.encode_ne_nil Percent.inPath filled)
  rw [enter, notTwo, notOne, resolve_singleton, enter]
  have above := length_render_up_le back
  have named : Percent.encode Percent.inPath (s ++ kept) =
      Percent.encode Percent.inPath s ++ Percent.encode Percent.inPath kept := List.flatMap_append
  cases isDoubleDot s <;> cases isDot s <;>
    simp [UrlPath.render_append, UrlPath.render_singleton, named] <;> omega

theorem map_lean_of_not_mem {p : List Char} (plain : '\\' ∉ p) :
    (p.map fun c => if c = '\\' then '/' else c) = p := by
  have same : ∀ c ∈ p, (if c = '\\' then '/' else c) = id c := by
    intro c member
    rw [if_neg (by rintro rfl; exact plain member), id]
  rw [List.map_congr_left same, List.map_id]

/-- The pieces on either side of a slash. -/
theorem pieces_append_cons {c : Char} (slash : Url.isSlash true c = true) (s rest : List Char) :
    pieces true (s ++ c :: rest) = pieces true s ++ pieces true rest := by
  have lean : (if c = '\\' then '/' else c) = '/' := by
    simp only [Url.isSlash, Bool.true_and, Bool.or_eq_true, beq_iff_eq] at slash
    obtain rfl | rfl := slash <;> rfl
  simp only [pieces, if_true, List.map_append, List.map_cons, lean, Text.pieces_append_cons]

theorem pieces_of_not_mem {p : List Char} (plain : '\\' ∉ p) :
    pieces true p = Text.pieces '/' p := by
  rw [pieces, if_pos rfl, map_lean_of_not_mem plain]

/-- Blanks and controls lengthen the last piece. -/
theorem pieces_append_of_le {s last kept : List Char} {init : List (List Char)}
    (shape : pieces true s = init ++ [last]) (small : ∀ c ∈ kept, c.toNat ≤ 0x20) :
    pieces true (s ++ kept) = init ++ [last ++ kept] := by
  have apart (d : Char) (large : 0x20 < d.toNat) : d ∉ kept := fun member =>
    absurd large (Nat.not_lt.mpr (small d member))
  rw [pieces, if_pos rfl, List.map_append, map_lean_of_not_mem (apart '\\' (by decide))]
  exact Text.pieces_append_of_not_mem shape (apart '/' (by decide))

end Segments

namespace Url

/-- The folder that a path leads to, its last segment first. -/
def folder : List Char → List (List Char)
  | [] => []
  | _ :: rest => (Segments.pieces true rest).foldl Segments.enter []

/-- Whether a path is written as it is. -/
def IsPlainPath (p : List Char) : Prop :=
  '\\' ∉ p ∧ ∀ s ∈ Text.pieces '/' p, Segments.isPlain s = true

theorem readPath_web_cons {c : Char} (slash : isSlash true c = true) (rest : List Char) :
    readPath .web (c :: rest) = .rooted (Segments.resolve [] (Segments.pieces true rest)) := by
  have lean : (SchemeKind.web != SchemeKind.other) = true := rfl
  rw [readPath, lean, slash, if_pos rfl]

variable {s : List Char} (begins : ∀ c ∈ s.head?, isSlash true c = true)
include begins

/-- What stands behind a slash in a path stands in the folder that the path before it leads to. -/
theorem render_readPath_append_cons {p : List Char} (plain : IsPlainPath p) :
    (readPath .web (s ++ '/' :: p)).render = (UrlPath.rooted (folder s).reverse).render ++ '/' :: p := by
  have pieces : Segments.pieces true p = Text.pieces '/' p := Segments.pieces_of_not_mem plain.1
  have resolved (back : List (List Char)) :
      Segments.resolve back (Text.pieces '/' p) = back.reverse ++ Text.pieces '/' p :=
    Segments.resolve_plain back (Text.pieces_ne_nil '/' p) plain.2
  have read : readPath .web (s ++ '/' :: p) = .rooted ((folder s).reverse ++ Text.pieces '/' p) := by
    cases s with
    | nil => rw [List.nil_append, readPath_web_cons (by decide), pieces, resolved, folder]
    | cons c s =>
      rw [List.cons_append, readPath_web_cons (begins c rfl), Segments.pieces_append_cons (by decide),
        pieces, Segments.resolve_append [] _ (Text.pieces_ne_nil '/' p), resolved, folder]
  rw [read, UrlPath.render_append, UrlPath.render_pieces]

/-- A path names the folder that it leads to, perhaps with a slash behind it. -/
theorem render_readPath : ∃ n, (readPath .web s).render =
    (UrlPath.rooted (folder s).reverse).render ++ List.replicate n '/' := by
  cases s with
  | nil => exact ⟨1, rfl⟩
  | cons c s =>
    obtain ⟨init, last, shape⟩ := (List.eq_nil_or_concat' (Segments.pieces true s)).resolve_left
      (Text.pieces_ne_nil '/' _)
    rw [readPath_web_cons (begins c rfl), folder, shape,
      Segments.resolve_append [] init (List.cons_ne_nil last []), Segments.resolve_singleton,
      UrlPath.render_append, List.foldl_append, List.foldl_cons, List.foldl_nil]
    split
    · exact ⟨1, rfl⟩
    · exact ⟨0, rfl⟩

/-- Slashes behind a path leave the folder that it leads to. -/
theorem render_readPath_slashes (n : Nat) : ∃ m, (readPath .web (s ++ List.replicate n '/')).render =
    (UrlPath.rooted (folder s).reverse).render ++ List.replicate m '/' := by
  cases n with
  | zero =>
    rw [List.replicate_zero, List.append_nil]
    exact render_readPath begins
  | succ n =>
    have pieces : Text.pieces '/' (List.replicate n '/') = List.replicate (n + 1) [] := by
      induction n with
      | zero => rfl
      | succ n ih => rw [List.replicate_succ, Text.pieces, if_pos rfl, ih]; rfl
    have plain : IsPlainPath (List.replicate n '/') := by
      refine ⟨fun member => absurd (List.eq_of_mem_replicate member) (by decide), fun s member => ?_⟩
      rw [pieces] at member
      rw [List.eq_of_mem_replicate member]
      rfl
    exact ⟨n + 1, render_readPath_append_cons begins plain⟩

/-- Blanks and controls that are kept behind a path make the folder that it leads to another one. -/
theorem length_render_readPath_lt (filled : s ≠ []) {kept : List Char} (some : kept ≠ [])
    (small : ∀ c ∈ kept, c.toNat ≤ 0x20) :
    (readPath .web s).render.length < (UrlPath.rooted (folder (s ++ kept)).reverse).render.length := by
  obtain ⟨c, s, rfl⟩ := List.exists_cons_of_ne_nil filled
  obtain ⟨init, last, shape⟩ := (List.eq_nil_or_concat' (Segments.pieces true s)).resolve_left
    (Text.pieces_ne_nil '/' _)
  rw [readPath_web_cons (begins c rfl), List.cons_append, folder,
    Segments.pieces_append_of_le shape small, shape,
    Segments.resolve_append [] init (List.cons_ne_nil last []), List.foldl_append, List.foldl_cons,
    List.foldl_nil]
  exact Segments.length_resolve_lt _ last some small

end Url

end RemoteSurface
