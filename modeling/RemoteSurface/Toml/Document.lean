import RemoteSurface.Toml.Scalar
import RemoteSurface.Toml.Tree
/-!
Reading TOML documents. A reader takes characters off the front of the text; the text left is
never longer than before, so its length bounds the nesting of values.
-/
namespace RemoteSurface

namespace Toml

/-- Takes something off the front of a text, and leaves the rest. -/
abbrev Take (α : Type) := List Char → Option (α × List Char)

/-- Whether a character may stand in a comment or a string: no control but the tab. -/
def isPrintable (c : Char) : Bool := c == '\t' || (0x20 ≤ c.toNat && c.toNat != 0x7F)

def dropBlanks (s : List Char) : List Char := s.dropWhile fun c => c == ' ' || c == '\t'

/-- Drops a comment, up to the end of its line. -/
def dropComment : List Char → List Char
  | '#' :: rest => rest.dropWhile isPrintable
  | s => s

/-- Takes the end of a line: blanks, perhaps a comment, and a line feed or the end of the text. -/
def takeLineEnd (s : List Char) : Option (List Char) :=
  match dropComment (dropBlanks s) with
  | [] => some []
  | '\n' :: rest => some rest
  | '\r' :: '\n' :: rest => some rest
  | _ => none

def dropLines : Nat → List Char → List Char
  | 0, s => s
  | fuel + 1, s =>
    match dropComment (dropBlanks s) with
    | '\n' :: rest => dropLines fuel rest
    | '\r' :: '\n' :: rest => dropLines fuel rest
    | rest => rest

/-- The character of a code point, if it has one. -/
def codePoint? (n : Nat) : Option Char :=
  if n < 0xD800 ∨ (0xE000 ≤ n ∧ n < 0x110000) then some (Char.ofNat n) else none

/-- Takes the character that so many hexadecimal digits write. -/
def takeCodePoint (count : Nat) (s : List Char) : Option (Char × List Char) :=
  let ds := s.take count
  if ds.length = count && ds.all (isBaseDigit 16) then
    (codePoint? (baseValue 16 ds)).map fun c => (c, s.drop count)
  else none

def takeEscape : Take Char
  | 'b' :: r => some ('\x08', r)
  | 't' :: r => some ('\t', r)
  | 'n' :: r => some ('\n', r)
  | 'f' :: r => some ('\x0c', r)
  | 'r' :: r => some ('\r', r)
  | 'e' :: r => some ('\x1b', r)
  | '"' :: r => some ('"', r)
  | '\\' :: r => some ('\\', r)
  | 'x' :: r => takeCodePoint 2 r
  | 'u' :: r => takeCodePoint 4 r
  | 'U' :: r => takeCodePoint 8 r
  | _ => none

/-- Takes the rest of a string on one line, up to its closing quote. -/
def takeBasic : Nat → List Char → Take (List Char)
  | 0, _, _ => none
  | fuel + 1, back, s =>
    match s with
    | '"' :: rest => some (back.reverse, rest)
    | '\\' :: rest => (takeEscape rest).bind fun (c, rest) => takeBasic fuel (c :: back) rest
    | c :: rest => if isPrintable c then takeBasic fuel (c :: back) rest else none
    | [] => none

/-- Takes the rest of a string without escapes on one line. -/
def takeLiteral (s : List Char) : Option (List Char × List Char) :=
  let text := s.takeWhile fun c => isPrintable c && c != '\''
  match s.drop text.length with
  | '\'' :: rest => some (text, rest)
  | _ => none

/-- Drops the line end right after an opening of three quotes. -/
def dropFirstLine : List Char → List Char
  | '\n' :: rest => rest
  | '\r' :: '\n' :: rest => rest
  | s => s

/-- A backslash at the end of a line drops the line end and all blanks after it. -/
def takeContinuation (s : List Char) : Option (List Char) :=
  match dropBlanks s with
  | '\n' :: rest | '\r' :: '\n' :: rest =>
    some (rest.dropWhile fun c => c == ' ' || c == '\t' || c == '\n' || c == '\r')
  | _ => none

/-- Takes the rest of a string over several lines, up to three quotes of its kind. Up to two more
quotes right before them belong to the string. -/
def takeMultiline (quote : Char) (escapes : Bool) : Nat → List Char → Take (List Char)
  | 0, _, _ => none
  | fuel + 1, back, s =>
    let more := takeMultiline quote escapes fuel
    match s with
    | [] => none
    | '\r' :: '\n' :: rest => more ('\n' :: back) rest
    | '\n' :: rest => more ('\n' :: back) rest
    | c :: rest =>
      if c = quote then
        match rest with
        | a :: b :: tail =>
          if a = quote ∧ b = quote then
            match tail with
            | d :: e :: tail' =>
              if d = quote ∧ e = quote then some ((quote :: quote :: back).reverse, tail')
              else if d = quote then some ((quote :: back).reverse, e :: tail')
              else some (back.reverse, tail)
            | [d] =>
              if d = quote then some ((quote :: back).reverse, []) else some (back.reverse, tail)
            | [] => some (back.reverse, [])
          else more (c :: back) rest
        | _ => none
      else if c = '\\' ∧ escapes then
        match takeContinuation rest with
        | some rest => more back rest
        | none => (takeEscape rest).bind fun (e, rest) => more (e :: back) rest
      else if isPrintable c then more (c :: back) rest
      else none

/-- Whether a character may stand in a bare key. -/
def isBareKeyChar (c : Char) : Bool := c.isAlphanum || c == '_' || c == '-'

def takeKey : Take String
  | '"' :: rest =>
    (takeBasic (rest.length + 1) [] rest).map fun (k, rest) => (String.ofList k, rest)
  | '\'' :: rest => (takeLiteral rest).map fun (k, rest) => (String.ofList k, rest)
  | s =>
    let k := s.takeWhile isBareKeyChar
    if k.isEmpty then none else some (String.ofList k, s.drop k.length)

/-- Takes keys with dots between them; leaves no blanks. -/
def takePath : Nat → Take (List String)
  | 0, _ => none
  | fuel + 1, s =>
    (takeKey (dropBlanks s)).bind fun (k, rest) =>
      match dropBlanks rest with
      | '.' :: rest => (takePath fuel rest).map fun (ks, rest) => (k :: ks, rest)
      | rest => some ([k], rest)

/-- Whether a character may stand in a bare value. -/
def isBareValueChar (c : Char) : Bool :=
  c.isAlphanum || c == '_' || c == '-' || c == '+' || c == '.' || c == ':'

/-- Takes a bare value. One space may stand between a date and a time. -/
def takeBare (s : List Char) : Option (Json × List Char) :=
  let run := s.takeWhile isBareValueChar
  let rest := s.drop run.length
  let (run, rest) := match rest with
    | ' ' :: d :: tail =>
      if isDate run && d.isDigit then
        let time := (d :: tail).takeWhile isBareValueChar
        (run ++ ' ' :: time, (d :: tail).drop time.length)
      else (run, rest)
    | _ => (run, rest)
  (scalar? run).map fun v => (v, rest)

mutual

def takeValue : Nat → Take Json
  | 0, _ => none
  | fuel + 1, s =>
    match s with
    | '"' :: '"' :: '"' :: rest =>
      let rest := dropFirstLine rest
      (takeMultiline '"' true (rest.length + 1) [] rest).map fun (t, rest) =>
        (.text (String.ofList t), rest)
    | '\'' :: '\'' :: '\'' :: rest =>
      let rest := dropFirstLine rest
      (takeMultiline '\'' false (rest.length + 1) [] rest).map fun (t, rest) =>
        (.text (String.ofList t), rest)
    | '"' :: rest =>
      (takeBasic (rest.length + 1) [] rest).map fun (t, rest) => (.text (String.ofList t), rest)
    | '\'' :: rest => (takeLiteral rest).map fun (t, rest) => (.text (String.ofList t), rest)
    | '[' :: rest => takeItems fuel [] (dropLines (rest.length + 1) rest)
    | '\x7b' :: rest => takeMembers fuel [] (dropLines (rest.length + 1) rest)
    | s => takeBare s

/-- Takes the rest of an array, up to its closing bracket. -/
def takeItems : Nat → List Json → Take Json
  | 0, _, _ => none
  | fuel + 1, back, s =>
    match s with
    | ']' :: rest => some (.array back.reverse, rest)
    | s =>
      (takeValue fuel s).bind fun (v, rest) =>
        match dropLines (rest.length + 1) rest with
        | ',' :: rest => takeItems fuel (v :: back) (dropLines (rest.length + 1) rest)
        | ']' :: rest => some (.array (v :: back).reverse, rest)
        | _ => none

/-- Takes the rest of an inline table, up to its closing brace. -/
def takeMembers : Nat → Nodes → Take Json
  | 0, _, _ => none
  | fuel + 1, ms, s =>
    match s with
    | '\x7d' :: rest => some (.object (Node.toMembers ms), rest)
    | s =>
      (takePath (s.length + 1) s).bind fun (path, rest) =>
        match rest with
        | '=' :: rest =>
          (takeValue fuel (dropBlanks rest)).bind fun (v, rest) =>
            (Nodes.store v path ms).bind fun ms =>
              match dropLines (rest.length + 1) rest with
              | ',' :: rest => takeMembers fuel ms (dropLines (rest.length + 1) rest)
              | '\x7d' :: rest => some (.object (Node.toMembers ms), rest)
              | _ => none
        | _ => none

end

/-- Takes one line that is no header: a path of keys, a value, and the end of the line. -/
def takeSetting (t : Tree) (s : List Char) : Option (Tree × List Char) :=
  (takePath (s.length + 1) s).bind fun (path, rest) =>
    match rest with
    | '=' :: rest =>
      (takeValue (rest.length + 1) (dropBlanks rest)).bind fun (v, rest) =>
        (takeLineEnd rest).bind fun rest => (t.set path v).map fun t => (t, rest)
    | _ => none

/-- Takes one line that is a header. -/
def takeHeader (t : Tree) (s : List Char) : Option (Tree × List Char) :=
  match s with
  | '[' :: '[' :: rest =>
    (takePath (rest.length + 1) rest).bind fun (path, rest) =>
      match rest with
      | ']' :: ']' :: rest =>
        (takeLineEnd rest).bind fun rest => (t.openItem path).map fun t => (t, rest)
      | _ => none
  | '[' :: rest =>
    (takePath (rest.length + 1) rest).bind fun (path, rest) =>
      match rest with
      | ']' :: rest =>
        (takeLineEnd rest).bind fun rest => (t.openTable path).map fun t => (t, rest)
      | _ => none
  | _ => none

/-- Takes lines to the end of the text. -/
def takeAll : Nat → Tree → List Char → Option Tree
  | 0, _, _ => none
  | fuel + 1, t, s =>
    match dropLines (s.length + 1) s with
    | [] => some t
    | '[' :: rest => (takeHeader t ('[' :: rest)).bind fun (t, rest) => takeAll fuel t rest
    | line => (takeSetting t line).bind fun (t, rest) => takeAll fuel t rest

/-- A text without a byte order mark. -/
def dropMark : List Char → List Char
  | c :: rest => if c.toNat = 0xFEFF then rest else c :: rest
  | [] => []

/-- The members of a TOML document. Integers must fit a hundred and twenty-eight
bits, and fractions must be finite; a moment in time becomes an
object that only says so. -/
def parse? (s : String) : Option (Members Json) :=
  let text := dropMark s.toList
  (takeAll (text.length + 1) {} text).map fun t => Node.toMembers t.root

end Toml

end RemoteSurface
