import RemoteSurface.Json
import RemoteSurface.Number.Stepwise
/-!
JSON as it is written: what the grammar accepts, before anyone needs its values. A number too
large for a double and a string with half a surrogate pair are well written and have no value;
they matter only to a reader who looks at them. Members stand in the order written, repeated keys
and all. The reader of tokens keeps the open containers on a stack, so nesting is unbounded here.
-/
namespace RemoteSurface

/-- A JSON text as written. -/
inductive Source where
  | null
  | bool (b : Bool)
  | number (value : Option JsonNumber)
  | text (value : Option String)
  | array (items : List Source)
  | object (members : List (Option String × Source))
deriving Inhabited

namespace Source

/-- The smallest parts of a JSON text. -/
inductive Token where
  | openArray
  | closeArray
  | openObject
  | closeObject
  | comma
  | colon
  | scalar (v : Source)

/-- Where the reader of characters stands inside a string. A first half of a surrogate pair waits
for the second. -/
inductive Escape where
  | none
  | backslash
  | hex (left value : Nat)

/-- What the reader of characters has read of the token under way. -/
inductive Scan where
  | between
  | word (back : List Char)
  | number (back : List Char)
  | inString (back : List Char) (valued : Bool) (escape : Escape) (half : Option Nat)

/-- Splits a decimal into sign, whole digits, fraction digits and power, if it is written as JSON
numbers are: no plus sign in front, no zero before another digit, digits around the point. -/
def numberParts? (s : List Char) : Option (Bool × Double.Numeral × Bool) :=
  let (negative, body) := match s with
    | '-' :: r => (true, r)
    | r => (false, r)
  let whole := body.takeWhile Char.isDigit
  let rest := body.dropWhile Char.isDigit
  let leading := match whole with
    | '0' :: _ :: _ => true
    | _ => false
  if whole.isEmpty || leading then none
  else
    let (fraction, tail, pointed) := match rest with
      | '.' :: r => (r.takeWhile Char.isDigit, r.dropWhile Char.isDigit, true)
      | r => ([], r, false)
    if pointed && fraction.isEmpty then none
    else match tail with
      | [] => some (negative, ⟨whole, fraction, 0⟩, !pointed)
      | c :: r =>
        if c = 'e' ∨ c = 'E' then
          (Double.wholePower? r).map fun power => (negative, ⟨whole, fraction, power⟩, false)
        else none

/-- The value of a written number: an integer if it is written as one and fits sixty-four bits,
minus zero and all others a double, read step by step. None when a step leaves the finite doubles. -/
def numberValue (negative : Bool) (n : Double.Numeral) (integral : Bool) : Option JsonNumber :=
  let size := Double.digitsValue n.whole
  if integral && !negative && size < Nat.pow 2 64 then some (.whole size)
  else if integral && negative && 0 < size && size ≤ Nat.pow 2 63 then some (.whole (-size))
  else
    let x := Double.stepwise negative n
    if x.isFinite then some (.real x) else none

/-- The scalar that a run of number characters writes. -/
def numberScalar? (s : List Char) : Option Source :=
  (numberParts? s).map fun p => .number (numberValue p.1 p.2.1 p.2.2)

/-- The scalar that a bare word writes. -/
def wordScalar? (s : List Char) : Option Source :=
  if s = ['n', 'u', 'l', 'l'] then some .null
  else if s = ['t', 'r', 'u', 'e'] then some (.bool true)
  else if s = ['f', 'a', 'l', 's', 'e'] then some (.bool false)
  else none

/-- Blanks between tokens. -/
def isSpace (c : Char) : Bool := c == ' ' || c == '\t' || c == '\n' || c == '\r'

def isNumberChar (c : Char) : Bool :=
  c.isDigit || c == '-' || c == '+' || c == '.' || c == 'e' || c == 'E'

def scanBetween (c : Char) : Option (Scan × List Token) :=
  if isSpace c then some (.between, [])
  else if c == '"' then some (.inString [] true .none none, [])
  else if c.isDigit || c == '-' then some (.number [c], [])
  else if c.isLower then some (.word [c], [])
  else match c with
    | '[' => some (.between, [.openArray])
    | ']' => some (.between, [.closeArray])
    | '\x7b' => some (.between, [.openObject])
    | '\x7d' => some (.between, [.closeObject])
    | ',' => some (.between, [.comma])
    | ':' => some (.between, [.colon])
    | _ => none

def hexValue? (c : Char) : Option Nat :=
  if c.isDigit then some (c.toNat - '0'.toNat)
  else if 'a' ≤ c ∧ c ≤ 'f' then some (c.toNat - 'a'.toNat + 10)
  else if 'A' ≤ c ∧ c ≤ 'F' then some (c.toNat - 'A'.toNat + 10)
  else none

/-- The character a one-letter escape stands for. -/
def shortEscape? (c : Char) : Option Char :=
  match c with
  | '"' => some '"'
  | '\\' => some '\\'
  | '/' => some '/'
  | 'b' => some '\x08'
  | 'f' => some '\x0c'
  | 'n' => some '\n'
  | 'r' => some '\r'
  | 't' => some '\t'
  | _ => none

/-- A code unit written by its number. Halves of a surrogate pair join; a half alone leaves the
string without a value. -/
def unit (back : List Char) (valued : Bool) (half : Option Nat) (n : Nat) : Scan :=
  match half with
  | some high =>
    if 0xDC00 ≤ n ∧ n < 0xE000 then
      let joined := 0x10000 + (high - 0xD800) * 0x400 + (n - 0xDC00)
      .inString (Char.ofNat joined :: back) valued .none none
    else .inString back false .none none
  | none =>
    if 0xD800 ≤ n ∧ n < 0xDC00 then .inString back valued .none (some n)
    else if 0xDC00 ≤ n ∧ n < 0xE000 then .inString back false .none none
    else .inString (Char.ofNat n :: back) valued .none none

def scanString (back : List Char) (valued : Bool) (escape : Escape) (half : Option Nat)
    (c : Char) : Option (Scan × List Token) :=
  match escape with
  | .none =>
    if c == '"' then
      let value := if valued && half.isNone then some (String.ofList back.reverse) else none
      some (.between, [.scalar (.text value)])
    else if c == '\\' then some (.inString back valued .backslash half, [])
    else if c.toNat < 0x20 then none
    else some (.inString (c :: back) (valued && half.isNone) .none none, [])
  | .backslash =>
    if c == 'u' then some (.inString back valued (.hex 4 0) half, [])
    else (shortEscape? c).map fun e =>
      (.inString (e :: back) (valued && half.isNone) .none none, [])
  | .hex left value =>
    (hexValue? c).map fun d =>
      let value := value * 16 + d
      if left ≤ 1 then (unit back valued half value, [])
      else (.inString back valued (.hex (left - 1) value) half, [])

/-- A finished scalar, then the character that ended it. -/
def scanAfter (finished : Option Source) (c : Char) : Option (Scan × List Token) :=
  finished.bind fun v => (scanBetween c).map fun (s, ts) => (s, .scalar v :: ts)

/-- One character: the state after it and the tokens it completes. -/
def scanChar (s : Scan) (c : Char) : Option (Scan × List Token) :=
  match s with
  | .between => scanBetween c
  | .word back =>
    if c.isLower then some (.word (c :: back), [])
    else scanAfter (wordScalar? back.reverse) c
  | .number back =>
    if isNumberChar c then some (.number (c :: back), [])
    else scanAfter (numberScalar? back.reverse) c
  | .inString back valued escape half => scanString back valued escape half c

/-- The token under way when the text ends. -/
def scanEnd : Scan → Option (List Token)
  | .between => some []
  | .word back => (wordScalar? back.reverse).map fun v => [.scalar v]
  | .number back => (numberScalar? back.reverse).map fun v => [.scalar v]
  | .inString .. => none

/-- A container that is still open, with what it holds so far, last first. -/
inductive Frame where
  | array (back : List Source)
  | object (back : List (Option String × Source))
  | member (back : List (Option String × Source)) (key : Option String)

/-- What may come next. -/
inductive Next where
  | value
  | firstItem
  | firstKey
  | key
  | colon
  | separator
  | nothing

/-- The reader of tokens: open containers, innermost first, and what may come next. -/
structure Reader where
  stack : List Frame
  next : Next
  result : Option Source

def Reader.start : Reader := ⟨[], .value, none⟩

/-- A value is complete: it joins the innermost container, or it is the whole text. -/
def Reader.complete (r : Reader) (v : Source) : Option Reader :=
  match r.stack with
  | [] => some ⟨[], .nothing, some v⟩
  | .array back :: outer => some ⟨.array (v :: back) :: outer, .separator, none⟩
  | .member back key :: outer => some ⟨.object ((key, v) :: back) :: outer, .separator, none⟩
  | .object _ :: _ => none

/-- The innermost container is closed. -/
def Reader.close (r : Reader) (t : Token) : Option Reader :=
  match t, r.stack with
  | .closeArray, .array back :: outer =>
    Reader.complete ⟨outer, .nothing, none⟩ (.array back.reverse)
  | .closeObject, .object back :: outer =>
    Reader.complete ⟨outer, .nothing, none⟩ (.object back.reverse)
  | _, _ => none

/-- A value begins, or is there at once. -/
def Reader.begin (r : Reader) (t : Token) : Option Reader :=
  match t with
  | .openArray => some ⟨.array [] :: r.stack, .firstItem, none⟩
  | .openObject => some ⟨.object [] :: r.stack, .firstKey, none⟩
  | .scalar v => r.complete v
  | _ => none

def Reader.nameMember (r : Reader) (t : Token) : Option Reader :=
  match t, r.stack with
  | .scalar (.text k), .object back :: outer =>
    some ⟨.member back k :: outer, .colon, none⟩
  | _, _ => none

def Reader.another (r : Reader) : Option Reader :=
  match r.stack with
  | .array _ :: _ => some ⟨r.stack, .value, none⟩
  | .object _ :: _ => some ⟨r.stack, .key, none⟩
  | _ => none

def Reader.step (r : Reader) (t : Token) : Option Reader :=
  match r.next with
  | .value => r.begin t
  | .firstItem => match t with
    | .closeArray => r.close t
    | _ => r.begin t
  | .firstKey => match t with
    | .closeObject => r.close t
    | _ => r.nameMember t
  | .key => r.nameMember t
  | .colon => match t with
    | .colon => some ⟨r.stack, .value, none⟩
    | _ => none
  | .separator => match t with
    | .comma => r.another
    | _ => r.close t
  | .nothing => none

/-- One character, or a byte that belongs to none. Such a byte may stand inside a string, which is
left without a value by it, but not in an escape. -/
def scanUnit (s : Scan) : Option Char → Option (Scan × List Token)
  | some c => scanChar s c
  | none =>
    match s with
    | .inString back _ .none _ => some (.inString back false .none none, [])
    | _ => none

/-- Reads to the end, passing tokens on as they complete. -/
def readUnits (s : Scan) (r : Reader) : List (Option Char) → Option Reader
  | [] => (scanEnd s).bind fun ts => ts.foldlM Reader.step r
  | u :: rest =>
    match scanUnit s u with
    | none => none
    | some (s, ts) =>
      match ts.foldlM Reader.step r with
      | none => none
      | some r => readUnits s r rest

/-- Reads characters to the end. -/
def readChars (s : Scan) (r : Reader) (cs : List Char) : Option Reader := readUnits s r (cs.map some)

/-- The JSON text that characters and stray bytes write, if they write one and nothing else. -/
def parseUnits? (us : List (Option Char)) : Option Source :=
  (readUnits .between .start us).bind Reader.result

/-- The JSON text that characters write, if they write one and nothing else. -/
def parse? (cs : List Char) : Option Source := (readChars .between .start cs).bind Reader.result

/-- How many containers a reader of values may have open. -/
def maxDepth : Nat := 127

mutual

/-- The value of a written text whose containers nest no deeper than `room`. Of members under one
key the last stays. -/
def value? (room : Nat) : Source → Option Json
  | .null => some .null
  | .bool b => some (.bool b)
  | .number n => n.map .number
  | .text s => s.map .text
  | .array items => if room = 0 then none else (itemValues? (room - 1) items).map .array
  | .object members =>
    if room = 0 then none
    else (memberValues? (room - 1) members).map fun ms => .object (Members.putAll [] ms)

def itemValues? (room : Nat) : List Source → Option (List Json)
  | [] => some []
  | v :: rest =>
    match value? room v, itemValues? room rest with
    | some v, some vs => some (v :: vs)
    | _, _ => none

/-- The values of members, in the order written. -/
def memberValues? (room : Nat) : List (Option String × Source) → Option (List (String × Json))
  | [] => some []
  | (k, v) :: rest =>
    match k, value? room v, memberValues? room rest with
    | some k, some v, some ms => some ((k, v) :: ms)
    | _, _, _ => none

end

/-- The members of a record written as an object: known keys must not repeat, and every key must
have a value. -/
def knownMembers? (fields : List String) (seen : List String) :
    List (Option String × Source) → Option (List (String × Source))
  | [] => some []
  | (none, _) :: _ => none
  | (some k, v) :: rest =>
    if !fields.contains k then knownMembers? fields seen rest
    else if seen.contains k then none
    else (knownMembers? fields (k :: seen) rest).map fun ms => (k, v) :: ms

/-- The fields of a record that a text writes, as an object or as an array in field order. -/
def fields? (fields : List String) : Source → Option (List (String × Source))
  | .object members => knownMembers? fields [] members
  | .array items => if fields.length < items.length then none else some (fields.zip items)
  | _ => none

end Source

/-- Reads a JSON text: strictly as the grammar has it, one value and nothing else, with at most
one hundred and twenty-seven containers open. -/
def Json.parse? (s : String) : Option Json :=
  (Source.parse? s.toList).bind (Source.value? Source.maxDepth)

end RemoteSurface
