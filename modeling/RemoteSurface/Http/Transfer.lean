import RemoteSurface.Http
import RemoteSurface.Url.Percent
/-!
How the content of a response is delimited: by a length, in chunks of their own lengths, or by the
end of the connection. Reading content is a machine that takes one byte at a time.
-/
namespace RemoteSurface

namespace Http

/-- What is still to come: so many bytes, everything up to the end of the connection, the line that
gives the length of a chunk, so many bytes of a chunk, the line end after a chunk, the lines after
the last chunk, or nothing. -/
inductive Transfer where
  | counted (left : Nat)
  | toTheEnd
  | lengthLine (back : List Char)
  | chunk (left : Nat)
  | chunkEnd
  | trailer (emptySoFar : Bool)
  | complete
  | malformed
deriving DecidableEq

namespace Transfer

/-- A count of bytes; none are left once all have come. -/
def countdown (left : Nat) : Transfer := if left = 0 then complete else counted left

/-- How the content behind a head is delimited. -/
def ofHead (h : Head) : Transfer :=
  let text := fun (bytes : List UInt8) => bytes.map fun b => (Char.ofNat b.toNat).toLower
  if h.status = 204 ∨ h.status = 304 then complete
  else if (h.header? "transfer-encoding").any fun v => text v == "chunked".toList then
    lengthLine []
  else match h.header? "content-length" with
    | some v => ((String.ofList (text v)).toNat?.map countdown).getD malformed
    | none => toTheEnd

/-- The length that a line gives in front of a chunk, without what follows a semicolon. -/
def chunkLength? (line : List Char) : Option Nat :=
  let ds := trimLine (((Text.cut? ';' line).map Prod.fst).getD line)
  if ds.isEmpty then none else Address.digits? 16 ds

/-- What follows the line that gives the length of a chunk. -/
def afterLength (line : List Char) : Transfer :=
  match chunkLength? ((Text.dropLast? '\r' line).getD line) with
  | none => malformed
  | some 0 => trailer true
  | some left => chunk left

/-- Takes one byte; gives the content in it. -/
def step (t : Transfer) (b : UInt8) : Transfer × List UInt8 :=
  match t with
  | counted left => (countdown (left - 1), [b])
  | toTheEnd => (toTheEnd, [b])
  | lengthLine back =>
    if b = 0x0A then (afterLength back.reverse, [])
    else (lengthLine (Char.ofNat b.toNat :: back), [])
  | chunk left => (if left ≤ 1 then chunkEnd else chunk (left - 1), [b])
  | chunkEnd =>
    if b = 0x0A then (lengthLine [], []) else if b = 0x0D then (chunkEnd, []) else (malformed, [])
  | trailer emptySoFar =>
    if b = 0x0A then (if emptySoFar then complete else trailer true, [])
    else (trailer (emptySoFar && b == 0x0D), [])
  | complete => (complete, [])
  | malformed => (malformed, [])

/-- Takes bytes; gives the content in them. -/
def feed (t : Transfer) (bytes : List UInt8) : Transfer × List UInt8 :=
  let (t, back) := bytes.foldl (fun (t, back) b =>
    let (t, content) := step t b
    (t, content.reverse ++ back)) (t, [])
  (t, back.reverse)

/-- Whether content is complete when the connection ends. -/
def endsWell (t : Transfer) : Bool := t == complete || t == toTheEnd

end Transfer

end Http

end RemoteSurface
