import RemoteSurface.Text.Blank
import RemoteSurface.Text.Split
import RemoteSurface.Text.Utf8
/-!
Server-sent events. Bytes come in chunks of any size; a decoder keeps the unfinished line and the
data lines of the unfinished event, and every blank line that follows data completes a frame. Only
the `data` field counts; other fields and comments are passed over.
-/
namespace RemoteSurface

/-- One event: a payload, or the origin's word that the stream is over. -/
inductive Frame where
  | data (payload : String)
  | done
deriving DecidableEq

/-- What is left over between chunks: the bytes of the unfinished line, and the values of the data
lines so far, both last first. -/
structure Decoder where
  lineBack : List UInt8 := []
  dataBack : List (List Char) := []
deriving DecidableEq

namespace Decoder

def start : Decoder := {}

/-- The payload that ends a stream. -/
def doneMarker : String := "[DONE]"

/-- The frame of the data lines of one event. -/
def frameOf (data : List (List Char)) : Frame :=
  let payload := Text.joinWith '\n' data
  if Text.trimChars payload = doneMarker.toList then .done else .data (String.ofList payload)

/-- Completes an event; without data there is none. -/
def dispatch (d : Decoder) : Decoder × List Frame :=
  match d.dataBack with
  | [] => (d, [])
  | data => ({ d with dataBack := [] }, [frameOf data.reverse])

/-- The field name and the value of a line: what stands before and after the first colon, less
one space after it. A line without a colon is a field name. -/
def fieldOf (line : List Char) : List Char × List Char :=
  match Text.cut? ':' line with
  | some (name, ' ' :: value) => (name, value)
  | some (name, value) => (name, value)
  | none => (line, [])

/-- Takes a finished line, without its line feed. One carriage return at its end does not
count. -/
def takeLine (d : Decoder) (bytes : List UInt8) : Decoder × List Frame :=
  let decoded := Text.decodeLossy bytes
  let line := (Text.dropLast? '\r' decoded).getD decoded
  match line with
  | [] => d.dispatch
  | ':' :: _ => (d, [])
  | _ =>
    let (name, value) := fieldOf line
    if name = ['d', 'a', 't', 'a'] then ({ d with dataBack := value :: d.dataBack }, [])
    else (d, [])

def step (d : Decoder) (b : UInt8) : Decoder × List Frame :=
  if b = 0x0A then takeLine { d with lineBack := [] } d.lineBack.reverse
  else ({ d with lineBack := b :: d.lineBack }, [])

/-- Takes a chunk; gives the frames it completes. -/
def push (d : Decoder) : List UInt8 → Decoder × List Frame
  | [] => (d, [])
  | b :: rest =>
    let (d, here) := d.step b
    let (d, later) := push d rest
    (d, here ++ later)

/-- Ends the stream: an unfinished line and an unfinished event count as finished. -/
def finish (d : Decoder) : Decoder × List Frame :=
  let (d, here) := match d.lineBack with
    | [] => (d, [])
    | back => takeLine { d with lineBack := [] } back.reverse
  let (d, last) := d.dispatch
  (d, here ++ last)

def pushAll (d : Decoder) : List (List UInt8) → Decoder × List Frame
  | [] => (d, [])
  | chunk :: rest =>
    let (d, here) := d.push chunk
    let (d, later) := pushAll d rest
    (d, here ++ later)

end Decoder

end RemoteSurface
