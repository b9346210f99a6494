import RemoteSurface.Text.Split
import RemoteSurface.Text.Utf8
import RemoteSurface.Url.Domain.Label
import RemoteSurface.Url.Punycode
/-!
Domain names in ASCII. A name is mapped to its normal form first; then each label that is not of
ASCII is written in letters and digits behind a mark of four characters, and a label that bears the
mark already must be what such a label is written as.
-/
namespace RemoteSurface

namespace Domain

/-- What stands in front of an encoded label. -/
def encodedMark : List Char := ['x', 'n', '-', '-']

/-- The characters that a name is mapped to. -/
def mapped? (cs : List Char) : Option (List Char) :=
  (cs.mapM fun c => (mapping c).chars? c).map List.flatten

def isAscii (c : Char) : Bool := c.toNat < 0x80

/-- Whether the characters of an encoded label are such that they need to be encoded, and in normal
form. -/
def isEncodable (label : List Char) : Bool :=
  !(label.all isAscii) && label.all (fun c => mapping c == .same) &&
    Text.composed label == label && !(encodedMark.isPrefixOf label)

/-- The characters of a label, encoded or not. -/
def label? (s : List Char) : Option (List Char) :=
  match Text.dropFront? encodedMark s with
  | none => some s
  | some encoded => (Punycode.decode? encoded).filter isEncodable

def asciiLabel (label : List Char) : List Char :=
  if label.all isAscii then label else encodedMark ++ Punycode.encode label

/-- The ASCII form of a domain name. -/
def toAscii? (bytes : List UInt8) : Option (List Char) :=
  (Text.decode? bytes).bind fun cs =>
    (mapped? cs).bind fun cs =>
      ((Text.pieces '.' (Text.composed cs)).mapM label?).bind fun labels =>
        let fit := labels.all isLabel &&
          (!(labels.any isRightToLeft) || labels.all keepsDirection)
        if fit then some (Text.joinWith '.' (labels.map asciiLabel)) else none

end Domain

end RemoteSurface
