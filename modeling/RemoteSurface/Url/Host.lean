import RemoteSurface.Url.Address
import RemoteSurface.Url.Domain
/-!
Hosts: a name, or an address of one of two kinds.
-/
namespace RemoteSurface

/-- A host. The empty name is the host of a URL that names none. -/
inductive Host where
  | name (text : List Char)
  | four (address : Nat)
  | eight (groups : List Nat)
deriving DecidableEq

/-- Why a text is no URL. -/
inductive UrlFault where
  | relative
  | emptyHost
  | badName
  | badPort
  | badFour
  | badEight
  | badCharacter
deriving DecidableEq

def UrlFault.message : UrlFault → String
  | .relative => "relative URL without a base"
  | .emptyHost => "empty host"
  | .badName => "invalid international domain name"
  | .badPort => "invalid port number"
  | .badFour => "invalid IPv4 address"
  | .badEight => "invalid IPv6 address"
  | .badCharacter => "invalid domain character"

namespace Host

/-- Whether a host is there but names nothing. -/
def isEmpty : Host → Bool
  | name [] => true
  | _ => false

def render : Host → List Char
  | name text => text
  | four address => Address.renderFour address
  | eight groups => '[' :: Address.renderEight groups ++ [']']

def ofBrackets (s : List Char) : Except UrlFault Host :=
  match Text.dropLast? ']' s with
  | none => .error .badEight
  | some inner =>
    match Address.eight? inner with
    | some groups => .ok (.eight groups)
    | none => .error .badEight

/-- Reads the host of a scheme whose URLs have hosts: a domain, or an address. -/
def ofDomain (s : List Char) : Except UrlFault Host :=
  match s with
  | '[' :: rest => ofBrackets rest
  | _ =>
    match Domain.toAscii? (Percent.decode s) with
    | none => .error .badName
    | some [] => .error .emptyHost
    | some domain =>
      if Address.endsInNumber domain then
        match Address.four? domain with
        | some a => .ok (.four a)
        | none => .error .badFour
      else .ok (.name domain)

/-- What may not stand in the host of another scheme. -/
def forbidden : List Char :=
  ['\x00', '\t', '\n', '\r', ' ', '#', '/', ':', '<', '>', '?', '@', '[', '\\', ']', '^', '|']

/-- Reads the host of any other scheme. -/
def ofPlain (s : List Char) : Except UrlFault Host :=
  match s with
  | '[' :: rest => ofBrackets rest
  | _ =>
    if s.any forbidden.contains then .error .badCharacter
    else .ok (.name (Percent.encode Percent.isControl s))

end Host

end RemoteSurface
