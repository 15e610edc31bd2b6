import LineScript.Url.Domain
import LineScript.Url.Error
import LineScript.Url.Family
import LineScript.Url.Ipv4
import LineScript.Url.Ipv6
import LineScript.Url.Percent

/-!
Hosts: names and addresses.
-/

namespace LineScript

inductive Host where
  | name (t : Text)
  | ipv4 (a : Ipv4)
  | ipv6 (a : Ipv6)
deriving DecidableEq

namespace Host

def text : Host → Text
  | name t => t
  | ipv4 a => a.text
  | ipv6 a => '[' :: a.text ++ [']']

def ofDomain (t : Text) : Except UrlError Host :=
  match Percent.decode? t >>= Domain.ascii? with
  | none => .error .invalidDomain
  | some [] => .error .emptyHost
  | some domain =>
    if Ipv4.isAddress domain then
      match Ipv4.read? domain with
      | none => .error .invalidIpv4
      | some a => .ok (ipv4 a)
    else .ok (name domain)

def deniedInName : List Char := "\x00\t\n\r #/:<>?@[\\]^|".toList

/-- Reads a name of another family, whose letters keep their case. -/
def ofName (t : Text) : Except UrlError Host :=
  if t.isEmpty then .error .emptyHost
  else if t.any deniedInName.contains then .error .invalidName
  else .ok (name (Percent.encode [] t))

def ofBracket (t : Text) : Except UrlError Host :=
  if t.getLast? = some ']' then
    match Ipv6.read? t.dropLast with
    | none => .error .invalidIpv6
    | some a => .ok (ipv6 a)
  else .error .invalidIpv6

def read (family : UrlFamily) (t : Text) : Except UrlError Host :=
  match t with
  | '[' :: rest => ofBracket rest
  | t => if family = .other then ofName t else ofDomain t

end Host

end LineScript
