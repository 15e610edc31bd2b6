import LineScript.Url.Host
import LineScript.Url.Path

/-!
URLs: addresses of pages, by their parts, and their text.
-/

namespace LineScript

/-- Where a URL leads to: a host always, and a name and a password that may be empty. -/
structure Authority where
  user : Text
  password : Text
  host : Host
  port : Option Nat
deriving DecidableEq

/-- A URL. Its texts are in the form in which they are written. A query and a fragment may be empty
after their marks. -/
structure Url where
  scheme : String
  authority : Authority
  path : List Text
  query : Option Text
  fragment : Option Text
deriving DecidableEq

def Authority.credentials (a : Authority) : Text :=
  let password := if a.password.isEmpty then [] else ':' :: a.password
  if a.user.isEmpty && a.password.isEmpty then [] else a.user ++ password ++ ['@']

def Authority.text (a : Authority) : Text :=
  let port := match a.port with
    | none => []
    | some n => ':' :: (toString n).toList
  a.credentials ++ a.host.text ++ port

namespace Url

def marked (mark : Char) : Option Text → Text
  | none => []
  | some t => mark :: t

def text (u : Url) : String :=
  String.ofList (u.scheme.toList ++ "://".toList ++ u.authority.text ++ UrlPath.text u.path ++
    marked '?' u.query ++ marked '#' u.fragment)

end Url

end LineScript
