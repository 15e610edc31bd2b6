import LineScript.Url.Reader

/-!
Pages on the network: what comes of the requests for them, one after the other.
-/

namespace LineScript

/-- What comes of a request. A request that brings no page tells its cause in words of its own, and so does
a page whose text cannot be read. -/
inductive Reply where
  | failed (cause : String)
  | answered (status : Nat) (body : Except String String)

/-- The network: what comes of each request that waits at most so many seconds for a URL in normal form, and
how many requests have been made. Two requests for one URL may have different replies. -/
structure Network where
  reply : (index seconds : Nat) → (url : String) → Reply
  asked : Nat

inductive FetchError where
  | badUrl (e : UrlError)
  | unknownScheme (url scheme : String)
  | status (url : String) (code : Nat)
  | failed (cause : String)
deriving DecidableEq

def FetchError.message : FetchError → String
  | badUrl e => s!"Bad URL: failed to parse URL: {e.message}"
  | unknownScheme url scheme => s!"{url}: Unknown Scheme: unknown scheme '{scheme}'"
  | status url code => s!"{url}: status code {code}"
  | failed cause => cause

/-- The page that a reply to a request for a URL brings: the text of every answer but the refusals, whose
status is 400 or above. -/
def Reply.page (url : String) : Reply → Except FetchError String
  | failed cause => .error (.failed cause)
  | answered status body =>
    if status < 400 then body.mapError .failed else .error (.status url status)

namespace Network

def silent : Network where
  reply _ _ url :=
    .failed s!"{url}: Connection Failed: Connect error: Network is unreachable (os error 101)"
  asked := 0

/-- The page at an address, and the network afterwards; no request is made for an address that is no URL
of a page. -/
def fetch (net : Network) (seconds : Nat) (address : String) : Except FetchError String × Network :=
  match Url.read address with
  | .error e => (.error (.badUrl e), net)
  | .ok url =>
    if url.scheme = "http" ∨ url.scheme = "https" then
      ((net.reply net.asked seconds url.text).page url.text, { net with asked := net.asked + 1 })
    else (.error (.unknownScheme url.text url.scheme), net)

end Network

end LineScript
