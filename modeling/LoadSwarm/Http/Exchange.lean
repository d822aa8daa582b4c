/-
  Requests over a network.

  * `Network`: what becomes of a request for a URL.
  * `ServerAnswer.redirect?`: the URL that an answer sends the client to.
  * `HttpClient.get`: the outcome of a path, redirects followed up to the limit of
    the settings, with the URLs that were requested on the way.
-/
import LoadSwarm.Http.Client
import LoadSwarm.Url.Reference

namespace LoadSwarm

/-- The answer of a server. -/
structure ServerAnswer where
  status : UInt16
  bytes : UInt64
  location : Option String := none
  deriving DecidableEq, Repr

/-- What becomes of a request. -/
inductive Arrival where
  /-- nothing listens there -/
  | refused
  /-- no answer comes in time -/
  | late
  /-- the connection ends before the answer does -/
  | lost
  | answered (a : ServerAnswer)
  deriving DecidableEq, Repr

/-- What becomes of requests for URLs. -/
abbrev Network := Url → Arrival

/-- A network in which nothing listens. -/
def Network.empty : Network := fun _ => .refused

/-- Whether a status sends the client to another URL. -/
def isRedirect (status : UInt16) : Bool := [301, 302, 303, 307, 308].contains status

/-- The URL that an answer to a request for a URL sends the client to.  A place that is no URL
    is passed over. -/
def ServerAnswer.redirect? (a : ServerAnswer) (url : Url) : Option Url :=
  if isRedirect a.status then
    match a.location.map url.join with
    | some (.ok next) => some next
    | _ => none
  else none

/-- Whether the scheme of a URL is one that requests are made in. -/
def Url.isHttp (u : Url) : Bool := u.scheme = "http".toList || u.scheme = "https".toList

/-- An outcome, with the URLs that a server was asked for. -/
structure Fetched where
  outcome : Outcome
  urls : List Url := []

namespace HttpClient

/-- The outcome of a URL, with a number of redirects that may still be followed. -/
def fetch (net : Network) : Nat → Url → Fetched
  | left, url =>
    match net url with
    | .refused => { outcome := .error (.network .connect) }
    | .late => { outcome := .error (.network .timeout), urls := [url] }
    | .lost => { outcome := .error (.network .other), urls := [url] }
    | .answered a =>
      match a.redirect? url, left with
      | none, _ => { outcome := .ok ⟨a.status, a.bytes⟩, urls := [url] }
      | some _, 0 => { outcome := .error (.network .other), urls := [url] }
      | some next, left + 1 =>
        if next.isHttp then
          let rest := fetch net left next
          { rest with urls := url :: rest.urls }
        else { outcome := .error (.network .other), urls := [url] }

/-- The outcome of a path.  Without any time there is no answer. -/
def get (c : HttpClient) (net : Network) (path : String) : Fetched :=
  match c.urlFor path with
  | .error e => { outcome := .error e }
  | .ok url =>
    if c.settings.timeout = Duration.zero then { outcome := .error (.network .timeout) }
    else fetch net c.settings.maxRedirects.toNat url

end HttpClient

end LoadSwarm
