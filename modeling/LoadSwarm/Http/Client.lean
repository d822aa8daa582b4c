/-
  A client bound to one base URL.

  * `ClientSettings.ofOptions`: the options of a configuration, flattened.
  * `HttpClient.connect`: a client for a base URL that paths can be resolved
    against, with a name that fits into a header.
  * `HttpClient.urlFor`: a path is appended to the path of the base URL, whose
    query and fragment stay; a complete http URL is taken as it is.
-/
import LoadSwarm.Config.Basic
import LoadSwarm.Http.Outcome
import LoadSwarm.Url.Parser

namespace LoadSwarm

/-- What a client is built with. -/
structure ClientSettings where
  timeout : Duration
  connectTimeout : Duration
  maxRedirects : UInt32
  userAgent : String
  verifyCertificates : Bool
  maxIdlePerHost : UInt64
  idleTimeout : Duration
  deriving DecidableEq

/-- The settings that options of a configuration ask for. -/
def ClientSettings.ofOptions (o : ClientOptions) : ClientSettings :=
  { timeout := o.timeout
    connectTimeout := o.pool.connectionTimeout
    maxRedirects := o.maxRedirects
    userAgent := o.userAgent
    verifyCertificates := o.verifyCertificates
    maxIdlePerHost := o.pool.maxIdlePerHost
    idleTimeout := o.pool.idleTimeout }

/-- A client and the URL it is bound to. -/
structure HttpClient where
  base : Url
  settings : ClientSettings

namespace HttpClient

/-- Header values hold no control characters but the tab. -/
def fitsHeader (s : String) : Bool :=
  s.toList.all fun c => c = '\t' || (0x20 ≤ c.toNat && c.toNat ≠ 0x7F)

/-- A client for a base URL. -/
def connect (base : String) (settings : ClientSettings) : Except HttpError HttpClient :=
  match Url.parse base with
  | .error reason => .error (.badUrl (base ++ ": " ++ reason.message))
  | .ok url =>
    if url.isOpaque then .error (.badUrl (url.text ++ " cannot be used as a base URL"))
    else if fitsHeader settings.userAgent then .ok ⟨url, settings⟩
    else .error (.badConfig "builder error")

/-- Characters without slashes at their end. -/
def trimSlashes (cs : List Char) : List Char := (cs.reverse.dropWhile (· = '/')).reverse

/-- The path of the base, one slash, and a path without leading slashes. -/
def joinPath (base path : List Char) : List Char :=
  trimSlashes base ++ '/' :: path.dropWhile (· = '/')

/-- The URL of a path. -/
def urlFor (c : HttpClient) (path : String) : Except HttpError Url :=
  if Text.startsWith "http://" path || Text.startsWith "https://" path then
    match Url.parse path with
    | .ok url => .ok url
    | .error reason => .error (.badUrl (path ++ ": " ++ reason.message))
  else .ok (c.base.withPath (joinPath c.base.path.text path.toList))

end HttpClient

end LoadSwarm
