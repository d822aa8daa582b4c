/-
  What comes of a request.

  * `Response`: status and length of a drained answer; from status 400 on it is a
    failure.
  * `HttpError`: no answer, with the label that groups it in reports.
-/

namespace LoadSwarm

/-- What is left of an answer once its body is drained. -/
structure Response where
  status : UInt16
  bytes : UInt64
  deriving DecidableEq, Repr

/-- Answers from status 400 on are failures. -/
def Response.isFailure (r : Response) : Bool := 400 ≤ r.status.toNat

/-- How a transport failed. -/
inductive TransportFailure where
  | timeout
  | connect
  | other
  deriving DecidableEq, Repr

/-- Why there is no answer. -/
inductive HttpError where
  | network (failure : TransportFailure)
  | badUrl (text : String)
  | badConfig (text : String)
  deriving DecidableEq, Repr

/-- The label of an error in reports. -/
def HttpError.kind : HttpError → String
  | network .timeout => "timeout"
  | network .connect => "connect"
  | network .other => "network"
  | badUrl _ => "url"
  | badConfig _ => "config"

/-- The wording of an error; transport failures are worded by the transport. -/
def HttpError.message? : HttpError → Option String
  | network _ => none
  | badUrl text => some ("Invalid URL: " ++ text)
  | badConfig text => some ("Configuration error: " ++ text)

/-- An answer or the reason why there is none. -/
abbrev Outcome := Except HttpError Response

/-- Without an answer, or with one that is a failure. -/
def Outcome.isFailure : Outcome → Bool
  | .ok r => r.isFailure
  | .error _ => true

end LoadSwarm
