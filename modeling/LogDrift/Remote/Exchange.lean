import LogDrift.Remote.Backoff
import LogDrift.Remote.Message
import LogDrift.Settings.Basic

/-!
# Exchanges

A request is sent until the service gives a final answer, though not more often than allowed.
Between attempts there is a wait.
-/

namespace LogDrift.Remote

/-- The connection to the event service, whose effects are those of `M`. -/
structure Network (M : Type → Type) where
  /-- Sends a request. The answer is a response, or why there is none. -/
  send : Request → M (Except String Response)
  /-- Waits for some milliseconds. -/
  wait : Nat → M Unit

/-- The request that brings a message to an address. -/
def Message.request (message : Message) (settings : TransportSettings) (url : String) : Request where
  method := message.method
  url
  payload := message.payload
  authorization := settings.authToken
  timeoutSeconds := settings.timeoutSeconds

@[simp]
theorem Message.authorization_request (message : Message) (settings : TransportSettings)
    (url : String) : (message.request settings url).authorization = settings.authToken := rfl

/-- Why an attempt is made again. -/
inductive Setback
  | serverError (status : Status)
  | noResponse (reason : String)
  deriving DecidableEq, Repr

/-- Why an exchange fails. -/
inductive Fault
  /-- The service refuses the request. -/
  | refused (status : Status) (body : String)
  /-- No attempt has led to a final answer. -/
  | exhausted (attempts : Nat) (last : Setback)
  deriving DecidableEq, Repr

/-- The wording of a setback. -/
def Setback.message : Setback → String
  | serverError status => s!"server returned {status.text}"
  | noResponse reason => reason

/-- The wording of a fault. -/
def Fault.message : Fault → String
  | refused status body => s!"server returned {status.text}: {body}"
  | exhausted attempts last => s!"giving up after {attempts} attempts: {last.message}"

/-- What an attempt comes to: a setback or a final answer. -/
def appraise : Except String Response → Except Setback (Except Fault Response)
  | .error reason => .error (.noResponse reason)
  | .ok response =>
    if response.status.isSuccess then .ok (.ok response)
    else if response.status.isServerError then .error (.serverError response.status)
    else .ok (.error (.refused response.status response.body))

namespace Network

variable {M : Type → Type} [Monad M]

/-- Makes an attempt after `made` earlier ones, and up to `more` after it. -/
def attempt (network : Network M) (initial : Nat) (request : Request) (made : Nat) :
    Nat → M (Except Fault Response)
  | 0 => do
    match appraise (← network.send request) with
    | .ok answer => return answer
    | .error setback => return .error (.exhausted (made + 1) setback)
  | more + 1 => do
    match appraise (← network.send request) with
    | .ok answer => return answer
    | .error _ =>
      network.wait (Backoff.delay initial made)
      network.attempt initial request (made + 1) more

/-- Sends a message until there is a final answer. There is at least one attempt. -/
def exchange (network : Network M) (settings : TransportSettings) (url : String)
    (message : Message) : M (Except Fault Response) :=
  network.attempt settings.initialBackoff (message.request settings url) 0
    (settings.maxAttempts - 1)

end Network

end LogDrift.Remote
