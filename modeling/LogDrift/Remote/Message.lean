import LogDrift.Document.Snapshot
import LogDrift.Remote.Status

/-!
# Messages to the event service

What is asked of the event service, what is delivered to it, and how the service wraps its answers.
-/

namespace LogDrift.Remote

open Json (Decoded Node Source)
open Document

/-- What identifies a collection of events. -/
structure Collection where
  applicationId : String
  workflowId : String
  stateExecutionId : String
  serviceId : String
  minute : Int
  deriving DecidableEq, Repr

/-- What the service is to do with a request. -/
inductive Method
  | get
  | post
  deriving DecidableEq, Repr

/-- What a request carries. -/
inductive Payload
  /-- Parameters of the address. -/
  | parameters (members : List (String × Json))
  /-- A document. -/
  | document (value : Json)

/-- A message to the event service. -/
inductive Message
  /-- Asks for the events of hosts. -/
  | events (collection : Collection) (hosts : List String) (query : Option String)
  /-- Asks for what the previous run delivered. -/
  | previous (collection : Collection) (query : Option String)
  /-- Delivers what a run yields. -/
  | results (snapshot : Snapshot Float)

/-- How a message is sent. -/
def Message.method : Message → Method
  | events .. => .post
  | previous .. => .get
  | results _ => .post

/-- What a message carries in its written form. -/
def Message.payload : Message → Payload
  | events collection hosts query => .document (.obj ([
      ("applicationId", .str collection.applicationId),
      ("workflowId", .str collection.workflowId),
      ("stateExecutionId", .str collection.stateExecutionId),
      ("serviceId", .str collection.serviceId),
      ("logCollectionMinute", .int collection.minute),
      ("nodes", Json.strings hosts)] ++ Json.optional "query" Json.str query))
  | previous collection query => .parameters ([
      ("applicationId", .str collection.applicationId),
      ("stateExecutionId", .str collection.stateExecutionId)] ++
      Json.optional "query" Json.str query ++
      [("logCollectionMinute", .int collection.minute)])
  | results snapshot => .document snapshot.toJson

/-- A message on its way, in its written form. -/
structure Request where
  method : Method
  url : String
  payload : Payload
  authorization : Option String
  /-- How long an answer is waited for. -/
  timeoutSeconds : Nat

/-- What the service answers. -/
structure Response where
  status : Status
  body : String

namespace Response

/-- Decodes the resource in a body. It may be missing. -/
def decodeResource {α : Type} (decode : Source → Node → Decoded α) (source : Source) :
    Node → Decoded (Option α) :=
  Node.record source "Envelope" [
    defaulted "resource" (into (Node.nullable (decode source)) fun value _ => value)] none

/-- The resource that an answer holds, unless its body has another shape. -/
def resource {α : Type} (response : Response) (decode : Source → Node → Decoded α) :
    Except Error (Option α) :=
  Error.readText (decodeResource decode) response.body

/-- The reports that an answer holds. -/
def reports (response : Response) : Except Error (List Json) :=
  (response.resource fun _ => Node.list Node.anything).map (·.getD [])

/-- The snapshot that an answer holds. -/
def snapshot (response : Response) : Except Error (Option (Snapshot Float)) :=
  response.resource Snapshot.decode

end Response

end LogDrift.Remote
