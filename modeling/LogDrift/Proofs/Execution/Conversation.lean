import LogDrift.Execution.Basic
import LogDrift.Proofs.Remote.Exchange

/-!
# Conversations with the event service

A command and the event service exchange messages one after the other. The calls that a part of a
command makes are related to how that part ends, whatever the service answers.
-/

namespace LogDrift

namespace Remote

/-- A message that was exchanged for an answer. -/
structure Call where
  url : String
  message : Message
  /-- How often the message was sent again. -/
  retries : Nat
  answer : Except Fault Response

namespace Call

/-- The call sends a message to an address. -/
def Asks (call : Call) (url : String) (message : Message) : Prop :=
  call.url = url ∧ call.message = message

/-- What is done over the network for a call. -/
def trail (settings : TransportSettings) (call : Call) : List Action :=
  Remote.trail settings.initialBackoff (call.message.request settings call.url) 0 call.retries

end Call

/-- Calls that are made one after the other, from one state of the service to another. -/
inductive Conversation (settings : TransportSettings) : Service → List Call → Service → Prop
  | silence (service : Service) : Conversation settings service [] service
  | call {service after : Service} {call : Call} {rest : List Call}
      (few : call.retries < max 1 settings.maxAttempts)
      (answered : (Service.network.exchange settings call.url call.message).run service =
        (call.answer, service.after (call.retries + 1) (call.trail settings)))
      (followed : Conversation settings
        (service.after (call.retries + 1) (call.trail settings)) rest after) :
      Conversation settings service (call :: rest) after

namespace Conversation

variable {settings : TransportSettings} {service between after : Service}

theorem append {first rest : List Call} (opened : Conversation settings service first between)
    (continued : Conversation settings between rest after) :
    Conversation settings service (first ++ rest) after := by
  induction opened with
  | silence => exact continued
  | call few answered _ ih => exact .call few answered (ih continued)

/-- Over the network, nothing is done but the calls. -/
theorem log_eq {calls : List Call} (conversation : Conversation settings service calls after) :
    after.log = service.log ++ calls.flatMap (Call.trail settings) := by
  induction conversation with
  | silence => simp
  | call _ _ _ ih => rw [ih, Service.after, List.flatMap_cons, List.append_assoc]

/-- Every exchange is a call. -/
theorem exists_call (settings : TransportSettings) (url : String) (message : Message)
    (service : Service) :
    ∃ call : Call, ∃ after, call.Asks url message ∧
      (Service.network.exchange settings url message).run service = (call.answer, after) ∧
      Conversation settings service [call] after := by
  obtain ⟨answer, retries, few, ran⟩ := attempt_trail settings.initialBackoff
    (message.request settings url) 0 (settings.maxAttempts - 1) service
  refine ⟨⟨url, message, retries, answer⟩, _, ⟨rfl, rfl⟩, ran, .call ?_ ran (.silence _)⟩
  show retries < max 1 settings.maxAttempts
  omega

end Conversation

end Remote

open Remote (Call Conversation Service)

/-! ## Parts of a command -/

/-- Whatever the service answers, the calls that a part of a command makes fit how it ends. -/
def Converses {α : Type} (settings : TransportSettings) (part : Effect (StateM Service) α)
    (fits : List Call → Except Failure α → Prop) : Prop :=
  ∀ service, ∃ calls result after, part.run.run service = (result, after) ∧
    Conversation settings service calls after ∧ fits calls result

/-- One call is made, and a result is read off its answer. -/
def OneCall {α : Type} (url : String) (message : Remote.Message)
    (reading : Call → Except Failure α) (calls : List Call) (result : Except Failure α) : Prop :=
  ∃ call : Call, call.Asks url message ∧ calls = [call] ∧ result = reading call

namespace Converses

variable {α β : Type} {settings : TransportSettings} {part : Effect (StateM Service) α}
  {rest : α → Effect (StateM Service) β}

theorem imp {fits fits' : List Call → Except Failure α → Prop}
    (converses : Converses settings part fits)
    (weaker : ∀ calls result, fits calls result → fits' calls result) :
    Converses settings part fits' := by
  intro service
  obtain ⟨calls, result, after, ran, conversation, fit⟩ := converses service
  exact ⟨calls, result, after, ran, conversation, weaker calls result fit⟩

/-- What makes no call is silent. -/
theorem silent {fits : List Call → Except Failure α → Prop} {result : Except Failure α}
    (still : ∀ service, part.run.run service = (result, service)) (fit : fits [] result) :
    Converses settings part fits :=
  fun service => ⟨[], result, service, still service, .silence service, fit⟩

/-- A failure ends a command. Without one, the calls of what follows are made next. -/
theorem bind {fits : List Call → Except Failure α → Prop}
    {whole : List Call → Except Failure β → Prop} (first : Converses settings part fits)
    (failed : ∀ calls failure, fits calls (.error failure) → whole calls (.error failure))
    (next : ∀ calls value, fits calls (.ok value) →
      Converses settings (rest value) fun more result => whole (calls ++ more) result) :
    Converses settings (part >>= rest) whole := by
  intro service
  obtain ⟨calls, result, between, ran, opened, fit⟩ := first service
  cases result with
  | error failure =>
    refine ⟨calls, .error failure, between, ?_, opened, failed calls failure fit⟩
    rw [ExceptT.run_bind, StateT.run_bind, ran]
    rfl
  | ok value =>
    obtain ⟨more, result, after, continuation, continued, fit⟩ := next calls value fit between
    refine ⟨calls ++ more, result, after, ?_, opened.append continued, fit⟩
    rw [ExceptT.run_bind, StateT.run_bind, ran]
    exact continuation

/-- An exchange is one call. -/
theorem exchange {url : String} {message : Remote.Message}
    {rest : Except Remote.Fault Remote.Response → Effect (StateM Service) α}
    {reading : Call → Except Failure α}
    (still : ∀ (call : Call) service, call.url = url →
      (rest call.answer).run.run service = (reading call, service)) :
    Converses settings (do rest (← Service.network.exchange settings url message))
      (OneCall url message reading) := by
  intro service
  obtain ⟨call, after, asked, ran, conversation⟩ :=
    Conversation.exists_call settings url message service
  refine ⟨[call], reading call, after, ?_, conversation, call, asked, rfl, rfl⟩
  rw [← still call after asked.1]
  exact congrArg (fun answered => (rest answered.1).run.run answered.2) ran

/-- What makes no call goes on reading the answer to a call before it. -/
theorem reading {url : String} {message : Remote.Message} {reading : Call → Except Failure α}
    {more : α → Except Failure β} (first : Converses settings part (OneCall url message reading))
    (still : ∀ value service, (rest value).run.run service = (more value, service)) :
    Converses settings (part >>= rest)
      (OneCall url message fun call => reading call >>= more) := by
  refine first.bind ?_ ?_
  · rintro _ failure ⟨call, asked, rfl, failed⟩
    exact ⟨call, asked, rfl, congrArg (· >>= more) failed⟩
  · rintro _ value ⟨call, asked, rfl, read⟩
    exact .silent (still value) ⟨call, asked, rfl, congrArg (· >>= more) read⟩

end Converses

end LogDrift
