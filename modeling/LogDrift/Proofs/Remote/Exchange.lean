import Mathlib
import LogDrift.Remote.Exchange

/-!
# What an exchange does

An exchange is followed over a service that answers one attempt after the other. It makes attempts
until an answer is final, though no more than it may, and waits between two attempts but at no other
time.
-/

namespace LogDrift.Remote

/-- What is done over a network. -/
inductive Action
  | sent (request : Request)
  | waited (milliseconds : Nat)

/-- A service whose answers are settled beforehand, with what has been done over the network. -/
structure Service where
  /-- The answers to come, that to the next attempt first. -/
  answers : Nat → Except String Response
  log : List Action := []

namespace Service

/-- The service after some actions, to which it has given some answers. -/
def after (service : Service) (answered : Nat) (actions : List Action) : Service where
  answers place := service.answers (answered + place)
  log := service.log ++ actions

@[simp] theorem answers_after (service : Service) (answered : Nat) (actions : List Action)
    (place : Nat) : (service.after answered actions).answers place =
      service.answers (answered + place) := rfl

@[simp] theorem after_after (service : Service) (answered later : Nat)
    (actions others : List Action) :
    (service.after answered actions).after later others =
      service.after (answered + later) (actions ++ others) := by
  simp [after, Nat.add_assoc]

/-- The network to a service. -/
def network : Network (StateM Service) where
  send request service := (service.answers 0, service.after 1 [.sent request])
  wait milliseconds service := ((), service.after 0 [.waited milliseconds])

end Service

/-- Whether another attempt may get a better answer: there was none, or the service failed. -/
def Retryable : Except String Response → Prop
  | .error _ => True
  | .ok response => response.status.isServerError

instance : DecidablePred Retryable
  | .error _ => .isTrue trivial
  | .ok response => inferInstanceAs (Decidable (response.status.isServerError = true))

theorem exists_response {answer : Except String Response} (final : ¬ Retryable answer) :
    ∃ response, answer = .ok response := by
  cases answer with
  | error reason => exact (final trivial).elim
  | ok response => exact ⟨response, rfl⟩

/-- How an answer that is not final is reported. -/
def complaint : Except String Response → String
  | .error reason => reason
  | .ok response =>
    let status := response.status.text
    s!"server returned {status}"

/-- What a final response comes to. -/
def Response.verdict (response : Response) : Except Fault Response :=
  if response.status.isSuccess then .ok response
  else .error (.refused response.status response.body)

theorem appraise_of_retryable {answer : Except String Response} (retryable : Retryable answer) :
    ∃ setback, appraise answer = .error setback ∧ setback.message = complaint answer := by
  cases answer with
  | error reason => exact ⟨_, rfl, rfl⟩
  | ok response =>
    have failed : response.status.isSuccess = false := by
      simp only [Retryable, Status.isServerError, Status.isSuccess] at retryable ⊢
      grind
    refine ⟨.serverError response.status, ?_, rfl⟩
    rw [appraise, failed, show response.status.isServerError = true from retryable]
    rfl

theorem appraise_of_final {response : Response} (final : ¬ Retryable (.ok response)) :
    appraise (.ok response) = .ok response.verdict := by
  rw [Retryable, Bool.not_eq_true] at final
  rw [appraise, Response.verdict, final]
  cases response.status.isSuccess <;> rfl

theorem message_exhausted (attempts : Nat) {last : Setback} {reason : String}
    (worded : last.message = reason) :
    (Fault.exhausted attempts last).message =
      s!"giving up after {attempts} attempts: {reason}" := by
  subst worded
  rfl

/-! ## Attempts -/

/-- What is done for a request after some attempts at it: there is one attempt more than there are
retries, and a wait before each of these. -/
def trail (initial : Nat) (request : Request) (made retries : Nat) : List Action :=
  .sent request :: (List.range' made retries).flatMap fun earlier =>
    [.waited (Backoff.delay initial earlier), .sent request]

variable {initial : Nat} {request : Request} {made more : Nat} {service : Service}

theorem trail_succ (initial : Nat) (request : Request) (made retries : Nat) :
    trail initial request made (retries + 1) =
      [.sent request, .waited (Backoff.delay initial made)] ++
        trail initial request (made + 1) retries := by
  simp [trail, List.range'_succ]

/-- A final answer ends the exchange. -/
theorem attempt_of_final {response : Response} (answered : service.answers 0 = .ok response)
    (final : ¬ Retryable (.ok response)) :
    (Service.network.attempt initial request made more).run service =
      (response.verdict, service.after 1 [.sent request]) := by
  have appraised := appraise_of_final final
  cases more <;>
    simp [Network.attempt, Service.network, StateT.run, bind, StateT.bind, pure, StateT.pure,
      answered, appraised]

/-- After the last attempt there is neither a wait nor another one. -/
theorem attempt_of_last (retryable : Retryable (service.answers 0)) :
    ∃ setback, setback.message = complaint (service.answers 0) ∧
      (Service.network.attempt initial request made 0).run service =
        (.error (.exhausted (made + 1) setback), service.after 1 [.sent request]) := by
  obtain ⟨setback, appraised, message⟩ := appraise_of_retryable retryable
  refine ⟨setback, message, ?_⟩
  simp [Network.attempt, Service.network, StateT.run, bind, StateT.bind, pure, StateT.pure,
    appraised]

/-- Any other answer is followed by a wait and another attempt. -/
theorem attempt_of_retryable (retryable : Retryable (service.answers 0)) :
    (Service.network.attempt initial request made (more + 1)).run service =
      (Service.network.attempt initial request (made + 1) more).run
        (service.after 1 [.sent request, .waited (Backoff.delay initial made)]) := by
  obtain ⟨setback, appraised, _⟩ := appraise_of_retryable retryable
  rw [Network.attempt]
  simp [Service.network, StateT.run, bind, StateT.bind, appraised]

/-- Attempts go on until the first final answer. -/
theorem attempt_answered {retries : Nat} {response : Response} (few : retries ≤ more)
    (retryable : ∀ earlier < retries, Retryable (service.answers earlier))
    (answered : service.answers retries = .ok response) (final : ¬ Retryable (.ok response)) :
    (Service.network.attempt initial request made more).run service =
      (response.verdict, service.after (retries + 1) (trail initial request made retries)) := by
  induction retries generalizing made more service with
  | zero => exact attempt_of_final answered final
  | succ retries ih =>
    obtain ⟨more, rfl⟩ := Nat.exists_eq_succ_of_ne_zero (Nat.ne_of_gt (Nat.zero_lt_of_lt few))
    rw [attempt_of_retryable (retryable 0 (Nat.succ_pos retries)),
      ih (Nat.le_of_succ_le_succ few)]
    · rw [Service.after_after, trail_succ, Nat.add_comm 1]
    · intro earlier before
      rw [Service.answers_after, Nat.add_comm]
      exact retryable _ (Nat.succ_lt_succ before)
    · rw [Service.answers_after, Nat.add_comm, answered]

/-- Without a final answer all attempts are made. -/
theorem attempt_exhausted (retryable : ∀ earlier ≤ more, Retryable (service.answers earlier)) :
    ∃ setback, setback.message = complaint (service.answers more) ∧
      (Service.network.attempt initial request made more).run service =
        (.error (.exhausted (made + more + 1) setback),
          service.after (more + 1) (trail initial request made more)) := by
  induction more generalizing made service with
  | zero => exact attempt_of_last (retryable 0 (Nat.le_refl 0))
  | succ more ih =>
    have later : ∀ earlier ≤ more, Retryable ((service.after 1
        [.sent request, .waited (Backoff.delay initial made)]).answers earlier) := by
      intro earlier before
      rw [Service.answers_after, Nat.add_comm]
      exact retryable _ (Nat.succ_le_succ before)
    obtain ⟨setback, message, ran⟩ := @ih (made + 1) _ later
    rw [Service.answers_after, Nat.add_comm] at message
    refine ⟨setback, message, ?_⟩
    rw [attempt_of_retryable (retryable 0 (Nat.zero_le _)), ran, Service.after_after, trail_succ]
    simp only [Nat.add_comm, Nat.add_left_comm]

/-- Whatever the answers are, some attempts are made, with a wait between them. -/
theorem attempt_trail (initial : Nat) (request : Request) (made more : Nat) (service : Service) :
    ∃ answer, ∃ retries ≤ more, (Service.network.attempt initial request made more).run service =
      (answer, service.after (retries + 1) (trail initial request made retries)) := by
  induction more generalizing made service with
  | zero =>
    by_cases retryable : Retryable (service.answers 0)
    · obtain ⟨_, _, ran⟩ := attempt_of_last retryable
      exact ⟨_, 0, Nat.le_refl 0, ran⟩
    · obtain ⟨response, answered⟩ := exists_response retryable
      exact ⟨_, 0, Nat.le_refl 0, attempt_of_final answered (answered ▸ retryable)⟩
  | succ more ih =>
    by_cases retryable : Retryable (service.answers 0)
    · obtain ⟨answer, retries, few, ran⟩ := ih (made + 1) (service.after 1
        [.sent request, .waited (Backoff.delay initial made)])
      refine ⟨answer, retries + 1, Nat.succ_le_succ few, ?_⟩
      rw [attempt_of_retryable retryable, ran, Service.after_after, trail_succ, Nat.add_comm 1]
    · obtain ⟨response, answered⟩ := exists_response retryable
      exact ⟨_, 0, Nat.zero_le _, attempt_of_final answered (answered ▸ retryable)⟩

/-! ## Exchanges -/

/-- An exchange makes one attempt after the other until an answer is final, and waits between them.
When no answer among those that are allowed is final, it gives up and says so. -/
theorem exchange_contract (settings : TransportSettings) (url : String) (message : Message)
    (service : Service) :
    let limit := max 1 settings.maxAttempts
    let request := message.request settings url
    (∀ retries < limit, (∀ earlier < retries, Retryable (service.answers earlier)) →
      ∀ response, service.answers retries = .ok response → ¬ Retryable (.ok response) →
        (Service.network.exchange settings url message).run service =
          (response.verdict, service.after (retries + 1)
            (trail settings.initialBackoff request 0 retries))) ∧
    ((∀ earlier < limit, Retryable (service.answers earlier)) →
      ∃ fault, (Service.network.exchange settings url message).run service =
          (Except.error fault, service.after limit
            (trail settings.initialBackoff request 0 (limit - 1))) ∧
        let last := complaint (service.answers (limit - 1))
        fault.message = s!"giving up after {limit} attempts: {last}") := by
  obtain ⟨more, limit, allowed⟩ : ∃ more, max 1 settings.maxAttempts = more + 1 ∧
      settings.maxAttempts - 1 = more := ⟨_, by omega, rfl⟩
  simp only [limit, Network.exchange, allowed, Nat.add_sub_cancel]
  constructor
  · intro retries few retryable response answered final
    exact attempt_answered (Nat.le_of_lt_succ few) retryable answered final
  · intro retryable
    obtain ⟨setback, worded, ran⟩ := @attempt_exhausted settings.initialBackoff
      (message.request settings url) 0 more service
      fun earlier before => retryable earlier (Nat.lt_succ_of_le before)
    rw [Nat.zero_add] at ran
    exact ⟨_, ran, message_exhausted (more + 1) worded⟩

/-- A service that fails once. -/
def recovering : Service where
  answers
    | 0 => .ok ⟨⟨503⟩, ""⟩
    | _ => .ok ⟨⟨200⟩, "{}"⟩

/-- A service that cannot be reached. -/
def unreachable : Service where
  answers _ := .error "connection refused"

/-- A question for what a previous run delivered. -/
def sampleMessage : Message :=
  .previous ⟨"app", "flow", "run", "service", 7⟩ none

/-- The request that brings it to the service. -/
def sampleRequest : Request where
  method := .get
  url := "http://events/previous"
  payload := .parameters [("applicationId", .str "app"), ("stateExecutionId", .str "run"),
    ("logCollectionMinute", .int 7)]
  authorization := some "token"
  timeoutSeconds := 30

/-- A failure of the service is waited out, and a lone attempt is not repeated. -/
theorem exchange_contract_tried :
    (Service.network.exchange ⟨some "token", 3, 1000, 30⟩ sampleRequest.url sampleMessage).run
        recovering =
      (.ok ⟨⟨200⟩, "{}"⟩, recovering.after 2
        [.sent sampleRequest, .waited 1000, .sent sampleRequest]) ∧
    ∃ fault, (Service.network.exchange ⟨some "token", 0, 1000, 30⟩ sampleRequest.url
        sampleMessage).run unreachable =
        (.error fault, unreachable.after 1 [.sent sampleRequest]) ∧
      fault.message = "giving up after 1 attempts: connection refused" := by
  constructor
  · refine (exchange_contract ⟨some "token", 3, 1000, 30⟩ sampleRequest.url sampleMessage
      recovering).1 1 (by decide) ?_ ⟨⟨200⟩, "{}"⟩ rfl (by decide)
    intro earlier first
    rw [Nat.lt_one_iff.1 first]
    decide
  · exact (exchange_contract ⟨some "token", 0, 1000, 30⟩ sampleRequest.url sampleMessage
      unreachable).2 fun _ _ => trivial

end LogDrift.Remote
