import MailerAgent.Config
import MailerAgent.Foundation.Program
import MailerAgent.Foundation.PyText

/-!
# Outbound sending over SMTP

`send_email` with its three outcomes. What the server and the network do is
input: every attempt comes with the exception, if any, that each call raises.
The state records the invocations of `sendmail`, which is the only step that can
transmit a message.
-/

namespace MailerAgent
namespace Mail

open Effect

/-- The exception classes that the sender names, with their common bases. -/
inductive ExceptionClass where
  | osError
  | connectionError
  | timeoutError
  | smtpException
  | smtpResponseException
  | smtpServerDisconnected
  | smtpConnectError
  | smtpDataError
  | smtpRecipientsRefused
  | smtpSenderRefused
  | smtpHeloError
  | smtpAuthenticationError
  | smtpNotSupportedError
  | ambiguousSendError
  deriving DecidableEq, Repr

namespace ExceptionClass

/-- Direct base classes below `Exception`. -/
def bases : ExceptionClass → List ExceptionClass
  | osError => []
  | connectionError => [osError]
  | timeoutError => [osError]
  | smtpException => [osError]
  | smtpResponseException => [smtpException]
  | smtpServerDisconnected => [smtpException]
  | smtpConnectError => [smtpResponseException]
  | smtpDataError => [smtpResponseException]
  | smtpRecipientsRefused => [smtpException]
  | smtpSenderRefused => [smtpResponseException]
  | smtpHeloError => [smtpResponseException]
  | smtpAuthenticationError => [smtpResponseException]
  | smtpNotSupportedError => [smtpException]
  | ambiguousSendError => []

end ExceptionClass

/-- Any instance of `Exception`: the named classes it is an instance of, which
include the bases of each of them, and its text. A class of which the sender
knows nothing has no named ancestor or several. -/
structure PyException where
  classes : List ExceptionClass
  basesIncluded : ∀ cls ∈ classes, ∀ base ∈ cls.bases, base ∈ classes
  text : String
  deriving DecidableEq

namespace PyException

/-- `isinstance(exception, (cls, ...))`. -/
def isInstance
    (exception : PyException)
    (tuple : List ExceptionClass) : Bool :=
  tuple.any fun cls => exception.classes.contains cls

/-- The exception that the sender raises for a failed transmission. -/
def ambiguousSendError (original : PyException) : PyException where
  classes := [.ambiguousSendError]
  basesIncluded := by decide
  text := "Error during SMTP transmission -- delivery status unknown: " ++ original.text

end PyException

/-- What one send attempt reports to its caller. -/
inductive SendOutcome where
  | sent
  | failed
  | unknown
  deriving DecidableEq, Repr

/-- Result object of `send_email`. -/
structure SendResult where
  success : Bool
  messageId : Option String := none
  error : Option String := none
  outcome : SendOutcome := .sent
  deriving DecidableEq, Repr

/-- Keyword arguments of `send_email`. -/
structure SendEmailArguments where
  toEmail : String
  fromEmail : String
  fromName : String
  subject : String
  bodyText : String
  replyTo : Option String := none
  inReplyToHeader : Option String := none
  referencesHeader : Option String := none
  messageIdHeader : Option String := none
  smtpConfig : Option SmtpConfig := none
  deriving DecidableEq, Repr

/-- A plain-text message with its headers in the order they were set. -/
structure MimeMessage where
  headers : List (String × String)
  body : String
  deriving DecidableEq, Repr

/-- `generate_message_id`; `makeMsgid` is the standard library's generator. -/
def generateMessageId
    (makeMsgid : String → String)
    (fromEmail : String) : String :=
  makeMsgid
    (if fromEmail.toList.contains '@' then PyText.afterLast '@' fromEmail
     else "localhost")

/-- `_validate_message_id_header` as a predicate: the value is returned
unchanged when it holds, and a `ValueError` is raised otherwise. -/
def validMessageIdHeader (value : String) : Bool :=
  !(value.length < 3) && (value.startsWith "<" && value.endsWith ">") &&
    !(value.toList.any fun character =>
      character == '\r' || character == '\n' || character == '\x00') &&
    !(value.toList.any PyText.isSpace)

/-- Truthiness of an optional string. -/
def truthy (value : Option String) : Option String :=
  value.filter fun text => text != ""

theorem truthy_of_ne_empty
    {text : String}
    (nonempty : text ≠ "") :
    truthy (some text) = some text :=
  Option.filter_eq_some_iff.mpr ⟨rfl, bne_iff_ne.mpr nonempty⟩

/-- The MIME message with its threading headers. -/
def buildMessage
    (arguments : SendEmailArguments)
    (messageId : String) : MimeMessage where
  headers :=
    [("Subject", arguments.subject),
      ("From", arguments.fromName ++ " <" ++ arguments.fromEmail ++ ">"),
      ("To", arguments.toEmail),
      ("Message-ID", messageId)] ++
    ((truthy arguments.replyTo).map fun value => ("Reply-To", value)).toList ++
    ((truthy arguments.inReplyToHeader).map fun value =>
      ("In-Reply-To", value)).toList ++
    (((truthy arguments.referencesHeader).or
      (truthy arguments.inReplyToHeader)).map fun value =>
        ("References", value)).toList
  body := arguments.bodyText

/-- The exception each external call of one attempt raises; `none` is a normal
return. `cleanup` is the QUIT and close on leaving the `with` block. -/
structure SmtpPeer where
  createContext : Option PyException := none
  connect : Option PyException := none
  starttls : Option PyException := none
  login : Option PyException := none
  asString : Option PyException := none
  sendmail : Option PyException := none
  cleanup : Option PyException := none

/-- How one invocation of `sendmail` ended. -/
inductive SendmailResult where
  | returned
  | raised (exception : PyException)
  deriving DecidableEq

/-- Local variables of an attempt, with the invocations of `sendmail` over all
attempts. -/
structure SmtpSession where
  accepted : Bool := false
  bodyError : Option PyException := none
  sendmailCalls : List SendmailResult := []
  deriving DecidableEq

/-- Programs of the sender. -/
abbrev Smtp := Program SmtpSession PyException

/-- A call that raises the given exception, or returns. -/
def external (behaviour : Option PyException) : Smtp PUnit :=
  match behaviour with
  | none => pure ()
  | some exception => Program.raise exception

/-- `server.sendmail(...)`, recorded. -/
def invokeSendmail (behaviour : Option PyException) : Smtp PUnit := do
  Program.change fun session =>
    { session with sendmailCalls := session.sendmailCalls ++
        [match behaviour with
          | none => .returned
          | some exception => .raised exception] }
  external behaviour

/-- `_TRANSIENT_SMTP_ERRORS`. -/
def transientSmtpErrors : List ExceptionClass :=
  [.smtpServerDisconnected, .smtpConnectError, .smtpResponseException,
    .connectionError, .timeoutError, .osError]

/-- `_EXPLICIT_REFUSAL_ERRORS`. -/
def explicitRefusalErrors : List ExceptionClass :=
  [.smtpRecipientsRefused, .smtpSenderRefused, .smtpHeloError,
    .smtpAuthenticationError, .smtpNotSupportedError]

/-- `_is_retryable_smtp_error`. -/
def isRetryableSmtpError (exception : PyException) : Bool :=
  exception.isInstance transientSmtpErrors &&
    !exception.isInstance explicitRefusalErrors

/-- The transmission: rendering the message and `sendmail`. -/
def transmit (peer : SmtpPeer) : Smtp PUnit :=
  Program.attempt
    (do
      external peer.asString
      invokeSendmail peer.sendmail)
    fun exception =>
      if exception.isInstance explicitRefusalErrors then Program.raise exception
      else Program.raise (.ambiguousSendError exception)

/-- `if cfg.use_tls: server.starttls(...)`. -/
def negotiateTls
    (config : SmtpConfig)
    (peer : SmtpPeer) : Smtp PUnit :=
  if config.useTls then external peer.starttls else pure ()

/-- The body of the `with smtplib.SMTP(...)` block. -/
def serverBlock
    (config : SmtpConfig)
    (peer : SmtpPeer) : Smtp PUnit :=
  Program.attempt
    (do
      negotiateTls config peer
      external peer.login
      transmit peer
      Program.change fun session => { session with accepted := true })
    fun exception => do
      Program.change fun session => { session with bodyError := some exception }
      Program.raise exception

/-- One run of the function that `_smtp_send_with_retry` decorates. -/
def smtpSend
    (config : SmtpConfig)
    (peer : SmtpPeer) : Smtp PUnit := do
  external peer.createContext
  Program.change fun session => { session with accepted := false, bodyError := none }
  Program.attempt
    (do
      external peer.connect
      Program.ensure (serverBlock config peer) (external peer.cleanup))
    fun exception => do
      let session ← Program.read
      match session.bodyError with
      | some bodyError =>
          -- The exception of the body wins over one of the cleanup.
          if exception ≠ bodyError then Program.raise bodyError
          else Program.raise exception
      | none =>
          if session.accepted then pure () else Program.raise exception

/-- `_smtp_send_with_retry`: at most three attempts. -/
def smtpSendWithRetry
    (config : SmtpConfig)
    (peers : Nat → SmtpPeer) : Smtp PUnit :=
  Program.retrying isRetryableSmtpError (fun number => smtpSend config (peers number)) 2 1

/-- How a call of `send_email` ends: a result, or the `ValueError` for an
invalid Message-ID. -/
inductive SendEmailError where
  | invalidMessageIdHeader (value : String)
  deriving DecidableEq, Repr

/-- Result of a call whose SMTP part ended with `outcome`. -/
def classifySend
    (messageId : String)
    (outcome : Except PyException PUnit) : SendResult :=
  match outcome with
  | .ok _ => { success := true, messageId := some messageId, outcome := .sent }
  | .error exception =>
      if exception.isInstance [.ambiguousSendError] then
        { success := false, messageId := some messageId,
          error := some exception.text, outcome := .unknown }
      else
        { success := false, messageId := some messageId,
          error := some exception.text, outcome := .failed }

/-- `send_email`: its result and the invocations of `sendmail` it made. -/
def sendEmail
    (settings : Settings)
    (makeMsgid : String → String)
    (peers : Nat → SmtpPeer)
    (arguments : SendEmailArguments) :
    Except SendEmailError SendResult × List SendmailResult :=
  match arguments.messageIdHeader.filter fun value => !validMessageIdHeader value with
  | some value => (.error (.invalidMessageIdHeader value), [])
  | none =>
      let messageId :=
        arguments.messageIdHeader.getD (generateMessageId makeMsgid arguments.fromEmail)
      if settings.liveSendingEnabled then
        let config := arguments.smtpConfig.getD settings.smtp
        match (smtpSendWithRetry config peers).exec {} with
        | (outcome, session) =>
            (.ok (classifySend messageId outcome), session.sendmailCalls)
      else
        (.ok { success := true, messageId := some messageId, outcome := .sent }, [])

/-- The ways in which an attempt, and the whole retried call, can end: the
exception or return seen by `send_email`, with the invocations of `sendmail`
made so far. -/
inductive TransmissionEnd :
    Except PyException PUnit → List SendmailResult → Prop where
  | accepted : TransmissionEnd (.ok ()) [.returned]
  | notInvoked (exception : PyException) : TransmissionEnd (.error exception) []
  | refused
      (exception : PyException)
      (explicit : exception.isInstance explicitRefusalErrors = true) :
      TransmissionEnd (.error exception) [.raised exception]
  | ambiguous
      (original : PyException)
      (notExplicit : original.isInstance explicitRefusalErrors = false) :
      TransmissionEnd (.error (.ambiguousSendError original)) [.raised original]

theorem exec_external
    (behaviour : Option PyException)
    (session : SmtpSession) :
    (external behaviour).exec session =
      match behaviour with
      | none => (.ok (), session)
      | some exception => (.error exception, session) := by
  cases behaviour <;> rfl

theorem exec_invokeSendmail
    (behaviour : Option PyException)
    (session : SmtpSession) :
    (invokeSendmail behaviour).exec session =
      match behaviour with
      | none =>
          (.ok (), { session with
            sendmailCalls := session.sendmailCalls ++ [.returned] })
      | some exception =>
          (.error exception, { session with
            sendmailCalls := session.sendmailCalls ++ [.raised exception] }) := by
  cases behaviour <;> rfl

/-- An ambiguous transmission is never in the retry set. -/
theorem not_retryable_ambiguousSendError (original : PyException) :
    isRetryableSmtpError (.ambiguousSendError original) = false := by
  rfl

/-- An explicit refusal is never in the retry set, although its classes derive
from ones that are. -/
theorem not_retryable_of_explicit
    {exception : PyException}
    (explicit : exception.isInstance explicitRefusalErrors = true) :
    isRetryableSmtpError exception = false := by
  simp [isRetryableSmtpError, explicit]

/-- Only an attempt that never invoked `sendmail` is retried. -/
theorem TransmissionEnd.calls_eq_nil_of_retryable
    {exception : PyException}
    {calls : List SendmailResult}
    (ended : TransmissionEnd (.error exception) calls)
    (retryable : isRetryableSmtpError exception = true) :
    calls = [] := by
  cases ended with
  | notInvoked => rfl
  | refused exception explicit =>
      rw [not_retryable_of_explicit explicit] at retryable
      cases retryable
  | ambiguous original notExplicit =>
      rw [not_retryable_ambiguousSendError] at retryable
      cases retryable

/-- Rendering and `sendmail` touch nothing but the record of invocations. -/
theorem transmit_ends
    (peer : SmtpPeer)
    (session : SmtpSession)
    (fresh : session.sendmailCalls = []) :
    ∃ outcome calls,
      (transmit peer).exec session =
        (outcome, { session with sendmailCalls := calls }) ∧
      TransmissionEnd outcome calls := by
  unfold transmit
  rw [Program.exec_attempt, Program.exec_bind, exec_external]
  cases peer.asString with
  | some exception =>
      refine ⟨_, [], ?_, .notInvoked
        (if exception.isInstance explicitRefusalErrors then exception
         else .ambiguousSendError exception)⟩
      rw [← fresh]
      by_cases explicit : exception.isInstance explicitRefusalErrors = true <;>
        simp [explicit]
  | none =>
      simp only [exec_invokeSendmail, fresh, List.nil_append]
      cases peer.sendmail with
      | none => exact ⟨_, _, rfl, .accepted⟩
      | some exception =>
          by_cases explicit : exception.isInstance explicitRefusalErrors = true
          · refine ⟨_, _, ?_, .refused exception explicit⟩
            simp [explicit]
          · refine ⟨_, _, ?_, .ambiguous exception (by simpa using explicit)⟩
            simp [explicit]

/-- The block leaves behind which way it ended: `accepted` after a return, and
the exception in `body_error` otherwise. -/
theorem serverBlock_ends
    (config : SmtpConfig)
    (peer : SmtpPeer)
    (session : SmtpSession)
    (fresh : session.sendmailCalls = []) :
    ∃ outcome last,
      (serverBlock config peer).exec session = (outcome, last) ∧
      TransmissionEnd outcome last.sendmailCalls ∧
      (∀ exception, outcome = .error exception →
        last.bodyError = some exception) ∧
      (outcome = .ok () →
        last.accepted = true ∧ last.bodyError = session.bodyError) := by
  have raisedBefore : ∀ exception : PyException,
      ∃ outcome last,
        ((.error exception, { session with bodyError := some exception }) :
          Except PyException PUnit × SmtpSession) = (outcome, last) ∧
        TransmissionEnd outcome last.sendmailCalls ∧
        (∀ other, outcome = .error other → last.bodyError = some other) ∧
        (outcome = .ok () →
          last.accepted = true ∧ last.bodyError = session.bodyError) := by
    intro exception
    refine ⟨_, _, rfl, fresh ▸ .notInvoked exception, ?_, nofun⟩
    rintro other ⟨⟩
    rfl
  obtain ⟨behaviour, negotiated⟩ : ∃ behaviour,
      negotiateTls config peer = external behaviour := by
    unfold negotiateTls
    by_cases useTls : config.useTls = true
    · exact ⟨peer.starttls, by rw [if_pos useTls]⟩
    · exact ⟨none, by rw [if_neg useTls]; rfl⟩
  unfold serverBlock
  rw [negotiated, Program.exec_attempt, Program.exec_bind, exec_external]
  cases behaviour with
  | some exception => exact raisedBefore exception
  | none =>
      simp only [Program.exec_bind, exec_external]
      cases peer.login with
      | some exception => exact raisedBefore exception
      | none =>
          obtain ⟨outcome, calls, ran, ended⟩ := transmit_ends peer session fresh
          simp only [ran]
          cases outcome with
          | ok value =>
              exact ⟨_, _, rfl, ended, nofun, fun _ => ⟨rfl, rfl⟩⟩
          | error exception =>
              refine ⟨_, _, rfl, ended, ?_, nofun⟩
              rintro other ⟨⟩
              rfl

/-- Whatever the cleanup raises, an attempt ends as its block did. -/
theorem smtpSend_ends
    (config : SmtpConfig)
    (peer : SmtpPeer)
    (session : SmtpSession)
    (fresh : session.sendmailCalls = []) :
    TransmissionEnd ((smtpSend config peer).exec session).1
      ((smtpSend config peer).exec session).2.sendmailCalls := by
  unfold smtpSend
  rw [Program.exec_bind, exec_external]
  cases peer.createContext with
  | some exception => exact fresh ▸ .notInvoked exception
  | none =>
      simp only [Program.exec_bind, Program.exec_change, Program.exec_attempt,
        exec_external]
      cases peer.connect with
      | some exception => exact fresh ▸ .notInvoked exception
      | none =>
          obtain ⟨outcome, last, ran, ended, remembered, accepted⟩ :=
            serverBlock_ends config peer
              { session with accepted := false, bodyError := none } fresh
          simp only [Program.exec_ensure, ran, exec_external]
          cases outcome with
          | ok value =>
              obtain ⟨accepted, noError⟩ := accepted rfl
              cases peer.cleanup with
              | none => exact ended
              | some exception => simpa [noError, accepted] using ended
          | error exception =>
              have kept := remembered exception rfl
              cases peer.cleanup with
              | none => simpa [kept] using ended
              | some raised =>
                  by_cases same : raised = exception
                  · simpa [kept, same] using ended
                  · simpa [kept, same] using ended

/-- All attempts of one call together end as a single attempt may. -/
theorem smtpSendWithRetry_ends
    (config : SmtpConfig)
    (peers : Nat → SmtpPeer) :
    TransmissionEnd ((smtpSendWithRetry config peers).exec {}).1
      ((smtpSendWithRetry config peers).exec {}).2.sendmailCalls := by
  refine Program.retrying_ends
    (fun session : SmtpSession => session.sendmailCalls = [])
    (fun outcome session => TransmissionEnd outcome (SmtpSession.sendmailCalls session))
    ?_ ?_ 2 1 {} rfl
  · intro number session value next fresh ran
    have ended := smtpSend_ends config (peers number) session fresh
    rwa [ran] at ended
  · intro number session exception next fresh ran
    have ended := smtpSend_ends config (peers number) session fresh
    rw [ran] at ended
    exact ⟨ended, fun retryable => ended.calls_eq_nil_of_retryable retryable⟩

/-- A call either rejects its Message-ID before any network activity, or reports
the end of its transmission. -/
theorem sendEmail_live
    (settings : Settings)
    (makeMsgid : String → String)
    (peers : Nat → SmtpPeer)
    (arguments : SendEmailArguments)
    (live : settings.liveSendingEnabled = true) :
    (∃ value, arguments.messageIdHeader = some value ∧
        validMessageIdHeader value = false ∧
        sendEmail settings makeMsgid peers arguments =
          (.error (.invalidMessageIdHeader value), [])) ∨
      ∃ messageId outcome calls,
        sendEmail settings makeMsgid peers arguments =
          (.ok (classifySend messageId outcome), calls) ∧
        TransmissionEnd outcome calls := by
  unfold sendEmail
  cases rejected : arguments.messageIdHeader.filter
      fun value => !validMessageIdHeader value with
  | some value =>
      obtain ⟨given, invalid⟩ := Option.filter_eq_some_iff.mp rejected
      exact Or.inl ⟨value, given, by simpa using invalid, rfl⟩
  | none =>
      simp only [live, if_true]
      exact Or.inr ⟨_, _, _, rfl, smtpSendWithRetry_ends _ peers⟩

/-- The reported outcome follows the one invocation of `sendmail`, if there was
one, through every retry and every cleanup failure. -/
theorem sendEmail_outcome_truthful
    (settings : Settings)
    (makeMsgid : String → String)
    (peers : Nat → SmtpPeer)
    (arguments : SendEmailArguments)
    (live : settings.liveSendingEnabled = true) :
    (sendEmail settings makeMsgid peers arguments).2.length ≤ 1 ∧
      ((∀ value, arguments.messageIdHeader = some value →
          validMessageIdHeader value = true) →
        ∃ result, (sendEmail settings makeMsgid peers arguments).1 = .ok result) ∧
      ∀ result, (sendEmail settings makeMsgid peers arguments).1 = .ok result →
        (result.outcome = .sent ↔
          .returned ∈ (sendEmail settings makeMsgid peers arguments).2) ∧
        (∀ exception,
          .raised exception ∈ (sendEmail settings makeMsgid peers arguments).2 →
          exception.isInstance explicitRefusalErrors = false →
          result.outcome = .unknown) ∧
        (result.outcome = .failed →
          (sendEmail settings makeMsgid peers arguments).2 = [] ∨
          ∃ exception,
            (sendEmail settings makeMsgid peers arguments).2 = [.raised exception] ∧
            exception.isInstance explicitRefusalErrors = true) := by
  rcases sendEmail_live settings makeMsgid peers arguments live with
    ⟨value, given, invalid, rejected⟩ | ⟨messageId, outcome, calls, reported, ended⟩
  · rw [rejected]
    refine ⟨Nat.zero_le 1, ?_, nofun⟩
    intro allValid
    rw [allValid value given] at invalid
    cases invalid
  · rw [reported]
    refine ⟨?_, fun _ => ⟨_, rfl⟩, ?_⟩
    · cases ended <;> simp
    · rintro result ⟨⟩
      cases ended with
      | accepted => simp [classifySend]
      | notInvoked exception =>
          by_cases ambiguous : exception.isInstance [.ambiguousSendError] = true <;>
            simp [classifySend, ambiguous]
      | refused exception explicit =>
          by_cases ambiguous : exception.isInstance [.ambiguousSendError] = true <;>
            simp [classifySend, ambiguous, explicit]
      | ambiguous original notExplicit =>
          have reportedUnknown :
              (PyException.ambiguousSendError original).isInstance
                [.ambiguousSendError] = true := rfl
          simp [classifySend, reportedUnknown]

/-- `SMTPServerDisconnected`, as raised when the connection drops. -/
def serverDisconnected : PyException where
  classes := [.smtpServerDisconnected, .smtpException, .osError]
  basesIncluded := by decide
  text := "Connection unexpectedly closed"

/-- The first connection is refused; the second one drops while the message is
transmitted, and its cleanup fails as well. -/
def dropsDuringTransmission (number : Nat) : SmtpPeer :=
  if number = 1 then { connect := some serverDisconnected }
  else { sendmail := some serverDisconnected, cleanup := some serverDisconnected }

theorem sendEmail_unknown_when_dropped :
    ∃ result,
      (sendEmail { liveSendingEnabled := true } id dropsDuringTransmission
        { toEmail := "p@example.com", fromEmail := "s@example.com",
          fromName := "S", subject := "Hello", bodyText := "Hi" }).1 =
        .ok result ∧
      result.outcome = .unknown := by
  obtain ⟨-, returns, truthful⟩ :=
    sendEmail_outcome_truthful { liveSendingEnabled := true } id
      dropsDuringTransmission
      { toEmail := "p@example.com", fromEmail := "s@example.com",
        fromName := "S", subject := "Hello", bodyText := "Hi" } rfl
  obtain ⟨result, returned⟩ := returns nofun
  refine ⟨result, returned, ?_⟩
  exact (truthful result returned).2.1 serverDisconnected (by decide) rfl

end Mail
end MailerAgent
