import MailerAgent.Mail.Sender

/-!
# Calls of the sender

What a caller of `send_email` observes, and the record of every call that the
program makes. The record says on whose behalf the call was made and when the
operation that made it had started.
-/

namespace MailerAgent
namespace Mail

/-- How a call of `send_email` ended. -/
inductive SendReport where
  | returned (result : SendResult)
  | raised (text : String)
  deriving DecidableEq, Repr

/-- The environment of one call: the behaviour of the mail server, or an exception
outside the modelled part, such as one of the MIME library. -/
inductive SendBehaviour where
  | runs (makeMsgid : String → String) (peers : Nat → SmtpPeer)
  | raises (text : String)

/-- A call of `send_email` in an environment. -/
def SendBehaviour.report
    (settings : Settings)
    (arguments : SendEmailArguments) :
    SendBehaviour → SendReport
  | runs makeMsgid peers =>
      match (sendEmail settings makeMsgid peers arguments).1 with
      | .ok result => .returned result
      | .error (.invalidMessageIdHeader value) =>
          .raised ("ValueError: invalid message_id_header: " ++ value)
  | raises text => .raised text

/-- The paths that call `send_email`: for a dispatch, as a follow-up with its
number, as the approval of a draft. -/
inductive SendOrigin where
  | dispatch (key : Nat)
  | initialOutreach
  | followUp (number : Nat)
  | forcedFollowUp (number : Nat)
  | approval (messageId : Nat)
  | automaticReply
  deriving DecidableEq, Repr

/-- One call of `send_email`, for a contact. `began` is the number of steps that
the program had taken when the calling operation started; `answers` is the mailbox
and the identity of the message that was being handled, for a call out of a poll. -/
structure SendCall where
  origin : SendOrigin
  contactId : Nat
  began : Nat
  arguments : SendEmailArguments
  report : SendReport
  answers : Option (Nat × String) := none
  deriving DecidableEq, Repr

/-- The call was made for a dispatch. -/
def SendCall.isFor
    (key : Nat)
    (call : SendCall) : Bool :=
  call.origin == .dispatch key

end Mail
end MailerAgent
